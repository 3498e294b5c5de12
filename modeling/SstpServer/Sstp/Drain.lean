import SstpServer.Sstp.CallConnected
import SstpServer.Transition.Run

/-!
# Draining a call

Once a call is being aborted or disconnected, only timers and the peer's acknowledgement
are left to end it.  The handlers of most messages leave a draining machine alone; a
Call-Connected and the messages only a server sends start the abort again.
-/

namespace SstpServer.Sstp

open SstpServer.Wire
open SstpServer.Transition

/-- A control message of the peer, with the buffer it was read from and the nonce that
would be drawn for it. -/
structure PeerMessage where
  message : ControlMessage
  buf : Bytes
  nonce : Block 32

/-- The step of the machine for a message of the peer. -/
def PeerMessage.handle (peer : PeerMessage) (crypto : Crypto) (ssm : StateMachine) :
    StepOut × StateMachine :=
  dispatchControl crypto ssm peer.message peer.buf peer.nonce

/-- A machine under messages of the peer; the session ends with the first step that
tears the connection down. -/
def peerStep (crypto : Crypto) (ssm : Option StateMachine) (peer : PeerMessage) :
    Option StateMachine :=
  ssm.bind fun ssm =>
    let (out, after) := peer.handle crypto ssm
    if out.terminate = .none then some after else none

/-- The message makes the machine enter the abort, or arms the first abort timer. -/
def Reaborts (crypto : Crypto) (ssm : StateMachine) (peer : PeerMessage) : Prop :=
  (peer.handle crypto ssm).1.timerStart.map Prod.fst = some .abortT1 ∨
    ((peer.handle crypto ssm).2.state = .callAbortPending ∧ ssm.state ≠ .callAbortPending)

/-- A Call-Connected, or a message that only a server sends. -/
def ControlMessage.IsStray : ControlMessage → Prop
  | .callConnected _ | .other _ => True
  | _ => False

/-- A stray message starts the abort over. -/
theorem handle_of_isStray {crypto : Crypto} {ssm : StateMachine} {peer : PeerMessage}
    (draining : ssm.isInTerminalDrain = true) (stray : peer.message.IsStray) :
    peer.handle crypto ssm = ssm.startAbort .unexpectedMessage := by
  rcases peer with ⟨message, buf, nonce⟩
  have other : ssm.state ≠ .serverCallConnectedPending := by
    intro pending
    simp [StateMachine.isInTerminalDrain, pending] at draining
  cases message with
  | callConnected binding =>
      simp [PeerMessage.handle, dispatchControl, StateMachine.verifyCallConnected, other]
  | other packet => rfl
  | _ => exact stray.elim

/-- Every other message moves a draining machine forward, or not at all. -/
theorem handle_of_not_isStray {crypto : Crypto} {ssm : StateMachine} {peer : PeerMessage}
    (draining : ssm.isInTerminalDrain = true) (expected : ¬peer.message.IsStray) :
    ¬Reaborts crypto ssm peer ∧
      ((peer.handle crypto ssm).1.terminate = .none →
        (peer.handle crypto ssm).2.isInTerminalDrain = true) := by
  rcases peer with ⟨message, buf, nonce⟩
  rcases ssm with ⟨state, sha1, sha256, binding⟩
  cases message with
  | callConnected binding => exact (expected trivial).elim
  | other packet => exact (expected trivial).elim
  | callConnectRequest protocolId =>
      simp only [Reaborts, PeerMessage.handle, dispatchControl, StateMachine.onMessage,
        StateMachine.onCallConnectRequest, draining, if_true]
      exact ⟨by simp, fun _ => trivial⟩
  | _ =>
      cases state <;>
        simp_all [Reaborts, PeerMessage.handle, dispatchControl, StateMachine.onMessage,
          StateMachine.onCallDisconnect, StateMachine.onCallDisconnectAck,
          StateMachine.onCallAbort, StateMachine.onEchoRequest, StateMachine.onEchoResponse,
          StateMachine.transition, StateMachine.isInTerminalDrain]

theorem reaborts_iff {crypto : Crypto} {ssm : StateMachine} {peer : PeerMessage}
    (draining : ssm.isInTerminalDrain = true) :
    Reaborts crypto ssm peer ↔ peer.message.IsStray := by
  constructor
  · intro reaborts
    by_contra expected
    exact (handle_of_not_isStray draining expected).1 reaborts
  · intro stray
    left
    rw [handle_of_isStray draining stray]
    rfl

/-- A machine that is draining, if the session still runs. -/
def Draining (ssm : Option StateMachine) : Prop :=
  ∀ machine ∈ ssm, machine.isInTerminalDrain = true

theorem Draining.peerStep {ssm : Option StateMachine} (draining : Draining ssm)
    (crypto : Crypto) (peer : PeerMessage) : Draining (peerStep crypto ssm peer) := by
  intro machine reached
  cases ssm with
  | none => cases reached
  | some before =>
      have drains := draining before rfl
      simp only [Sstp.peerStep, Option.bind_some] at reached
      split_ifs at reached with goesOn
      · cases reached
        by_cases stray : peer.message.IsStray
        · rw [handle_of_isStray drains stray]
          rfl
        · exact (handle_of_not_isStray drains stray).2 goesOn
      · cases reached

/-- No message of a run makes a draining machine abort again exactly when none that still
reaches the machine is stray. -/
theorem forall_not_reaborts_iff (crypto : Crypto) (ssm : StateMachine)
    (peers : List PeerMessage) (draining : ssm.isInTerminalDrain = true) :
    (∀ visit ∈ visits (peerStep crypto) (some ssm) peers,
        ∀ machine ∈ visit.1, ¬Reaborts crypto machine visit.2) ↔
      ∀ visit ∈ visits (peerStep crypto) (some ssm) peers,
        visit.1.isSome → ¬visit.2.message.IsStray := by
  have initially : Draining (some ssm) := by
    intro machine reached
    cases reached
    exact draining
  have keeps : ∀ machine peer, Draining machine → Draining (peerStep crypto machine peer) :=
    fun _ peer drains => drains.peerStep crypto peer
  have agree : ∀ (machine : Option StateMachine) (peer : PeerMessage), Draining machine →
      ((∀ live ∈ machine, ¬Reaborts crypto live peer) ↔
        (machine.isSome → ¬peer.message.IsStray)) := by
    intro machine peer drains
    cases machine with
    | none => simp
    | some live => simp [reaborts_iff (drains live rfl)]
  exact forall_visits_congr keeps initially agree peers

/-- A machine that aborts because of an Echo-Request before any Call-Connect-Request. -/
def abortingMachine : StateMachine :=
  machineAfter zeroCrypto (Block.zero 20) (Block.zero 32)
    [.httpsAccepted, .message .echoRequest (Block.zero 32)]

/-- A Call-Connect-Ack from the peer. -/
def strayAck : PeerMessage :=
  ⟨.other ⟨.callConnectAck, 0, []⟩, [], Block.zero 32⟩

/-- A Call-Disconnect from the peer. -/
def peerCallDisconnect : PeerMessage :=
  ⟨.callDisconnect, [], Block.zero 32⟩

/-- A Call-Disconnect does not start the abort over. -/
theorem not_reaborts_peerCallDisconnect :
    abortingMachine.isInTerminalDrain = true ∧
      ∀ visit ∈ visits (peerStep zeroCrypto) (some abortingMachine) [peerCallDisconnect],
        ∀ machine ∈ visit.1, ¬Reaborts zeroCrypto machine visit.2 := by
  have draining : abortingMachine.isInTerminalDrain = true := rfl
  refine ⟨draining, (forall_not_reaborts_iff _ _ _ draining).mpr fun visit visited _ => ?_⟩
  rw [List.mem_singleton.mp visited]
  exact id

/-- A Call-Connect-Ack starts the abort of an aborting machine over. -/
theorem reaborts_strayAck :
    abortingMachine.state = .callAbortPending ∧
      ¬∀ visit ∈ visits (peerStep zeroCrypto) (some abortingMachine) [strayAck],
        ∀ machine ∈ visit.1, ¬Reaborts zeroCrypto machine visit.2 := by
  refine ⟨rfl, fun never => ?_⟩
  have visited : (some abortingMachine, strayAck) ∈
      visits (peerStep zeroCrypto) (some abortingMachine) [strayAck] := List.mem_singleton_self _
  exact never _ visited abortingMachine rfl (.inl rfl)

end SstpServer.Sstp
