import Mathlib.Data.Fintype.Basic
import Mathlib.Tactic.MkIffOfInductiveProp

/-!
# The option-negotiation automaton

One automaton drives LCP and another one drives IPCP.  It owns the negotiation
state, the packet identifier and the restart counter; an event yields the set of
actions the driver has to carry out.  The transition table is kept row by row,
in the order of its rows, because later rows are catch-alls.
-/

namespace SstpServer.Ppp

/-- Default restart interval, in seconds. -/
def defaultRestart : Nat := 3

def defaultMaxConfigure : Nat := 10

def defaultMaxTerminate : Nat := 2

def defaultMaxFailure : Nat := 5

namespace Fsm

/-- Automaton states. -/
inductive State where
  | initial
  | starting
  | closed
  | stopped
  | closing
  | stopping
  | reqSent
  | ackRcvd
  | ackSent
  | opened
  deriving DecidableEq, Repr, Inhabited

/-- Automaton events.  `adminOpen` and `adminClose` are the administrative Open
and Close. -/
inductive Event where
  | up
  | down
  | adminOpen
  | adminClose
  | restartTimeout
  | rcvConfigReqGood
  | rcvConfigReqBad
  | rcvConfigAck
  | rcvConfigNak
  | rcvTerminateReq
  | rcvTerminateAck
  | rcvCodeRejPermitted
  | rcvCodeRejCatastrophic
  | rcvUnknownCode
  | rcvEcho
  deriving DecidableEq, Repr

/-- Restart timer operations. -/
inductive RestartTimer where
  | start
  | stop
  deriving DecidableEq, Repr

/-- Packets a step asks the driver to emit. -/
inductive Send where
  | configureRequest
  | configureAck
  | configureNak
  | terminateReq
  | terminateAck
  | codeReject
  | echoReply
  deriving DecidableEq, Repr

/-- Notifications for the layer above. -/
structure Notify where
  up : Bool := false
  down : Bool := false
  started : Bool := false
  finished : Bool := false
  deriving DecidableEq, Repr

/-- The action set of one step. -/
structure StepOut where
  newState : State := .initial
  send : Option Send := none
  sendExtra : Option Send := none
  restartTimer : Option RestartTimer := none
  notify : Notify := {}
  deriving DecidableEq, Repr

def StepOut.just (newState : State) : StepOut :=
  { newState }

end Fsm

/-- The automaton. -/
structure Fsm where
  state : Fsm.State
  identifier : UInt8
  restartCounter : Nat
  failureCounter : Nat
  maxConfigure : Nat
  maxTerminate : Nat
  maxFailure : Nat
  deriving DecidableEq, Repr

namespace Fsm

def new : Fsm where
  state := .initial
  identifier := 0
  restartCounter := 0
  failureCounter := 0
  maxConfigure := defaultMaxConfigure
  maxTerminate := defaultMaxTerminate
  maxFailure := defaultMaxFailure

def ircConfigure (fsm : Fsm) : Fsm :=
  { fsm with restartCounter := fsm.maxConfigure, failureCounter := fsm.maxFailure }

def ircTerminate (fsm : Fsm) : Fsm :=
  { fsm with restartCounter := fsm.maxTerminate }

/-- Advance the identifier ahead of a new request. -/
def bumpIdentifier (fsm : Fsm) : UInt8 × Fsm :=
  (fsm.identifier + 1, { fsm with identifier := fsm.identifier + 1 })

/-- Restart timer expiry: retransmit while the counter has budget, give up when
it is used up. -/
def onRestartTimeout (fsm : Fsm) (source : State) : StepOut :=
  if 0 < fsm.restartCounter then
    match source with
    | .closing | .stopping =>
        { newState := source, send := some .terminateReq, restartTimer := some .start }
    | .reqSent | .ackRcvd =>
        { newState := .reqSent, send := some .configureRequest,
          restartTimer := some .start }
    | .ackSent =>
        { newState := .ackSent, send := some .configureRequest,
          restartTimer := some .start }
    | _ => .just source
  else
    match source with
    | .closing => { newState := .closed, notify := { finished := true } }
    | .stopping | .reqSent | .ackRcvd | .ackSent =>
        { newState := .stopped, notify := { finished := true } }
    | _ => .just source

/-- The transition table: the action set of an event, and the counters after
the row's own initializations. -/
def transition (fsm : Fsm) (event : Event) : StepOut × Fsm :=
  match fsm.state, event with
  | .initial, .up => (.just .closed, fsm)
  | .starting, .up =>
      ({ newState := .reqSent, send := some .configureRequest,
         restartTimer := some .start }, fsm.ircConfigure)
  | .closed, .down => (.just .initial, fsm)
  | .stopped, .down => ({ newState := .starting, notify := { started := true } }, fsm)
  | .closing, .down => (.just .initial, fsm)
  | .stopping, .down | .reqSent, .down | .ackRcvd, .down | .ackSent, .down =>
      (.just .starting, fsm)
  | .opened, .down => ({ newState := .starting, notify := { down := true } }, fsm)
  | .initial, .adminOpen =>
      ({ newState := .starting, notify := { started := true } }, fsm)
  | .starting, .adminOpen => (.just .starting, fsm)
  | .closed, .adminOpen =>
      ({ newState := .reqSent, send := some .configureRequest,
         restartTimer := some .start }, fsm.ircConfigure)
  | .stopped, .adminOpen | .closing, .adminOpen | .stopping, .adminOpen
  | .reqSent, .adminOpen | .ackRcvd, .adminOpen | .ackSent, .adminOpen
  | .opened, .adminOpen => (.just fsm.state, fsm)
  | .initial, .adminClose => (.just .initial, fsm)
  | .starting, .adminClose =>
      ({ newState := .initial, notify := { finished := true } }, fsm)
  | .closed, .adminClose | .stopped, .adminClose => (.just .closed, fsm)
  | .closing, .adminClose | .stopping, .adminClose => (.just .closing, fsm)
  | .reqSent, .adminClose | .ackRcvd, .adminClose | .ackSent, .adminClose =>
      ({ newState := .closing, send := some .terminateReq,
         restartTimer := some .start }, fsm.ircTerminate)
  | .opened, .adminClose =>
      ({ newState := .closing, send := some .terminateReq,
         restartTimer := some .start, notify := { down := true } }, fsm.ircTerminate)
  | .closing, .restartTimeout | .stopping, .restartTimeout
  | .reqSent, .restartTimeout | .ackRcvd, .restartTimeout
  | .ackSent, .restartTimeout => (fsm.onRestartTimeout fsm.state, fsm)
  | _, .restartTimeout => (.just fsm.state, fsm)
  | .closed, .rcvConfigReqGood | .closed, .rcvConfigReqBad =>
      ({ newState := .closed, send := some .terminateAck }, fsm)
  | .stopped, .rcvConfigReqGood =>
      ({ newState := .ackSent, send := some .configureRequest,
         sendExtra := some .configureAck, restartTimer := some .start },
       fsm.ircConfigure)
  | .closing, .rcvConfigReqGood | .stopping, .rcvConfigReqGood
  | .closing, .rcvConfigReqBad | .stopping, .rcvConfigReqBad =>
      (.just fsm.state, fsm)
  | .reqSent, .rcvConfigReqGood =>
      ({ newState := .ackSent, send := some .configureAck }, fsm)
  | .ackRcvd, .rcvConfigReqGood =>
      ({ newState := .opened, send := some .configureAck,
         notify := { up := true } }, fsm)
  | .ackSent, .rcvConfigReqGood =>
      ({ newState := .ackSent, send := some .configureAck }, fsm)
  | .opened, .rcvConfigReqGood =>
      ({ newState := .ackSent, send := some .configureRequest,
         sendExtra := some .configureAck, restartTimer := some .start,
         notify := { down := true } }, fsm)
  | .stopped, .rcvConfigReqBad =>
      ({ newState := .reqSent, send := some .configureRequest,
         sendExtra := some .configureNak, restartTimer := some .start },
       fsm.ircConfigure)
  | .reqSent, .rcvConfigReqBad | .ackSent, .rcvConfigReqBad =>
      ({ newState := .reqSent, send := some .configureNak }, fsm)
  | .ackRcvd, .rcvConfigReqBad =>
      ({ newState := .ackRcvd, send := some .configureNak }, fsm)
  | .opened, .rcvConfigReqBad =>
      ({ newState := .reqSent, send := some .configureRequest,
         sendExtra := some .configureNak, restartTimer := some .start,
         notify := { down := true } }, fsm)
  | .closed, .rcvConfigAck | .stopped, .rcvConfigAck =>
      ({ newState := fsm.state, send := some .codeReject }, fsm)
  | .closing, .rcvConfigAck | .stopping, .rcvConfigAck => (.just fsm.state, fsm)
  | .reqSent, .rcvConfigAck =>
      ({ newState := .ackRcvd, restartTimer := some .stop }, fsm.ircConfigure)
  | .ackRcvd, .rcvConfigAck =>
      ({ newState := .reqSent, send := some .configureRequest }, fsm)
  | .ackSent, .rcvConfigAck =>
      ({ newState := .opened, restartTimer := some .stop,
         notify := { up := true } }, fsm.ircConfigure)
  | .opened, .rcvConfigAck =>
      ({ newState := .reqSent, send := some .configureRequest,
         notify := { down := true } }, fsm)
  | .closed, .rcvConfigNak | .stopped, .rcvConfigNak =>
      ({ newState := fsm.state, send := some .codeReject }, fsm)
  | .closing, .rcvConfigNak | .stopping, .rcvConfigNak => (.just fsm.state, fsm)
  | .reqSent, .rcvConfigNak | .ackSent, .rcvConfigNak =>
      ({ newState := fsm.state, send := some .configureRequest }, fsm.ircConfigure)
  | .ackRcvd, .rcvConfigNak =>
      ({ newState := .reqSent, send := some .configureRequest }, fsm)
  | .opened, .rcvConfigNak =>
      ({ newState := .reqSent, send := some .configureRequest,
         notify := { down := true } }, fsm)
  | .closed, .rcvTerminateReq | .stopped, .rcvTerminateReq
  | .closing, .rcvTerminateReq | .stopping, .rcvTerminateReq =>
      ({ newState := fsm.state, send := some .terminateAck }, fsm)
  | .reqSent, .rcvTerminateReq | .ackRcvd, .rcvTerminateReq
  | .ackSent, .rcvTerminateReq =>
      ({ newState := .reqSent, send := some .terminateAck }, fsm)
  | .opened, .rcvTerminateReq =>
      ({ newState := .stopping, send := some .terminateAck,
         restartTimer := some .start, notify := { down := true } },
       { fsm with restartCounter := 0 })
  | .closed, .rcvTerminateAck | .stopped, .rcvTerminateAck => (.just fsm.state, fsm)
  | .closing, .rcvTerminateAck =>
      ({ newState := .closed, notify := { finished := true } }, fsm)
  | .stopping, .rcvTerminateAck =>
      ({ newState := .stopped, notify := { finished := true } }, fsm)
  | .reqSent, .rcvTerminateAck | .ackSent, .rcvTerminateAck => (.just fsm.state, fsm)
  | .ackRcvd, .rcvTerminateAck => (.just .reqSent, fsm)
  | .opened, .rcvTerminateAck =>
      ({ newState := .reqSent, send := some .configureRequest,
         notify := { down := true } }, fsm)
  | _, .rcvUnknownCode => ({ newState := fsm.state, send := some .codeReject }, fsm)
  | _, .rcvCodeRejPermitted => (.just fsm.state, fsm)
  | .closed, .rcvCodeRejCatastrophic | .stopped, .rcvCodeRejCatastrophic =>
      ({ newState := fsm.state, notify := { finished := true } }, fsm)
  | .closing, .rcvCodeRejCatastrophic =>
      ({ newState := .closed, notify := { finished := true } }, fsm)
  | .stopping, .rcvCodeRejCatastrophic | .reqSent, .rcvCodeRejCatastrophic
  | .ackRcvd, .rcvCodeRejCatastrophic | .ackSent, .rcvCodeRejCatastrophic =>
      ({ newState := .stopped, notify := { finished := true } }, fsm)
  | .opened, .rcvCodeRejCatastrophic =>
      ({ newState := .stopping, send := some .terminateReq,
         restartTimer := some .start, notify := { down := true } }, fsm.ircTerminate)
  | .opened, .rcvEcho => ({ newState := .opened, send := some .echoReply }, fsm)
  | _, .rcvEcho => (.just fsm.state, fsm)
  | .initial, _ | .starting, _ => (.just fsm.state, fsm)
  | _, .up => (.just fsm.state, fsm)

/-- A transmitted Configure- or Terminate-Request uses one unit of the restart
budget. -/
def consume (fsm : Fsm) : Option Send → Fsm
  | some .configureRequest | some .terminateReq =>
      { fsm with restartCounter := fsm.restartCounter - 1 }
  | _ => fsm

/-- Drive one event. -/
def step (fsm : Fsm) (event : Event) : StepOut × Fsm :=
  let (out, fsm) := fsm.transition event
  (out, { (fsm.consume out.send).consume out.sendExtra with state := out.newState })

/-! ## The rows of the table

The action set of a step depends on the state, on the event and on whether the restart budget is
spent, so that a decidable fact about action sets is checked row by row. -/

instance : Fintype State :=
  .ofList [.initial, .starting, .closed, .stopped, .closing, .stopping, .reqSent, .ackRcvd,
    .ackSent, .opened] fun state => by cases state <;> decide

instance : Fintype Event :=
  .ofList [.up, .down, .adminOpen, .adminClose, .restartTimeout, .rcvConfigReqGood,
    .rcvConfigReqBad, .rcvConfigAck, .rcvConfigNak, .rcvTerminateReq, .rcvTerminateAck,
    .rcvCodeRejPermitted, .rcvCodeRejCatastrophic, .rcvUnknownCode, .rcvEcho]
    fun event => by cases event <;> decide

/-- The action set of a row. -/
def row (spent : Bool) (state : State) (event : Event) : StepOut :=
  (step { new with state, restartCounter := if spent then 0 else 1 } event).1

theorem step_eq_row (fsm : Fsm) (event : Event) :
    (fsm.step event).1 = row (fsm.restartCounter == 0) fsm.state event := by
  rcases fsm with ⟨state, identifier, restartCounter⟩
  cases restartCounter <;> cases event <;> cases state <;> rfl

/-- What holds of every row holds of every step. -/
theorem step_of_rows {spec : State → Event → StepOut → Prop}
    (rows : ∀ spent state event, spec state event (row spent state event)) (fsm : Fsm)
    (event : Event) : spec fsm.state event (fsm.step event).1 := by
  rw [step_eq_row]
  exact rows _ _ _

/-! ## What a step can do -/

/-- The packets of an action set, in the order they are emitted. -/
def StepOut.sends (out : StepOut) : List Send :=
  out.send.toList ++ out.sendExtra.toList

/-- States that answer a Configure-Request with an Ack, a Nak or a Reject. -/
def State.answersConfigureRequest : State → Bool
  | .stopped | .reqSent | .ackRcvd | .ackSent | .opened => true
  | _ => false

/-- Events that leave an opened layer open. -/
def Event.keepsOpened : Event → Bool
  | .up | .adminOpen | .restartTimeout | .rcvCodeRejPermitted | .rcvUnknownCode
  | .rcvEcho => true
  | _ => false

/-- What every row of the table guarantees about its action set. -/
@[mk_iff]
structure StepSpec (source : State) (event : Event) (out : StepOut) : Prop where
  up_iff : out.notify.up = true ↔ source ≠ .opened ∧ out.newState = .opened
  down_iff : out.notify.down = true ↔ source = .opened ∧ out.newState ≠ .opened
  opened_iff : source = .opened → (out.newState = .opened ↔ event.keepsOpened = true)
  opens : source ≠ .opened → out.newState = .opened →
    event = .rcvConfigReqGood ∨ event = .rcvConfigAck
  finished : out.notify.finished = true → source ≠ .opened ∧ out.newState ≠ .opened
  ack_iff : .configureAck ∈ out.sends ↔
    event = .rcvConfigReqGood ∧ source.answersConfigureRequest = true
  nak_iff : .configureNak ∈ out.sends ↔
    event = .rcvConfigReqBad ∧ source.answersConfigureRequest = true
  echo_iff : .echoReply ∈ out.sends ↔ event = .rcvEcho ∧ source = .opened

instance (source : State) (event : Event) (out : StepOut) :
    Decidable (StepSpec source event out) :=
  decidable_of_iff _ (stepSpec_iff source event out).symm

theorem step_spec (fsm : Fsm) (event : Event) :
    StepSpec fsm.state event (fsm.step event).1 :=
  step_of_rows (by decide +kernel) fsm event

end Fsm

end SstpServer.Ppp
