import SstpServer.Ppp.Authentication

/-!
# Link phases and the LCP automaton

Authentication and the network phase are meant for an opened LCP.  When LCP goes
down the driver clears its opened flag but leaves the phase as it is, so an LCP
packet that restarts the negotiation breaks the relation.  The result states
exactly which runs keep it.
-/

namespace SstpServer.Ppp

open SstpServer.Wire
open SstpServer.Transition

/-- Phases after LCP has opened. -/
def Phase.isActive : Phase → Bool
  | .authPending | .authInFlight _ | .network => true
  | .establish | .dead => false

/-- The opened flag follows the automaton, and an opened LCP is in an active
phase. -/
@[mk_iff]
structure LinkInvariant (ppp : Ppp) : Prop where
  opened_iff : ppp.lcp.opened = true ↔ ppp.lcp.fsm.state = .opened
  active : ppp.lcp.fsm.state = .opened → ppp.phase.isActive = true

/-- An active phase means that LCP is open. -/
def PhaseFollowsLcp (ppp : Ppp) : Prop :=
  ppp.phase.isActive = true → ppp.lcp.fsm.state = .opened

/-- Configure and Terminate packets. -/
def LcpCode.isNegotiation : LcpCode → Bool
  | .configureRequest | .configureAck | .configureNak | .configureReject
  | .terminateRequest | .terminateAck => true
  | _ => false

/-- A well-formed Configure or Terminate packet. -/
def NegotiatesLcp (input : Input) : Prop :=
  ∃ info packet code, packetOf .lcp input = some info ∧
    decodeLcpPacket info = .ok packet ∧
    packet.typedCode = some code ∧ code.isNegotiation = true

/-- Exactly the Configure and Terminate packets take an opened LCP down. -/
theorem eventOf_keepsOpened_iff (lcp : LcpServer) (packet : LcpPacket) :
    (lcp.eventOf packet).1.keepsOpened = true ↔
      ∀ code, packet.typedCode = some code → code.isNegotiation = false := by
  unfold LcpServer.eventOf
  cases typed : packet.typedCode with
  | none => simp [Fsm.Event.keepsOpened]
  | some code =>
      cases code
      case configureRequest =>
        simp only [LcpServer.classifyConfigureRequest, Option.some.injEq, forall_eq',
          LcpCode.isNegotiation]
        split <;> simp [Fsm.Event.keepsOpened]
      all_goals simp [Fsm.Event.keepsOpened, LcpCode.isNegotiation]

/-! ## One LCP move -/

section LcpMove

variable {ppp : Ppp} {event : Fsm.Event} {lcp : LcpServer}
  (sameFsm : lcp.fsm = ppp.lcp.fsm) (sameOpened : lcp.opened = ppp.lcp.opened)
  (invariant : LinkInvariant ppp)
include sameFsm sameOpened invariant

/-- An LCP move keeps the opened flag in step with the automaton. -/
theorem lcpMove_opened_iff (random : Block 16) :
    (ppp.lcpMove event lcp random).2.lcp.opened = true ↔
      (lcp.fsm.step event).1.newState = .opened := by
  have spec := lcp.fsm.step_spec event
  have before : lcp.opened = true ↔ lcp.fsm.state = .opened := by
    rw [sameOpened, sameFsm]
    exact invariant.opened_iff
  rw [lcpMove_lcp]
  simp only [LcpServer.afterStep, LcpServer.stepTraced, Bool.and_eq_true, Bool.not_eq_true',
    Bool.or_eq_true, spec.up_iff, before, ← Bool.not_eq_true, spec.down_iff]
  tauto

/-- An LCP move keeps the invariant. -/
theorem lcpMove_linkInvariant (random : Block 16) :
    LinkInvariant (ppp.lcpMove event lcp random).2 := by
  have spec := lcp.fsm.step_spec event
  rw [linkInvariant_iff, lcpMove_state, lcpMove_phase]
  refine ⟨lcpMove_opened_iff sameFsm sameOpened invariant random, ?_⟩
  intro opened
  rw [if_neg fun finished => (spec.finished finished).2 opened]
  by_cases source : lcp.fsm.state = .opened
  · rw [if_neg fun enters => (spec.up_iff.mp enters.1).1 source]
    exact invariant.active (sameFsm ▸ source)
  · have unopened : lcp.opened = false := by
      rw [sameOpened, ← Bool.not_eq_true, invariant.opened_iff, ← sameFsm]
      exact source
    rw [if_pos ⟨spec.up_iff.mpr ⟨source, opened⟩, unopened⟩]
    rfl

omit sameOpened in
/-- An LCP move keeps the phase in step with the automaton unless it takes an
opened LCP down. -/
theorem lcpMove_phaseFollowsLcp (follows : PhaseFollowsLcp ppp) (random : Block 16) :
    PhaseFollowsLcp (ppp.lcpMove event lcp random).2 ↔
      (ppp.lcp.fsm.state = .opened → event.keepsOpened = true) := by
  have spec := lcp.fsm.step_spec event
  unfold PhaseFollowsLcp
  rw [lcpMove_state, lcpMove_phase, ← sameFsm]
  by_cases source : lcp.fsm.state = .opened
  · have active := invariant.active (sameFsm ▸ source)
    rw [if_neg fun finished => (spec.finished finished).1 source,
      if_neg fun enters => (spec.up_iff.mp enters.1).1 source]
    simp only [active, source, true_imp_iff]
    exact spec.opened_iff source
  · have inactive : ppp.phase.isActive ≠ true := fun active =>
      source (sameFsm ▸ follows active)
    simp only [source, false_imp_iff, iff_true]
    split_ifs with finished enters
    · simp [Phase.isActive]
    · exact fun _ => (spec.up_iff.mp enters.1).2
    · exact fun active => absurd active inactive

end LcpMove

/-! ## One call -/

theorem isActive_of_isAuth {phase : Phase} (auth : phase.isAuth = true) :
    phase.isActive = true := by
  cases phase <;> first | rfl | cases auth

/-- Closing LCP never leaves it open. -/
theorem step_adminClose_newState (fsm : Fsm) :
    (fsm.step .adminClose).1.newState ≠ .opened := by
  have spec := fsm.step_spec .adminClose
  intro opened
  by_cases source : fsm.state = .opened
  · simpa [Fsm.Event.keepsOpened] using (spec.opened_iff source).mp opened
  · simpa using spec.opens source opened

/-- Every call keeps the invariant. -/
theorem Move.linkInvariant {ppp : Ppp} {input : Input} {result : PppStep × Ppp}
    (move : Move ppp input result) (invariant : LinkInvariant ppp) :
    LinkInvariant result.2 := by
  cases move with
  | lcpPacket info packet =>
      have keeps := ppp.lcp.eventOf_keeps packet
      exact lcpMove_linkInvariant keeps.1 keeps.2.1 invariant _
  | lcpTimer => exact lcpMove_linkInvariant rfl rfl invariant _
  | reject frame =>
      rw [tearDownAfterReject_snd]
      refine ⟨(lcpMove_linkInvariant rfl rfl invariant input.random).opened_iff,
        fun opened => ?_⟩
      have closed : (ppp.lcpMove .adminClose ppp.lcp input.random).2.lcp.fsm.state =
        .opened := opened
      rw [lcpMove_state] at closed
      exact absurd closed (step_adminClose_newState ppp.lcp.fsm)
  | ipcpPacket info packet ipcp =>
      rw [ipcpMove_snd]
      exact ⟨invariant.opened_iff, invariant.active⟩
  | ipcpTimer ipcp =>
      rw [ipcpMove_snd]
      exact ⟨invariant.opened_iff, invariant.active⟩
  | protocolReject payload info protocol =>
      obtain ⟨counter, after⟩ := ppp.protocolReject_snd protocol info
      rw [after]
      exact ⟨invariant.opened_iff, invariant.active⟩
  | accept addrs frame =>
      rw [advanceToNetwork_snd]
      exact ⟨invariant.opened_iff, fun _ => rfl⟩
  | pap info request => exact ⟨invariant.opened_iff, fun _ => rfl⟩
  | chap info response challenge event method => exact ⟨invariant.opened_iff, fun _ => rfl⟩
  | silent => exact invariant

/-- A call that does not negotiate LCP while it is open keeps the phase in step
with the automaton. -/
theorem Move.phaseFollowsLcp {ppp : Ppp} {input : Input} {result : PppStep × Ppp}
    (move : Move ppp input result) (invariant : LinkInvariant ppp)
    (follows : PhaseFollowsLcp ppp)
    (quiet : ¬(ppp.lcp.fsm.state = .opened ∧ NegotiatesLcp input)) :
    PhaseFollowsLcp result.2 := by
  cases move with
  | lcpPacket info packet received decoded =>
      have keeps := ppp.lcp.eventOf_keeps packet
      rw [lcpMove_phaseFollowsLcp keeps.1 invariant follows, eventOf_keepsOpened_iff]
      intro opened code typed
      rw [← Bool.not_eq_true]
      exact fun negotiation =>
        quiet ⟨opened, info, packet, code, received, decoded, typed, negotiation⟩
  | lcpTimer =>
      rw [lcpMove_phaseFollowsLcp rfl invariant follows]
      exact fun _ => rfl
  | reject frame =>
      rw [tearDownAfterReject_snd]
      simp [PhaseFollowsLcp, Phase.isActive]
  | ipcpPacket info packet ipcp =>
      rw [ipcpMove_snd]
      exact follows
  | ipcpTimer ipcp =>
      rw [ipcpMove_snd]
      exact follows
  | protocolReject payload info protocol =>
      obtain ⟨counter, after⟩ := ppp.protocolReject_snd protocol info
      rw [after]
      exact follows
  | accept addrs frame accepted =>
      rw [advanceToNetwork_snd]
      exact fun _ => follows (isActive_of_isAuth (isAuth_of_acceptedAddrs accepted))
  | pap info request phase => exact fun _ => follows (isActive_of_isAuth phase)
  | chap info response challenge event method phase =>
      exact fun _ => follows (isActive_of_isAuth phase)
  | silent => exact follows

/-- Negotiating an opened LCP breaks the relation. -/
theorem step_not_phaseFollowsLcp {ppp : Ppp} {input : Input} (invariant : LinkInvariant ppp)
    (follows : PhaseFollowsLcp ppp) (opened : ppp.lcp.fsm.state = .opened)
    (negotiates : NegotiatesLcp input) : ¬PhaseFollowsLcp (ppp.step input) := by
  obtain ⟨info, packet, code, received, decoded, typed, negotiation⟩ := negotiates
  have keeps := ppp.lcp.eventOf_keeps packet
  unfold step
  rw [run_lcp received decoded, lcpMove_phaseFollowsLcp keeps.1 invariant follows,
    eventOf_keepsOpened_iff]
  intro keepsOpen
  simp [keepsOpen opened code typed] at negotiation

theorem start_linkInvariant (localIp : Ipv4) (method : AuthMethod) :
    LinkInvariant (start localIp method) := by
  have state : (start localIp method).lcp.fsm.state = .reqSent := by
    cases method <;> rfl
  have opened : (start localIp method).lcp.opened = false := by
    cases method <;> rfl
  exact ⟨by simp [state, opened], by simp [state]⟩

/-- A run stays in step with LCP, in every state it passes through, exactly when
none of its steps feeds a Configure or Terminate packet to an opened LCP. -/
theorem forall_phaseFollowsLcp_iff (localIp : Ipv4) (method : AuthMethod)
    (inputs : List Input) :
    (∀ ppp ∈ states step (start localIp method) inputs, PhaseFollowsLcp ppp) ↔
      ∀ visit ∈ visits step (start localIp method) inputs,
        ¬(visit.1.lcp.fsm.state = .opened ∧ NegotiatesLcp visit.2) := by
  have keeps : ∀ ppp input, LinkInvariant ppp → LinkInvariant (step ppp input) :=
    fun ppp input invariant => (ppp.run_move input).linkInvariant invariant
  have initially : PhaseFollowsLcp (start localIp method) := by
    cases method <;> exact fun active => nomatch active
  have exactStep : ∀ ppp input, LinkInvariant ppp → PhaseFollowsLcp ppp →
      (PhaseFollowsLcp (step ppp input) ↔
        ¬(ppp.lcp.fsm.state = .opened ∧ NegotiatesLcp input)) := by
    intro ppp input invariant follows
    constructor
    · rintro kept ⟨opened, negotiates⟩
      exact step_not_phaseFollowsLcp invariant follows opened negotiates kept
    · exact (ppp.run_move input).phaseFollowsLcp invariant follows
  exact forall_states_iff_forall_visits keeps (start_linkInvariant localIp method) initially
    exactStep inputs

/-! ## Renegotiation after authentication -/

/-- An Accept of the exchange in flight. -/
def backendAccept : Input :=
  ⟨.authResult (.accept ⟨Block.zero 4, none, none, none, none, none⟩), Block.zero 16⟩

/-- An IPCP Configure-Request for the granted address. -/
def peerIpcpRequest : Input :=
  ⟨.frame [0xFF, 0x03, 0x80, 0x21, 0x01, 0x01, 0x00, 0x0A, 0x03, 0x06, 0, 0, 0, 0],
    Block.zero 16⟩

/-- A run into the network phase, followed by a new Configure-Request. -/
def renegotiationRun : List Input :=
  [peerConfigureAck, peerConfigureRequest, peerPapRequest, backendAccept,
    peerConfigureRequest]

/-- After the renegotiation the phase is still the network phase, LCP is not open,
and IPCP is still answered. -/
theorem not_phaseFollowsLcp_renegotiation :
    ¬(∀ ppp ∈ states step (start (Block.zero 4) .pap) renegotiationRun,
        PhaseFollowsLcp ppp) ∧
      (stateAfter (Block.zero 4) .pap renegotiationRun).lcp.fsm.state = .ackSent ∧
      ((stateAfter (Block.zero 4) .pap renegotiationRun).respond peerIpcpRequest).frames ≠
        [] := by
  refine ⟨fun follows => ?_, by decide, by decide⟩
  have last : stateAfter (Block.zero 4) .pap renegotiationRun ∈
      states step (start (Block.zero 4) .pap) renegotiationRun :=
    mem_states_iff.mpr ⟨renegotiationRun, [], by simp, rfl⟩
  have state : (stateAfter (Block.zero 4) .pap renegotiationRun).lcp.fsm.state = .opened :=
    follows _ last (by decide)
  exact absurd state (by decide)

end SstpServer.Ppp
