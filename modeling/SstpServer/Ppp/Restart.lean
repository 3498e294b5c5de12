import SstpServer.Ppp.Fsm
import SstpServer.Transition.Run

/-!
# The restart timer and the counters of the automaton

The automaton does not keep its timer: rows of the table ask for a start or a stop, and
the timer itself runs in the session.  Its two counters are kept.  The restart counter
bounds the requests that timeouts can send again; the failure counter is set and never
read.  This module follows the timer and the counters over whole runs.
-/

namespace SstpServer.Ppp.Fsm

open SstpServer.Transition

/-- The automaton as a transition system. -/
def next (fsm : Fsm) (event : Event) : Fsm :=
  (fsm.step event).2

/-- The action sets of a run. -/
def outputs (fsm : Fsm) (events : List Event) : List StepOut :=
  (visits next fsm events).map fun visit => (visit.1.step visit.2).1

@[simp]
theorem outputs_cons (fsm : Fsm) (event : Event) (rest : List Event) :
    fsm.outputs (event :: rest) = (fsm.step event).1 :: (fsm.next event).outputs rest :=
  rfl

/-- States that wait for an answer of the peer. -/
def State.awaits : State → Bool
  | .closing | .stopping | .reqSent | .ackRcvd | .ackSent => true
  | _ => false

/-! ## The timer -/

/-- The automaton with its timer. -/
structure Timed where
  fsm : Fsm
  running : Bool
  deriving DecidableEq, Repr

/-- A step with its timer operation; an expiry ends the timer before the operation. -/
def Timed.step (timed : Timed) (event : Event) : Timed where
  fsm := timed.fsm.next event
  running :=
    match (timed.fsm.step event).1.restartTimer with
    | some .start => true
    | some .stop => false
    | none => timed.running && event ≠ .restartTimeout

def Timed.new : Timed :=
  ⟨Fsm.new, false⟩

/-- The timer runs where the automaton waits. -/
def Timed.Armed (timed : Timed) : Prop :=
  timed.fsm.state.awaits = true → timed.running = true

instance (timed : Timed) : Decidable timed.Armed :=
  inferInstanceAs (Decidable (_ → _))

/-- The rows that make the automaton wait without a timer: the Ack of its own request
stops the timer although the peer's request is still to come, and an opened layer that
falls back to Req-Sent sends a request and starts none. -/
def disarms : State → Event → Bool
  | .reqSent, .rcvConfigAck => true
  | .opened, .rcvConfigAck | .opened, .rcvConfigNak | .opened, .rcvTerminateAck => true
  | _, _ => false

/-- States that are entered with the timer stopped. -/
def State.quiet : State → Bool
  | .ackRcvd | .opened => true
  | _ => false

/-- What every row of the table does to the timer. -/
@[mk_iff]
structure TimerSpec (source : State) (event : Event) (out : StepOut) : Prop where
  quiet : out.newState.quiet = true →
    out.restartTimer = some .stop ∨ out.restartTimer = none ∧ source.quiet = true
  armed : out.newState.awaits = true → disarms source event = false →
    out.restartTimer = some .start ∨
      out.restartTimer = none ∧ source.awaits = true ∧ event ≠ .restartTimeout
  disarmed : disarms source event = true → out.newState.awaits = true ∧
    (out.restartTimer = some .stop ∨ out.restartTimer = none ∧ source.quiet = true)

instance (source : State) (event : Event) (out : StepOut) :
    Decidable (TimerSpec source event out) :=
  decidable_of_iff _ (timerSpec_iff source event out).symm

theorem step_timerSpec (fsm : Fsm) (event : Event) :
    TimerSpec fsm.state event (fsm.step event).1 :=
  step_of_rows (by decide +kernel) fsm event

/-- The timer is stopped in Ack-Rcvd and in Opened. -/
def Timed.Quiet (timed : Timed) : Prop :=
  timed.fsm.state.quiet = true → timed.running = false

theorem Timed.Quiet.running_step {timed : Timed} {event : Event} (quiet : timed.Quiet)
    (stopped : (timed.fsm.step event).1.restartTimer = some .stop ∨
      (timed.fsm.step event).1.restartTimer = none ∧ timed.fsm.state.quiet = true) :
    (timed.step event).running = false := by
  rcases stopped with stop | ⟨unchanged, source⟩
  · simp [Timed.step, stop]
  · simp [Timed.step, unchanged, quiet source]

theorem Timed.Quiet.step {timed : Timed} (quiet : timed.Quiet) (event : Event) :
    (timed.step event).Quiet :=
  fun entered => quiet.running_step ((step_timerSpec timed.fsm event).quiet entered)

/-- A step out of an armed state keeps the timer running exactly when it is none of the
disarming rows. -/
theorem Timed.armed_step_iff {timed : Timed} (event : Event) (quiet : timed.Quiet)
    (armed : timed.Armed) :
    (timed.step event).Armed ↔ disarms timed.fsm.state event = false := by
  have spec := step_timerSpec timed.fsm event
  constructor
  · intro still
    by_contra disarming
    rcases spec.disarmed (by simpa using disarming) with ⟨waiting, stopped⟩
    have halted := quiet.running_step stopped
    rw [still waiting] at halted
    cases halted
  · intro harmless waiting
    rcases spec.armed waiting harmless with start | ⟨unchanged, source, other⟩
    · simp [Timed.step, start]
    · simp [Timed.step, unchanged, armed source, other]

/-- The timer runs in every waiting state of a run exactly when the run takes none of the
disarming rows. -/
theorem forall_armed_iff (events : List Event) :
    (∀ timed ∈ states Timed.step Timed.new events, timed.Armed) ↔
      ∀ visit ∈ visits Timed.step Timed.new events,
        disarms visit.1.fsm.state visit.2 = false := by
  have keeps : ∀ timed event, Timed.Quiet timed → (timed.step event).Quiet :=
    fun _ event quiet => quiet.step event
  have initially : Timed.new.Quiet := nofun
  have armed : Timed.new.Armed := nofun
  exact forall_states_iff_forall_visits keeps initially armed
    (fun _ event quiet armed => Timed.armed_step_iff event quiet armed) events

/-- The peer acknowledges the server's first request and then falls silent: the automaton
waits in Ack-Rcvd and no timer runs. -/
theorem not_armed_ackRcvd :
    (finalState Timed.step Timed.new [.adminOpen, .up, .rcvConfigAck]).fsm.state = .ackRcvd ∧
      ¬(finalState Timed.step Timed.new [.adminOpen, .up, .rcvConfigAck]).Armed := by
  decide

/-! ## The restart counter -/

/-- A row leaves the counters alone, initializes them or zeroes the restart counter. -/
theorem transition_snd (fsm : Fsm) (event : Event) :
    (fsm.transition event).2 = fsm ∨ (fsm.transition event).2 = fsm.ircConfigure ∨
      (fsm.transition event).2 = fsm.ircTerminate ∨
        (fsm.transition event).2 = { fsm with restartCounter := 0 } := by
  rcases fsm with ⟨state, identifier, restartCounter⟩
  cases state <;> cases event <;>
    first
    | exact .inl rfl
    | exact .inr (.inl rfl)
    | exact .inr (.inr (.inl rfl))
    | exact .inr (.inr (.inr rfl))

/-- The restart counter stays within the larger of its two initial values. -/
def Bounded (fsm : Fsm) : Prop :=
  fsm.restartCounter ≤ max fsm.maxConfigure fsm.maxTerminate

theorem Bounded.consume {fsm : Fsm} (bounded : fsm.Bounded) (send : Option Send) :
    (fsm.consume send).Bounded := by
  unfold Fsm.consume
  split
  · exact Nat.le_trans (Nat.sub_le _ _) bounded
  · exact Nat.le_trans (Nat.sub_le _ _) bounded
  · exact bounded

theorem Bounded.next {fsm : Fsm} (bounded : fsm.Bounded) (event : Event) :
    (fsm.next event).Bounded := by
  have row : (fsm.transition event).2.Bounded := by
    rcases fsm.transition_snd event with same | configure | terminate | zeroed
    · rw [same]
      exact bounded
    · rw [configure]
      exact Nat.le_max_left _ _
    · rw [terminate]
      exact Nat.le_max_right _ _
    · rw [zeroed]
      exact Nat.zero_le _
  exact (row.consume _).consume _

/-- The request that a waiting state sends again. -/
def State.request : State → Send
  | .closing | .stopping => .terminateReq
  | _ => .configureRequest

/-- Where a waiting state goes on a timeout with budget left. -/
def State.retried : State → State
  | .ackRcvd => .reqSent
  | state => state

/-- Where a waiting state goes on a timeout without budget. -/
def State.givenUp : State → State
  | .closing => .closed
  | _ => .stopped

/-- A timeout with budget left: the request once more, and the timer anew. -/
def State.retransmission (state : State) : StepOut :=
  { newState := state.retried, send := some state.request, restartTimer := some .start }

/-- A timeout without budget: no packet, and the layer is finished. -/
def State.surrender (state : State) : StepOut :=
  { newState := state.givenUp, notify := { finished := true } }

theorem step_restartTimeout_of_pos {fsm : Fsm} (waiting : fsm.state.awaits = true)
    (budget : 0 < fsm.restartCounter) :
    fsm.step .restartTimeout =
      (fsm.state.retransmission,
        { fsm with state := fsm.state.retried, restartCounter := fsm.restartCounter - 1 }) := by
  rcases fsm with ⟨state, identifier, _ | restartCounter⟩
  · cases budget
  · cases state <;> first | rfl | cases waiting

theorem step_restartTimeout_of_zero {fsm : Fsm} (waiting : fsm.state.awaits = true)
    (exhausted : fsm.restartCounter = 0) :
    fsm.step .restartTimeout =
      (fsm.state.surrender, { fsm with state := fsm.state.givenUp }) := by
  rcases fsm with ⟨state, identifier, restartCounter⟩
  cases exhausted
  cases state <;> first | rfl | cases waiting

/-- A timeout in a state that waits for nothing is ignored. -/
theorem step_restartTimeout_of_idle {fsm : Fsm} (idle : fsm.state.awaits = false) :
    fsm.step .restartTimeout = (.just fsm.state, fsm) := by
  rcases fsm with ⟨state, identifier, restartCounter⟩
  cases state <;> first | rfl | cases idle

@[simp]
theorem State.awaits_retried (state : State) : state.retried.awaits = state.awaits := by
  cases state <;> rfl

@[simp]
theorem State.awaits_givenUp (state : State) : state.givenUp.awaits = false := by
  cases state <;> rfl

@[simp]
theorem State.retransmission_retried (state : State) :
    state.retried.retransmission = state.retransmission := by
  cases state <;> rfl

@[simp]
theorem State.givenUp_retried (state : State) : state.retried.givenUp = state.givenUp := by
  cases state <;> rfl

@[simp]
theorem State.surrender_retried (state : State) :
    state.retried.surrender = state.surrender := by
  rw [surrender, givenUp_retried, surrender]

/-- Timeouts in a state that waits for nothing do nothing. -/
theorem timeouts_of_idle {fsm : Fsm} (idle : fsm.state.awaits = false) (count : Nat) :
    fsm.outputs (List.replicate count .restartTimeout) =
        List.replicate count (.just fsm.state) ∧
      finalState next fsm (List.replicate count .restartTimeout) = fsm := by
  have stays : fsm.next .restartTimeout = fsm := by
    rw [next, step_restartTimeout_of_idle idle]
  induction count with
  | zero => exact ⟨rfl, rfl⟩
  | succ count ih =>
      rw [List.replicate_succ, List.replicate_succ, outputs_cons, finalState_cons, stays,
        step_restartTimeout_of_idle idle, ih.1]
      exact ⟨rfl, ih.2⟩

/-- Timeouts use up the budget one request at a time, then the layer gives up. -/
theorem timeouts_of_awaits {fsm : Fsm} (waiting : fsm.state.awaits = true) (further : Nat) :
    fsm.outputs (List.replicate (fsm.restartCounter + 1 + further) .restartTimeout) =
        List.replicate fsm.restartCounter fsm.state.retransmission ++
          fsm.state.surrender :: List.replicate further (.just fsm.state.givenUp) ∧
      finalState next fsm
          (List.replicate (fsm.restartCounter + 1 + further) .restartTimeout) =
        { fsm with state := fsm.state.givenUp, restartCounter := 0 } := by
  -- The induction is on the budget; the state changes once, from Ack-Rcvd to Req-Sent.
  induction budget : fsm.restartCounter generalizing fsm with
  | zero =>
      have stepped := step_restartTimeout_of_zero waiting budget
      have idle : (fsm.next .restartTimeout).state.awaits = false := by
        rw [next, stepped]
        exact fsm.state.awaits_givenUp
      rcases timeouts_of_idle idle further with ⟨silent, stays⟩
      rw [Nat.zero_add, Nat.add_comm, List.replicate_succ, outputs_cons, finalState_cons, silent,
        stays, next, stepped]
      refine ⟨rfl, ?_⟩
      rw [← budget]
  | succ budget' ih =>
      have positive : 0 < fsm.restartCounter := by omega
      have stepped := step_restartTimeout_of_pos waiting positive
      have left : (fsm.next .restartTimeout).restartCounter = budget' := by
        rw [next, stepped]
        exact Nat.sub_eq_of_eq_add budget
      have still : (fsm.next .restartTimeout).state.awaits = true := by
        rw [next, stepped]
        exact (fsm.state.awaits_retried).trans waiting
      rcases ih still left with ⟨sent, ends⟩
      have count : budget' + 1 + 1 + further = (budget' + 1 + further) + 1 := by omega
      rw [count, List.replicate_succ, outputs_cons, finalState_cons, sent, ends, next, stepped]
      simp [List.replicate_succ]

/-- The restart counter is bounded in every reachable automaton, and a waiting one that
hears nothing but timeouts sends exactly that many requests again before it gives up. -/
theorem timeouts_exhaust (events : List Event) :
    let fsm := finalState next new events
    fsm.restartCounter ≤ max fsm.maxConfigure fsm.maxTerminate ∧
      (fsm.state.awaits = true → ∀ further,
        fsm.outputs (List.replicate (fsm.restartCounter + 1 + further) .restartTimeout) =
            List.replicate fsm.restartCounter fsm.state.retransmission ++
              fsm.state.surrender :: List.replicate further (.just fsm.state.givenUp) ∧
          finalState next fsm
              (List.replicate (fsm.restartCounter + 1 + further) .restartTimeout) =
            { fsm with state := fsm.state.givenUp, restartCounter := 0 }) := by
  intro fsm
  have keeps : ∀ fsm event, Bounded fsm → (fsm.next event).Bounded :=
    fun _ event bounded => bounded.next event
  have initially : new.Bounded := Nat.zero_le _
  refine ⟨finalState_invariant keeps initially events, fun waiting further => ?_⟩
  exact timeouts_of_awaits waiting further

/-- The first request is sent nine times more. -/
theorem timeouts_exhaust_reqSent :
    (finalState next new [.adminOpen, .up]).restartCounter = 9 ∧
      (finalState next new [.adminOpen, .up]).outputs (List.replicate 10 .restartTimeout) =
        List.replicate 9 State.reqSent.retransmission ++ [State.reqSent.surrender] := by
  have sent := ((timeouts_exhaust [.adminOpen, .up]).2 rfl 0).1
  exact ⟨rfl, sent⟩

/-! ## The failure counter -/

/-- States in which the layer negotiates. -/
def State.negotiates : State → Bool
  | .reqSent | .ackRcvd | .ackSent => true
  | _ => false

/-- The automaton with two tallies of the current negotiation since its last Ack: the Naks
it has sent, and the requests it has refused. -/
structure Tally where
  fsm : Fsm
  naks : Nat
  refused : Nat
  deriving DecidableEq, Repr

/-- A tally after a step, given whether the step clears it and what it adds. -/
def tallied (source target : State) (cleared : Bool) (tally added : Nat) : Nat :=
  if target.negotiates = false ∨ cleared = true then 0
  else (if source.negotiates then tally else 0) + added

def Tally.step (tally : Tally) (event : Event) : Tally :=
  let out := (tally.fsm.step event).1
  { fsm := tally.fsm.next event
    naks := tallied tally.fsm.state out.newState (out.sends.contains .configureAck)
      tally.naks (out.sends.count .configureNak)
    refused := tallied tally.fsm.state out.newState (event = .rcvConfigReqGood)
      tally.refused (if event = .rcvConfigReqBad then 1 else 0) }

def Tally.new : Tally :=
  ⟨Fsm.new, 0, 0⟩

/-- While the layer negotiates, a step sends an Ack for a good request, a Nak for a bad one
and neither for anything else. -/
theorem answers_of_negotiates (fsm : Fsm) (event : Event) :
    (fsm.step event).1.newState.negotiates = true →
      (fsm.step event).1.sends.contains .configureAck = decide (event = .rcvConfigReqGood) ∧
        (fsm.step event).1.sends.count .configureNak =
          if event = .rcvConfigReqBad then 1 else 0 := by
  rw [step_eq_row]
  generalize (fsm.restartCounter == 0) = spent, fsm.state = state
  revert spent state event
  decide +kernel

/-- Every refused request is answered with a Nak, however many there were. -/
theorem Tally.naks_step {tally : Tally} (same : tally.naks = tally.refused) (event : Event) :
    (tally.step event).naks = (tally.step event).refused := by
  cases negotiating : (tally.fsm.step event).1.newState.negotiates with
  | false => simp [Tally.step, tallied, negotiating]
  | true =>
      rcases answers_of_negotiates tally.fsm event negotiating with ⟨acks, naks⟩
      simp only [Tally.step, acks, naks, same]

/-- The Naks of a negotiation stay within Max-Failure exactly when the peer sends no more
unacceptable requests than that. -/
theorem forall_naks_le_iff (events : List Event) :
    (∀ tally ∈ states Tally.step Tally.new events, tally.naks ≤ tally.fsm.maxFailure) ↔
      ∀ tally ∈ states Tally.step Tally.new events, tally.refused ≤ tally.fsm.maxFailure := by
  have same : ∀ tally ∈ states Tally.step Tally.new events, tally.naks = tally.refused := by
    intro tally reached
    rcases mem_states_iff.mp reached with ⟨before, after, -, rfl⟩
    have keeps : ∀ tally event, Tally.naks tally = tally.refused →
        (tally.step event).naks = (tally.step event).refused :=
      fun _ event equal => Tally.naks_step equal event
    exact finalState_invariant keeps rfl before
  refine forall₂_congr fun tally reached => ?_
  rw [same tally reached]

/-- A sixth unacceptable request is refused with a sixth Nak, and the negotiation goes on. -/
theorem naks_gt_maxFailure :
    let tally := finalState Tally.step Tally.new
      (.adminOpen :: .up :: List.replicate 6 .rcvConfigReqBad)
    tally.fsm.state = .reqSent ∧ tally.fsm.maxFailure < tally.naks := by
  decide

end SstpServer.Ppp.Fsm
