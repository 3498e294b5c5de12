import Mathlib.Logic.Function.Basic
import SstpServer.Ppp.Phases
import SstpServer.Session.Verdicts

/-!
# The restart timers of the two layers

LCP and IPCP each ask for a restart timer of their own, and the driver names the owner with
every request.  The session has one slot for both.  This module runs the slot next to the
two timers that the requests speak of.
-/

namespace SstpServer.Session

open SstpServer.Wire
open SstpServer.Ppp
open SstpServer.Transition

/-! ## One slot, two timers -/

/-- What happens to the timers: a step of the driver is applied, or the timer of an owner
is to expire. -/
inductive TimerInput where
  | apply (now : Nat) (step : PppStep)
  | expire (now : Nat) (owner : TimerOwner)

/-- The slot after the requests of a step. -/
def slotAfter (now : Nat) (step : PppStep) (slot : Option (TimerOwner × Nat)) :
    Option (TimerOwner × Nat) :=
  let slot :=
    step.timerStops.foldl
      (fun slot owner => if slot.map Prod.fst = some owner then none else slot) slot
  step.timerStarts.foldl (fun _ start => some (start.1, now + seconds start.2)) slot

theorem applyPppTimers_pppTimer (env : Env) (step : PppStep) (s : Session) :
    (s.applyPppTimers env step).pppTimer = slotAfter env.now step s.pppTimer :=
  rfl

/-- The deadline in the slot, if it is that of the owner. -/
def slotDeadline (slot : Option (TimerOwner × Nat)) (owner : TimerOwner) : Option Nat :=
  slot.bind fun timer => if timer.1 = owner then some timer.2 else none

/-- The deadlines of the two timers after the requests of a step, each of which is for one
of them. -/
def deadlinesAfter (now : Nat) (step : PppStep) (deadlines : TimerOwner → Option Nat) :
    TimerOwner → Option Nat :=
  let deadlines :=
    step.timerStops.foldl (fun deadlines owner => Function.update deadlines owner none) deadlines
  step.timerStarts.foldl
    (fun deadlines start => Function.update deadlines start.1 (some (now + seconds start.2)))
    deadlines

/-- A timer has run out. -/
def due (now : Nat) (deadline : Option Nat) : Bool :=
  deadline.any (· ≤ now)

/-- The slot of the session, and the timers as their owners asked for them. -/
structure Timers where
  slot : Option (TimerOwner × Nat)
  deadlines : TimerOwner → Option Nat

namespace Timers

def new : Timers :=
  ⟨none, fun _ => none⟩

def step (timers : Timers) : TimerInput → Timers
  | .apply now step => ⟨slotAfter now step timers.slot, deadlinesAfter now step timers.deadlines⟩
  | .expire now owner =>
      ⟨if due now (slotDeadline timers.slot owner) then none else timers.slot,
        if due now (timers.deadlines owner) then Function.update timers.deadlines owner none
        else timers.deadlines⟩

/-- No owner's timer was cancelled, replaced or postponed by the other: the slot has the
deadline that the owner asked for, and a timeout is handed to the owner exactly when that
deadline has passed. -/
structure Independent (timers : Timers) : Prop where
  kept : ∀ owner, slotDeadline timers.slot owner = timers.deadlines owner
  delivered : ∀ now owner,
    due now (slotDeadline timers.slot owner) = due now (timers.deadlines owner)

/-- Both timers are to run. -/
def BothPending (timers : Timers) : Prop :=
  ∀ owner, (timers.deadlines owner).isSome = true

theorem independent_iff {timers : Timers} :
    timers.Independent ↔ ∀ owner, slotDeadline timers.slot owner = timers.deadlines owner :=
  ⟨Independent.kept, fun kept => ⟨kept, fun now owner => by rw [kept owner]⟩⟩

end Timers

/-! ## A step -/

theorem slotDeadline_some (owner : TimerOwner) (deadline : Nat) :
    slotDeadline (some (owner, deadline)) =
      Function.update (fun _ => none) owner (some deadline) := by
  funext other
  simp [slotDeadline, Function.update_apply, eq_comm]

/-- A stop reaches the slot only if it is the owner's. -/
theorem slotDeadline_stop (slot : Option (TimerOwner × Nat)) (owner : TimerOwner) :
    slotDeadline (if slot.map Prod.fst = some owner then none else slot) =
      Function.update (slotDeadline slot) owner none := by
  funext other
  rw [Function.update_apply]
  rcases slot with _ | ⟨holder, deadline⟩
  · simp [slotDeadline]
  · by_cases own : holder = owner <;> by_cases asked : other = owner <;>
      simp_all [slotDeadline, eq_comm]

theorem slotDeadline_stops (owners : List TimerOwner) (slot : Option (TimerOwner × Nat)) :
    slotDeadline (owners.foldl
        (fun slot owner => if slot.map Prod.fst = some owner then none else slot) slot) =
      owners.foldl (fun deadlines owner => Function.update deadlines owner none)
        (slotDeadline slot) := by
  induction owners generalizing slot with
  | nil => rfl
  | cons owner later ih => rw [List.foldl_cons, List.foldl_cons, ih, slotDeadline_stop]

/-- With a timer to spare, the owner that is started is the only one. -/
theorem update_eq_of_not_both {deadlines : TimerOwner → Option Nat} {owner : TimerOwner}
    {deadline : Nat}
    (spare : ¬∀ other, (Function.update deadlines owner (some deadline) other).isSome = true) :
    Function.update deadlines owner (some deadline) =
      Function.update (fun _ => none) owner (some deadline) := by
  obtain ⟨idle, stopped⟩ := not_forall.mp spare
  have others : idle ≠ owner := by
    rintro rfl
    simp at stopped
  rw [Function.update_of_ne others] at stopped
  funext other
  by_cases own : other = owner
  · rw [own, Function.update_self, Function.update_self]
  · have only : other = idle := by
      cases other <;> cases idle <;> cases owner <;> simp_all
    rw [Function.update_of_ne own, Function.update_of_ne own, only]
    simpa using stopped

/-! ## The session -/

/-- The session is woken when the deadline in the slot has passed. -/
theorem enabled_pppTimer_iff (env : Env) (s : Session) :
    enabled env s .pppTimer = true ↔
      ∃ owner, due env.now (slotDeadline s.pppTimer owner) = true := by
  cases slot : s.pppTimer with
  | none => simp [enabled, slot, slotDeadline, due]
  | some timer =>
      constructor
      · intro passed
        exact ⟨timer.1, by simpa [enabled, slot, slotDeadline, due] using passed⟩
      · rintro ⟨owner, expired⟩
        by_cases own : timer.1 = owner
        · simpa [enabled, slot, slotDeadline, due, own] using expired
        · simp [slotDeadline, due, own] at expired

/-- The timeout is handed to the owner of the slot, which is emptied. -/
theorem onPppTimer_of_due {config : Config} {env : Env} {s : Session} {ppp : Ppp}
    {owner : TimerOwner} (running : s.ppp = some ppp)
    (expired : due env.now (slotDeadline s.pppTimer owner) = true) :
    s.onPppTimer config env =
      handlePppStep config env pppRounds (ppp.onTimer owner (env.challenge 0)).1
        (ppp.onTimer owner (env.challenge 0)).2 { s with pppTimer := none } := by
  cases slot : s.pppTimer with
  | none => simp [slot, slotDeadline, due] at expired
  | some timer =>
      have own : timer.1 = owner := by
        by_contra other
        simp [slot, slotDeadline, due, other] at expired
      simp only [onPppTimer, slot, running, own]

/-- The session deals with its slot as the timers do: it applies a step of the driver to the
slot, is woken when the deadline in it has passed, and hands the timeout to the owner with the
slot emptied.  The loop over what the owner answers ends within its rounds. -/
structure Timers.ServedBy (timers : Timers) (config : Config) (env : Env) (s : Session) :
    Prop where
  applies : ∀ step,
    (s.applyPppTimers env step).pppTimer = (timers.step (.apply env.now step)).slot
  wakes : enabled env s .pppTimer = true ↔
    ∃ owner, due env.now (slotDeadline timers.slot owner) = true
  hands : ∀ ppp owner, s.ppp = some ppp →
    due env.now (slotDeadline timers.slot owner) = true →
      s.onPppTimer config env =
        handlePppStep config env pppRounds (ppp.onTimer owner (env.challenge 0)).1
          (ppp.onTimer owner (env.challenge 0)).2
          { s with pppTimer := (timers.step (.expire env.now owner)).slot }
  ends : ∀ (ppp : Ppp) (owner : TimerOwner) (fuel : Nat), s.running = true →
    handlePppStep config env (fuel + pppRounds) (ppp.onTimer owner (env.challenge 0)).1
        (ppp.onTimer owner (env.challenge 0)).2 s =
      handlePppStep config env pppRounds (ppp.onTimer owner (env.challenge 0)).1
        (ppp.onTimer owner (env.challenge 0)).2 s

theorem Timers.servedBy {timers : Timers} (config : Config) (env : Env) {s : Session}
    (slot : s.pppTimer = timers.slot) : timers.ServedBy config env s := by
  constructor
  · intro step
    rw [applyPppTimers_pppTimer, slot]
    rfl
  · rw [enabled_pppTimer_iff, slot]
  · intro ppp owner running expired
    have emptied : (timers.step (.expire env.now owner)).slot = none := if_pos expired
    rw [← slot] at expired
    rw [onPppTimer_of_due running expired, emptied]
  · intro ppp owner fuel
    exact handlePppStep_run_fuel config env fuel ppp ⟨.timer owner, env.challenge 0⟩

namespace Timers

/-- The requests of a step keep the timers independent as long as only one of them is to
run afterwards. -/
theorem Independent.apply {timers : Timers} (independent : timers.Independent) (now : Nat)
    (step : PppStep) (spare : ¬(timers.step (.apply now step)).BothPending) :
    (timers.step (.apply now step)).Independent := by
  have before : slotDeadline timers.slot = timers.deadlines := funext independent.kept
  have stopped := slotDeadline_stops step.timerStops timers.slot
  rw [before] at stopped
  rw [independent_iff]
  apply congrFun
  unfold BothPending at spare
  simp only [Timers.step, slotAfter, deadlinesAfter] at spare ⊢
  -- Only the last start matters to the slot.
  rcases step.timerStarts.eq_nil_or_concat with none | ⟨earlier, last, starts⟩
  · rw [none]
    exact stopped
  · rw [starts, List.concat_eq_append, List.foldl_concat] at spare
    rw [starts, List.concat_eq_append, List.foldl_concat, List.foldl_concat, slotDeadline_some,
      update_eq_of_not_both spare]

/-- An expiry keeps the timers independent. -/
theorem Independent.expire {timers : Timers} (independent : timers.Independent) (now : Nat)
    (owner : TimerOwner) : (timers.step (.expire now owner)).Independent := by
  have before : slotDeadline timers.slot = timers.deadlines := funext independent.kept
  rw [independent_iff]
  apply congrFun
  simp only [Timers.step, ← before]
  split_ifs with expired
  · have held : timers.slot.map Prod.fst = some owner := by
      cases slot : timers.slot with
      | none => simp [slot, slotDeadline, due] at expired
      | some timer =>
          by_cases own : timer.1 = owner
          · simp [own]
          · simp [slot, slotDeadline, due, own] at expired
    rw [← slotDeadline_stop, if_pos held]
  · rfl

/-- One slot cannot hold both timers. -/
theorem Independent.not_bothPending {timers : Timers} (independent : timers.Independent) :
    ¬timers.BothPending := by
  intro both
  have lcp := both .lcp
  have ipcp := both .ipcp
  rw [← independent.kept] at lcp ipcp
  cases slot : timers.slot with
  | none => simp [slot, slotDeadline] at lcp
  | some timer => cases owner : timer.1 <;> simp_all [slotDeadline]

theorem Independent.step {timers : Timers} (independent : timers.Independent)
    (input : TimerInput) (spare : ¬(timers.step input).BothPending) :
    (timers.step input).Independent := by
  cases input with
  | apply now step => exact independent.apply now step spare
  | expire now owner => exact independent.expire now owner

/-! ## Runs -/

/-- The timers of the two layers are independent throughout a run exactly when they are
never to run at the same time; and at each point of the run the session with that slot deals
with it as the timers do. -/
theorem forall_independent_iff (inputs : List TimerInput) :
    ((∀ timers ∈ states step new inputs, timers.Independent) ↔
      ∀ timers ∈ states step new inputs, ¬timers.BothPending) ∧
    ∀ timers ∈ states step new inputs, ∀ (config : Config) (env : Env) (s : Session),
      s.pppTimer = timers.slot → timers.ServedBy config env s := by
  refine ⟨⟨?_, ?_⟩, fun timers _ config env s => servedBy config env⟩
  · intro independent timers reached
    exact (independent timers reached).not_bothPending
  · intro spare
    have initially : new.Independent := independent_iff.mpr fun _ => rfl
    exact forall_states_of_kept (fun _ input independent => independent.step input) initially
      spare

/-- The requests of the driver in a run that begins with the opening of LCP, all of them
applied at once. -/
def ofRun (method : AuthMethod) (inputs : List Ppp.Input) : List TimerInput :=
  .apply 0 ((Ppp.new (Block.zero 4) method).openPpp (Block.zero 16)).1 ::
    (visits Ppp.step (Ppp.start (Block.zero 4) method) inputs).map fun visit =>
      .apply 0 (visit.1.respond visit.2)

/-- IPCP has begun to negotiate when the peer sends LCP another Configure-Request.  LCP
starts its timer, and the timer of IPCP is gone. -/
theorem not_independent_renegotiation :
    let timers := finalState step new (ofRun .pap Ppp.renegotiationRun)
    timers.deadlines .ipcp = some (seconds defaultRestart) ∧
      slotDeadline timers.slot .ipcp = none ∧
      slotDeadline timers.slot .lcp = some (seconds defaultRestart) ∧
      ¬timers.Independent := by
  have asked : (finalState step new (ofRun .pap Ppp.renegotiationRun)).deadlines .ipcp =
      some (seconds defaultRestart) := by decide +kernel
  have lost : slotDeadline (finalState step new (ofRun .pap Ppp.renegotiationRun)).slot .ipcp =
      none := by decide +kernel
  refine ⟨asked, lost, by decide +kernel, fun independent => ?_⟩
  have same := independent.kept .ipcp
  rw [asked, lost] at same
  cases same

end Timers

end SstpServer.Session
