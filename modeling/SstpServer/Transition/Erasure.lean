import SstpServer.Transition.Run

/-!
# Runs without their silent steps

Some steps of a run are silent: a run from which they are erased takes the same visible
steps.  When a relation between the states of the two runs is kept, by silent steps of the
first alone and by visible steps of both, two runs with the same visible steps end in states
that cannot be told apart.
-/

namespace SstpServer.Transition

universe u v w

variable {σ : Type u} {ι : Type v}

/-- The inputs of a run whose steps are not silent. -/
def erase (step : σ → ι → σ) (silent : σ → ι → Bool) : σ → List ι → List ι
  | _, [] => []
  | state, input :: rest =>
      if silent state input then erase step silent (step state input) rest
      else input :: erase step silent (step state input) rest

section Erase

variable {step : σ → ι → σ} {silent : σ → ι → Bool} {relation : σ → σ → Prop}
  {condition : σ → ι → Prop}

/-- A run keeps a relation to the run without its silent steps. -/
theorem finalState_erase
    (passes : ∀ state erased input, relation state erased → condition state input →
      silent state input = true → relation (step state input) erased)
    (follows : ∀ state erased input, relation state erased → condition state input →
      silent state input = false → relation (step state input) (step erased input))
    {state erased : σ} (initially : relation state erased) {inputs : List ι}
    (guarded : ∀ visit ∈ visits step state inputs, condition visit.1 visit.2) :
    relation (finalState step state inputs)
      (finalState step erased (erase step silent state inputs)) := by
  induction inputs generalizing state erased with
  | nil => exact initially
  | cons input rest ih =>
      have first : condition state input := guarded (state, input) List.mem_cons_self
      have later : ∀ visit ∈ visits step (step state input) rest, condition visit.1 visit.2 :=
        fun visit member => guarded visit (List.mem_cons_of_mem _ member)
      cases quiet : silent state input with
      | true =>
          simp only [erase, quiet, if_true]
          exact ih (passes state erased input initially first quiet) later
      | false =>
          simp only [erase, quiet, Bool.false_eq_true, if_false]
          exact ih (follows state erased input initially first quiet) later

/-- Two runs with the same visible steps end alike. -/
theorem observe_eq_of_erase_eq {α : Type w} {observe : σ → α}
    (passes : ∀ state erased input, relation state erased → condition state input →
      silent state input = true → relation (step state input) erased)
    (follows : ∀ state erased input, relation state erased → condition state input →
      silent state input = false → relation (step state input) (step erased input))
    (observes : ∀ state erased, relation state erased → observe state = observe erased)
    {state : σ} (initially : relation state state) {inputs inputs' : List ι}
    (same : erase step silent state inputs = erase step silent state inputs')
    (guarded : ∀ visit ∈ visits step state inputs, condition visit.1 visit.2)
    (guarded' : ∀ visit ∈ visits step state inputs', condition visit.1 visit.2) :
    observe (finalState step state inputs) = observe (finalState step state inputs') := by
  have first := observes _ _ (finalState_erase passes follows initially guarded)
  have second := observes _ _ (finalState_erase passes follows initially guarded')
  rw [first, same, second]

end Erase

end SstpServer.Transition
