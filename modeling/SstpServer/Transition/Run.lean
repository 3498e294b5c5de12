import Mathlib.Data.List.Induction

/-!
# Runs of deterministic input-driven transitions

A component that is driven by its environment is a total function from a state
and an input to the next state.  A run is a finite list of inputs.  This module
records the states such a run passes through, pairs every input with the state
it is consumed in, and packages the inductions over runs: unconditional
invariants, invariants that depend on a condition on every step, and the exact
characterization of the runs that keep a property.
-/

namespace SstpServer.Transition

universe u v

variable {σ : Type u} {ι : Type v}

/-- The state reached after consuming all inputs in order. -/
def finalState (step : σ → ι → σ) (state : σ) (inputs : List ι) : σ :=
  inputs.foldl step state

/-- Every input of a run, paired with the state in which it is consumed. -/
def visits (step : σ → ι → σ) : σ → List ι → List (σ × ι)
  | _, [] => []
  | state, input :: rest => (state, input) :: visits step (step state input) rest

@[simp]
theorem finalState_nil (step : σ → ι → σ) (state : σ) :
    finalState step state [] = state :=
  rfl

@[simp]
theorem finalState_cons (step : σ → ι → σ) (state : σ) (input : ι)
    (rest : List ι) :
    finalState step state (input :: rest) =
      finalState step (step state input) rest :=
  rfl

@[simp]
theorem visits_nil (step : σ → ι → σ) (state : σ) : visits step state [] = [] :=
  rfl

@[simp]
theorem visits_cons (step : σ → ι → σ) (state : σ) (input : ι)
    (rest : List ι) :
    visits step state (input :: rest) =
      (state, input) :: visits step (step state input) rest :=
  rfl

theorem finalState_append (step : σ → ι → σ) (state : σ)
    (first second : List ι) :
    finalState step state (first ++ second) =
      finalState step (finalState step state first) second := by
  simp [finalState, List.foldl_append]

theorem finalState_concat (step : σ → ι → σ) (state : σ) (inputs : List ι) (input : ι) :
    finalState step state (inputs ++ [input]) = step (finalState step state inputs) input :=
  finalState_append step state inputs [input]

theorem visits_append (step : σ → ι → σ) (state : σ) (first second : List ι) :
    visits step state (first ++ second) =
      visits step state first ++
        visits step (finalState step state first) second := by
  induction first generalizing state with
  | nil => rfl
  | cons input rest ih => simp [ih]

/-- A visit of a run is an input together with the state reached by the inputs
before it. -/
theorem mem_visits_iff {step : σ → ι → σ} {source state : σ} {input : ι}
    {inputs : List ι} :
    (state, input) ∈ visits step source inputs ↔
      ∃ before after, inputs = before ++ input :: after ∧
        finalState step source before = state := by
  constructor
  · intro visited
    induction inputs generalizing source with
    | nil => simp at visited
    | cons first rest ih =>
        rcases List.mem_cons.mp visited with here | later
        · cases here
          exact ⟨[], rest, rfl, rfl⟩
        · rcases ih later with ⟨before, after, rfl, reached⟩
          exact ⟨first :: before, after, rfl, reached⟩
  · rintro ⟨before, after, rfl, rfl⟩
    rw [visits_append]
    simp

/-- The last input of a run is taken in the state that the others lead to. -/
theorem mem_visits_concat (step : σ → ι → σ) (source : σ) (inputs : List ι) (input : ι) :
    (finalState step source inputs, input) ∈ visits step source (inputs ++ [input]) :=
  mem_visits_iff.mpr ⟨inputs, [], rfl, rfl⟩

/-- The visits before and at a visit of a run are those of a part of the run. -/
theorem exists_of_visits_eq {step : σ → ι → σ} {source : σ} {inputs : List ι}
    {before after : List (σ × ι)} {visit : σ × ι}
    (split : visits step source inputs = before ++ visit :: after) :
    ∃ early late, inputs = early ++ visit.2 :: late ∧ visits step source early = before ∧
      finalState step source early = visit.1 := by
  induction before generalizing source inputs with
  | nil =>
      cases inputs with
      | nil => cases split
      | cons input rest =>
          rcases List.cons.inj split with ⟨rfl, _⟩
          exact ⟨[], rest, rfl, rfl, rfl⟩
  | cons first before ih =>
      cases inputs with
      | nil => cases split
      | cons input rest =>
          rcases List.cons.inj split with ⟨rfl, later⟩
          rcases ih later with ⟨early, late, rfl, rfl, reached⟩
          exact ⟨input :: early, late, rfl, rfl, reached⟩

/-! ## Invariants -/

/-- A property that every step keeps holds at the end of every run. -/
theorem finalState_invariant {step : σ → ι → σ} {source : σ} {invariant : σ → Prop}
    (keeps : ∀ state input, invariant state → invariant (step state input))
    (initially : invariant source) (inputs : List ι) :
    invariant (finalState step source inputs) := by
  induction inputs generalizing source with
  | nil => exact initially
  | cons input rest ih => exact ih (keeps source input initially)

/-- An input that leads from one lasting property to another, anywhere in a run, leads the run
there. -/
theorem finalState_of_mem {step : σ → ι → σ} {source : σ} {first second : σ → Prop} {input : ι}
    (keepsFirst : ∀ state input, first state → first (step state input))
    (keepsSecond : ∀ state input, second state → second (step state input))
    (leads : ∀ state, first state → second (step state input))
    (initially : first source) {inputs : List ι} (member : input ∈ inputs) :
    second (finalState step source inputs) := by
  rcases List.append_of_mem member with ⟨before, after, rfl⟩
  rw [finalState_append, finalState_cons]
  exact finalState_invariant keepsSecond
    (leads _ (finalState_invariant keepsFirst initially before)) after

/-- A property that every step keeps holds in every state a run visits. -/
theorem invariant_of_mem_visits {step : σ → ι → σ} {source : σ}
    {invariant : σ → Prop}
    (keeps : ∀ state input, invariant state → invariant (step state input))
    (initially : invariant source) {inputs : List ι} {visit : σ × ι}
    (visited : visit ∈ visits step source inputs) : invariant visit.1 := by
  rcases mem_visits_iff.mp visited with ⟨before, _, _, reached⟩
  rw [← reached]
  exact finalState_invariant keeps initially before

/-- A relation between the visits made so far and the current state that every
step keeps holds after every run. -/
theorem visits_finalState_induction {step : σ → ι → σ} {source : σ}
    {relation : List (σ × ι) → σ → Prop}
    (keeps : ∀ history state input, relation history state →
      relation (history ++ [(state, input)]) (step state input))
    (initially : relation [] source) (inputs : List ι) :
    relation (visits step source inputs) (finalState step source inputs) := by
  induction inputs using List.reverseRecOn with
  | nil => exact initially
  | append_singleton before input ih =>
      rw [visits_append, finalState_append]
      exact keeps _ _ input ih

/-- A relation between the visits made so far and the current state that is kept by
the steps meeting a condition holds after every run all of whose steps meet it. -/
theorem visits_finalState_of_guarded {step : σ → ι → σ} {source : σ}
    {relation : List (σ × ι) → σ → Prop} {condition : List (σ × ι) → σ × ι → Prop}
    (keeps : ∀ history state input, relation history state →
      condition history (state, input) →
      relation (history ++ [(state, input)]) (step state input))
    (initially : relation [] source) {inputs : List ι}
    (guarded : ∀ before visit after,
      visits step source inputs = before ++ visit :: after → condition before visit) :
    relation (visits step source inputs) (finalState step source inputs) := by
  induction inputs using List.reverseRecOn with
  | nil => exact initially
  | append_singleton early input ih =>
      rw [visits_append, finalState_append]
      rw [visits_append] at guarded
      apply keeps _ _ input
      · apply ih
        intro before visit after split
        exact guarded before visit (after ++ [(finalState step source early, input)])
          (by rw [split]; simp)
      · exact guarded _ _ [] rfl

/-- A property that is kept by the steps meeting a condition holds at the end
of every run all of whose steps meet it. -/
theorem finalState_of_guarded {step : σ → ι → σ} {source : σ}
    {invariant : σ → Prop} {condition : σ → ι → Prop}
    (keeps : ∀ state input, invariant state → condition state input →
      invariant (step state input))
    (initially : invariant source) {inputs : List ι}
    (guarded : ∀ visit ∈ visits step source inputs,
      condition visit.1 visit.2) :
    invariant (finalState step source inputs) := by
  induction inputs generalizing source with
  | nil => exact initially
  | cons input rest ih =>
      have first : condition source input :=
        guarded (source, input) List.mem_cons_self
      exact ih (keeps source input initially first)
        fun visit later => guarded visit (List.mem_cons_of_mem _ later)

/-- Two conditions on visits that agree wherever an invariant holds select the
same runs. -/
theorem forall_visits_congr {step : σ → ι → σ} {source : σ}
    {invariant : σ → Prop} {first second : σ → ι → Prop}
    (keeps : ∀ state input, invariant state → invariant (step state input))
    (initially : invariant source)
    (agree : ∀ state input, invariant state →
      (first state input ↔ second state input)) (inputs : List ι) :
    (∀ visit ∈ visits step source inputs, first visit.1 visit.2) ↔
      ∀ visit ∈ visits step source inputs, second visit.1 visit.2 := by
  constructor
  · intro holds visit visited
    exact (agree _ _ (invariant_of_mem_visits keeps initially visited)).mp
      (holds visit visited)
  · intro holds visit visited
    exact (agree _ _ (invariant_of_mem_visits keeps initially visited)).mpr
      (holds visit visited)

/-- The states a run passes through, its first and last state included. -/
def states (step : σ → ι → σ) : σ → List ι → List σ
  | state, [] => [state]
  | state, input :: rest => state :: states step (step state input) rest

theorem mem_states_self (step : σ → ι → σ) (source : σ) (inputs : List ι) :
    source ∈ states step source inputs := by
  cases inputs <;> exact List.mem_cons_self

/-- The states of a run are exactly those its prefixes end in. -/
theorem mem_states_iff {step : σ → ι → σ} {source state : σ}
    {inputs : List ι} :
    state ∈ states step source inputs ↔
      ∃ before after, inputs = before ++ after ∧
        finalState step source before = state := by
  induction inputs generalizing source with
  | nil =>
      constructor
      · intro member
        exact ⟨[], [], rfl, (List.mem_singleton.mp member).symm⟩
      · rintro ⟨before, after, split, rfl⟩
        obtain ⟨rfl, rfl⟩ := List.append_eq_nil_iff.mp split.symm
        exact List.mem_singleton_self source
  | cons input rest ih =>
      simp only [states, List.mem_cons, ih]
      constructor
      · rintro (rfl | ⟨before, after, rfl, reached⟩)
        · exact ⟨[], input :: rest, rfl, rfl⟩
        · exact ⟨input :: before, after, rfl, reached⟩
      · rintro ⟨before, after, split, reached⟩
        cases before with
        | nil => exact Or.inl reached.symm
        | cons first before =>
            obtain ⟨rfl, rfl⟩ := List.cons.inj split
            exact Or.inr ⟨before, after, rfl, reached⟩

theorem mem_states_of_mem_visits {step : σ → ι → σ} {source : σ} {inputs : List ι}
    {visit : σ × ι} (visited : visit ∈ visits step source inputs) :
    visit.1 ∈ states step source inputs := by
  rcases mem_visits_iff.mp visited with ⟨before, after, split, reached⟩
  exact mem_states_iff.mpr ⟨before, visit.2 :: after, split, reached⟩

/-- A property that is kept by the steps into states that meet a condition holds throughout
every run all of whose states meet it. -/
theorem forall_states_of_kept {step : σ → ι → σ} {source : σ} {property condition : σ → Prop}
    (keeps : ∀ state input, property state → condition (step state input) →
      property (step state input))
    (initially : property source) {inputs : List ι}
    (met : ∀ state ∈ states step source inputs, condition state) :
    ∀ state ∈ states step source inputs, property state := by
  induction inputs generalizing source with
  | nil =>
      intro state member
      cases List.mem_singleton.mp member
      exact initially
  | cons input rest ih =>
      have later : ∀ state ∈ states step (step source input) rest, condition state :=
        fun state member => met state (List.mem_cons_of_mem _ member)
      have next := keeps source input initially (later _ (mem_states_self step _ rest))
      intro state member
      rcases List.mem_cons.mp member with rfl | after
      · exact initially
      · exact ih next later state after

/-- When a step out of a state with `property` keeps it exactly under
`condition`, the runs that keep `property` throughout are exactly the runs all
of whose steps meet `condition`. -/
theorem forall_states_iff_forall_visits {step : σ → ι → σ} {source : σ}
    {invariant property : σ → Prop} {condition : σ → ι → Prop}
    (keeps : ∀ state input, invariant state → invariant (step state input))
    (initially : invariant source) (holds : property source)
    (exactStep : ∀ state input, invariant state → property state →
      (property (step state input) ↔ condition state input))
    (inputs : List ι) :
    (∀ state ∈ states step source inputs, property state) ↔
      ∀ visit ∈ visits step source inputs, condition visit.1 visit.2 := by
  induction inputs generalizing source with
  | nil => simpa [states] using holds
  | cons input rest ih =>
      have stepIff := exactStep source input initially holds
      simp only [states, visits, List.forall_mem_cons]
      constructor
      · rintro ⟨_, later⟩
        have next : property (step source input) := later _ (mem_states_self step _ rest)
        exact ⟨stepIff.mp next,
          (ih (keeps source input initially) next).mp later⟩
      · rintro ⟨first, later⟩
        have next : property (step source input) := stepIff.mpr first
        exact ⟨holds, (ih (keeps source input initially) next).mpr later⟩

end SstpServer.Transition
