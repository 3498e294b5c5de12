import Mathlib.Data.List.Basic

/-!
# Loops that may fault

A pass through the body of a loop goes on to a next state or ends the loop with a result.  It has
no outcome at all when it faults, as an access out of range does.  The loop is run with a bound on
its passes; it returns a result only if it comes to an end within the bound and no pass faults.
-/

namespace SstpServer.Iteration

universe u v

variable {σ : Type u} {ω : Type v}

/-- What a pass through the body does. -/
inductive Pass (σ : Type u) (ω : Type v) where
  | next (state : σ)
  | done (result : ω)

/-- Run a loop for at most `fuel` passes. -/
def run (body : σ → Option (Pass σ ω)) : Nat → σ → Option ω
  | 0, _ => none
  | fuel + 1, state =>
      match body state with
      | none => none
      | some (.next after) => run body fuel after
      | some (.done result) => some result

variable {body : σ → Option (Pass σ ω)}

theorem run_of_next {state after : σ} (next : body state = some (.next after)) (fuel : Nat) :
    run body (fuel + 1) state = run body fuel after := by
  rw [run, next]

theorem run_of_done {state : σ} {result : ω} (done : body state = some (.done result))
    (fuel : Nat) : run body (fuel + 1) state = some result := by
  rw [run, done]

/-- A loop returns when no pass faults and each pass that goes on makes the variant smaller.  What
it returns is what the invariant gives where a pass ends the loop. -/
theorem run_of_variant (variant : σ → Nat) (invariant : σ → Prop) (returns : ω → Prop)
    (pass : ∀ state, invariant state →
      (∃ result, body state = some (.done result) ∧ returns result) ∨
        ∃ after, body state = some (.next after) ∧ invariant after ∧
          variant after < variant state)
    {state : σ} (initially : invariant state) {fuel : Nat} (enough : variant state < fuel) :
    ∃ result, run body fuel state = some result ∧ returns result := by
  induction fuel generalizing state with
  | zero => exact (Nat.not_lt_zero _ enough).elim
  | succ fuel ih =>
      rcases pass state initially with ⟨result, done, holds⟩ | ⟨after, next, kept, smaller⟩
      · exact ⟨result, run_of_done done fuel, holds⟩
      · rw [run_of_next next]
        exact ih kept (Nat.lt_of_lt_of_le smaller (Nat.le_of_lt_succ enough))

end SstpServer.Iteration
