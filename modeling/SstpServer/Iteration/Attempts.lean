import Mathlib.Data.List.Basic

/-!
# Ordered attempts

A loop that asks a list of targets in order stops at the first one that gives an outcome.  A
target that gives an error is passed over, and when every target did, the outcome is made from
the last error.  This module keeps what such a loop does as a list of actions and describes the
two ways in which it ends.
-/

namespace SstpServer.Iteration

universe u v w

variable {α : Type u} {ε : Type v} {ω : Type w}

/-- What the loop does: ask a target, or finish with an outcome. -/
inductive Action (α : Type u) (ω : Type w) where
  | ask (target : α)
  | finish (outcome : ω)
  deriving DecidableEq, Repr

/-- The same action with its outcome translated. -/
def Action.mapOutcome {ω' : Type*} (translate : ω → ω') : Action α ω → Action α ω'
  | .ask target => .ask target
  | .finish outcome => .finish (translate outcome)

/-- Ask the targets in order until one gives an outcome.  The attempts are numbered from `n` on,
and `last` is the error of the attempt before. -/
def attempts (answer : Nat → α → Except ε ω) (exhausted : Option ε → ω) :
    Nat → Option ε → List α → List (Action α ω)
  | _, last, [] => [.finish (exhausted last)]
  | n, _, target :: later =>
      .ask target ::
        match answer n target with
        | .ok outcome => [.finish outcome]
        | .error error => attempts answer exhausted (n + 1) (some error) later

/-- How the loop ends: which targets it has asked, and its outcome. -/
inductive Ending (answer : Nat → α → Except ε ω) (exhausted : Option ε → ω) (n : Nat)
    (targets : List α) : List α → ω → Prop where
  | answered {k : Nat} {target : α} {outcome : ω} (place : targets[k]? = some target)
      (answers : answer (n + k) target = .ok outcome)
      (earlier : ∀ j < k, ∀ other, targets[j]? = some other →
        ∃ error, answer (n + j) other = .error error) :
      Ending answer exhausted n targets (targets.take (k + 1)) outcome
  | exhausted {last : Option ε}
      (failed : ∀ j other, targets[j]? = some other →
        ∃ error, answer (n + j) other = .error error) :
      Ending answer exhausted n targets targets (exhausted last)

/-- A target that gives an error goes in front of the loop over the later ones. -/
theorem Ending.cons {answer : Nat → α → Except ε ω} {exhausted : Option ε → ω} {n : Nat}
    {target : α} {error : ε} {later asked : List α} {outcome : ω}
    (first : answer n target = .error error)
    (ending : Ending answer exhausted (n + 1) later asked outcome) :
    Ending answer exhausted n (target :: later) (target :: asked) outcome := by
  have shift : ∀ j, n + 1 + j = n + (j + 1) := fun j => by omega
  cases ending with
  | @answered k _ _ place answers earlier =>
      refine Ending.answered (k := k + 1) place (shift k ▸ answers) ?_
      intro j before other found
      cases j with
      | zero =>
          cases found
          exact ⟨error, first⟩
      | succ j => exact shift j ▸ earlier j (Nat.lt_of_succ_lt_succ before) other found
  | exhausted failed =>
      apply Ending.exhausted
      intro j other found
      cases j with
      | zero =>
          cases found
          exact ⟨error, first⟩
      | succ j => exact shift j ▸ failed j other found

/-- The loop asks the targets up to its end, each once and in order, and finishes exactly once. -/
theorem exists_ending_attempts (answer : Nat → α → Except ε ω) (exhausted : Option ε → ω)
    (n : Nat) (last : Option ε) (targets : List α) :
    ∃ asked outcome, Ending answer exhausted n targets asked outcome ∧
      attempts answer exhausted n last targets = asked.map .ask ++ [.finish outcome] := by
  induction targets generalizing n last with
  | nil => exact ⟨[], exhausted last, Ending.exhausted (by simp), rfl⟩
  | cons target later ih =>
      cases result : answer n target with
      | ok outcome =>
          refine ⟨[target], outcome, Ending.answered (k := 0) rfl result (by simp), ?_⟩
          simp [attempts, result]
      | error error =>
          rcases ih (n + 1) (some error) with ⟨asked, outcome, ending, actions⟩
          refine ⟨target :: asked, outcome, ending.cons result, ?_⟩
          simp [attempts, result, actions]

end SstpServer.Iteration
