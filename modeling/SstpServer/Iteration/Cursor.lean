import Mathlib.Data.List.Basic

/-!
# Iterators over a shrinking cursor

A zero-copy parser is an iterator: from a cursor it yields one item and the
cursor after it, or stops.  When every yielded item makes the cursor smaller,
the items can be collected by structural recursion on the cursor's size, and
the collected list obeys the iterator's own recursion.
-/

namespace SstpServer.Iteration

universe u v

variable {α : Type u} {β : Type v}

/-- Every yielded item leaves a strictly smaller cursor. -/
def Shrinks (size : β → Nat) (next : β → Option (α × β)) : Prop :=
  ∀ ⦃cursor item rest⦄, next cursor = some (item, rest) → size rest < size cursor

/-- At most `fuel` items from a cursor. -/
def collectFuel (next : β → Option (α × β)) : Nat → β → List α
  | 0, _ => []
  | fuel + 1, cursor =>
      match next cursor with
      | none => []
      | some (item, rest) => item :: collectFuel next fuel rest

/-- All items from a cursor, in order. -/
def collect (size : β → Nat) (next : β → Option (α × β)) (cursor : β) : List α :=
  collectFuel next (size cursor) cursor

/-- Induction along the iteration from a cursor to its end. -/
theorem Shrinks.induction {size : β → Nat} {next : β → Option (α × β)}
    (shrinks : Shrinks size next) {motive : β → Prop}
    (stop : ∀ cursor, next cursor = none → motive cursor)
    (more : ∀ cursor item rest, next cursor = some (item, rest) →
      motive rest → motive cursor) (cursor : β) : motive cursor := by
  induction measured : size cursor using Nat.strongRecOn
    generalizing cursor with
  | ind n ih =>
      cases item : next cursor with
      | none => exact stop cursor item
      | some yielded =>
          rcases yielded with ⟨first, rest⟩
          have smaller := shrinks item
          exact more cursor first rest item
            (ih (size rest) (measured ▸ smaller) rest rfl)

/-- Any two sufficient amounts of fuel collect the same items. -/
theorem collectFuel_eq_collectFuel {size : β → Nat}
    {next : β → Option (α × β)} (shrinks : Shrinks size next) {cursor : β}
    {first second : Nat} (firstEnough : size cursor ≤ first)
    (secondEnough : size cursor ≤ second) :
    collectFuel next first cursor = collectFuel next second cursor := by
  induction first generalizing cursor second with
  | zero =>
      cases second with
      | zero => rfl
      | succ second =>
          cases item : next cursor with
          | none => simp [collectFuel, item]
          | some yielded =>
              have smaller : size yielded.2 < size cursor := shrinks item
              omega
  | succ first ih =>
      cases item : next cursor with
      | none => cases second <;> simp [collectFuel, item]
      | some yielded =>
          have smaller : size yielded.2 < size cursor := shrinks item
          cases second with
          | zero => omega
          | succ second =>
              simp only [collectFuel, item, List.cons.injEq, true_and]
              exact ih (by omega) (by omega)

/-- The collected items obey the iterator's own recursion. -/
theorem collect_eq {size : β → Nat} {next : β → Option (α × β)}
    (shrinks : Shrinks size next) (cursor : β) :
    collect size next cursor =
      match next cursor with
      | none => []
      | some (item, rest) => item :: collect size next rest := by
  cases item : next cursor with
  | none =>
      unfold collect
      cases size cursor <;> simp [collectFuel, item]
  | some yielded =>
      rcases yielded with ⟨first, rest⟩
      have smaller := shrinks item
      unfold collect
      obtain ⟨fuel, fuelEq⟩ := Nat.exists_eq_succ_of_ne_zero
        (Nat.ne_of_gt (Nat.lt_of_le_of_lt (Nat.zero_le _) smaller))
      simp only [fuelEq, collectFuel, item, List.cons.injEq, true_and]
      exact collectFuel_eq_collectFuel shrinks (by omega) (Nat.le_refl _)

/-- A concatenation of encodings, each of which the iterator reads back, is collected into
the items that were encoded. -/
theorem collect_flatMap {γ : Type*} {δ : Type*} {next : List γ → Option (α × List γ)}
    (shrinks : Shrinks List.length next) (stops : next [] = none) {encode : δ → List γ}
    {item : δ → α} {encoded : List δ}
    (reads : ∀ x ∈ encoded, ∀ rest, next (encode x ++ rest) = some (item x, rest)) :
    collect List.length next (encoded.flatMap encode) = encoded.map item := by
  induction encoded with
  | nil => rw [List.flatMap_nil, collect_eq shrinks, stops, List.map_nil]
  | cons x later ih =>
      rw [List.flatMap_cons, collect_eq shrinks, reads x List.mem_cons_self]
      exact congrArg (item x :: ·) (ih fun y member => reads y (List.mem_cons_of_mem _ member))

end SstpServer.Iteration
