import SstpServer.Iteration.Cursor

/-!
# Iterators over records

An iterator reads one record off the head of a list after the other.  A call to it faults when it
reads what is not there.  A record that cannot be cut off is a framing error, behind which nothing
is read; any other item stands for a record of at least one element.
-/

namespace SstpServer.Iteration

universe u v

variable {α : Type u} {γ : Type v}

/-- The items of an iteration that comes to its end without a fault. -/
inductive Yields (next : List γ → Option (Option (α × List γ))) : List γ → List α → Prop
  | stop {cursor : List γ} : next cursor = some none → Yields next cursor []
  | item {cursor rest : List γ} {item : α} {items : List α} :
      next cursor = some (some (item, rest)) → Yields next rest items →
        Yields next cursor (item :: items)

/-- The items that an iterator without faults collects are those of its iteration. -/
theorem yields_collect {next : List γ → Option (Option (α × List γ))}
    {sound : List γ → Option (α × List γ)} (never : ∀ cursor, next cursor = some (sound cursor))
    (shrinks : Shrinks List.length sound) (cursor : List γ) :
    Yields next cursor (collect List.length sound cursor) := by
  induction cursor using shrinks.induction with
  | stop cursor ends =>
      rw [collect_eq shrinks, ends]
      exact .stop ((never cursor).trans (congrArg some ends))
  | more cursor item rest yields ih =>
      rw [collect_eq shrinks, yields]
      exact .item ((never cursor).trans (congrArg some yields)) ih

/-- What an iteration makes of a list: framing errors only at its end, and otherwise records that
together are the list. -/
structure Cuts (framing : α → Prop) (reads : α → List γ → Prop) (cursor : List γ)
    (items : List α) : Prop where
  last : ∀ item ∈ items.dropLast, ¬framing item
  covers : (∀ item ∈ items, ¬framing item) →
    ∃ records : List (List γ), records.flatten = cursor ∧ List.Forall₂ reads items records

/-- One call: the end, a framing error that empties the cursor, or an item with its record. -/
structure CutsHead (sound : List γ → Option (α × List γ)) (framing : α → Prop)
    (reads : α → List γ → Prop) : Prop where
  ends_iff : ∀ {cursor : List γ}, sound cursor = none ↔ cursor = []
  cuts : ∀ {cursor rest : List γ} {item : α}, sound cursor = some (item, rest) →
    framing item ∧ rest = [] ∨
      ¬framing item ∧ ∃ record, cursor = record ++ rest ∧ reads item record

theorem CutsHead.cuts_collect {sound : List γ → Option (α × List γ)} {framing : α → Prop}
    {reads : α → List γ → Prop} (head : CutsHead sound framing reads)
    (shrinks : Shrinks List.length sound) (cursor : List γ) :
    Cuts framing reads cursor (collect List.length sound cursor) := by
  induction cursor using shrinks.induction with
  | stop cursor ends =>
      rw [collect_eq shrinks, ends, head.ends_iff.mp ends]
      exact ⟨nofun, fun _ => ⟨[], rfl, .nil⟩⟩
  | more cursor item rest yields ih =>
      rw [collect_eq shrinks, yields]
      dsimp only
      rcases head.cuts yields with ⟨isFraming, rfl⟩ | ⟨other, record, rfl, read⟩
      · rw [collect_eq shrinks, head.ends_iff.mpr rfl]
        exact ⟨nofun, fun none => (none item List.mem_cons_self isFraming).elim⟩
      · constructor
        · intro earlier member
          cases later : collect List.length sound rest with
          | nil =>
              rw [later] at member
              cases member
          | cons second more =>
              rw [later, List.dropLast_cons_cons] at member
              rcases List.mem_cons.mp member with rfl | member
              · exact other
              · exact ih.last earlier (later ▸ member)
        · intro none
          rcases ih.covers fun later member => none later (List.mem_cons_of_mem _ member) with
            ⟨records, whole, readRest⟩
          exact ⟨record :: records, by rw [List.flatten_cons, whole], .cons read readRest⟩

end SstpServer.Iteration
