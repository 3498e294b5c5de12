import Mathlib.Data.Fin.Basic
import Mathlib.Data.List.Range
import Mathlib.Logic.Function.Basic
import Mathlib.Tactic.SplitIfs

/-!
# Ring buffers

A queue in an array, with the index of the next free slot and the index of the oldest
entry.  The indices wrap around, and one slot stays free, so that equal indices mean an empty
queue.  Each operation is described by what it does to the list of entries.
-/

namespace SstpServer.Queue

universe u

/-- A ring of `cap` slots.  Entries are added at the head and taken from the tail. -/
structure Ring (α : Type u) (cap : Nat) where
  slots : Fin cap → α
  head : Fin cap
  tail : Fin cap

namespace Ring

variable {α : Type u} {cap : Nat}

/-- The index a number of slots further on. -/
def shift (index : Fin cap) (offset : Nat) : Fin cap :=
  ⟨(index + offset) % cap, Nat.mod_lt _ (Nat.zero_lt_of_lt index.isLt)⟩

def Empty (ring : Ring α cap) : Prop :=
  ring.head = ring.tail

def Full (ring : Ring α cap) : Prop :=
  shift ring.head 1 = ring.tail

instance (ring : Ring α cap) : Decidable ring.Empty :=
  inferInstanceAs (Decidable (ring.head = ring.tail))

instance (ring : Ring α cap) : Decidable ring.Full :=
  inferInstanceAs (Decidable (shift ring.head 1 = ring.tail))

/-- A ring without entries. -/
def blank (index : Fin cap) (entry : α) : Ring α cap :=
  { slots := fun _ => entry, head := index, tail := index }

/-- Write the free slot at the head. -/
def push (entry : α) (ring : Ring α cap) : Ring α cap :=
  { ring with slots := Function.update ring.slots ring.head entry, head := shift ring.head 1 }

/-- The oldest entry. -/
def front (ring : Ring α cap) : α :=
  ring.slots ring.tail

/-- Release the oldest slot and leave a value in it. -/
def release (left : α) (ring : Ring α cap) : Ring α cap :=
  { ring with slots := Function.update ring.slots ring.tail left, tail := shift ring.tail 1 }

/-- Release the oldest slot as it is. -/
def pop (ring : Ring α cap) : Ring α cap :=
  { ring with tail := shift ring.tail 1 }

/-- The index of the newest entry. -/
def newest (ring : Ring α cap) : Fin cap :=
  shift ring.head (cap - 1)

/-- Overwrite the newest entry. -/
def setNewest (entry : α) (ring : Ring α cap) : Ring α cap :=
  { ring with slots := Function.update ring.slots ring.newest entry }

/-- The number of entries. -/
def length (ring : Ring α cap) : Nat :=
  if (ring.tail : Nat) ≤ ring.head then ring.head - ring.tail else ring.head + cap - ring.tail

/-- The entries, oldest first. -/
def contents (ring : Ring α cap) : List α :=
  (List.range ring.length).map fun offset => ring.slots (shift ring.tail offset)

/-! ## Indices -/

theorem val_shift (index : Fin cap) {offset : Nat} (bound : offset ≤ cap) :
    (shift index offset : Nat) =
      if index + offset < cap then index + offset else index + offset - cap := by
  have inside := index.isLt
  split_ifs with below
  · exact Nat.mod_eq_of_lt below
  · have wrapped : index + offset - cap < cap := by omega
    exact (Nat.mod_eq_sub_mod (Nat.le_of_not_lt below)).trans (Nat.mod_eq_of_lt wrapped)

theorem shift_shift (index : Fin cap) (first second : Nat) :
    shift (shift index first) second = shift index (first + second) := by
  apply Fin.ext
  show (((index : Nat) + first) % cap + second) % cap = (index + (first + second)) % cap
  rw [Nat.mod_add_mod, Nat.add_assoc]

theorem shift_zero (index : Fin cap) : shift index 0 = index :=
  Fin.ext (Nat.mod_eq_of_lt index.isLt)

theorem shift_ne_self (index : Fin cap) {offset : Nat} (positive : 0 < offset)
    (bound : offset < cap) : shift index offset ≠ index := by
  have inside := index.isLt
  intro same
  have value := congrArg Fin.val same
  rw [val_shift _ bound.le] at value
  split_ifs at value <;> omega

theorem length_lt (ring : Ring α cap) : ring.length < cap := by
  have head := ring.head.isLt
  have tail := ring.tail.isLt
  unfold length
  split_ifs <;> omega

/-- The free slot stands behind the entries. -/
theorem shift_tail_length (ring : Ring α cap) : shift ring.tail ring.length = ring.head := by
  have head := ring.head.isLt
  apply Fin.ext
  rw [val_shift _ ring.length_lt.le]
  unfold length
  split_ifs <;> omega

theorem shift_tail_ne_head (ring : Ring α cap) {offset : Nat} (entry : offset < ring.length) :
    shift ring.tail offset ≠ ring.head := by
  have head := ring.head.isLt
  intro same
  have value := congrArg Fin.val same
  rw [val_shift _ (entry.trans ring.length_lt).le] at value
  unfold length at entry
  split_ifs at entry value <;> omega

theorem full_iff {ring : Ring α cap} : ring.Full ↔ ring.length + 1 = cap := by
  have head := ring.head.isLt
  have tail := ring.tail.isLt
  have positive : 1 ≤ cap := Nat.zero_lt_of_lt head
  rw [Full, Fin.ext_iff, val_shift _ positive]
  unfold length
  split_ifs <;> omega

theorem empty_iff {ring : Ring α cap} : ring.Empty ↔ ring.length = 0 := by
  have head := ring.head.isLt
  have tail := ring.tail.isLt
  rw [Empty, Fin.ext_iff]
  unfold length
  split_ifs <;> omega

theorem length_push {ring : Ring α cap} (room : ¬ring.Full) (entry : α) :
    (ring.push entry).length = ring.length + 1 := by
  have head := ring.head.isLt
  have tail := ring.tail.isLt
  have positive : 1 ≤ cap := Nat.zero_lt_of_lt head
  rw [Full, Fin.ext_iff, val_shift _ positive] at room
  have moved := val_shift ring.head positive
  unfold length push
  dsimp only
  split_ifs at * <;> omega

theorem length_release {ring : Ring α cap} (some : ¬ring.Empty) (left : α) :
    ring.length = (ring.release left).length + 1 := by
  have head := ring.head.isLt
  have tail := ring.tail.isLt
  have positive : 1 ≤ cap := Nat.zero_lt_of_lt head
  rw [Empty, Fin.ext_iff] at some
  have moved := val_shift ring.tail positive
  unfold length release
  dsimp only
  split_ifs at * <;> omega

/-! ## Entries -/

@[simp]
theorem length_contents (ring : Ring α cap) : ring.contents.length = ring.length := by
  simp [contents]

@[simp]
theorem contents_blank (index : Fin cap) (entry : α) : (blank index entry).contents = [] := by
  have nothing : (blank index entry).length = 0 := empty_iff.mp rfl
  rw [← List.length_eq_zero_iff, length_contents, nothing]

theorem contents_push {ring : Ring α cap} (room : ¬ring.Full) (entry : α) :
    (ring.push entry).contents = ring.contents ++ [entry] := by
  unfold contents
  rw [length_push room, List.range_succ, List.map_append]
  congr 1
  · apply List.map_congr_left
    intro offset listed
    apply Function.update_of_ne
    exact ring.shift_tail_ne_head (List.mem_range.mp listed)
  · have free : shift (ring.push entry).tail ring.length = ring.head := ring.shift_tail_length
    rw [List.map_singleton, free]
    exact congrArg (fun last => [last]) (Function.update_self _ _ _)

theorem contents_eq_cons {ring : Ring α cap} (some : ¬ring.Empty) (left : α) :
    ring.contents = ring.front :: (ring.release left).contents := by
  have length := length_release some left
  unfold contents
  rw [length, List.range_succ_eq_map, List.map_cons, List.map_map, shift_zero]
  congr 1
  apply List.map_congr_left
  intro offset listed
  have inside : offset + 1 < cap := by
    have bound := List.mem_range.mp listed
    have short := ring.length_lt
    omega
  have slot : shift (ring.release left).tail offset = shift ring.tail (offset + 1) := by
    rw [release, shift_shift, Nat.add_comm]
  rw [slot]
  exact (Function.update_of_ne (shift_ne_self _ (Nat.succ_pos _) inside) _ _).symm

theorem contents_eq_cons_pop {ring : Ring α cap} (some : ¬ring.Empty) :
    ring.contents = ring.front :: ring.pop.contents := by
  have same : ring.pop = ring.release ring.front := by
    rw [pop, release, front, Function.update_eq_self]
  rw [same]
  exact contents_eq_cons some _

end Ring

end SstpServer.Queue
