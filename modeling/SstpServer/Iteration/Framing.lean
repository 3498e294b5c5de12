import SstpServer.Iteration.Cursor

/-!
# Framed streams

The head of a buffer holds a whole frame, can still become one, or never will.  When
this verdict stands however much of the stream follows, the frames of a stream do not
depend on how it is split into reads.
-/

namespace SstpServer.Iteration

universe u

/-- What stands at the head of a buffer. -/
inductive Head where
  | wait
  | bad
  | frame (size : Nat)
  deriving DecidableEq, Repr

/-- A rule that cuts frames off the head of a buffer. -/
structure Framing (α : Type u) where
  head : List α → Head
  positive : ∀ {buf : List α} {size : Nat}, head buf = .frame size → 0 < size
  complete : ∀ {buf : List α} {size : Nat}, head buf = .frame size → size ≤ buf.length
  frame_take : ∀ {buf : List α} {size : Nat}, head buf = .frame size →
    head (buf.take size) = .frame size
  frame_append : ∀ {buf : List α} {size : Nat}, head buf = .frame size →
    ∀ more, head (buf ++ more) = .frame size
  bad_append : ∀ {buf : List α}, head buf = .bad → ∀ more, head (buf ++ more) = .bad

namespace Framing

variable {α : Type u} (framing : Framing α)

/-- Cut one frame off. -/
def next (buf : List α) : Option (List α × List α) :=
  match framing.head buf with
  | .frame size => some (buf.take size, buf.drop size)
  | _ => none

theorem next_of_frame {buf : List α} {size : Nat} (frame : framing.head buf = .frame size) :
    framing.next buf = some (buf.take size, buf.drop size) := by
  rw [next, frame]

theorem next_of_ne_frame {buf : List α} (other : ∀ size, framing.head buf ≠ .frame size) :
    framing.next buf = none := by
  unfold next
  cases verdict : framing.head buf with
  | frame size => exact (other size verdict).elim
  | wait => rfl
  | bad => rfl

theorem shrinks_next : Shrinks List.length framing.next := by
  intro buf item rest yielded
  unfold next at yielded
  cases verdict : framing.head buf with
  | frame size =>
      rw [verdict] at yielded
      cases yielded
      have positive := framing.positive verdict
      have complete := framing.complete verdict
      rw [List.length_drop]
      omega
  | wait => simp [verdict] at yielded
  | bad => simp [verdict] at yielded

/-- The frames at the head of a buffer, in order. -/
def frames (buf : List α) : List (List α) :=
  collect List.length framing.next buf

/-- What the frames leave of a buffer. -/
def rest (buf : List α) : List α :=
  buf.drop (framing.frames buf).flatten.length

@[simp]
theorem frames_nil : framing.frames [] = [] :=
  rfl

@[simp]
theorem rest_nil : framing.rest [] = [] :=
  List.drop_nil

theorem frames_of_frame {buf : List α} {size : Nat} (frame : framing.head buf = .frame size) :
    framing.frames buf = buf.take size :: framing.frames (buf.drop size) := by
  rw [frames, collect_eq framing.shrinks_next, framing.next_of_frame frame]
  rfl

theorem frames_of_ne_frame {buf : List α} (other : ∀ size, framing.head buf ≠ .frame size) :
    framing.frames buf = [] := by
  rw [frames, collect_eq framing.shrinks_next, framing.next_of_ne_frame other]

theorem rest_of_frame {buf : List α} {size : Nat} (frame : framing.head buf = .frame size) :
    framing.rest buf = framing.rest (buf.drop size) := by
  have sized : (buf.take size).length = size := by
    rw [List.length_take, Nat.min_eq_left (framing.complete frame)]
  rw [rest, framing.frames_of_frame frame, List.flatten_cons, List.length_append, sized,
    ← List.drop_drop, rest]

theorem rest_of_ne_frame {buf : List α} (other : ∀ size, framing.head buf ≠ .frame size) :
    framing.rest buf = buf := by
  rw [rest, framing.frames_of_ne_frame other]
  rfl

/-- Induction along the frames of a buffer. -/
theorem induction {motive : List α → Prop}
    (stop : ∀ buf, (∀ size, framing.head buf ≠ .frame size) → motive buf)
    (more : ∀ buf size, framing.head buf = .frame size → motive (buf.drop size) → motive buf)
    (buf : List α) : motive buf := by
  refine framing.shrinks_next.induction (fun buf none => ?_) (fun buf item rest yields holds => ?_)
    buf
  · refine stop buf fun size frame => ?_
    rw [framing.next_of_frame frame] at none
    cases none
  · cases verdict : framing.head buf with
    | frame size =>
        rw [framing.next_of_frame verdict] at yields
        cases yields
        exact more buf size verdict holds
    | wait => simp [next, verdict] at yields
    | bad => simp [next, verdict] at yields

/-- Cutting loses nothing. -/
theorem flatten_frames_append_rest (buf : List α) :
    (framing.frames buf).flatten ++ framing.rest buf = buf := by
  induction buf using framing.induction with
  | stop buf other =>
      rw [framing.frames_of_ne_frame other, framing.rest_of_ne_frame other]
      rfl
  | more buf size frame ih =>
      rw [framing.frames_of_frame frame, framing.rest_of_frame frame, List.flatten_cons,
        List.append_assoc, ih, List.take_append_drop]

/-- No frame is left at the head of the rest. -/
theorem head_rest_ne_frame (buf : List α) (size : Nat) :
    framing.head (framing.rest buf) ≠ .frame size := by
  induction buf using framing.induction with
  | stop buf other =>
      rw [framing.rest_of_ne_frame other]
      exact other size
  | more buf taken frame ih =>
      rw [framing.rest_of_frame frame]
      exact ih

/-- The frames of a stream are those of its first part, and those of what the first part
leaves with the second. -/
theorem frames_append (buf more : List α) :
    framing.frames (buf ++ more) =
      framing.frames buf ++ framing.frames (framing.rest buf ++ more) := by
  induction buf using framing.induction with
  | stop buf other =>
      rw [framing.frames_of_ne_frame other, framing.rest_of_ne_frame other]
      rfl
  | more buf size frame ih =>
      have complete := framing.complete frame
      rw [framing.frames_of_frame frame, framing.frames_of_frame (framing.frame_append frame more),
        framing.rest_of_frame frame, List.take_append_of_le_length complete,
        List.drop_append_of_le_length complete, ih]
      rfl

theorem rest_append (buf more : List α) :
    framing.rest (buf ++ more) = framing.rest (framing.rest buf ++ more) := by
  induction buf using framing.induction with
  | stop buf other => rw [framing.rest_of_ne_frame other]
  | more buf size frame ih =>
      rw [framing.rest_of_frame frame, framing.rest_of_frame (framing.frame_append frame more),
        List.drop_append_of_le_length (framing.complete frame), ih]

/-- A single further item completes at most the frame that it ends. -/
theorem size_of_append_singleton {buf : List α} {last : α} {size : Nat}
    (other : ∀ size, framing.head buf ≠ .frame size)
    (frame : framing.head (buf ++ [last]) = .frame size) : size = (buf ++ [last]).length := by
  have complete := framing.complete frame
  by_contra short
  have within : size ≤ buf.length := by
    rw [List.length_append, List.length_singleton] at complete short
    omega
  have early := framing.frame_append (framing.frame_take frame) (buf.drop size)
  rw [List.take_append_of_le_length within, List.take_append_drop] at early
  exact other size early

/-- Nothing is cut off behind a place where no frame can follow. -/
theorem frames_append_of_bad {buf : List α} (bad : framing.head (framing.rest buf) = .bad)
    (more : List α) :
    framing.frames (buf ++ more) = framing.frames buf ∧
      framing.head (framing.rest (buf ++ more)) = .bad := by
  have broken := framing.bad_append bad more
  have other : ∀ size, framing.head (framing.rest buf ++ more) ≠ .frame size := by
    intro size
    rw [broken]
    nofun
  rw [framing.frames_append, framing.frames_of_ne_frame other, List.append_nil,
    framing.rest_append, framing.rest_of_ne_frame other]
  exact ⟨rfl, broken⟩

/-- A buffer that is one frame. -/
def Whole (frame : List α) : Prop :=
  framing.head frame = .frame frame.length

theorem whole_take {buf : List α} {size : Nat} (frame : framing.head buf = .frame size) :
    framing.Whole (buf.take size) := by
  rw [Whole, List.length_take, Nat.min_eq_left (framing.complete frame)]
  exact framing.frame_take frame

/-- Whole frames are cut off as they were put together. -/
theorem frames_flatten_append {whole : List (List α)} (isWhole : ∀ frame ∈ whole, framing.Whole frame)
    (buf : List α) : framing.frames (whole.flatten ++ buf) = whole ++ framing.frames buf := by
  induction whole with
  | nil => rfl
  | cons frame later ih =>
      have first : framing.head (frame ++ (later.flatten ++ buf)) = .frame frame.length :=
        framing.frame_append (isWhole frame List.mem_cons_self) _
      rw [List.flatten_cons, List.append_assoc, framing.frames_of_frame first, List.take_left,
        List.drop_left, ih fun other member => isWhole other (List.mem_cons_of_mem _ member)]
      rfl

theorem rest_flatten_append {whole : List (List α)} (isWhole : ∀ frame ∈ whole, framing.Whole frame)
    (buf : List α) : framing.rest (whole.flatten ++ buf) = framing.rest buf := by
  rw [rest, framing.frames_flatten_append isWhole, List.flatten_append, List.length_append,
    ← List.drop_drop, List.drop_left, rest]

end Framing

end SstpServer.Iteration
