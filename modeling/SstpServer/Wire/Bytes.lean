import Mathlib.Data.Vector.Basic

/-!
# Byte strings and big-endian fields

Wire formats are read and written as lists of bytes.  A fixed-size field is a
`Block`, whose length is part of its type.  Sixteen-bit fields are natural
numbers on the model side; encoding keeps the low sixteen bits, as a cast to a
16-bit word does.
-/

namespace SstpServer.Wire

/-- A byte string of arbitrary length. -/
abbrev Bytes := List UInt8

/-- A byte string of exactly `n` bytes. -/
abbrev Block (n : Nat) := List.Vector UInt8 n

/-- The all-zero block. -/
def Block.zero (n : Nat) : Block n :=
  List.Vector.replicate n 0

/-- The first `n` bytes of a byte string, zero-filled when it is shorter. -/
def Block.ofBytes (n : Nat) (bytes : Bytes) : Block n :=
  ⟨(bytes ++ List.replicate n 0).take n, by simp⟩

theorem Block.toList_ofBytes {n : Nat} {bytes : Bytes}
    (sized : bytes.length = n) : (Block.ofBytes n bytes).toList = bytes := by
  simp [Block.ofBytes, List.Vector.toList, ← sized]

theorem Block.ofBytes_eq_iff {n : Nat} {bytes : Bytes} (sized : bytes.length = n)
    (block : Block n) : Block.ofBytes n bytes = block ↔ bytes = block.toList := by
  constructor
  · rintro rfl
    exact (Block.toList_ofBytes sized).symm
  · intro equal
    apply List.Vector.toList_injective
    rw [Block.toList_ofBytes sized, equal]

/-! ## Slices -/

/-- The bytes at offsets `start ≤ i < stop`. -/
def slice (bytes : Bytes) (start stop : Nat) : Bytes :=
  (bytes.take stop).drop start

@[simp]
theorem length_slice (bytes : Bytes) (start stop : Nat) :
    (slice bytes start stop).length = min stop bytes.length - start := by
  simp [slice]

theorem length_slice_of_le {bytes : Bytes} {start stop : Nat}
    (bound : stop ≤ bytes.length) :
    (slice bytes start stop).length = stop - start := by
  simp [slice, Nat.min_eq_left bound]

/-- A slice of a slice is a slice at the shifted offsets. -/
theorem slice_slice (bytes : Bytes) (outerStart outerStop start stop : Nat)
    (bound : outerStart + stop ≤ outerStop) :
    slice (slice bytes outerStart outerStop) start stop =
      slice bytes (outerStart + start) (outerStart + stop) := by
  simp only [slice, List.take_drop, List.take_take, List.drop_drop]
  rw [Nat.min_eq_left bound]

/-- Slices only read below their upper offset. -/
theorem slice_take (bytes : Bytes) {start stop size : Nat} (bound : stop ≤ size) :
    slice (bytes.take size) start stop = slice bytes start stop := by
  simp [slice, List.take_take, Nat.min_eq_left bound]

theorem drop_slice (bytes : Bytes) (start stop count : Nat) :
    (slice bytes start stop).drop count = slice bytes (start + count) stop := by
  simp [slice]

theorem slice_drop (bytes : Bytes) (skipped start stop : Nat) :
    slice (bytes.drop skipped) start stop = slice bytes (skipped + start) (skipped + stop) := by
  rw [slice, slice, List.take_drop, List.drop_drop]

theorem getD_slice (bytes : Bytes) {start stop offset : Nat}
    (bound : start + offset < stop) :
    (slice bytes start stop).getD offset 0 = bytes.getD (start + offset) 0 := by
  simp only [slice, List.getD_eq_getElem?_getD, List.getElem?_drop,
    List.getElem?_take_of_lt bound]

/-- The middle one of three concatenated byte strings. -/
theorem slice_middle {before middle after : Bytes} {start stop : Nat}
    (isStart : before.length = start) (isStop : start + middle.length = stop) :
    slice (before ++ (middle ++ after)) start stop = middle := by
  have upTo : (before ++ middle).length = stop := by
    rw [List.length_append, isStart, isStop]
  rw [slice, ← List.append_assoc, List.take_left' upTo, List.drop_left' isStart]

/-- The last one of two concatenated byte strings. -/
theorem slice_last {before last : Bytes} {start stop : Nat} (isStart : before.length = start)
    (isStop : start + last.length = stop) : slice (before ++ last) start stop = last := by
  have middle : slice (before ++ (last ++ [])) start stop = last := slice_middle isStart isStop
  rwa [List.append_nil] at middle

/-! ## Checked access -/

/-- The bytes at offsets `start ≤ i < stop`, if they are all there. -/
def range? (bytes : Bytes) (start stop : Nat) : Option Bytes :=
  if start ≤ stop ∧ stop ≤ bytes.length then some (slice bytes start stop) else none

theorem range?_of_le {bytes : Bytes} {start stop : Nat} (ordered : start ≤ stop)
    (bound : stop ≤ bytes.length) : range? bytes start stop = some (slice bytes start stop) :=
  if_pos ⟨ordered, bound⟩

theorem range?_length_of_le {bytes : Bytes} {start : Nat} (bound : start ≤ bytes.length) :
    range? bytes start bytes.length = some (bytes.drop start) := by
  rw [range?_of_le bound le_rfl, slice, List.take_length]

/-! ## Big-endian sixteen-bit fields -/

/-- The value of a two-byte big-endian field. -/
def be16 (high low : UInt8) : Nat :=
  high.toNat * 256 + low.toNat

/-- The two-byte big-endian encoding of the low sixteen bits of a number. -/
def toBe16 (value : Nat) : Bytes :=
  [UInt8.ofNat (value / 256), UInt8.ofNat value]

@[simp]
theorem length_toBe16 (value : Nat) : (toBe16 value).length = 2 :=
  rfl

theorem be16_lt (high low : UInt8) : be16 high low < 65536 := by
  have highBound := high.toNat_lt
  have lowBound := low.toNat_lt
  unfold be16
  omega

/-- Decoding an encoded sixteen-bit value gives it back. -/
theorem be16_ofNat {value : Nat} (bound : value < 65536) :
    be16 (UInt8.ofNat (value / 256)) (UInt8.ofNat value) = value := by
  simp only [be16, UInt8.toNat_ofNat']
  omega

/-- Encoding a decoded field gives its bytes back. -/
theorem toBe16_be16 (high low : UInt8) : toBe16 (be16 high low) = [high, low] := by
  have lowBound := low.toNat_lt
  have highPart : be16 high low / 256 = high.toNat := by
    unfold be16
    omega
  have lowPart : UInt8.ofNat (be16 high low) = low := by
    apply UInt8.toNat_inj.mp
    rw [UInt8.toNat_ofNat', be16]
    omega
  rw [toBe16, highPart, lowPart, UInt8.ofNat_toNat]

end SstpServer.Wire
