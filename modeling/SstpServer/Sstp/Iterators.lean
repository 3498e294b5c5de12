import SstpServer.Iteration.Records
import SstpServer.Ppp.Lcp
import SstpServer.Sstp.Encoders

/-!
# The iterators over attributes and options

Every control message is read through `AttrIter`, every LCP and IPCP packet through
`ConfigOptionIter`.  Both cut records off a buffer by length fields that the peer has chosen.  Here
each access of theirs to the buffer is checked, so that an access out of range is a fault.
-/

namespace SstpServer.Sstp

open SstpServer.Wire SstpServer.Iteration

/-! ## Attributes -/

/-- `AttrIter::next`, with its accesses to the buffer. -/
def attrIterNext (buf : Bytes) : Option (Option (Except ParseError Attribute × Bytes)) :=
  if buf = [] then some none
  else if buf.length < attrHeaderLen then some (some (.error .truncated, []))
  else do
    let idRaw ← buf[1]?
    let high ← buf[2]?
    let low ← buf[3]?
    let length := be16 high low % (sstpMaxPacketLen + 1)
    if length < attrHeaderLen ∨ buf.length < length then
      some (some (.error (.attributeLength length buf.length), []))
    else
      match AttributeId.fromU8 idRaw with
      | none => do
          let rest ← range? buf length buf.length
          some (some (.error (.unknownAttributeId idRaw), rest))
      | some id => do
          let value ← range? buf attrHeaderLen length
          let rest ← range? buf length buf.length
          some (some (.ok ⟨id, value⟩, rest))

/-- No access is out of range. -/
theorem attrIterNext_eq (buf : Bytes) : attrIterNext buf = some (nextAttribute buf) := by
  match buf with
  | [] => rfl
  | [_] | [_, _] | [_, _, _] => rfl
  | reserved :: idRaw :: high :: low :: tail =>
      have long : ¬(reserved :: idRaw :: high :: low :: tail).length < attrHeaderLen := by
        simp [attrHeaderLen]
      unfold attrIterNext nextAttribute
      rw [if_neg (List.cons_ne_nil _ _), if_neg long]
      change (if _ then _ else _) = _
      dsimp only
      split_ifs with malformed
      · rfl
      · obtain ⟨header, fits⟩ := not_or.mp malformed
        rw [range?_length_of_le (Nat.le_of_not_lt fits),
          range?_of_le (Nat.le_of_not_lt header) (Nat.le_of_not_lt fits)]
        cases AttributeId.fromU8 idRaw <;> rfl

/-- An error behind which the iterator reads nothing. -/
def IsFraming (item : Except ParseError Attribute) : Prop :=
  ∃ error, item = .error error ∧ ∀ id, error ≠ .unknownAttributeId id

theorem isFraming_truncated : IsFraming (.error .truncated) := by
  refine ⟨_, rfl, ?_⟩
  rintro id ⟨⟩

theorem isFraming_attributeLength (length remaining : Nat) :
    IsFraming (.error (.attributeLength length remaining)) := by
  refine ⟨_, rfl, ?_⟩
  rintro id ⟨⟩

/-- A record of the attribute area: four header bytes, whose Length is that of the record, and the
value.  Its item is the attribute, or says that its identifier is unknown. -/
def ReadsAttribute (item : Except ParseError Attribute) (record : Bytes) : Prop :=
  ∃ reserved idRaw high low value, record = reserved :: idRaw :: high :: low :: value ∧
    be16 high low % (sstpMaxPacketLen + 1) = record.length ∧
      match AttributeId.fromU8 idRaw with
      | some id => item = .ok ⟨id, value⟩
      | none => item = .error (.unknownAttributeId idRaw)

/-- The record at the head of an area, by the length that its header declares. -/
theorem readsAttribute_take (reserved idRaw : UInt8) {high low : UInt8} {tail : Bytes} {more : Nat}
    (declared : be16 high low % (sstpMaxPacketLen + 1) = attrHeaderLen + more)
    (within : more ≤ tail.length) {item : Except ParseError Attribute}
    (describes : match AttributeId.fromU8 idRaw with
      | some id => item = .ok ⟨id, tail.take more⟩
      | none => item = .error (.unknownAttributeId idRaw)) :
    ∃ record, reserved :: idRaw :: high :: low :: tail = record ++ tail.drop more ∧
      ReadsAttribute item record := by
  refine ⟨reserved :: idRaw :: high :: low :: tail.take more, ?_, reserved, idRaw, high, low,
    tail.take more, rfl, ?_, describes⟩
  · rw [List.cons_append, List.cons_append, List.cons_append, List.cons_append,
      List.take_append_drop]
  · rw [declared]
    simp only [List.length_cons, List.length_take_of_le within, attrHeaderLen]
    omega

theorem cutsHead_nextAttribute : CutsHead nextAttribute IsFraming ReadsAttribute where
  ends_iff := nextAttribute_eq_none_iff
  cuts := by
    intro cursor rest item yielded
    rcases cursor with _ | ⟨reserved, _ | ⟨idRaw, _ | ⟨high, _ | ⟨low, tail⟩⟩⟩⟩
    · cases yielded
    · cases yielded
      exact .inl ⟨isFraming_truncated, rfl⟩
    · cases yielded
      exact .inl ⟨isFraming_truncated, rfl⟩
    · cases yielded
      exact .inl ⟨isFraming_truncated, rfl⟩
    · simp only [nextAttribute] at yielded
      split_ifs at yielded with malformed
      · cases yielded
        exact .inl ⟨isFraming_attributeLength _ _, rfl⟩
      · obtain ⟨header, fits⟩ := not_or.mp malformed
        -- The record is as long as its header says.
        obtain ⟨more, declared⟩ := Nat.exists_eq_add_of_le (Nat.le_of_not_lt header)
        rw [declared] at fits yielded
        have within : more ≤ tail.length := by
          simp only [List.length_cons, attrHeaderLen] at fits
          omega
        have taken : slice (reserved :: idRaw :: high :: low :: tail) attrHeaderLen
            (attrHeaderLen + more) = tail.take more := by
          simp [slice, attrHeaderLen, Nat.add_comm 4]
        have left : (reserved :: idRaw :: high :: low :: tail).drop (attrHeaderLen + more) =
            tail.drop more := by
          simp [attrHeaderLen, Nat.add_comm 4]
        rw [taken, left] at yielded
        cases known : AttributeId.fromU8 idRaw with
        | none =>
            rw [known] at yielded
            cases yielded
            refine .inr ⟨?_, readsAttribute_take reserved idRaw declared within (by rw [known])⟩
            rintro ⟨error, same, other⟩
            cases same
            exact other idRaw rfl
        | some id =>
            rw [known] at yielded
            cases yielded
            refine .inr ⟨?_, readsAttribute_take reserved idRaw declared within (by rw [known])⟩
            rintro ⟨error, same, -⟩
            cases same

end SstpServer.Sstp

namespace SstpServer.Ppp

open SstpServer.Wire SstpServer.Iteration

/-! ## Options -/

/-- `ConfigOptionIter::next`, with its accesses to the buffer. -/
def configOptionIterNext (cursor : Bytes) :
    Option (Option (Except LcpPacketError ConfigOption × Bytes)) :=
  if cursor = [] then some none
  else if cursor.length < lcpOptHeaderLen then
    some (some (.error (.truncated lcpOptHeaderLen cursor.length), []))
  else do
    let optionType ← cursor[0]?
    let length ← cursor[1]?
    let declared := length.toNat
    if declared < lcpOptHeaderLen then
      some (some (.error (.optionLengthTooSmall declared), []))
    else if cursor.length < declared then
      some (some (.error (.optionLengthExceedsBuffer declared cursor.length), []))
    else do
      let value ← range? cursor lcpOptHeaderLen declared
      let rest ← range? cursor declared cursor.length
      some (some (.ok ⟨optionType, value⟩, rest))

/-- No access is out of range. -/
theorem configOptionIterNext_eq (cursor : Bytes) :
    configOptionIterNext cursor = some (nextConfigOption cursor) := by
  match cursor with
  | [] => rfl
  | [_] => rfl
  | optionType :: length :: tail =>
      have long : ¬(optionType :: length :: tail).length < lcpOptHeaderLen := by
        simp [lcpOptHeaderLen]
      unfold configOptionIterNext nextConfigOption
      rw [if_neg (List.cons_ne_nil _ _), if_neg long]
      change (if _ then _ else _) = _
      dsimp only
      split_ifs with small large
      · rfl
      · rfl
      · rw [range?_length_of_le (Nat.le_of_not_lt large),
          range?_of_le (Nat.le_of_not_lt small) (Nat.le_of_not_lt large)]
        rfl

/-- An error; the iterator reads nothing behind any. -/
def IsFraming (item : Except LcpPacketError ConfigOption) : Prop :=
  ∃ error, item = .error error

/-- A record of an option list is an option as it is written. -/
def ReadsOption (item : Except LcpPacketError ConfigOption) (record : Bytes) : Prop :=
  ∃ opt, item = .ok opt ∧ opt.Sized ∧ record = writeOption opt.optionType opt.value

theorem cutsHead_nextConfigOption : CutsHead nextConfigOption IsFraming ReadsOption where
  ends_iff := by
    intro cursor
    rcases cursor with _ | ⟨optionType, _ | ⟨length, tail⟩⟩
    · exact ⟨fun _ => rfl, fun _ => rfl⟩
    · constructor
      · intro ends
        cases ends
      · intro isEmpty
        cases isEmpty
    · constructor
      · intro ends
        simp only [nextConfigOption] at ends
        split_ifs at ends
      · intro isEmpty
        cases isEmpty
  cuts := by
    intro cursor rest item yielded
    cases item with
    | ok opt =>
        refine .inr ⟨?_, _, nextConfigOption_eq_some_ok yielded, opt, rfl, ?_, rfl⟩
        · rintro ⟨error, ⟨⟩⟩
        · exact sized_of_nextConfigOption yielded
    | error error =>
        refine .inl ⟨⟨error, rfl⟩, ?_⟩
        unfold nextConfigOption at yielded
        split at yielded
        · cases yielded
        · cases yielded
          rfl
        · dsimp only at yielded
          split_ifs at yielded <;> cases yielded <;> rfl

/-- The options of a list, written one after the other. -/
def writeOptions (opts : List ConfigOption) : Bytes :=
  opts.flatMap fun opt => writeOption opt.optionType opt.value

end SstpServer.Ppp

namespace SstpServer.Sstp

open SstpServer.Wire SstpServer.Iteration SstpServer.Ppp

/-! ## Whole iterations -/

/-- From every buffer both iterations come to their end without an access out of range.  A framing
error can only be the last item; without one, the items stand for consecutive records that together
are the buffer.  Options that were written are yielded as they were. -/
theorem iterators_cut :
    (∀ area : Bytes, Yields attrIterNext area (attributes area) ∧
        Cuts Sstp.IsFraming ReadsAttribute area (attributes area)) ∧
      (∀ buf : Bytes, Yields configOptionIterNext buf (configOptions buf) ∧
        Cuts Ppp.IsFraming ReadsOption buf (configOptions buf)) ∧
      ∀ opts : List ConfigOption, (∀ opt ∈ opts, opt.value.length ≤ 253) →
        Yields configOptionIterNext (writeOptions opts) (opts.map .ok) := by
  refine ⟨fun area => ⟨?_, ?_⟩, fun buf => ⟨?_, ?_⟩, fun opts short => ?_⟩
  · exact yields_collect attrIterNext_eq shrinks_nextAttribute area
  · exact cutsHead_nextAttribute.cuts_collect shrinks_nextAttribute area
  · exact yields_collect configOptionIterNext_eq nextConfigOption_shrinks buf
  · exact cutsHead_nextConfigOption.cuts_collect nextConfigOption_shrinks buf
  · have written : configOptions (writeOptions opts) = opts.map .ok := by
      refine collect_flatMap nextConfigOption_shrinks rfl fun opt member rest => ?_
      apply nextConfigOption_writeOption
      have bound := short opt member
      rw [ConfigOption.Sized, ConfigOption.encodedLen, lcpOptHeaderLen]
      omega
    rw [← written]
    exact yields_collect configOptionIterNext_eq nextConfigOption_shrinks _

theorem iterators_cut_mru :
    writeOptions [⟨1, [5, 220]⟩, ⟨7, []⟩] = [1, 4, 5, 220, 7, 2] ∧
      Yields configOptionIterNext [1, 4, 5, 220, 7, 2] [.ok ⟨1, [5, 220]⟩, .ok ⟨7, []⟩] :=
  ⟨rfl, iterators_cut.2.2 [⟨1, [5, 220]⟩, ⟨7, []⟩] (by decide)⟩

end SstpServer.Sstp
