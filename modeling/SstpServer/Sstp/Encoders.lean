import SstpServer.Iteration.Cursor
import SstpServer.Sstp.CallConnected
import SstpServer.Sstp.Stream

/-!
# Attribute areas and the encoders

The attributes of a control packet are read by an iterator; the packet header counts them, but no
parser compares the count with what the iterator yields.  This module says which attribute areas
`parseControl` accepts, and shows that every packet an encoder writes is parsed whole, with its
attributes counted and every field read back.
-/

namespace SstpServer.Sstp

open SstpServer.Wire SstpServer.Iteration

/-! ## The sole attribute of a message -/

/-- The area is one attribute: a reserved byte, the identifier, a Length whose low twelve bits are
the size of header and value, and the value. -/
def IsSoleTlv (attr : Attribute) (area : Bytes) : Prop :=
  ∃ reserved high low, area = reserved :: attr.id.asU8 :: high :: low :: attr.value ∧
    be16 high low % (sstpMaxPacketLen + 1) = attrHeaderLen + attr.value.length

/-- The iterator yields an attribute and is then at its end exactly on such an area. -/
theorem nextAttribute_eq_sole_iff {area : Bytes} {attr : Attribute} :
    nextAttribute area = some (.ok attr, []) ↔ IsSoleTlv attr area := by
  rw [nextAttribute_eq_some_ok_iff]
  constructor
  · rintro ⟨header, fits, isId, value, last⟩
    have filled : lengthField area = area.length :=
      Nat.le_antisymm fits (List.drop_eq_nil_iff.mp last)
    have sized := Nat.le_trans header fits
    obtain _ | ⟨reserved, _ | ⟨idRaw, _ | ⟨high, _ | ⟨low, rest⟩⟩⟩⟩ := area
    · simp [attrHeaderLen] at sized
    · simp [attrHeaderLen] at sized
    · simp [attrHeaderLen] at sized
    · simp [attrHeaderLen] at sized
    have whole : rest = attr.value := by
      rw [← value, filled, slice, List.take_length]
      rfl
    have isId' : idRaw = attr.id.asU8 := isId
    subst isId' whole
    refine ⟨reserved, high, low, rfl, filled.trans ?_⟩
    simp only [List.length_cons, attrHeaderLen]
    omega
  · rintro ⟨reserved, high, low, rfl, declared⟩
    have filled : lengthField (reserved :: attr.id.asU8 :: high :: low :: attr.value) =
        (reserved :: attr.id.asU8 :: high :: low :: attr.value).length := by
      rw [lengthField_cons, declared]
      simp only [List.length_cons, attrHeaderLen]
      omega
    rw [filled]
    refine ⟨Nat.le_add_left _ _, le_rfl, rfl, ?_, List.drop_length⟩
    rw [slice, List.take_length]
    rfl

/-- The area is one attribute of a kind, with a value of a size. -/
def HoldsSole (id : AttributeId) (size : Nat) (area : Bytes) : Prop :=
  ∃ attr : Attribute, attr.id = id ∧ attr.value.length = size ∧ IsSoleTlv attr area

/-- A decoder that asks for a kind and a size accepts exactly the areas of that kind and size. -/
theorem soleAttribute_isOk_iff {α : Type} {decode : Attribute → Except ParseError α}
    {id : AttributeId} {size expected : Nat} {area : Bytes}
    (decodes : ∀ attr, (∃ decoded, decode attr = .ok decoded) ↔
      attr.id = id ∧ attr.value.length = size) :
    (∃ decoded, soleAttribute area decode expected = .ok decoded) ↔ HoldsSole id size area := by
  constructor
  · rintro ⟨decoded, parsed⟩
    obtain ⟨attr, first, decodedFirst⟩ := soleAttribute_eq_ok_iff.mp parsed
    obtain ⟨isId, sized⟩ := (decodes attr).mp ⟨decoded, decodedFirst⟩
    exact ⟨attr, isId, sized, nextAttribute_eq_sole_iff.mp first⟩
  · rintro ⟨attr, isId, sized, sole⟩
    obtain ⟨decoded, decodedFirst⟩ := (decodes attr).mpr ⟨isId, sized⟩
    exact ⟨decoded, soleAttribute_eq_ok_iff.mpr
      ⟨attr, nextAttribute_eq_sole_iff.mpr sole, decodedFirst⟩⟩

theorem Attribute.asEncapsulatedProtocol_isOk_iff (attr : Attribute) :
    (∃ decoded, attr.asEncapsulatedProtocol = .ok decoded) ↔
      attr.id = .encapsulatedProtocolId ∧ attr.value.length = 2 := by
  obtain ⟨id, value⟩ := attr
  unfold asEncapsulatedProtocol
  by_cases isId : id = .encapsulatedProtocolId
  · match value with
    | [high, low] => simp [isId]
    | [] | [_] | _ :: _ :: _ :: _ => simp [isId]
  · simp [isId]

theorem Attribute.asCryptoBinding_isOk_iff (attr : Attribute) :
    (∃ decoded, attr.asCryptoBinding = .ok decoded) ↔
      attr.id = .cryptoBinding ∧ attr.value.length = cryptoBindingValueLen := by
  simp only [Attribute.asCryptoBinding_eq_ok_iff]
  constructor
  · rintro ⟨_, isId, sized, -⟩
    exact ⟨isId, sized⟩
  · rintro ⟨isId, sized⟩
    exact ⟨_, isId, sized, rfl⟩

/-! ## The attribute count -/

/-- The attribute area is the one the message requires, if it requires one. -/
def HoldsRequired (packet : ControlPacket) : Prop :=
  match packet.msgType with
  | .callConnectRequest => HoldsSole .encapsulatedProtocolId 2 packet.attrs
  | .callConnected => HoldsSole .cryptoBinding cryptoBindingValueLen packet.attrs
  | _ => True

/-- The attribute count is the one of the message, and a message that never carries attributes
carries none. -/
def CountMatches (packet : ControlPacket) : Prop :=
  match packet.msgType with
  | .callConnectRequest | .callConnected => packet.numAttrs = 1
  | .callDisconnectAck | .echoRequest | .echoResponse =>
      packet.numAttrs = 0 ∧ packet.attrs = []
  | _ => True

/-- What the attributes of a message are meant to be: one of the required kind, or none. -/
def WellCounted (packet : ControlPacket) : Prop :=
  match packet.msgType with
  | .callConnectRequest =>
      packet.numAttrs = 1 ∧ HoldsSole .encapsulatedProtocolId 2 packet.attrs
  | .callConnected =>
      packet.numAttrs = 1 ∧ HoldsSole .cryptoBinding cryptoBindingValueLen packet.attrs
  | .callDisconnectAck | .echoRequest | .echoResponse =>
      packet.numAttrs = 0 ∧ packet.attrs = []
  | _ => True

theorem Except.map_isOk_iff {ε α β : Type} {result : Except ε α} {f : α → β} :
    (∃ mapped, result.map f = .ok mapped) ↔ ∃ value, result = .ok value := by
  cases result <;> simp [Except.map]

/-- The parser looks at the attributes of two messages, and at the count of none. -/
theorem parseControl_isOk_iff {packet : ControlPacket} :
    (∃ message, parseControl packet = .ok message) ↔ HoldsRequired packet := by
  obtain ⟨msgType, numAttrs, attrs⟩ := packet
  cases msgType with
  | callConnectRequest =>
      exact Except.map_isOk_iff.trans
        (soleAttribute_isOk_iff Attribute.asEncapsulatedProtocol_isOk_iff)
  | callConnected =>
      exact Except.map_isOk_iff.trans
        (soleAttribute_isOk_iff Attribute.asCryptoBinding_isOk_iff)
  | _ => exact iff_of_true ⟨_, rfl⟩ trivial

theorem wellCounted_iff {packet : ControlPacket} :
    WellCounted packet ↔ HoldsRequired packet ∧ CountMatches packet := by
  obtain ⟨msgType, numAttrs, attrs⟩ := packet
  cases msgType with
  | callConnectRequest => exact and_comm
  | callConnected => exact and_comm
  | _ => exact iff_and_self.mpr fun _ => trivial

/-- Parsing ensures the meant attributes of exactly those packets whose header counts them: of an
accepted packet nothing is known about the count, and of a message without attributes nothing about
the bytes after the header. -/
theorem parseControl_wellCounted_iff (packet : ControlPacket) :
    ((∃ message, parseControl packet = .ok message) → WellCounted packet) ↔
      (HoldsRequired packet → CountMatches packet) := by
  rw [parseControl_isOk_iff, wellCounted_iff]
  constructor
  · intro counted required
    exact (counted required).2
  · intro counted required
    exact ⟨required, counted required⟩

/-- A Call-Connect-Request that declares no attribute and carries one, and an Echo-Request that
declares 65535 and carries two bytes, are both accepted. -/
theorem parseControl_miscounted :
    (∃ packet, Packet.parse [0x10, 1, 0, 14, 0, 1, 0, 0, 0, 1, 0, 6, 0, 1] =
        .ok (.control packet, 14) ∧
      parseControl packet = .ok (.callConnectRequest 1) ∧ ¬ WellCounted packet) ∧
    ∃ packet, Packet.parse [0x10, 1, 0, 10, 0, 8, 0xFF, 0xFF, 0xAB, 0xCD] =
        .ok (.control packet, 10) ∧
      parseControl packet = .ok .echoRequest ∧ ¬ WellCounted packet := by
  refine ⟨⟨⟨.callConnectRequest, 0, [0, 1, 0, 6, 0, 1]⟩, by decide, by decide, ?_⟩,
    ⟨⟨.echoRequest, 0xFFFF, [0xAB, 0xCD]⟩, by decide, by decide, ?_⟩⟩
  · rintro ⟨counted, -⟩
    exact absurd counted (by decide)
  · rintro ⟨counted, -⟩
    exact absurd counted (by decide)

/-! ## Reading back what is written -/

/-- What the attribute iterator yields from an attribute area. -/
def attributes (area : Bytes) : List (Except ParseError Attribute) :=
  collect List.length nextAttribute area

theorem shrinks_nextAttribute : Shrinks List.length nextAttribute := by
  intro cursor item rest yielded
  match cursor with
  | [] => cases yielded
  | [_] | [_, _] | [_, _, _] =>
      cases yielded
      simp
  | reserved :: idRaw :: high :: low :: tail =>
      simp only [nextAttribute] at yielded
      split_ifs at yielded with malformed
      · cases yielded
        simp
      · obtain ⟨header, fits⟩ := not_or.mp malformed
        have positive : 0 < be16 high low % (sstpMaxPacketLen + 1) :=
          Nat.lt_of_lt_of_le (by decide) (Nat.le_of_not_lt header)
        have shorter : ((reserved :: idRaw :: high :: low :: tail).drop
            (be16 high low % (sstpMaxPacketLen + 1))).length <
              (reserved :: idRaw :: high :: low :: tail).length := by
          rw [List.length_drop]
          exact Nat.sub_lt (Nat.succ_pos _) positive
        split at yielded
        · cases yielded
          exact shorter
        · cases yielded
          exact shorter

/-- An attribute with its header. -/
def Attribute.write (attr : Attribute) : Bytes :=
  writeAttrHeader attr.id (attrHeaderLen + attr.value.length) ++ attr.value

theorem nextAttribute_write {attr : Attribute}
    (fits : attrHeaderLen + attr.value.length ≤ sstpMaxPacketLen) (rest : Bytes) :
    nextAttribute (attr.write ++ rest) = some (.ok attr, rest) := by
  have small : (attrHeaderLen + attr.value.length) % (sstpMaxPacketLen + 1) =
      attrHeaderLen + attr.value.length := Nat.mod_eq_of_lt (Nat.lt_succ_of_le fits)
  have declared : lengthField (attr.write ++ rest) = attr.write.length := by
    have bound : attrHeaderLen + attr.value.length < 65536 := Nat.lt_of_le_of_lt fits (by decide)
    have read : lengthField (attr.write ++ rest) =
        be16 (UInt8.ofNat ((attrHeaderLen + attr.value.length) / 256))
          (UInt8.ofNat (attrHeaderLen + attr.value.length)) % (sstpMaxPacketLen + 1) := by
      rw [Attribute.write, writeAttrHeader, small]
      rfl
    rw [read, be16_ofNat bound, small, Attribute.write, List.length_append]
    rfl
  rw [nextAttribute_eq_some_ok_iff, declared]
  refine ⟨?_, ?_, rfl, ?_, List.drop_left⟩
  · rw [Attribute.write, List.length_append]
    exact Nat.le_add_right _ _
  · rw [List.length_append]
    exact Nat.le_add_right _ _
  · rw [slice, List.take_left]
    rfl

/-- The packet of a message with given attributes. -/
def controlBytes (message : MessageType) (attrs : List Attribute) : Bytes :=
  let area := attrs.flatMap Attribute.write
  writeHeader true (emptyControlLen + area.length) ++
    (writeControlExtra message attrs.length ++ area)

theorem length_controlBytes (message : MessageType) (attrs : List Attribute) :
    (controlBytes message attrs).length =
      emptyControlLen + (attrs.flatMap Attribute.write).length := by
  simp only [controlBytes, writeControlExtra, emptyControlLen, sstpControlExtraLen,
    List.length_append, length_writeHeader, length_toBe16]
  omega

/-- What follows a packet does not change how it is parsed. -/
theorem Packet.parse_append {buf : Bytes} {packet : Packet} {used : Nat}
    (parsed : Packet.parse buf = .ok (packet, used)) (rest : Bytes) :
    Packet.parse (buf ++ rest) = .ok (packet, used) := by
  obtain ⟨framed, content⟩ := Packet.parse_eq_ok_iff.mp parsed
  have header : 4 ≤ buf.length := Nat.le_trans framed.header framed.complete
  refine Packet.parse_eq_ok_iff.mpr ⟨framed.append rest, ?_⟩
  rw [getD_append_of_lt (by omega), slice, List.take_append_of_le_length framed.complete]
  exact content

/-- The packet is a control message of a type, whatever follows it: it is consumed whole, its
header counts the attributes that the iterator yields, and these decode to the given fields. -/
def EncodedAs {α : Type} (decode : Attribute → Except ParseError α) (bytes : Bytes)
    (message : MessageType) (fields : List α) : Prop :=
  ∃ (area : Bytes) (attrs : List Attribute),
    (∀ rest, Packet.parse (bytes ++ rest) =
      .ok (.control ⟨message, attrs.length, area⟩, bytes.length)) ∧
    attributes area = attrs.map .ok ∧ attrs.map decode = fields.map .ok

theorem length_write (attr : Attribute) :
    attr.write.length = attrHeaderLen + attr.value.length := by
  rw [Attribute.write, List.length_append]
  rfl

theorem length_le_flatMap_write (attrs : List Attribute) :
    attrs.length ≤ (attrs.flatMap Attribute.write).length := by
  induction attrs with
  | nil => exact le_rfl
  | cons attr later ih =>
      rw [List.flatMap_cons, List.length_append, length_write, List.length_cons, attrHeaderLen]
      omega

theorem length_write_le_flatMap {attrs : List Attribute} {attr : Attribute}
    (member : attr ∈ attrs) : attr.write.length ≤ (attrs.flatMap Attribute.write).length := by
  obtain ⟨before, after, rfl⟩ := List.append_of_mem member
  rw [List.flatMap_append, List.flatMap_cons, List.length_append, List.length_append]
  omega

theorem Packet.parse_controlBytes (message : MessageType) {attrs : List Attribute}
    (fits : emptyControlLen + (attrs.flatMap Attribute.write).length ≤ sstpMaxPacketLen) :
    Packet.parse (controlBytes message attrs) =
      .ok (.control ⟨message, attrs.length, attrs.flatMap Attribute.write⟩,
        (controlBytes message attrs).length) := by
  have counted : attrs.length < 65536 := by
    have shorter := length_le_flatMap_write attrs
    unfold emptyControlLen sstpMaxPacketLen at fits
    omega
  rw [length_controlBytes]
  exact Packet.parse_encodedControl message counted rfl fits

theorem encodedAs_controlBytes {α : Type} {decode : Attribute → Except ParseError α}
    {message : MessageType} {attrs : List Attribute} {fields : List α}
    (fits : emptyControlLen + (attrs.flatMap Attribute.write).length ≤ sstpMaxPacketLen)
    (decoded : attrs.map decode = fields.map .ok) :
    EncodedAs decode (controlBytes message attrs) message fields := by
  refine ⟨attrs.flatMap Attribute.write, attrs,
    Packet.parse_append (Packet.parse_controlBytes message fits), ?_, decoded⟩
  refine collect_flatMap shrinks_nextAttribute rfl fun attr member rest => ?_
  have attrFits : attr.write.length ≤ sstpMaxPacketLen :=
    Nat.le_trans (length_write_le_flatMap member) (Nat.le_trans (Nat.le_add_left _ _) fits)
  rw [length_write] at attrFits
  exact nextAttribute_write attrFits rest

/-! ## The encoders -/

/-- The server's Crypto-Binding-Req. -/
structure CryptoBindingReq where
  hashBitmask : UInt8
  nonce : Block 32
  deriving DecidableEq

/-- A Status-Info. -/
structure StatusInfo where
  attribId : UInt8
  status : Nat
  attribValue : Bytes
  deriving DecidableEq, Repr

namespace Attribute

/-- Decode a Crypto-Binding-Req: three reserved bytes, the bitmask and the nonce. -/
def asCryptoBindingReq (attr : Attribute) : Except ParseError CryptoBindingReq :=
  if attr.id ≠ .cryptoBindingReq then
    .error (.unknownAttributeId attr.id.asU8)
  else if attr.value.length ≠ cryptoBindingReqValueLen then
    .error (.attributeSize attr.value.length cryptoBindingReqValueLen)
  else
    .ok ⟨attr.value.getD 3 0, Block.ofBytes 32 (slice attr.value 4 36)⟩

/-- Decode a Status-Info: three reserved bytes, the identifier of the attribute it is about, the
status and the value in question. -/
def asStatusInfo (attr : Attribute) : Except ParseError StatusInfo :=
  if attr.id ≠ .statusInfo then
    .error (.unknownAttributeId attr.id.asU8)
  else if attr.value.length < 8 then
    .error (.attributeSize attr.value.length 8)
  else
    .ok {
      attribId := attr.value.getD 3 0
      status := be16 (attr.value.getD 4 0) (attr.value.getD 5 0) * 65536 +
        be16 (attr.value.getD 6 0) (attr.value.getD 7 0)
      attribValue := attr.value.drop 8 }

end Attribute

/-- A hash or MAC in its field of 32 bytes. -/
def padded (bytes : Bytes) : Bytes :=
  bytes ++ List.replicate (32 - bytes.length) 0

theorem length_padded {bytes : Bytes} (bound : bytes.length ≤ 32) : (padded bytes).length = 32 := by
  rw [padded, List.length_append, List.length_replicate]
  omega

theorem take_padded (bytes : Bytes) : (padded bytes).take bytes.length = bytes :=
  List.take_left

/-- A Call-Connected whose MAC is still zero.  A certificate hash longer than its field would
panic. -/
def encodeCallConnectedPreMac (hashProtocol : UInt8) (nonce : Block 32) (certHash : Bytes) :
    Option Bytes :=
  if certHash.length ≤ 32 then
    some (writeHeader true callConnectedLen ++ writeControlExtra .callConnected 1 ++
      writeAttrHeader .cryptoBinding (attrHeaderLen + cryptoBindingValueLen) ++
      [0, 0, 0, hashProtocol] ++ nonce.toList ++ padded certHash ++ List.replicate 32 0)
  else none

/-- Place a MAC into a Call-Connected.  A MAC longer than its field would panic. -/
def installCompoundMac (buf mac : Bytes) : Option Bytes :=
  if mac.length ≤ 32 then some (buf.take 80 ++ padded mac ++ buf.drop 112) else none

/-- The value of a Crypto-Binding. -/
def bindingValue (hashProtocol : UInt8) (nonce : Block 32) (certHash mac : Bytes) : Bytes :=
  [0, 0, 0, hashProtocol] ++ nonce.toList ++ padded certHash ++ padded mac

theorem length_bindingValue (hashProtocol : UInt8) (nonce : Block 32) {certHash mac : Bytes}
    (certHashFits : certHash.length ≤ 32) (macFits : mac.length ≤ 32) :
    (bindingValue hashProtocol nonce certHash mac).length = cryptoBindingValueLen := by
  simp only [bindingValue, List.length_append, length_padded certHashFits, length_padded macFits,
    List.Vector.toList_length, cryptoBindingValueLen, List.length_cons, List.length_nil]

/-- The binding that is read back from such a value. -/
theorem ofValue_bindingValue {hashProtocol : UInt8} {nonce : Block 32} {certHash mac : Bytes}
    (certHashFits : certHash.length ≤ 32) (macFits : mac.length ≤ 32) :
    CryptoBinding.ofValue (bindingValue hashProtocol nonce certHash mac) =
      ⟨hashProtocol, nonce, Block.ofBytes 32 (padded certHash), Block.ofBytes 32 (padded mac)⟩ := by
  have inNonce : slice (bindingValue hashProtocol nonce certHash mac) 4 36 = nonce.toList := by
    simp only [bindingValue, List.append_assoc]
    exact slice_middle rfl (by rw [List.Vector.toList_length])
  have inCertHash :
      slice (bindingValue hashProtocol nonce certHash mac) 36 68 = padded certHash := by
    rw [bindingValue, List.append_assoc]
    refine slice_middle ?_ (by rw [length_padded certHashFits])
    rw [List.length_append, List.Vector.toList_length]
    rfl
  have inMac : slice (bindingValue hashProtocol nonce certHash mac) 68 100 = padded mac := by
    refine slice_last ?_ (by rw [length_padded macFits])
    rw [List.length_append, List.length_append, List.Vector.toList_length,
      length_padded certHashFits]
    rfl
  rw [CryptoBinding.ofValue, inNonce, inCertHash, inMac,
    (Block.ofBytes_eq_iff (List.Vector.toList_length _) nonce).mpr rfl]
  rfl

theorem controlBytes_single {message : MessageType} {attr : Attribute} {total size : Nat}
    (sized : attrHeaderLen + attr.value.length = size) (whole : emptyControlLen + size = total) :
    controlBytes message [attr] =
      writeHeader true total ++ (writeControlExtra message 1 ++
        (writeAttrHeader attr.id size ++ attr.value)) := by
  have written : [attr].flatMap Attribute.write = writeAttrHeader attr.id size ++ attr.value := by
    rw [List.flatMap_singleton, Attribute.write, sized]
  have length : (writeAttrHeader attr.id size ++ attr.value).length = size := by
    rw [List.length_append, ← sized]
    rfl
  rw [controlBytes, written, length, whole]
  rfl

/-- A Call-Connected with a given binding. -/
def callConnectedBytes (hashProtocol : UInt8) (nonce : Block 32) (certHash mac : Bytes) : Bytes :=
  controlBytes .callConnected [⟨.cryptoBinding, bindingValue hashProtocol nonce certHash mac⟩]

/-- A Call-Connected up to its MAC. -/
def callConnectedHead (hashProtocol : UInt8) (nonce : Block 32) (certHash : Bytes) : Bytes :=
  writeHeader true callConnectedLen ++ writeControlExtra .callConnected 1 ++
    writeAttrHeader .cryptoBinding (attrHeaderLen + cryptoBindingValueLen) ++
    [0, 0, 0, hashProtocol] ++ nonce.toList ++ padded certHash

section CallConnected

variable {hashProtocol : UInt8} {nonce : Block 32} {certHash : Bytes}

theorem length_callConnectedHead (certHashFits : certHash.length ≤ 32) :
    (callConnectedHead hashProtocol nonce certHash).length = 80 := by
  simp only [callConnectedHead, List.length_append, length_padded certHashFits,
    List.Vector.toList_length]
  rfl

theorem callConnectedBytes_eq (certHashFits : certHash.length ≤ 32) {mac : Bytes}
    (macFits : mac.length ≤ 32) :
    callConnectedBytes hashProtocol nonce certHash mac =
      callConnectedHead hashProtocol nonce certHash ++ padded mac := by
  have sized : attrHeaderLen + (bindingValue hashProtocol nonce certHash mac).length =
      attrHeaderLen + cryptoBindingValueLen := by
    rw [length_bindingValue hashProtocol nonce certHashFits macFits]
  have whole : emptyControlLen + (attrHeaderLen + cryptoBindingValueLen) = callConnectedLen := rfl
  rw [callConnectedBytes, controlBytes_single sized whole]
  simp only [bindingValue, callConnectedHead, List.append_assoc]

/-- The two steps of the encoder: the packet before the MAC is the packet with its MAC zeroed. -/
theorem encodeCallConnected_eq (hashProtocol : UInt8) (nonce : Block 32)
    (certHashFits : certHash.length ≤ 32) :
    ∃ preMac, encodeCallConnectedPreMac hashProtocol nonce certHash = some preMac ∧
      ∀ mac : Bytes, mac.length ≤ 32 →
        installCompoundMac preMac mac =
            some (callConnectedBytes hashProtocol nonce certHash mac) ∧
          zeroedMac (callConnectedBytes hashProtocol nonce certHash mac) = preMac := by
  have sized : (callConnectedHead hashProtocol nonce certHash).length = 80 :=
    length_callConnectedHead certHashFits
  refine ⟨callConnectedHead hashProtocol nonce certHash ++ List.replicate 32 0,
    if_pos certHashFits, fun mac macFits => ?_⟩
  rw [callConnectedBytes_eq certHashFits macFits]
  constructor
  · have nothingAfter : (callConnectedHead hashProtocol nonce certHash ++
        List.replicate 32 (0 : UInt8)).drop 112 = [] :=
      List.drop_eq_nil_of_le (by rw [List.length_append, sized, List.length_replicate])
    rw [installCompoundMac, if_pos macFits, List.take_left' sized, nothingAfter, List.append_nil]
  · rw [zeroedMac, slice, List.take_left' sized, List.drop_zero]

end CallConnected

/-- A packet with one attribute is read back. -/
theorem encodedAs_single {α : Type} {decode : Attribute → Except ParseError α}
    {message : MessageType} {attr : Attribute} {field : α}
    (fits : emptyControlLen + (attrHeaderLen + attr.value.length) ≤ sstpMaxPacketLen)
    (decoded : decode attr = .ok field) :
    EncodedAs decode (controlBytes message [attr]) message [field] := by
  refine encodedAs_controlBytes ?_ ?_
  · rw [List.flatMap_singleton, length_write]
    exact fits
  · rw [List.map_singleton, List.map_singleton, decoded]

theorem encodedAs_encodeCallConnectAck (hashBitmask : UInt8) (nonce : Block 32) :
    EncodedAs Attribute.asCryptoBindingReq (encodeCallConnectAck hashBitmask nonce)
      .callConnectAck [⟨hashBitmask, nonce⟩] := by
  let attr : Attribute := ⟨.cryptoBindingReq, [0, 0, 0, hashBitmask] ++ nonce.toList⟩
  have length : attr.value.length = cryptoBindingReqValueLen := by
    simp only [attr, List.length_append, List.Vector.toList_length]
    rfl
  have sized : attrHeaderLen + attr.value.length = attrHeaderLen + cryptoBindingReqValueLen :=
    congrArg _ length
  have written : encodeCallConnectAck hashBitmask nonce = controlBytes .callConnectAck [attr] := by
    rw [controlBytes_single sized (show _ = callConnectAckLen from rfl)]
    simp only [encodeCallConnectAck, List.append_assoc, attr]
  rw [written]
  refine encodedAs_single (by rw [sized]; decide) ?_
  have inNonce : slice attr.value 4 36 = nonce.toList :=
    slice_last rfl (by rw [List.Vector.toList_length])
  rw [Attribute.asCryptoBindingReq, if_neg (not_not.mpr rfl), if_neg (not_not.mpr length), inNonce,
    (Block.ofBytes_eq_iff (List.Vector.toList_length _) nonce).mpr rfl]
  rfl

/-- The Status-Info that an encoder writes. -/
def statusInfoAttr (attribId : UInt8) (status : StatusCode) : Attribute :=
  ⟨.statusInfo, [0, 0, 0, attribId] ++ toBe16 (status.asU32 / 65536) ++ toBe16 status.asU32⟩

theorem asStatusInfo_statusInfoAttr (attribId : UInt8) (status : StatusCode) :
    (statusInfoAttr attribId status).asStatusInfo = .ok ⟨attribId, status.asU32, []⟩ := by
  have small : status.asU32 < 65536 := by cases status <;> decide
  have high : status.asU32 / 65536 = 0 := Nat.div_eq_of_lt small
  have read : be16 (UInt8.ofNat (status.asU32 / 65536 / 256)) (UInt8.ofNat (status.asU32 / 65536)) *
      65536 + be16 (UInt8.ofNat (status.asU32 / 256)) (UInt8.ofNat status.asU32) =
        status.asU32 := by
    rw [be16_ofNat small, be16_ofNat (by omega), high, Nat.zero_mul, Nat.zero_add]
  exact congrArg (fun value => Except.ok (StatusInfo.mk attribId value [])) read

theorem encodedAs_statusInfo (message : MessageType) (attribId : UInt8) (status : StatusCode) :
    EncodedAs Attribute.asStatusInfo
      (writeHeader true (emptyControlLen + statusInfoFixedLen) ++ writeControlExtra message 1 ++
        writeStatusInfoAttr attribId status) message [⟨attribId, status.asU32, []⟩] := by
  have written : writeHeader true (emptyControlLen + statusInfoFixedLen) ++
      writeControlExtra message 1 ++ writeStatusInfoAttr attribId status =
        controlBytes message [statusInfoAttr attribId status] := rfl
  have sized : (statusInfoAttr attribId status).value.length = 8 := rfl
  rw [written]
  exact encodedAs_single (by rw [sized]; decide) (asStatusInfo_statusInfoAttr attribId status)

theorem encodedAs_empty (message : MessageType) :
    EncodedAs Attribute.asStatusInfo
      (writeHeader true emptyControlLen ++ writeControlExtra message 0) message [] := by
  have written : writeHeader true emptyControlLen ++ writeControlExtra message 0 =
      controlBytes message [] := rfl
  have fits : emptyControlLen + (([] : List Attribute).flatMap Attribute.write).length ≤
      sstpMaxPacketLen := by decide
  rw [written]
  exact encodedAs_controlBytes fits rfl

theorem encodedAs_encodeStatusInfoMessage (message : MessageType)
    (statusInfo : Option (UInt8 × StatusCode)) :
    EncodedAs Attribute.asStatusInfo (encodeStatusInfoMessage message statusInfo) message
      (statusInfo.toList.map fun info => ⟨info.1, info.2.asU32, []⟩) := by
  cases statusInfo with
  | none => exact encodedAs_empty message
  | some info => exact encodedAs_statusInfo message info.1 info.2

theorem encodedAs_callConnectedBytes {hashProtocol : UInt8} {nonce : Block 32}
    {certHash mac : Bytes} (certHashFits : certHash.length ≤ 32) (macFits : mac.length ≤ 32) :
    EncodedAs Attribute.asCryptoBinding (callConnectedBytes hashProtocol nonce certHash mac)
      .callConnected [⟨hashProtocol, nonce, Block.ofBytes 32 (padded certHash),
        Block.ofBytes 32 (padded mac)⟩] := by
  have length := length_bindingValue hashProtocol nonce certHashFits macFits
  refine encodedAs_single (by rw [length]; decide) ?_
  exact Attribute.asCryptoBinding_eq_ok_iff.mpr
    ⟨rfl, length, ofValue_bindingValue certHashFits macFits⟩

theorem carries_callConnectedBytes (hashProtocol : UInt8) (nonce : Block 32)
    {certHash mac : Bytes} (certHashFits : certHash.length ≤ 32) (macFits : mac.length ≤ 32) :
    Carries (callConnectedBytes hashProtocol nonce certHash mac)
      (.callConnected ⟨hashProtocol, nonce, Block.ofBytes 32 (padded certHash),
        Block.ofBytes 32 (padded mac)⟩) := by
  let attr : Attribute := ⟨.cryptoBinding, bindingValue hashProtocol nonce certHash mac⟩
  have length : attr.value.length = cryptoBindingValueLen :=
    length_bindingValue hashProtocol nonce certHashFits macFits
  have area : [attr].flatMap Attribute.write = attr.write := List.flatMap_singleton _ _
  refine ⟨⟨.callConnected, 1, [attr].flatMap Attribute.write⟩, _,
    Packet.parse_controlBytes .callConnected ?_, parseControl_eq_callConnected_iff.mpr ⟨rfl, ?_⟩⟩
  · rw [area, length_write, length]
    decide
  · refine soleAttribute_eq_ok_iff.mpr ⟨attr, ?_, ?_⟩
    · have yielded := nextAttribute_write (show attrHeaderLen + attr.value.length ≤ _ by
        rw [length]; decide) []
      rwa [List.append_nil, ← area] at yielded
    · exact Attribute.asCryptoBinding_eq_ok_iff.mpr
        ⟨rfl, length, ofValue_bindingValue certHashFits macFits⟩

/-! ## A binding that is accepted -/

/-- The Call-Connected of a client that was handed the exchange of the server: it returns the nonce
and the certificate hash, under the MAC of the packet before its MAC is placed. -/
def boundCallConnected (crypto : Crypto) (state : ServerBindingState) (protocol : HashProtocol) :
    Option Bytes := do
  let preMac ← encodeCallConnectedPreMac protocol.asU8 state.serverNonce (state.certHash protocol)
  installCompoundMac preMac (crypto.compoundMac state.effectiveHlak preMac protocol)

/-- The packet is a Call-Connected whose binding is accepted, the MAC being zeroed as on the read
path. -/
def AcceptedBy (crypto : Crypto) (state : ServerBindingState) (packet : Bytes) : Prop :=
  ∃ binding, Carries packet (.callConnected binding) ∧
    verify crypto binding state (zeroedMac packet) = .ok

theorem HashProtocol.asU8_injective : Function.Injective HashProtocol.asU8 := by
  intro first second equal
  have decoded := HashProtocol.fromU8_eq_some_iff.mpr equal
  rw [HashProtocol.fromU8_eq_some_iff.mpr rfl] at decoded
  exact Option.some_inj.mp decoded

theorem length_certHash (state : ServerBindingState) (protocol : HashProtocol) :
    (state.certHash protocol).length = protocol.hashLen := by
  cases protocol with
  | sha1 => exact state.serverCertHashSha1.toList_length
  | sha256 => exact state.serverCertHashSha256.toList_length

theorem length_compoundMac (crypto : Crypto) (hlak : Block 32) (packet : Bytes)
    (protocol : HashProtocol) :
    (crypto.compoundMac hlak packet protocol).length = protocol.hashLen := by
  cases protocol with
  | sha1 => exact List.Vector.toList_length _
  | sha256 => exact List.Vector.toList_length _

/-- The active part of a field is what was padded to fill it. -/
theorem take_ofBytes_padded {bytes : Bytes} {size : Nat} (sized : bytes.length = size)
    (bound : size ≤ 32) : (Block.ofBytes 32 (padded bytes)).toList.take size = bytes := by
  subst sized
  rw [Block.toList_ofBytes (length_padded bound), take_padded]

/-- A binding with the nonce and the certificate hash of the server and the MAC of the packet is
accepted exactly when its hash protocol is one that the server advertised. -/
theorem verify_bound_iff (crypto : Crypto) (state : ServerBindingState) (protocol : HashProtocol)
    (packet : Bytes) :
    verify crypto ⟨protocol.asU8, state.serverNonce,
        Block.ofBytes 32 (padded (state.certHash protocol)),
        Block.ofBytes 32 (padded (crypto.compoundMac state.effectiveHlak packet protocol))⟩
        state packet = .ok ↔
      state.serverHashProtocolSupported &&& protocol.asU8 ≠ 0 := by
  rw [verify_eq_ok_iff]
  constructor
  · rintro ⟨chosen, valid⟩
    rw [HashProtocol.asU8_injective valid.protocolEq]
    exact valid.advertised
  · intro advertised
    have bound := protocol.hashLen_le
    exact ⟨protocol, rfl, advertised, rfl,
      take_ofBytes_padded (length_certHash state protocol) bound,
      (take_ofBytes_padded (length_compoundMac crypto _ packet protocol) bound).symm⟩

/-- The client's packet is accepted exactly when its hash protocol is one that the server
advertised. -/
theorem acceptedBy_boundCallConnected (crypto : Crypto) (state : ServerBindingState)
    (protocol : HashProtocol) :
    ∃ packet, boundCallConnected crypto state protocol = some packet ∧
      (AcceptedBy crypto state packet ↔
        state.serverHashProtocolSupported &&& protocol.asU8 ≠ 0) := by
  have bound := protocol.hashLen_le
  have certHashFits : (state.certHash protocol).length ≤ 32 := by rwa [length_certHash]
  obtain ⟨preMac, encoded, installs⟩ :=
    encodeCallConnected_eq protocol.asU8 state.serverNonce certHashFits
  have macFits : (crypto.compoundMac state.effectiveHlak preMac protocol).length ≤ 32 := by
    rwa [length_compoundMac]
  obtain ⟨installed, zeroed⟩ := installs _ macFits
  have carried := carries_callConnectedBytes protocol.asU8 state.serverNonce certHashFits macFits
  refine ⟨callConnectedBytes protocol.asU8 state.serverNonce (state.certHash protocol)
    (crypto.compoundMac state.effectiveHlak preMac protocol), ?_, ?_⟩
  · rw [boundCallConnected, encoded]
    exact installed
  · rw [← verify_bound_iff crypto state protocol preMac, AcceptedBy, zeroed]
    constructor
    · rintro ⟨binding, carries, accepted⟩
      -- The packet determines its binding.
      have same : binding = _ := (carries_callConnected_iff.mp carries).2.symm.trans
        (carries_callConnected_iff.mp carried).2
      rwa [same] at accepted
    · intro accepted
      exact ⟨_, carried, accepted⟩

/-- Every encoder writes what the parsers read back. -/
structure EncodersAgree : Prop where
  callConnectAck : ∀ hashBitmask nonce,
    EncodedAs Attribute.asCryptoBindingReq (encodeCallConnectAck hashBitmask nonce)
      .callConnectAck [⟨hashBitmask, nonce⟩]
  callConnectNak : ∀ offendingAttr status,
    EncodedAs Attribute.asStatusInfo (encodeCallConnectNak offendingAttr status)
      .callConnectNak [⟨offendingAttr, status.asU32, []⟩]
  callAbort : ∀ statusInfo,
    EncodedAs Attribute.asStatusInfo (encodeCallAbort statusInfo) .callAbort
      (statusInfo.toList.map fun info => ⟨info.1, info.2.asU32, []⟩)
  callDisconnect : ∀ includeStatusInfo,
    EncodedAs Attribute.asStatusInfo (encodeCallDisconnect includeStatusInfo) .callDisconnect
      (if includeStatusInfo then [⟨AttributeId.noError.asU8, StatusCode.noError.asU32, []⟩] else [])
  emptyControl : ∀ message,
    EncodedAs Attribute.asStatusInfo (encodeEmptyControl message) message.type []
  callConnected : ∀ hashProtocol nonce (certHash mac : Bytes), certHash.length ≤ 32 →
    mac.length ≤ 32 → ∃ preMac packet,
      encodeCallConnectedPreMac hashProtocol nonce certHash = some preMac ∧
      installCompoundMac preMac mac = some packet ∧ zeroedMac packet = preMac ∧
      EncodedAs Attribute.asCryptoBinding packet .callConnected
        [⟨hashProtocol, nonce, Block.ofBytes 32 (padded certHash), Block.ofBytes 32 (padded mac)⟩]

/-- Encoders and parsers agree.  A Call-Connected that is built for an exchange, with its nonce, its
certificate hash and the MAC of the packet before the MAC, is accepted exactly when the exchange
advertises its hash protocol; the exchanges of the server advertise both. -/
theorem encoders_agree :
    EncodersAgree ∧
      (∀ crypto state protocol, ∃ packet,
        boundCallConnected crypto state protocol = some packet ∧
          (AcceptedBy crypto state packet ↔
            state.serverHashProtocolSupported &&& protocol.asU8 ≠ 0)) ∧
      ∀ crypto ssm nonce hlak protocol, ∃ packet,
        boundCallConnected crypto (exchangeOf ssm nonce hlak) protocol = some packet ∧
          AcceptedBy crypto (exchangeOf ssm nonce hlak) packet := by
  refine ⟨?_, acceptedBy_boundCallConnected, ?_⟩
  · constructor
    case callConnectAck => exact encodedAs_encodeCallConnectAck
    case callConnectNak => exact encodedAs_statusInfo .callConnectNak
    case callAbort => exact encodedAs_encodeStatusInfoMessage .callAbort
    case callDisconnect =>
      intro includeStatusInfo
      cases includeStatusInfo with
      | false => exact encodedAs_encodeStatusInfoMessage .callDisconnect none
      | true => exact encodedAs_encodeStatusInfoMessage .callDisconnect (some _)
    case emptyControl => exact fun message => encodedAs_empty message.type
    case callConnected =>
      intro hashProtocol nonce certHash mac certHashFits macFits
      obtain ⟨preMac, encoded, installs⟩ :=
        encodeCallConnected_eq hashProtocol nonce certHashFits
      obtain ⟨installed, zeroed⟩ := installs mac macFits
      exact ⟨preMac, _, encoded, installed, zeroed,
        encodedAs_callConnectedBytes certHashFits macFits⟩
  · intro crypto ssm nonce hlak protocol
    obtain ⟨packet, built, accepted⟩ :=
      acceptedBy_boundCallConnected crypto (exchangeOf ssm nonce hlak) protocol
    refine ⟨packet, built, accepted.mpr ?_⟩
    change StateMachine.hashBitmask &&& protocol.asU8 ≠ 0
    cases protocol <;> decide

end SstpServer.Sstp
