import SstpServer.Sstp.Frame

/-!
# SSTP attributes and control messages

A control packet carries type, length and value attributes.  The two messages a
server inspects, Call-Connect-Request and Call-Connected, must carry exactly one
attribute of their kind; the attribute count of the header is not consulted.
-/

namespace SstpServer.Sstp

open SstpServer.Wire

/-! ## Attributes -/

def attrHeaderLen : Nat := 4

/-- Attribute identifiers. -/
inductive AttributeId where
  | noError
  | encapsulatedProtocolId
  | statusInfo
  | cryptoBinding
  | cryptoBindingReq
  deriving DecidableEq, Repr

namespace AttributeId

def fromU8 (value : UInt8) : Option AttributeId :=
  match value.toNat with
  | 0 => some noError
  | 1 => some encapsulatedProtocolId
  | 2 => some statusInfo
  | 3 => some cryptoBinding
  | 4 => some cryptoBindingReq
  | _ => none

def asU8 : AttributeId → UInt8
  | noError => 0
  | encapsulatedProtocolId => 1
  | statusInfo => 2
  | cryptoBinding => 3
  | cryptoBindingReq => 4

theorem fromU8_eq_some_iff {value : UInt8} {id : AttributeId} :
    fromU8 value = some id ↔ value = id.asU8 := by
  constructor
  · intro decoded
    unfold fromU8 at decoded
    split at decoded <;> cases decoded <;>
      · apply UInt8.toNat_inj.mp
        assumption
  · rintro rfl
    cases id <;> rfl

end AttributeId

def certHashProtocolSha1 : UInt8 := 0x01

def certHashProtocolSha256 : UInt8 := 0x02

def sstpEncapsulatedProtocolPpp : Nat := 0x0001

/-- Status codes of a Status-Info attribute. -/
inductive StatusCode where
  | noError
  | duplicateAttribute
  | unrecognizedAttribute
  | invalidAttribValueLength
  | valueNotSupported
  | unacceptedFrameReceived
  | retryCountExceeded
  | invalidFrameReceived
  | negotiationTimeout
  | attribNotSupportedInMsg
  | requiredAttributeMissing
  | statusInfoNotSupportedInMsg
  deriving DecidableEq, Repr

def StatusCode.asU32 : StatusCode → Nat
  | noError => 0
  | duplicateAttribute => 1
  | unrecognizedAttribute => 2
  | invalidAttribValueLength => 3
  | valueNotSupported => 4
  | unacceptedFrameReceived => 5
  | retryCountExceeded => 6
  | invalidFrameReceived => 7
  | negotiationTimeout => 8
  | attribNotSupportedInMsg => 9
  | requiredAttributeMissing => 10
  | statusInfoNotSupportedInMsg => 11

/-- An attribute with its value. -/
structure Attribute where
  id : AttributeId
  value : Bytes
  deriving DecidableEq, Repr

/-- The client's Crypto-Binding. -/
structure CryptoBinding where
  hashProtocol : UInt8
  nonce : Block 32
  certHashBlock : Block 32
  compoundMacBlock : Block 32
  deriving DecidableEq

/-- The Crypto-Binding in an attribute value: three reserved bytes, the hash
protocol, the nonce, the certificate hash and the Compound MAC. -/
def CryptoBinding.ofValue (value : Bytes) : CryptoBinding where
  hashProtocol := value.getD 3 0
  nonce := Block.ofBytes 32 (slice value 4 36)
  certHashBlock := Block.ofBytes 32 (slice value 36 68)
  compoundMacBlock := Block.ofBytes 32 (slice value 68 100)

/-- Length of a Crypto-Binding value. -/
def cryptoBindingValueLen : Nat := 100

/-- Length of a Crypto-Binding-Req value. -/
def cryptoBindingReqValueLen : Nat := 36

namespace Attribute

/-- Decode an Encapsulated-Protocol-Id. -/
def asEncapsulatedProtocol (attr : Attribute) : Except ParseError Nat :=
  if attr.id ≠ .encapsulatedProtocolId then
    .error (.unknownAttributeId attr.id.asU8)
  else
    match attr.value with
    | [high, low] => .ok (be16 high low)
    | other => .error (.attributeSize other.length 2)

/-- Decode a Crypto-Binding. -/
def asCryptoBinding (attr : Attribute) : Except ParseError CryptoBinding :=
  if attr.id ≠ .cryptoBinding then
    .error (.unknownAttributeId attr.id.asU8)
  else if attr.value.length ≠ cryptoBindingValueLen then
    .error (.attributeSize attr.value.length cryptoBindingValueLen)
  else
    .ok (CryptoBinding.ofValue attr.value)

theorem asCryptoBinding_eq_ok_iff {attr : Attribute} {binding : CryptoBinding} :
    attr.asCryptoBinding = .ok binding ↔
      attr.id = .cryptoBinding ∧ attr.value.length = cryptoBindingValueLen ∧
        CryptoBinding.ofValue attr.value = binding := by
  unfold asCryptoBinding
  constructor
  · intro decoded
    split_ifs at decoded with id length
    cases decoded
    exact ⟨not_not.mp id, not_not.mp length, rfl⟩
  · rintro ⟨id, length, rfl⟩
    rw [if_neg (not_not.mpr id), if_neg (not_not.mpr length)]

end Attribute

/-- One step of the attribute iterator.  An unknown attribute is reported and
skipped; a malformed one ends the iteration. -/
def nextAttribute (cursor : Bytes) : Option (Except ParseError Attribute × Bytes) :=
  match cursor with
  | [] => none
  | _ :: idRaw :: high :: low :: _ =>
      let length := be16 high low % (sstpMaxPacketLen + 1)
      if length < attrHeaderLen ∨ cursor.length < length then
        some (.error (.attributeLength length cursor.length), [])
      else
        match AttributeId.fromU8 idRaw with
        | none => some (.error (.unknownAttributeId idRaw), cursor.drop length)
        | some id =>
            some (.ok ⟨id, slice cursor attrHeaderLen length⟩, cursor.drop length)
  | _ => some (.error .truncated, [])

theorem nextAttribute_eq_none_iff {cursor : Bytes} :
    nextAttribute cursor = none ↔ cursor = [] := by
  match cursor with
  | [] => simp [nextAttribute]
  | [_] | [_, _] | [_, _, _] => simp [nextAttribute]
  | _ :: _ :: _ :: _ :: _ =>
      constructor
      · intro ended
        simp only [nextAttribute] at ended
        split_ifs at ended
        split at ended <;> cases ended
      · intro empty
        cases empty

/-- A decoded attribute is as long as its header declares. -/
theorem nextAttribute_eq_some_ok_iff {cursor : Bytes} {attr : Attribute} {rest : Bytes} :
    nextAttribute cursor = some (.ok attr, rest) ↔
      attrHeaderLen ≤ lengthField cursor ∧ lengthField cursor ≤ cursor.length ∧
        cursor.getD 1 0 = attr.id.asU8 ∧
          slice cursor attrHeaderLen (lengthField cursor) = attr.value ∧
            cursor.drop (lengthField cursor) = rest := by
  match cursor with
  | reserved :: idRaw :: high :: low :: tail =>
      have length : lengthField (reserved :: idRaw :: high :: low :: tail) =
          be16 high low % (sstpMaxPacketLen + 1) := rfl
      rw [length]
      constructor
      · intro decoded
        simp only [nextAttribute] at decoded
        split_ifs at decoded with malformed
        · cases decoded
        · split at decoded
          · cases decoded
          · rename_i id known
            cases decoded
            obtain ⟨header, fits⟩ := not_or.mp malformed
            exact ⟨Nat.le_of_not_lt header, Nat.le_of_not_lt fits,
              AttributeId.fromU8_eq_some_iff.mp known, rfl, rfl⟩
      · rintro ⟨header, fits, id, value, rfl⟩
        have known : AttributeId.fromU8 idRaw = some attr.id :=
          AttributeId.fromU8_eq_some_iff.mpr id
        simp only [nextAttribute, known]
        rw [if_neg (not_or.mpr ⟨Nat.not_lt.mpr header, Nat.not_lt.mpr fits⟩), value]
  | [] | [_] | [_, _] | [_, _, _] =>
      constructor
      · intro decoded
        cases decoded
      · rintro ⟨header, fits, -⟩
        have impossible := Nat.le_trans header fits
        simp [attrHeaderLen] at impossible

/-! ## Messages -/

/-- A control message as the server sees it. -/
inductive ControlMessage where
  | callConnectRequest (protocolId : Nat)
  | callConnected (binding : CryptoBinding)
  | callDisconnect
  | callDisconnectAck
  | echoRequest
  | echoResponse
  | callAbort
  | other (packet : ControlPacket)
  deriving DecidableEq

/-- Exactly one attribute, decoded as the message requires. -/
def soleAttribute {α : Type} (attrs : Bytes) (decode : Attribute → Except ParseError α)
    (expected : Nat) : Except ParseError α :=
  match nextAttribute attrs with
  | none => .error (.attributeLength 0 0)
  | some (.error error, _) => .error error
  | some (.ok first, rest) =>
      match decode first with
      | .error error => .error error
      | .ok decoded =>
          match nextAttribute rest with
          | some _ => .error (.attributeLength attrs.length expected)
          | none => .ok decoded

theorem soleAttribute_eq_ok_iff {α : Type} {attrs : Bytes}
    {decode : Attribute → Except ParseError α} {expected : Nat} {decoded : α} :
    soleAttribute attrs decode expected = .ok decoded ↔
      ∃ attr, nextAttribute attrs = some (.ok attr, []) ∧ decode attr = .ok decoded := by
  unfold soleAttribute
  constructor
  · intro parsed
    split at parsed
    · cases parsed
    · cases parsed
    · rename_i attr rest first
      split at parsed
      · cases parsed
      · rename_i value decodedFirst
        split at parsed
        · cases parsed
        · rename_i last
          cases parsed
          rw [nextAttribute_eq_none_iff.mp last] at first
          exact ⟨attr, first, decodedFirst⟩
  · rintro ⟨attr, first, decodedFirst⟩
    simp only [first, decodedFirst]
    rfl

/-- Parse a control packet into a message. -/
def parseControl (packet : ControlPacket) : Except ParseError ControlMessage :=
  match packet.msgType with
  | .callConnectRequest =>
      (soleAttribute packet.attrs Attribute.asEncapsulatedProtocol
        (attrHeaderLen + 2)).map .callConnectRequest
  | .callConnected =>
      (soleAttribute packet.attrs Attribute.asCryptoBinding
        (attrHeaderLen + cryptoBindingValueLen)).map .callConnected
  | .callDisconnect => .ok .callDisconnect
  | .callDisconnectAck => .ok .callDisconnectAck
  | .echoRequest => .ok .echoRequest
  | .echoResponse => .ok .echoResponse
  | .callAbort => .ok .callAbort
  | .callConnectAck | .callConnectNak => .ok (.other packet)

/-- Parse a control packet whose outer header was stripped by the kernel. -/
def parseControlPayload (payload : Bytes) : Except ParseError ControlMessage :=
  match ControlPacket.parseBody payload with
  | .error error => .error error
  | .ok packet => parseControl packet

/-! ## Encoders -/

def callConnectAckLen : Nat := 48

def callConnectedLen : Nat := 112

/-- Size of a Status-Info attribute without a value. -/
def statusInfoFixedLen : Nat := attrHeaderLen + 8

/-- Size of a control message without attributes. -/
def emptyControlLen : Nat := sstpHeaderLen + sstpControlExtraLen

def writeControlExtra (message : MessageType) (numAttrs : Nat) : Bytes :=
  toBe16 message.asU16 ++ toBe16 numAttrs

/-- An encoded control packet is parsed back. -/
theorem Packet.parse_encodedControl (message : MessageType) {numAttrs total : Nat}
    {attrs : Bytes} (count : numAttrs < 65536) (sized : total = emptyControlLen + attrs.length)
    (fits : total ≤ sstpMaxPacketLen) :
    Packet.parse (writeHeader true total ++ (writeControlExtra message numAttrs ++ attrs)) =
      .ok (.control ⟨message, numAttrs, attrs⟩, total) := by
  have typed : message.asU16 < 65536 := by cases message <;> decide
  have bodySized : total =
      sstpHeaderLen + (writeControlExtra message numAttrs ++ attrs).length := by
    simp only [sized, emptyControlLen, writeControlExtra, sstpControlExtraLen,
      List.length_append, length_toBe16]
    omega
  have whole : slice (writeHeader true total ++ (writeControlExtra message numAttrs ++ attrs))
      sstpHeaderLen total = writeControlExtra message numAttrs ++ attrs := by
    rw [slice, List.take_of_length_le (by rw [List.length_append, length_writeHeader, bodySized])]
    rfl
  refine Packet.parse_eq_ok_iff.mpr ⟨Packet.framed_writeHeader true bodySized fits, ?_⟩
  rw [whole]
  have body : ControlPacket.parseBody (writeControlExtra message numAttrs ++ attrs) =
      .ok ⟨message, numAttrs, attrs⟩ := by
    refine ControlPacket.parseBody_eq_ok_iff.mpr ⟨Nat.le_add_left _ _, ?_, ?_, rfl⟩
    · exact be16_ofNat typed
    · exact be16_ofNat count
  exact congrArg (Except.map Packet.control) body

def writeAttrHeader (id : AttributeId) (totalLen : Nat) : Bytes :=
  0 :: id.asU8 :: toBe16 (totalLen % (sstpMaxPacketLen + 1))

def encodeCallConnectAck (hashBitmask : UInt8) (nonce : Block 32) : Bytes :=
  writeHeader true callConnectAckLen ++ writeControlExtra .callConnectAck 1 ++
    writeAttrHeader .cryptoBindingReq (attrHeaderLen + cryptoBindingReqValueLen) ++
    [0, 0, 0, hashBitmask] ++ nonce.toList

def writeStatusInfoAttr (attribId : UInt8) (status : StatusCode) : Bytes :=
  writeAttrHeader .statusInfo statusInfoFixedLen ++ [0, 0, 0, attribId] ++
    toBe16 (status.asU32 / 65536) ++ toBe16 status.asU32

def encodeCallConnectNak (offendingAttr : UInt8) (status : StatusCode) : Bytes :=
  writeHeader true (emptyControlLen + statusInfoFixedLen) ++
    writeControlExtra .callConnectNak 1 ++ writeStatusInfoAttr offendingAttr status

def encodeStatusInfoMessage (message : MessageType)
    (statusInfo : Option (UInt8 × StatusCode)) : Bytes :=
  match statusInfo with
  | none => writeHeader true emptyControlLen ++ writeControlExtra message 0
  | some (attribId, status) =>
      writeHeader true (emptyControlLen + statusInfoFixedLen) ++
        writeControlExtra message 1 ++ writeStatusInfoAttr attribId status

theorem flag_encodeStatusInfoMessage (message : MessageType)
    (statusInfo : Option (UInt8 × StatusCode)) :
    (encodeStatusInfoMessage message statusInfo).getD 1 0 = 1 := by
  cases statusInfo <;> rfl

def encodeCallAbort (statusInfo : Option (UInt8 × StatusCode)) : Bytes :=
  encodeStatusInfoMessage .callAbort statusInfo

def encodeCallDisconnect (includeStatusInfo : Bool) : Bytes :=
  encodeStatusInfoMessage .callDisconnect
    (if includeStatusInfo then some (AttributeId.noError.asU8, .noError) else none)

/-- The messages that `encode_empty_control` asserts its message to be one of. -/
inductive EmptyControl where
  | callDisconnectAck
  | echoRequest
  | echoResponse
  deriving DecidableEq, Repr

def EmptyControl.type : EmptyControl → MessageType
  | .callDisconnectAck => .callDisconnectAck
  | .echoRequest => .echoRequest
  | .echoResponse => .echoResponse

def encodeEmptyControl (message : EmptyControl) : Bytes :=
  writeHeader true emptyControlLen ++ writeControlExtra message.type 0

end SstpServer.Sstp
