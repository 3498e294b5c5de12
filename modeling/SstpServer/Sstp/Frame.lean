import SstpServer.Wire.Bytes

/-!
# SSTP packets

An SSTP packet starts with a version byte, a byte whose lowest bit marks a
control packet, and a twelve-bit Length that covers the header.  The reserved
bits of the flag byte and of the Length field are ignored on receipt.
-/

namespace SstpServer.Sstp

open SstpServer.Wire

def sstpVersion10 : UInt8 := 0x10

/-- Length of the outer packet header. -/
def sstpHeaderLen : Nat := 4

/-- Length of the message type and attribute count of a control packet. -/
def sstpControlExtraLen : Nat := 4

/-- Largest value of the Length field. -/
def sstpMaxPacketLen : Nat := 0x0FFF

/-- Control message types. -/
inductive MessageType where
  | callConnectRequest
  | callConnectAck
  | callConnectNak
  | callConnected
  | callAbort
  | callDisconnect
  | callDisconnectAck
  | echoRequest
  | echoResponse
  deriving DecidableEq, Repr

namespace MessageType

def fromU16 (value : Nat) : Option MessageType :=
  match value with
  | 1 => some callConnectRequest
  | 2 => some callConnectAck
  | 3 => some callConnectNak
  | 4 => some callConnected
  | 5 => some callAbort
  | 6 => some callDisconnect
  | 7 => some callDisconnectAck
  | 8 => some echoRequest
  | 9 => some echoResponse
  | _ => none

def asU16 : MessageType → Nat
  | callConnectRequest => 1
  | callConnectAck => 2
  | callConnectNak => 3
  | callConnected => 4
  | callAbort => 5
  | callDisconnect => 6
  | callDisconnectAck => 7
  | echoRequest => 8
  | echoResponse => 9

@[simp]
theorem fromU16_asU16 (message : MessageType) : fromU16 message.asU16 = some message := by
  cases message <;> rfl

theorem fromU16_eq_some_iff {value : Nat} {message : MessageType} :
    fromU16 value = some message ↔ value = message.asU16 := by
  constructor
  · intro decoded
    unfold fromU16 at decoded
    split at decoded <;> cases decoded <;> rfl
  · rintro rfl
    exact fromU16_asU16 message

end MessageType

/-- Errors of the packet and attribute parsers. -/
inductive ParseError where
  | truncated
  | unsupportedVersion (version : UInt8)
  | lengthMismatch (declared available : Nat)
  | lengthTooSmall (declared : Nat)
  | unknownMessageType (value : Nat)
  | unknownAttributeId (value : UInt8)
  | attributeLength (declared available : Nat)
  | attributeSize (actual expected : Nat)
  deriving DecidableEq, Repr

/-- A control packet with its unparsed attributes. -/
structure ControlPacket where
  msgType : MessageType
  numAttrs : Nat
  attrs : Bytes
  deriving DecidableEq, Repr

/-- Parse the body of a control packet. -/
def ControlPacket.parseBody (body : Bytes) : Except ParseError ControlPacket :=
  match body with
  | typeHigh :: typeLow :: countHigh :: countLow :: attrs =>
      match MessageType.fromU16 (be16 typeHigh typeLow) with
      | none => .error (.unknownMessageType (be16 typeHigh typeLow))
      | some msgType => .ok ⟨msgType, be16 countHigh countLow, attrs⟩
  | _ => .error .truncated

theorem ControlPacket.parseBody_eq_ok_iff {body : Bytes} {packet : ControlPacket} :
    ControlPacket.parseBody body = .ok packet ↔
      sstpControlExtraLen ≤ body.length ∧
        be16 (body.getD 0 0) (body.getD 1 0) = packet.msgType.asU16 ∧
          be16 (body.getD 2 0) (body.getD 3 0) = packet.numAttrs ∧
            body.drop sstpControlExtraLen = packet.attrs := by
  match body with
  | typeHigh :: typeLow :: countHigh :: countLow :: attrs =>
      constructor
      · intro parsed
        simp only [ControlPacket.parseBody] at parsed
        split at parsed
        · cases parsed
        · rename_i msgType known
          cases parsed
          exact ⟨Nat.le_add_left _ _, MessageType.fromU16_eq_some_iff.mp known, rfl, rfl⟩
      · obtain ⟨msgType, numAttrs, attrs⟩ := packet
        rintro ⟨-, known, rfl, rfl⟩
        have decoded : MessageType.fromU16 (be16 typeHigh typeLow) = some msgType :=
          MessageType.fromU16_eq_some_iff.mpr known
        simp only [ControlPacket.parseBody, decoded]
        rfl
  | [] | [_] | [_, _] | [_, _, _] =>
      constructor
      · intro parsed
        cases parsed
      · rintro ⟨sized, -⟩
        simp [sstpControlExtraLen] at sized

/-- A packet from the wire. -/
inductive Packet where
  | data (payload : Bytes)
  | control (packet : ControlPacket)
  deriving DecidableEq, Repr

/-- The packet with a given flag byte and body. -/
def Packet.ofBody (flags : UInt8) (body : Bytes) : Except ParseError Packet :=
  if flags.toNat % 2 = 1 then
    (ControlPacket.parseBody body).map .control
  else
    .ok (.data body)

/-- Parse one packet from the head of a buffer, with the number of bytes it
takes. -/
def Packet.parse (buf : Bytes) : Except ParseError (Packet × Nat) :=
  match buf with
  | version :: flags :: high :: low :: _ =>
      if version ≠ sstpVersion10 then
        .error (.unsupportedVersion version)
      else
        let length := be16 high low % (sstpMaxPacketLen + 1)
        if length < sstpHeaderLen then
          .error (.lengthTooSmall length)
        else if buf.length < length then
          .error (.lengthMismatch length buf.length)
        else
          (Packet.ofBody flags (slice buf sstpHeaderLen length)).map (·, length)
  | _ => .error .truncated

/-- The four header bytes of a packet.  The Length field keeps the low twelve
bits of the packet's size. -/
def writeHeader (control : Bool) (totalLen : Nat) : Bytes :=
  sstpVersion10 :: (if control then 1 else 0) :: toBe16 (totalLen % (sstpMaxPacketLen + 1))

@[simp]
theorem length_writeHeader (control : Bool) (totalLen : Nat) :
    (writeHeader control totalLen).length = sstpHeaderLen :=
  rfl

/-- The Length field of a packet. -/
def lengthField (packet : Bytes) : Nat :=
  be16 (packet.getD 2 0) (packet.getD 3 0) % (sstpMaxPacketLen + 1)

theorem lengthField_cons (version flags high low : UInt8) (rest : Bytes) :
    lengthField (version :: flags :: high :: low :: rest) =
      be16 high low % (sstpMaxPacketLen + 1) :=
  rfl

theorem lengthField_slice (bytes : Bytes) {start stop : Nat} (bound : start + 3 < stop) :
    lengthField (slice bytes start stop) =
      be16 (bytes.getD (start + 2) 0) (bytes.getD (start + 3) 0) % (sstpMaxPacketLen + 1) := by
  rw [lengthField, getD_slice bytes (by omega), getD_slice bytes bound]

@[simp]
theorem lengthField_writeHeader (control : Bool) (totalLen : Nat) (body : Bytes) :
    lengthField (writeHeader control totalLen ++ body) =
      totalLen % (sstpMaxPacketLen + 1) := by
  have bound : totalLen % (sstpMaxPacketLen + 1) < 65536 := by
    unfold sstpMaxPacketLen
    omega
  simp [writeHeader, toBe16, lengthField, be16_ofNat bound]

/-- The buffer starts with a header that declares a packet of `used` bytes, all
of them in the buffer. -/
structure Packet.Framed (buf : Bytes) (used : Nat) : Prop where
  version : buf.getD 0 0 = sstpVersion10
  length : lengthField buf = used
  header : sstpHeaderLen ≤ used
  complete : used ≤ buf.length

/-- A written header frames the body it was written for. -/
theorem Packet.framed_writeHeader (control : Bool) {body : Bytes} {total : Nat}
    (sized : total = sstpHeaderLen + body.length) (fits : total ≤ sstpMaxPacketLen) :
    Packet.Framed (writeHeader control total ++ body) total where
  version := rfl
  length := by
    rw [lengthField_writeHeader]
    exact Nat.mod_eq_of_lt (Nat.lt_succ_of_le fits)
  header := by
    rw [sized]
    exact Nat.le_add_right _ _
  complete := by
    rw [List.length_append, length_writeHeader, sized]

/-- A packet is parsed from exactly the bytes its header declares. -/
theorem Packet.parse_eq_ok_iff {buf : Bytes} {packet : Packet} {used : Nat} :
    Packet.parse buf = .ok (packet, used) ↔
      Packet.Framed buf used ∧
        Packet.ofBody (buf.getD 1 0) (slice buf sstpHeaderLen used) = .ok packet := by
  match buf with
  | version :: flags :: high :: low :: rest =>
      have length := lengthField_cons version flags high low rest
      constructor
      · intro parsed
        simp only [Packet.parse] at parsed
        split_ifs at parsed with isVersion small short
        cases ofBody : Packet.ofBody flags (slice (version :: flags :: high :: low :: rest)
            sstpHeaderLen (be16 high low % (sstpMaxPacketLen + 1))) with
        | error error =>
            rw [ofBody] at parsed
            cases parsed
        | ok content =>
            rw [ofBody] at parsed
            cases parsed
            exact ⟨⟨not_not.mp isVersion, length, Nat.le_of_not_lt small,
              Nat.le_of_not_lt short⟩, ofBody⟩
      · rintro ⟨framed, ofBody⟩
        obtain ⟨version10, rfl, header, complete⟩ := framed
        rw [length] at header complete ofBody ⊢
        have isVersion : version = sstpVersion10 := version10
        simp only [Packet.parse]
        rw [if_neg (not_not.mpr isVersion), if_neg (Nat.not_lt.mpr header),
          if_neg (Nat.not_lt.mpr complete)]
        exact congrArg (Except.map _) ofBody
  | [] | [_] | [_, _] | [_, _, _] =>
      constructor
      · intro parsed
        cases parsed
      · rintro ⟨framed, -⟩
        have complete := framed.complete
        have header := framed.header
        simp [sstpHeaderLen] at complete header
        omega

/-- A packet with the flag of control packets is not parsed as a data packet. -/
theorem Packet.parse_ne_data {buf : Bytes} (flagged : buf.getD 1 0 = 1) (payload : Bytes)
    (used : Nat) : Packet.parse buf ≠ .ok (.data payload, used) := by
  intro parsed
  have body := (Packet.parse_eq_ok_iff.mp parsed).2
  rw [flagged] at body
  unfold Packet.ofBody at body
  rw [if_pos (by decide)] at body
  generalize ControlPacket.parseBody (slice buf sstpHeaderLen used) = control at body
  cases control <;> cases body

end SstpServer.Sstp
