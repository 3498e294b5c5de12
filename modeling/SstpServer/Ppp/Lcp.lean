import SstpServer.Iteration.Cursor
import SstpServer.Ppp.Frame

/-!
# Link Control Protocol packets and configuration options

LCP and IPCP share one packet envelope: Code, Identifier, a Length that covers
the header, and data.  The data of a Configure packet is a list of type, length
and value options.  The option iterator yields one item per option and stops
after the first malformed one.
-/

namespace SstpServer.Ppp

open SstpServer.Wire
open SstpServer.Iteration

/-- LCP packet header length: Code, Identifier and Length. -/
def lcpHeaderLen : Nat := 4

/-- Option header length: Type and Length. -/
def lcpOptHeaderLen : Nat := 2

/-- Maximum Receive Unit when the option is not negotiated. -/
def defaultMru : Nat := 1500

/-- LCP packet codes. -/
inductive LcpCode where
  | configureRequest
  | configureAck
  | configureNak
  | configureReject
  | terminateRequest
  | terminateAck
  | codeReject
  | protocolReject
  | echoRequest
  | echoReply
  | discardRequest
  deriving DecidableEq, Repr

namespace LcpCode

def fromU8 (value : UInt8) : Option LcpCode :=
  match value.toNat with
  | 1 => some configureRequest
  | 2 => some configureAck
  | 3 => some configureNak
  | 4 => some configureReject
  | 5 => some terminateRequest
  | 6 => some terminateAck
  | 7 => some codeReject
  | 8 => some protocolReject
  | 9 => some echoRequest
  | 10 => some echoReply
  | 11 => some discardRequest
  | _ => none

def asU8 : LcpCode → UInt8
  | configureRequest => 1
  | configureAck => 2
  | configureNak => 3
  | configureReject => 4
  | terminateRequest => 5
  | terminateAck => 6
  | codeReject => 7
  | protocolReject => 8
  | echoRequest => 9
  | echoReply => 10
  | discardRequest => 11

@[simp]
theorem fromU8_asU8 (code : LcpCode) : fromU8 code.asU8 = some code := by
  cases code <;> rfl

theorem fromU8_eq_some_iff {value : UInt8} {code : LcpCode} :
    fromU8 value = some code ↔ value = code.asU8 := by
  constructor
  · intro decoded
    unfold fromU8 at decoded
    split at decoded <;> cases decoded <;>
      · apply UInt8.toNat_inj.mp
        assumption
  · rintro rfl
    exact fromU8_asU8 code

theorem asU8_injective : Function.Injective asU8 := by
  intro first second equal
  have decoded := congrArg fromU8 equal
  rwa [fromU8_asU8, fromU8_asU8, Option.some.injEq] at decoded

end LcpCode

/-- LCP configuration option types the server names. -/
inductive LcpOptionId where
  | mru
  | authProtocol
  | qualityProtocol
  | magicNumber
  | protocolFieldCompression
  | addressControlFieldCompression
  deriving DecidableEq, Repr

namespace LcpOptionId

def fromU8 (value : UInt8) : Option LcpOptionId :=
  match value.toNat with
  | 1 => some mru
  | 3 => some authProtocol
  | 4 => some qualityProtocol
  | 5 => some magicNumber
  | 7 => some protocolFieldCompression
  | 8 => some addressControlFieldCompression
  | _ => none

def asU8 : LcpOptionId → UInt8
  | mru => 1
  | authProtocol => 3
  | qualityProtocol => 4
  | magicNumber => 5
  | protocolFieldCompression => 7
  | addressControlFieldCompression => 8

end LcpOptionId

/-- Errors of the packet and option decoders. -/
inductive LcpPacketError where
  | truncated (need available : Nat)
  | lengthTooSmall (declared : Nat)
  | lengthExceedsBuffer (declared available : Nat)
  | optionLengthTooSmall (declared : Nat)
  | optionLengthExceedsBuffer (declared available : Nat)
  deriving DecidableEq, Repr

/-- A decoded LCP-format packet; `data` is everything after the header. -/
structure LcpPacket where
  code : UInt8
  identifier : UInt8
  data : Bytes
  deriving DecidableEq, Repr

/-- Typed view of the packet code. -/
def LcpPacket.typedCode (packet : LcpPacket) : Option LcpCode :=
  LcpCode.fromU8 packet.code

/-- Decode the packet header and bound the data by the declared Length. -/
def decodeLcpPacket (buf : Bytes) : Except LcpPacketError LcpPacket :=
  match buf with
  | code :: identifier :: high :: low :: _ =>
      let declared := be16 high low
      if declared < lcpHeaderLen then
        .error (.lengthTooSmall declared)
      else if buf.length < declared then
        .error (.lengthExceedsBuffer declared buf.length)
      else
        .ok ⟨code, identifier, slice buf lcpHeaderLen declared⟩
  | short => .error (.truncated lcpHeaderLen short.length)

/-- The four header bytes of an LCP-format packet. -/
def writeLcpHeader (code identifier : UInt8) (totalLen : Nat) : Bytes :=
  code :: identifier :: toBe16 totalLen

/-- The data of a decoded packet is at most what the buffer holds past the
header, and the packet fits its Length field. -/
theorem length_data_of_decodeLcpPacket {buf : Bytes} {packet : LcpPacket}
    (decoded : decodeLcpPacket buf = .ok packet) :
    packet.data.length + 4 ≤ buf.length ∧ packet.data.length + 4 < 65536 := by
  unfold decodeLcpPacket at decoded
  split at decoded
  · rename_i code identifier high low rest
    simp only at decoded
    split at decoded
    · cases decoded
    · split at decoded
      · cases decoded
      · rename_i notSmall notLarge
        cases decoded
        have bound := be16_lt high low
        simp only [length_slice, lcpHeaderLen] at notSmall ⊢
        omega
  · cases decoded

/-- A header followed by exactly the data it declares decodes to that data. -/
theorem decodeLcpPacket_writeLcpHeader (code identifier : UInt8) {data : Bytes}
    (fits : data.length + 4 < 65536) :
    decodeLcpPacket (writeLcpHeader code identifier (lcpHeaderLen + data.length) ++
      data) = .ok ⟨code, identifier, data⟩ := by
  have declared : be16 (UInt8.ofNat ((lcpHeaderLen + data.length) / 256))
      (UInt8.ofNat (lcpHeaderLen + data.length)) = lcpHeaderLen + data.length :=
    be16_ofNat (by unfold lcpHeaderLen; omega)
  simp only [writeLcpHeader, toBe16, List.cons_append, List.nil_append,
    decodeLcpPacket, declared]
  rw [if_neg (by omega), if_neg (by simp [lcpHeaderLen]; omega)]
  simp [slice, lcpHeaderLen, Nat.add_comm 4]

/-- The code of a decoded packet is its first byte. -/
theorem head?_of_decodeLcpPacket {buf : Bytes} {packet : LcpPacket}
    (decoded : decodeLcpPacket buf = .ok packet) : buf.head? = some packet.code := by
  unfold decodeLcpPacket at decoded
  split at decoded
  · simp only at decoded
    split at decoded
    · cases decoded
    · split at decoded
      · cases decoded
      · cases decoded
        rfl
  · cases decoded

/-! ## Configuration options -/

/-- One type, length and value option. -/
structure ConfigOption where
  optionType : UInt8
  value : Bytes
  deriving DecidableEq, Repr

namespace ConfigOption

/-- Length of the option on the wire. -/
def encodedLen (opt : ConfigOption) : Nat :=
  lcpOptHeaderLen + opt.value.length

/-- Typed view of the option type. -/
def typed (opt : ConfigOption) : Option LcpOptionId :=
  LcpOptionId.fromU8 opt.optionType

/-- Decode an MRU option. -/
def asMru (opt : ConfigOption) : Except LcpPacketError Nat :=
  match opt.value with
  | [high, low] => .ok (be16 high low)
  | other => .error (.optionLengthTooSmall (other.length + lcpOptHeaderLen))

end ConfigOption

/-- One step of the option iterator.  A malformed option empties the cursor,
so it is the last item. -/
def nextConfigOption (cursor : Bytes) :
    Option (Except LcpPacketError ConfigOption × Bytes) :=
  match cursor with
  | [] => none
  | [_] => some (.error (.truncated lcpOptHeaderLen 1), [])
  | optionType :: length :: _ =>
      let declared := length.toNat
      if declared < lcpOptHeaderLen then
        some (.error (.optionLengthTooSmall declared), [])
      else if cursor.length < declared then
        some (.error (.optionLengthExceedsBuffer declared cursor.length), [])
      else
        some (.ok ⟨optionType, slice cursor lcpOptHeaderLen declared⟩,
          cursor.drop declared)

/-- All items of an option list. -/
def configOptions (buf : Bytes) : List (Except LcpPacketError ConfigOption) :=
  collect List.length nextConfigOption buf

/-- Encode a single option. -/
def writeOption (optionType : UInt8) (value : Bytes) : Bytes :=
  optionType :: UInt8.ofNat (lcpOptHeaderLen + value.length) :: value

@[simp]
theorem length_writeOption (optionType : UInt8) (value : Bytes) :
    (writeOption optionType value).length = lcpOptHeaderLen + value.length := by
  simp [writeOption, lcpOptHeaderLen]
  omega

/-- A well-formed option is exactly the bytes the iterator consumes for it. -/
theorem nextConfigOption_eq_some_ok {cursor rest : Bytes} {opt : ConfigOption}
    (item : nextConfigOption cursor = some (.ok opt, rest)) :
    cursor = writeOption opt.optionType opt.value ++ rest := by
  unfold nextConfigOption at item
  split at item
  · cases item
  · simp at item
  · rename_i optionType length tail
    simp only at item
    split at item
    · simp at item
    · split at item
      · simp at item
      · rename_i notSmall notLarge
        simp only [Option.some.injEq, Prod.mk.injEq, Except.ok.injEq] at item
        obtain ⟨rfl, rfl⟩ := item
        obtain ⟨extra, extraEq⟩ :=
          Nat.exists_eq_add_of_le (Nat.le_of_not_lt notSmall)
        have sliced : slice (optionType :: length :: tail) lcpOptHeaderLen
            length.toNat = tail.take extra := by
          simp [slice, extraEq, lcpOptHeaderLen, Nat.add_comm 2]
        have dropped : (optionType :: length :: tail).drop length.toNat =
            tail.drop extra := by
          simp [extraEq, lcpOptHeaderLen, Nat.add_comm 2]
        have takenLength : (tail.take extra).length = extra := by
          simp only [List.length_take, List.length_cons, lcpOptHeaderLen]
            at notLarge extraEq ⊢
          omega
        rw [sliced, dropped]
        simp only [writeOption, takenLength, ← extraEq, UInt8.ofNat_toNat]
        simp

/-- The option iterator consumes its cursor. -/
theorem nextConfigOption_shrinks : Shrinks List.length nextConfigOption := by
  intro cursor item rest yielded
  cases item with
  | ok opt =>
      rw [nextConfigOption_eq_some_ok yielded, List.length_append, length_writeOption]
      unfold lcpOptHeaderLen
      omega
  | error error =>
      unfold nextConfigOption at yielded
      split at yielded
      · cases yielded
      · cases yielded
        simp
      · simp only at yielded
        split at yielded
        · cases yielded
          simp
        · split at yielded
          · cases yielded
            simp
          · simp at yielded

/-- The length of an option fits its length byte. -/
def ConfigOption.Sized (opt : ConfigOption) : Prop :=
  opt.encodedLen < 256

/-- An option that the iterator yields fits its length byte. -/
theorem sized_of_nextConfigOption {cursor rest : Bytes} {opt : ConfigOption}
    (item : nextConfigOption cursor = some (.ok opt, rest)) : opt.Sized := by
  unfold nextConfigOption at item
  split at item
  · cases item
  · simp at item
  · rename_i optionType length tail
    simp only at item
    split_ifs at item with small large
    · simp at item
    · simp at item
    · simp only [Option.some.injEq, Prod.mk.injEq, Except.ok.injEq] at item
      obtain ⟨rfl, -⟩ := item
      have bound := length.toNat_lt
      simp only [ConfigOption.Sized, ConfigOption.encodedLen, length_slice]
      omega

/-- The iterator reads a written option back. -/
theorem nextConfigOption_writeOption {opt : ConfigOption} (sized : opt.Sized) (rest : Bytes) :
    nextConfigOption (writeOption opt.optionType opt.value ++ rest) = some (.ok opt, rest) := by
  have declared : (UInt8.ofNat (lcpOptHeaderLen + opt.value.length)).toNat =
      opt.value.length + 2 := by
    unfold ConfigOption.Sized ConfigOption.encodedLen at sized
    rw [UInt8.toNat_ofNat', Nat.mod_eq_of_lt sized]
    exact Nat.add_comm _ _
  simp only [writeOption, List.cons_append, nextConfigOption, declared]
  rw [if_neg (by simp [lcpOptHeaderLen]), if_neg (by simp)]
  simp [slice, lcpOptHeaderLen]

/-! ## Auth-Protocol option values -/

def authProtocolPap : Bytes :=
  toBe16 ProtocolId.pap.asU16

def authProtocolChapMd5 : Bytes :=
  toBe16 ProtocolId.chap.asU16 ++ [0x05]

def authProtocolMschapv2 : Bytes :=
  toBe16 ProtocolId.chap.asU16 ++ [0x81]

end SstpServer.Ppp
