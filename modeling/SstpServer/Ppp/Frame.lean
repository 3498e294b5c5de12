import SstpServer.Wire.Bytes

/-!
# The PPP frame inside an SSTP data packet

SSTP carries a raw PPP frame: an optional Address/Control prefix, a Protocol
field of one or two bytes, and the information field.  Receiving accepts every
compressed form; sending always uses the uncompressed one, so an answer can be
longer than the frame it answers.
-/

namespace SstpServer.Ppp

open SstpServer.Wire

/-- PPP HDLC-broadcast Address byte. -/
def addressAllStations : UInt8 := 0xFF

/-- PPP Control byte: Unnumbered Information. -/
def controlUi : UInt8 := 0x03

/-- The PPP protocols the server knows. -/
inductive ProtocolId where
  | ip
  | ipv6
  | ipcp
  | ipv6cp
  | lcp
  | pap
  | chap
  | eap
  deriving DecidableEq, Repr

namespace ProtocolId

/-- Decode an IANA protocol value; unknown values have no protocol. -/
def fromU16 (value : Nat) : Option ProtocolId :=
  match value with
  | 0x0021 => some .ip
  | 0x0057 => some .ipv6
  | 0x8021 => some .ipcp
  | 0x8057 => some .ipv6cp
  | 0xC021 => some .lcp
  | 0xC023 => some .pap
  | 0xC223 => some .chap
  | 0xC227 => some .eap
  | _ => none

def asU16 : ProtocolId → Nat
  | ip => 0x0021
  | ipv6 => 0x0057
  | ipcp => 0x8021
  | ipv6cp => 0x8057
  | lcp => 0xC021
  | pap => 0xC023
  | chap => 0xC223
  | eap => 0xC227

/-- Network-layer protocols, forwarded to the data path. -/
def isNetworkLayer : ProtocolId → Bool
  | ip | ipv6 => true
  | _ => false

@[simp]
theorem fromU16_asU16 (protocol : ProtocolId) :
    fromU16 protocol.asU16 = some protocol := by
  cases protocol <;> rfl

theorem fromU16_eq_some_iff {value : Nat} {protocol : ProtocolId} :
    fromU16 value = some protocol ↔ value = protocol.asU16 := by
  constructor
  · intro decoded
    unfold fromU16 at decoded
    split at decoded <;> cases decoded <;> rfl
  · rintro rfl
    exact fromU16_asU16 protocol

theorem asU16_injective : Function.Injective asU16 := by
  intro first second equal
  have decoded := congrArg fromU16 equal
  simpa using decoded

/-- Every known protocol number has the parity of a Protocol field. -/
theorem asU16_parity (protocol : ProtocolId) :
    protocol.asU16 < 65536 ∧ protocol.asU16 / 256 % 2 = 0 ∧
      protocol.asU16 % 2 = 1 := by
  cases protocol <;> decide

end ProtocolId

/-- Reasons a payload is not a PPP frame. -/
inductive FrameError where
  | truncated (need available : Nat)
  | badProtocolParity (protocol : Nat)
  deriving DecidableEq, Repr

/-- A decoded PPP frame. -/
structure PppFrame where
  protocol : Nat
  info : Bytes
  deriving DecidableEq, Repr

/-- Drop the Address/Control prefix when both of its bytes are there. -/
def stripAddressControl : Bytes → Bytes
  | address :: control :: rest =>
      if address = addressAllStations ∧ control = controlUi then rest
      else address :: control :: rest
  | short => short

/-- Decode a PPP frame, accepting compressed Address/Control and Protocol
fields. -/
def decodeFrame (buf : Bytes) : Except FrameError PppFrame :=
  match stripAddressControl buf with
  | [] => .error (.truncated 1 buf.length)
  | first :: rest =>
      -- An odd first byte is a compressed, one-byte Protocol field.
      if first.toNat % 2 = 1 then
        .ok ⟨first.toNat, rest⟩
      else
        match rest with
        | [] => .error (.truncated 2 1)
        | second :: info =>
            if second.toNat % 2 = 1 then
              .ok ⟨be16 first second, info⟩
            else
              .error (.badProtocolParity (be16 first second))

/-- Encode a PPP frame with the uncompressed header. -/
def encodeFrame (protocol : Nat) (info : Bytes) : Bytes :=
  addressAllStations :: controlUi :: (toBe16 protocol ++ info)

/-- Encode a PPP frame without the Address/Control prefix, and with a one-byte Protocol field
where the protocol fits one. -/
def encodeFrameCompressed (protocol : Nat) (info : Bytes) : Bytes :=
  if protocol ≤ 0xFF then
    UInt8.ofNat protocol :: info
  else
    toBe16 protocol ++ info

@[simp]
theorem length_encodeFrame (protocol : Nat) (info : Bytes) :
    (encodeFrame protocol info).length = info.length + 4 := by
  simp [encodeFrame]
  omega

/-- A frame with a well-formed Protocol field decodes to what was encoded. -/
theorem decodeFrame_encodeFrame {protocol : Nat} (bound : protocol < 65536)
    (highEven : protocol / 256 % 2 = 0) (lowOdd : protocol % 2 = 1)
    (info : Bytes) :
    decodeFrame (encodeFrame protocol info) = .ok ⟨protocol, info⟩ := by
  have high : (UInt8.ofNat (protocol / 256)).toNat % 2 ≠ 1 := by
    rw [UInt8.toNat_ofNat']
    omega
  have low : (UInt8.ofNat protocol).toNat % 2 = 1 := by
    rw [UInt8.toNat_ofNat']
    omega
  have stripped : stripAddressControl (encodeFrame protocol info) =
      UInt8.ofNat (protocol / 256) :: UInt8.ofNat protocol :: info := by
    simp [encodeFrame, stripAddressControl, toBe16]
  simp only [decodeFrame, stripped]
  rw [if_neg high, if_pos low, be16_ofNat bound]

/-! ## Compressed fields -/

/-- A Protocol field, of one byte if it is compressed and the protocol fits one. -/
def protocolField (compressed : Bool) (protocol : Nat) : Bytes :=
  if compressed = true ∧ protocol ≤ 0xFF then [UInt8.ofNat protocol] else toBe16 protocol

/-- The Address/Control prefix, which is left out if it is compressed. -/
def addressControl (compressed : Bool) : Bytes :=
  if compressed then [] else [addressAllStations, controlUi]

theorem encodeFrame_eq (protocol : Nat) (info : Bytes) :
    encodeFrame protocol info = addressControl false ++ (protocolField false protocol ++ info) :=
  rfl

theorem encodeFrameCompressed_eq (protocol : Nat) (info : Bytes) :
    encodeFrameCompressed protocol info =
      addressControl true ++ (protocolField true protocol ++ info) := by
  unfold encodeFrameCompressed protocolField
  by_cases short : protocol ≤ 0xFF
  · rw [if_pos short, if_pos ⟨rfl, short⟩]
    rfl
  · rw [if_neg short, if_neg fun both => short both.2]
    rfl

/-- The prefix is taken off whether it is there or not, unless the frame goes on with its first
byte. -/
theorem stripAddressControl_addressControl (compressed : Bool) {first : UInt8} {rest : Bytes}
    (other : first ≠ addressAllStations) :
    stripAddressControl (addressControl compressed ++ first :: rest) = first :: rest := by
  cases compressed with
  | false => rfl
  | true =>
      cases rest with
      | nil => rfl
      | cons second rest => exact if_neg fun both => other both.1

/-- A frame decodes to what was encoded in every form of its fields. -/
theorem decodeFrame_addressControl {protocol : Nat} (bound : protocol < 65536)
    (highEven : protocol / 256 % 2 = 0) (lowOdd : protocol % 2 = 1) (other : protocol ≠ 0x00FF)
    (shortPrefix shortProtocol : Bool) (info : Bytes) :
    decodeFrame (addressControl shortPrefix ++ (protocolField shortProtocol protocol ++ info)) =
      .ok ⟨protocol, info⟩ := by
  have high : (UInt8.ofNat (protocol / 256)).toNat = protocol / 256 :=
    UInt8.toNat_ofNat_of_lt' (by show _ < 256; omega)
  unfold protocolField
  split_ifs with compressed
  · have low : (UInt8.ofNat protocol).toNat = protocol :=
      UInt8.toNat_ofNat_of_lt' (by show _ < 256; omega)
    have notAddress : UInt8.ofNat protocol ≠ addressAllStations := by
      intro same
      have value : protocol = 0xFF := low.symm.trans (congrArg UInt8.toNat same)
      exact other value
    rw [decodeFrame, List.singleton_append, stripAddressControl_addressControl _ notAddress]
    simp only [low, lowOdd, if_true]
  · have notAddress : UInt8.ofNat (protocol / 256) ≠ addressAllStations := by
      intro same
      have value : protocol / 256 = 0xFF := high.symm.trans (congrArg UInt8.toNat same)
      omega
    have low : (UInt8.ofNat protocol).toNat % 2 = 1 := by
      rw [UInt8.toNat_ofNat']
      omega
    have field : toBe16 protocol ++ info =
        UInt8.ofNat (protocol / 256) :: UInt8.ofNat protocol :: info := rfl
    rw [decodeFrame, field, stripAddressControl_addressControl _ notAddress]
    simp only [high, highEven, low, be16_ofNat bound]
    rfl

/-- Both encoders are undone by the decoder, and so is every other mixture of full and
compressed fields. -/
theorem decodeFrame_roundTrip {protocol : Nat} (bound : protocol < 65536)
    (highEven : protocol / 256 % 2 = 0) (lowOdd : protocol % 256 % 2 = 1)
    (other : protocol ≠ 0x00FF) (info : Bytes) :
    decodeFrame (encodeFrame protocol info) = .ok ⟨protocol, info⟩ ∧
      decodeFrame (encodeFrameCompressed protocol info) = .ok ⟨protocol, info⟩ ∧
      ∀ shortPrefix shortProtocol,
        decodeFrame (addressControl shortPrefix ++ (protocolField shortProtocol protocol ++ info)) =
          .ok ⟨protocol, info⟩ := by
  have odd : protocol % 2 = 1 := by omega
  have forms := fun shortPrefix shortProtocol =>
    decodeFrame_addressControl bound highEven odd other shortPrefix shortProtocol info
  refine ⟨?_, ?_, forms⟩
  · rw [encodeFrame_eq]
    exact forms false false
  · rw [encodeFrameCompressed_eq]
    exact forms true true

theorem decodeFrame_roundTrip_ip :
    decodeFrame (encodeFrame 0x0021 [0x03]) = .ok ⟨0x0021, [0x03]⟩ ∧
      decodeFrame (encodeFrameCompressed 0x0021 [0x03]) = .ok ⟨0x0021, [0x03]⟩ := by
  have both := decodeFrame_roundTrip (by decide : 0x0021 < 65536) (by decide) (by decide)
    (by decide) [0x03]
  exact ⟨both.1, both.2.1⟩

/-- The excluded protocol: before an information field that begins with the Control byte it is
taken for the prefix. -/
example : decodeFrame (encodeFrameCompressed 0x00FF [0x03]) = .error (.truncated 1 2) := by
  decide

/-- A frame of a known protocol decodes to what was encoded. -/
@[simp]
theorem decodeFrame_encodeFrame_asU16 (protocol : ProtocolId) (info : Bytes) :
    decodeFrame (encodeFrame protocol.asU16 info) =
      .ok ⟨protocol.asU16, info⟩ := by
  obtain ⟨bound, highEven, lowOdd⟩ := protocol.asU16_parity
  exact decodeFrame_encodeFrame bound highEven lowOdd info

end SstpServer.Ppp
