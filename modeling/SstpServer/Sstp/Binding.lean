import SstpServer.Sstp.Message

/-!
# Crypto binding

A Call-Connected proves that the TLS channel and the inner authentication belong
together: it returns the server's nonce and certificate hash under a MAC whose
key is derived from the higher-layer authentication key (HLAK).  The hash, HMAC
and key derivation functions are parameters.
-/

namespace SstpServer.Sstp

open SstpServer.Wire

/-- The keyed functions the binding rests on. -/
structure Crypto where
  hmacSha1 : Bytes → Bytes → Block 20
  hmacSha256 : Bytes → Bytes → Block 32
  prfPlusSha1Cmk : Block 32 → Bytes → Block 20
  prfPlusSha256Cmk : Block 32 → Bytes → Block 32

/-- The seed `SSTP inner method derived CMK`. -/
def cmkSeed : Bytes :=
  [0x53, 0x53, 0x54, 0x50, 0x20, 0x69, 0x6E, 0x6E, 0x65, 0x72, 0x20, 0x6D, 0x65, 0x74,
    0x68, 0x6F, 0x64, 0x20, 0x64, 0x65, 0x72, 0x69, 0x76, 0x65, 0x64, 0x20, 0x43, 0x4D,
    0x4B]

/-- Outcome of validating a Crypto-Binding. -/
inductive BindingOutcome where
  | ok
  | attribNotSupportedInMsg
  | valueNotSupported
  deriving DecidableEq, Repr

/-- What the server keeps for one Call-Connect exchange. -/
structure ServerBindingState where
  serverNonce : Block 32
  serverCertHashSha1 : Block 20
  serverCertHashSha256 : Block 32
  serverHashProtocolSupported : UInt8
  hlak : Option (Block 32)
  deriving DecidableEq

/-- The certificate hash protocols. -/
inductive HashProtocol where
  | sha1
  | sha256
  deriving DecidableEq, Repr

namespace HashProtocol

def fromU8 (value : UInt8) : Option HashProtocol :=
  if value = certHashProtocolSha1 then some sha1
  else if value = certHashProtocolSha256 then some sha256
  else none

def asU8 : HashProtocol → UInt8
  | sha1 => certHashProtocolSha1
  | sha256 => certHashProtocolSha256

/-- Active length of the hash and MAC fields. -/
def hashLen : HashProtocol → Nat
  | sha1 => 20
  | sha256 => 32

theorem fromU8_eq_some_iff {value : UInt8} {protocol : HashProtocol} :
    fromU8 value = some protocol ↔ value = protocol.asU8 := by
  unfold fromU8
  constructor
  · intro decoded
    split_ifs at decoded with isSha1 isSha256
    · cases decoded
      exact isSha1
    · cases decoded
      exact isSha256
  · rintro rfl
    cases protocol <;> rfl

end HashProtocol

/-- The stored certificate hash for a protocol. -/
def ServerBindingState.certHash (state : ServerBindingState) : HashProtocol → Bytes
  | .sha1 => state.serverCertHashSha1.toList
  | .sha256 => state.serverCertHashSha256.toList

/-- The Compound MAC of a packet under an HLAK. -/
def Crypto.compoundMac (crypto : Crypto) (hlak : Block 32) (packet : Bytes) :
    HashProtocol → Bytes
  | .sha1 => (crypto.hmacSha1 (crypto.prfPlusSha1Cmk hlak cmkSeed).toList packet).toList
  | .sha256 => (crypto.hmacSha256 (crypto.prfPlusSha256Cmk hlak cmkSeed).toList packet).toList

/-- The HLAK the MAC is checked under: zero until one has been handed up. -/
def ServerBindingState.effectiveHlak (state : ServerBindingState) : Block 32 :=
  state.hlak.getD (Block.zero 32)

/-- Validate a Crypto-Binding against the server's state; `packet` is the whole
Call-Connected with its MAC field zeroed. -/
def verify (crypto : Crypto) (binding : CryptoBinding) (state : ServerBindingState)
    (packet : Bytes) : BindingOutcome :=
  match HashProtocol.fromU8 binding.hashProtocol with
  | none => .valueNotSupported
  | some protocol =>
      if state.serverHashProtocolSupported &&& protocol.asU8 = 0 then
        .valueNotSupported
      else if binding.nonce ≠ state.serverNonce then
        .valueNotSupported
      else if binding.certHashBlock.toList.take protocol.hashLen ≠ state.certHash protocol then
        .valueNotSupported
      else if crypto.compoundMac state.effectiveHlak packet protocol =
          binding.compoundMacBlock.toList.take protocol.hashLen then
        .ok
      else
        .valueNotSupported

/-- What a binding must satisfy to be accepted. -/
structure BindingValid (crypto : Crypto) (binding : CryptoBinding)
    (state : ServerBindingState) (packet : Bytes) (protocol : HashProtocol) : Prop where
  protocolEq : binding.hashProtocol = protocol.asU8
  advertised : state.serverHashProtocolSupported &&& protocol.asU8 ≠ 0
  nonceEq : binding.nonce = state.serverNonce
  certHashEq : binding.certHashBlock.toList.take protocol.hashLen = state.certHash protocol
  macEq : crypto.compoundMac state.effectiveHlak packet protocol =
    binding.compoundMacBlock.toList.take protocol.hashLen

theorem verify_eq_ok_iff {crypto : Crypto} {binding : CryptoBinding}
    {state : ServerBindingState} {packet : Bytes} :
    verify crypto binding state packet = .ok ↔
      ∃ protocol, BindingValid crypto binding state packet protocol := by
  unfold verify
  constructor
  · intro accepted
    split at accepted
    · cases accepted
    · rename_i protocol known
      split_ifs at accepted with unadvertised nonce cert mac
      exact ⟨protocol, HashProtocol.fromU8_eq_some_iff.mp known, unadvertised,
        not_not.mp nonce, not_not.mp cert, mac⟩
  · rintro ⟨protocol, valid⟩
    rw [HashProtocol.fromU8_eq_some_iff.mpr valid.protocolEq]
    simp only
    rw [if_neg valid.advertised, if_neg (not_not.mpr valid.nonceEq),
      if_neg (not_not.mpr valid.certHashEq), if_pos valid.macEq]

end SstpServer.Sstp
