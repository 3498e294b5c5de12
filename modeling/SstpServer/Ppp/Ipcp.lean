import SstpServer.Ppp.Lcp

/-!
# IP Control Protocol codes and options

IPCP reuses the LCP packet envelope.  Its options of interest all carry one
IPv4 address: the peer's own address and the name servers handed to it.
-/

namespace SstpServer.Ppp

open SstpServer.Wire

/-- An IPv4 address in network byte order. -/
abbrev Ipv4 := Block 4

/-- IPCP packet codes; they share the LCP values 1 to 7. -/
inductive IpcpCode where
  | configureRequest
  | configureAck
  | configureNak
  | configureReject
  | terminateRequest
  | terminateAck
  | codeReject
  deriving DecidableEq, Repr

namespace IpcpCode

def fromU8 (value : UInt8) : Option IpcpCode :=
  match value.toNat with
  | 1 => some configureRequest
  | 2 => some configureAck
  | 3 => some configureNak
  | 4 => some configureReject
  | 5 => some terminateRequest
  | 6 => some terminateAck
  | 7 => some codeReject
  | _ => none

def asU8 : IpcpCode → UInt8
  | configureRequest => 1
  | configureAck => 2
  | configureNak => 3
  | configureReject => 4
  | terminateRequest => 5
  | terminateAck => 6
  | codeReject => 7

@[simp]
theorem fromU8_asU8 (code : IpcpCode) : fromU8 code.asU8 = some code := by
  cases code <;> rfl

theorem asU8_injective : Function.Injective asU8 := by
  intro first second equal
  have decoded := congrArg fromU8 equal
  rwa [fromU8_asU8, fromU8_asU8, Option.some.injEq] at decoded

theorem eq_asU8_of_fromU8 {value : UInt8} {code : IpcpCode} (decoded : fromU8 value = some code) :
    value = code.asU8 := by
  unfold fromU8 at decoded
  split at decoded <;> cases decoded <;>
    · apply UInt8.toNat_inj.mp
      assumption

end IpcpCode

/-- IPCP option types, with the DNS and NBNS extensions. -/
inductive IpcpOptionId where
  | ipCompressionProtocol
  | ipAddress
  | mobileIpv4
  | primaryDns
  | primaryNbns
  | secondaryDns
  | secondaryNbns
  deriving DecidableEq, Repr

namespace IpcpOptionId

def fromU8 (value : UInt8) : Option IpcpOptionId :=
  match value.toNat with
  | 2 => some ipCompressionProtocol
  | 3 => some ipAddress
  | 4 => some mobileIpv4
  | 129 => some primaryDns
  | 130 => some primaryNbns
  | 131 => some secondaryDns
  | 132 => some secondaryNbns
  | _ => none

def asU8 : IpcpOptionId → UInt8
  | ipCompressionProtocol => 2
  | ipAddress => 3
  | mobileIpv4 => 4
  | primaryDns => 129
  | primaryNbns => 130
  | secondaryDns => 131
  | secondaryNbns => 132

@[simp]
theorem fromU8_asU8 (option : IpcpOptionId) :
    fromU8 option.asU8 = some option := by
  cases option <;> rfl

end IpcpOptionId

/-- Errors of the option value decoder. -/
inductive IpcpError where
  | badOptionLength (expected actual : Nat)
  deriving DecidableEq, Repr

/-- Length of an address-bearing option value. -/
def ipv4OptionValueLen : Nat := 4

/-- Full size of an address-bearing option on the wire. -/
def ipv4OptionTotalLen : Nat := 2 + ipv4OptionValueLen

/-- Read the address of an option value of exactly four bytes. -/
def readIpv4Value (value : Bytes) : Except IpcpError Ipv4 :=
  if sized : value.length = ipv4OptionValueLen then
    .ok ⟨value, sized⟩
  else
    .error (.badOptionLength ipv4OptionValueLen value.length)

/-- Encode an address-bearing option. -/
def writeIpv4Option (optionType : UInt8) (addr : Ipv4) : Bytes :=
  optionType :: UInt8.ofNat ipv4OptionTotalLen :: addr.toList

@[simp]
theorem length_writeIpv4Option (optionType : UInt8) (addr : Ipv4) :
    (writeIpv4Option optionType addr).length = ipv4OptionTotalLen := by
  simp [writeIpv4Option, ipv4OptionTotalLen, ipv4OptionValueLen]

theorem readIpv4Value_eq_ok_iff {value : Bytes} {addr : Ipv4} :
    readIpv4Value value = .ok addr ↔ value = addr.toList := by
  unfold readIpv4Value
  constructor
  · intro read
    split at read
    · cases read
      rfl
    · cases read
  · rintro rfl
    rw [dif_pos (by simp [ipv4OptionValueLen])]
    rfl

end SstpServer.Ppp
