import SstpServer.Kmod.Demux
import SstpServer.Session.Work

/-!
# The binding message of the two data paths

The Compound MAC of a Call-Connected covers the whole packet.  The session task that reads
from TLS takes the packet as it came.  The kernel module strips the header, so the task
behind it writes a new one, with the reserved bits clear; what the peer had put into them
is lost.
-/

namespace SstpServer.Session

open SstpServer.Wire
open SstpServer.Sstp
open SstpServer.Kmod

/-- The reserved bits of the flag byte and of the Length field are clear. -/
def ReservedClear (buf : Bytes) : Prop :=
  buf.getD 1 0 = 1 ∧ (buf.getD 2 0).toNat < 16

instance (buf : Bytes) : Decidable (ReservedClear buf) :=
  inferInstanceAs (Decidable (_ ∧ _))

/-- Four bytes or more are a header and the rest. -/
theorem eq_cons_drop {buf : Bytes} (header : sstpHeaderLen ≤ buf.length) :
    buf = buf.getD 0 0 :: buf.getD 1 0 :: buf.getD 2 0 :: buf.getD 3 0 ::
      buf.drop sstpHeaderLen := by
  match buf with
  | _ :: _ :: _ :: _ :: _ => rfl
  | [] | [_] | [_, _] | [_, _, _] =>
      simp [sstpHeaderLen] at header

/-- A Call-Connected is its header and what the module hands up.  The header is free in the
reserved bits only. -/
theorem exists_eq_header_append {buf : Bytes} (layout : IsCallConnected buf) :
    ∃ flags high, buf = sstpVersion10 :: flags :: high :: 112 :: buf.drop sstpHeaderLen ∧
      flags.toNat % 2 = 1 ∧ high.toNat % 16 = 0 := by
  have total := layout.length
  have lowBound := (buf.getD 3 0).toNat_lt
  unfold be16 callConnectedLen at total
  have low : buf.getD 3 0 = 112 := by
    apply UInt8.toNat_inj.mp
    show (buf.getD 3 0).toNat = 112
    omega
  refine ⟨buf.getD 1 0, buf.getD 2 0, ?_, layout.control, by omega⟩
  have parts := eq_cons_drop (Nat.le_trans (by decide) layout.complete)
  rwa [layout.version, low] at parts

/-- The rebuilt packet is the one that came exactly when its reserved bits were clear. -/
theorem kernelPacket_drop_eq_iff {buf : Bytes} (layout : IsCallConnected buf) :
    kernelPacket (buf.drop sstpHeaderLen) = buf ↔ ReservedClear buf := by
  obtain ⟨flags, high, parts, odd, aligned⟩ := exists_eq_header_append layout
  have header : writeHeader true callConnectedLen = [sstpVersion10, 1, 0, 112] := by decide
  generalize buf.drop sstpHeaderLen = payload at parts ⊢
  subst parts
  rw [kernelPacket, header]
  have flag : ReservedClear (sstpVersion10 :: flags :: high :: 112 :: payload) ↔
      flags = 1 ∧ high.toNat < 16 := Iff.rfl
  have zero : high.toNat < 16 ↔ high = 0 := by
    rw [← UInt8.toNat_inj]
    show high.toNat < 16 ↔ high.toNat = 0
    omega
  rw [flag, zero]
  simp [eq_comm]

/-- Zeroing the MAC keeps a header apart from another one. -/
theorem zeroedMac_header_inj {first second payload : Bytes}
    (firstSized : first.length = sstpHeaderLen) (secondSized : second.length = sstpHeaderLen) :
    zeroedMac (first ++ payload) = zeroedMac (second ++ payload) ↔ first = second := by
  have headers : ∀ header : Bytes, header.length = sstpHeaderLen →
      (zeroedMac (header ++ payload)).take sstpHeaderLen = header := by
    intro header sized
    have room : sstpHeaderLen ≤ (slice (header ++ payload) 0 80).length := by
      rw [length_slice, List.length_append, sized]
      unfold sstpHeaderLen
      omega
    rw [zeroedMac, List.take_append_of_le_length room, slice, List.drop_zero, List.take_take,
      Nat.min_eq_left (by decide), ← sized, List.take_left]
  constructor
  · intro same
    rw [← headers first firstSized, same, headers second secondSized]
  · rintro rfl
    rfl

/-- The two binding messages are the same exactly when the reserved bits were clear. -/
theorem zeroedMac_kernelPacket_eq_iff {buf : Bytes} (layout : IsCallConnected buf) :
    zeroedMac (kernelPacket (buf.drop sstpHeaderLen)) = zeroedMac buf ↔ ReservedClear buf := by
  rw [← kernelPacket_drop_eq_iff layout]
  obtain ⟨flags, high, parts, -, -⟩ := exists_eq_header_append layout
  generalize buf.drop sstpHeaderLen = payload at parts ⊢
  subst parts
  have split : sstpVersion10 :: flags :: high :: 112 :: payload =
      [sstpVersion10, flags, high, 112] ++ payload := rfl
  rw [split, kernelPacket, zeroedMac_header_inj rfl rfl, List.append_left_inj]

/-! ## The handlers -/

/-- The module hands the binding up unchanged. -/
theorem parseControlPayload_drop {buf : Bytes} {binding : CryptoBinding}
    (sized : buf.length = callConnectedLen) (carries : Carries buf (.callConnected binding)) :
    parseControlPayload (buf.drop sstpHeaderLen) = .ok (.callConnected binding) := by
  have layout := (carries_callConnected_iff.mp carries).1
  obtain ⟨packet, used, parsed, decoded⟩ := carries
  obtain ⟨framed, content⟩ := Packet.parse_eq_ok_iff.mp parsed
  obtain ⟨-, body⟩ := Packet.ofBody_eq_control_iff.mp content
  have full : used = buf.length := by
    rw [← framed.length, sized]
    exact layout.length
  rw [slice, full, List.take_length] at body
  rw [parseControlPayload, body]
  exact decoded

theorem ofPacket_of_isCallConnected {buf : Bytes} (layout : IsCallConnected buf) :
    RxFrame.ofPacket buf = .control (buf.drop sstpHeaderLen) := by
  have odd := layout.control
  exact if_neg (by omega)

/-- What follows a Call-Connected in the read buffer is not part of its message. -/
theorem zeroedMac_append {buf : Bytes} (complete : callConnectedLen ≤ buf.length)
    (later : Bytes) : zeroedMac (buf ++ later) = zeroedMac buf := by
  unfold callConnectedLen at complete
  rw [zeroedMac, zeroedMac, slice, slice, List.take_append_of_le_length (by omega)]

/-- A Call-Connected of the regular size reaches the session on both paths with the same
binding.  The message that its MAC is checked against is the same, and both handlers do the
same with it, exactly when the reserved bits of its header were clear. -/
theorem bindingMessage_eq_iff {buf : Bytes} {binding : CryptoBinding}
    (sized : buf.length = callConnectedLen) (carries : Carries buf (.callConnected binding)) :
    RxFrame.ofPacket buf = .control (buf.drop sstpHeaderLen) ∧
      parseControlPayload (buf.drop sstpHeaderLen) = .ok (.callConnected binding) ∧
      (zeroedMac (kernelPacket (buf.drop sstpHeaderLen)) = zeroedMac buf ∧
          (∀ (config : Config) (env : Env) (later : Bytes) (s : Session),
            s.rxBuf = buf ++ later →
              s.onKernelControl config env (buf.drop sstpHeaderLen) =
                s.onControl config env (.callConnected binding)) ↔
        ReservedClear buf) := by
  have layout := (carries_callConnected_iff.mp carries).1
  have payload := parseControlPayload_drop sized carries
  refine ⟨ofPacket_of_isCallConnected layout, payload, ?_⟩
  rw [zeroedMac_kernelPacket_eq_iff layout]
  constructor
  · exact And.left
  · intro clear
    refine ⟨clear, fun config env later s head => ?_⟩
    have same := (zeroedMac_kernelPacket_eq_iff layout).mpr clear
    have length : (buf.drop sstpHeaderLen).length + sstpHeaderLen = callConnectedLen := by
      rw [List.length_drop, sized]
      rfl
    unfold kernelPacket at same
    simp only [Session.onKernelControl, payload, if_neg (not_not.mpr length), same,
      Session.onControl, dispatchControl, head, zeroedMac_append layout.complete]

theorem bindingMessage_eq_zeroCallConnected :
    zeroCallConnected.length = callConnectedLen ∧
      zeroedMac (kernelPacket (zeroCallConnected.drop sstpHeaderLen)) =
        zeroedMac zeroCallConnected := by
  have sized : zeroCallConnected.length = callConnectedLen := by decide
  have layout : IsCallConnected zeroCallConnected :=
    ⟨by decide, by decide, by decide, by decide, by decide, by decide, by decide⟩
  have carries := carries_callConnected_iff.mpr ⟨layout, rfl⟩
  exact ⟨sized, ((bindingMessage_eq_iff sized carries).2.2.mpr (by decide)).1⟩

/-! ## A reserved bit -/

/-- A MAC that tells a message with the flag byte 3 from all others. -/
def flagCrypto : Crypto where
  hmacSha1 _ _ := Block.zero 20
  hmacSha256 _ message :=
    if message.getD 1 0 = 3 then Block.zero 32 else List.Vector.replicate 32 1
  prfPlusSha1Cmk _ _ := Block.zero 20
  prfPlusSha256Cmk _ _ := Block.zero 32

/-- A Call-Connected with a reserved bit set in the flag byte, whose MAC is right. -/
def reservedCallConnected : Bytes :=
  [sstpVersion10, 3, 0, 112] ++ zeroCallConnected.drop sstpHeaderLen

/-- The task behind TLS accepts it and the task behind the module aborts the call. -/
theorem not_same_reservedCallConnected :
    let ssm := machineAfter flagCrypto (Block.zero 20) (Block.zero 32) acceptedRequest
    let binding := CryptoBinding.ofValue (slice reservedCallConnected 12 112)
    let payload := reservedCallConnected.drop sstpHeaderLen
    reservedCallConnected.length = callConnectedLen ∧
      Carries reservedCallConnected (.callConnected binding) ∧
      zeroedMac (kernelPacket payload) ≠ zeroedMac reservedCallConnected ∧
      (ssm.verifyCallConnected flagCrypto binding (zeroedMac reservedCallConnected)).2.state =
        .serverCallConnected ∧
      (ssm.verifyCallConnected flagCrypto binding (zeroedMac (kernelPacket payload))).2.state ≠
        .serverCallConnected := by
  have layout : IsCallConnected reservedCallConnected :=
    ⟨by decide, by decide, by decide, by decide, by decide, by decide, by decide⟩
  refine ⟨by decide, carries_callConnected_iff.mpr ⟨layout, rfl⟩, ?_, by decide, by decide⟩
  rw [Ne, zeroedMac_kernelPacket_eq_iff layout]
  decide

end SstpServer.Session
