import SstpServer.Sstp.Message
import SstpServer.Sstp.Stream

/-!
# Reassembly of packets

The packet loop of the session task takes two parse errors as a request for more bytes.
The parser of control bodies uses one of them for a body without a message type, so a
control packet that is too short for one is waited for although all of it is there.
-/

namespace SstpServer.Sstp

open SstpServer.Wire
open SstpServer.Iteration

/-- What the packet loop does with the head of the read buffer. -/
inductive Verdict where
  | wait
  | stop
  | data (payload : Bytes) (used : Nat)
  | control (message : ControlMessage) (used : Nat)
  deriving DecidableEq

/-- The verdict of the packet loop. -/
def verdict (buf : Bytes) : Verdict :=
  match Packet.parse buf with
  | .error .truncated | .error (.lengthMismatch _ _) => .wait
  | .error _ => .stop
  | .ok (.data payload, used) => .data payload used
  | .ok (.control packet, used) =>
      match parseControl packet with
      | .error _ => .stop
      | .ok message => .control message used

/-- The parser asks for more bytes. -/
def Packet.Waits (buf : Bytes) : Prop :=
  Packet.parse buf = .error .truncated ∨
    ∃ declared available, Packet.parse buf = .error (.lengthMismatch declared available)

theorem verdict_eq_wait_iff {buf : Bytes} : verdict buf = .wait ↔ Packet.Waits buf := by
  unfold verdict Packet.Waits
  cases Packet.parse buf with
  | error error => cases error <;> simp
  | ok parsed =>
      rcases parsed with ⟨packet, used⟩
      cases packet with
      | data payload => simp
      | control packet =>
          dsimp only
          cases parseControl packet <;> simp

/-! ## Headers and bodies -/

/-- The verdict on a whole packet. -/
def bodyVerdict (flags : UInt8) (body : Bytes) (used : Nat) : Verdict :=
  if flags.toNat % 2 = 1 then
    if body.length < sstpControlExtraLen then .wait
    else
      match parseControlPayload body with
      | .error _ => .stop
      | .ok message => .control message used
  else .data body used

theorem ControlPacket.parseBody_of_short {body : Bytes}
    (short : body.length < sstpControlExtraLen) :
    ControlPacket.parseBody body = .error .truncated := by
  match body with
  | typeHigh :: typeLow :: countHigh :: countLow :: attrs =>
      simp only [sstpControlExtraLen, List.length_cons] at short
      omega
  | [] | [_] | [_, _] | [_, _, _] => rfl

theorem ControlPacket.parseBody_of_long {body : Bytes}
    (long : ¬body.length < sstpControlExtraLen) :
    (∃ value, ControlPacket.parseBody body = .error (.unknownMessageType value)) ∨
      ∃ packet, ControlPacket.parseBody body = .ok packet := by
  match body with
  | typeHigh :: typeLow :: countHigh :: countLow :: attrs =>
      cases known : MessageType.fromU16 (be16 typeHigh typeLow) with
      | none =>
          left
          exact ⟨be16 typeHigh typeLow, by simp only [ControlPacket.parseBody, known]⟩
      | some msgType =>
          right
          exact ⟨⟨msgType, be16 countHigh countLow, attrs⟩,
            by simp only [ControlPacket.parseBody, known]⟩
  | [] | [_] | [_, _] | [_, _, _] => simp [sstpControlExtraLen] at long

theorem Packet.parse_of_framed {buf : Bytes} {used : Nat} (framed : Packet.Framed buf used) :
    Packet.parse buf =
      (Packet.ofBody (buf.getD 1 0) (slice buf sstpHeaderLen used)).map (·, used) := by
  match buf with
  | version :: flags :: high :: low :: rest =>
      rcases framed with ⟨version10, rfl, header, complete⟩
      rw [lengthField_cons] at header complete ⊢
      have isVersion : version = sstpVersion10 := version10
      simp only [Packet.parse]
      rw [if_neg (not_not.mpr isVersion), if_neg (Nat.not_lt.mpr header),
        if_neg (Nat.not_lt.mpr complete)]
      rfl
  | [] | [_] | [_, _] | [_, _, _] =>
      have complete := framed.header.trans framed.complete
      simp [sstpHeaderLen] at complete

theorem verdict_of_framed {buf : Bytes} {used : Nat} (framed : Packet.Framed buf used) :
    verdict buf = bodyVerdict (buf.getD 1 0) (slice buf sstpHeaderLen used) used := by
  unfold verdict bodyVerdict
  rw [Packet.parse_of_framed framed, Packet.ofBody]
  split_ifs with control short
  · rw [ControlPacket.parseBody_of_short short]
    rfl
  · unfold parseControlPayload
    rcases ControlPacket.parseBody_of_long short with ⟨value, parsed⟩ | ⟨packet, parsed⟩
    · rw [parsed]
      rfl
    · rw [parsed]
      rfl
  · rfl

theorem verdict_of_wait {buf : Bytes} (waiting : packetHead buf = .wait) : verdict buf = .wait := by
  match buf with
  | version :: flags :: high :: low :: rest =>
      simp only [packetHead] at waiting
      split_ifs at waiting with broken short
      rcases not_or.mp broken with ⟨isVersion, long⟩
      unfold verdict Packet.parse
      dsimp only
      rw [if_neg isVersion, if_neg long, if_pos short]
  | [] | [_] | [_, _] | [_, _, _] => rfl

theorem verdict_of_bad {buf : Bytes} (broken : packetHead buf = .bad) : verdict buf = .stop := by
  match buf with
  | version :: flags :: high :: low :: rest =>
      simp only [packetHead] at broken
      split_ifs at broken with bad short
      unfold verdict Packet.parse
      dsimp only
      by_cases isVersion : version ≠ sstpVersion10
      · rw [if_pos isVersion]
      · rw [if_neg isVersion, if_pos (bad.resolve_left isVersion)]
  | [] | [_] | [_, _] | [_, _, _] => cases broken

theorem verdict_append_of_framed {buf : Bytes} {used : Nat} (framed : Packet.Framed buf used)
    (more : Bytes) : verdict (buf ++ more) = verdict buf := by
  have first : 1 < buf.length :=
    Nat.lt_of_lt_of_le (by decide) (framed.header.trans framed.complete)
  rw [verdict_of_framed (framed.append more), verdict_of_framed framed, getD_append_of_lt first,
    slice, List.take_append_of_le_length framed.complete, slice]

/-- The verdict on a whole packet does not depend on what follows it. -/
theorem verdict_take_of_framed {buf : Bytes} {used : Nat} (framed : Packet.Framed buf used) :
    verdict (buf.take used) = verdict buf := by
  have kept := verdict_append_of_framed framed.take (buf.drop used)
  rw [List.take_append_drop] at kept
  exact kept.symm

theorem framed_of_verdict {buf : Bytes} {used : Nat}
    (taken : (∃ payload, verdict buf = .data payload used) ∨
      ∃ message, verdict buf = .control message used) : Packet.Framed buf used := by
  unfold verdict at taken
  cases parsed : Packet.parse buf with
  | error error =>
      rw [parsed] at taken
      cases error <;> simp at taken
  | ok result =>
      rcases result with ⟨packet, size⟩
      have framed := (Packet.parse_eq_ok_iff.mp parsed).1
      have sized : size = used := by
        rw [parsed] at taken
        cases packet with
        | data payload => simpa using taken
        | control packet =>
            dsimp only at taken
            cases message : parseControl packet <;> simp [message] at taken
            exact taken
      rw [← sized]
      exact framed

/-- How the packet loop cuts the stream. -/
def taskHead (buf : Bytes) : Head :=
  match verdict buf with
  | .wait => .wait
  | .stop => .bad
  | .data _ used | .control _ used => .frame used

theorem taskHead_eq_frame_iff {buf : Bytes} {used : Nat} :
    taskHead buf = .frame used ↔
      (∃ payload, verdict buf = .data payload used) ∨
        ∃ message, verdict buf = .control message used := by
  unfold taskHead
  cases verdict buf <;> simp

theorem framed_of_taskHead {buf : Bytes} {used : Nat} (head : taskHead buf = .frame used) :
    Packet.Framed buf used :=
  framed_of_verdict (taskHead_eq_frame_iff.mp head)

theorem taskHead_congr {buf buf' : Bytes} (same : verdict buf = verdict buf') :
    taskHead buf = taskHead buf' := by
  rw [taskHead, same, taskHead]

theorem taskHead_eq_bad_iff {buf : Bytes} : taskHead buf = .bad ↔ verdict buf = .stop := by
  unfold taskHead
  cases verdict buf <;> simp

theorem taskHead_eq_wait_iff {buf : Bytes} : taskHead buf = .wait ↔ verdict buf = .wait := by
  unfold taskHead
  cases verdict buf <;> simp

/-- The packets that the loop takes off the stream. -/
def taskFraming : Framing UInt8 where
  head := taskHead
  positive head := Nat.lt_of_lt_of_le (by decide) (framed_of_taskHead head).header
  complete head := (framed_of_taskHead head).complete
  frame_take {buf size} head := by
    rw [taskHead_congr (verdict_take_of_framed (framed_of_taskHead head))]
    exact head
  frame_append {buf size} head more := by
    rw [taskHead_congr (verdict_append_of_framed (framed_of_taskHead head) more)]
    exact head
  bad_append {buf} bad more := by
    rw [taskHead_eq_bad_iff] at bad ⊢
    cases head : packetHead buf with
    | wait => cases bad.symm.trans (verdict_of_wait head)
    | bad => exact verdict_of_bad (sstpFraming.bad_append head more)
    | frame size =>
        rw [verdict_append_of_framed (packetHead_eq_frame_iff.mp head) more]
        exact bad

/-! ## Packets that are waited for in vain -/

/-- The header of a control packet that has no room for a message type. -/
structure Wedged (buf : Bytes) : Prop where
  header : sstpHeaderLen ≤ buf.length
  version : buf.getD 0 0 = sstpVersion10
  control : (buf.getD 1 0).toNat % 2 = 1
  least : sstpHeaderLen ≤ lengthField buf
  short : lengthField buf < sstpHeaderLen + sstpControlExtraLen

instance (buf : Bytes) : Decidable (Wedged buf) :=
  decidable_of_iff
    (sstpHeaderLen ≤ buf.length ∧ buf.getD 0 0 = sstpVersion10 ∧ (buf.getD 1 0).toNat % 2 = 1 ∧
      sstpHeaderLen ≤ lengthField buf ∧ lengthField buf < sstpHeaderLen + sstpControlExtraLen)
    ⟨fun ⟨header, version, control, least, short⟩ => ⟨header, version, control, least, short⟩,
      fun wedged => ⟨wedged.1, wedged.2, wedged.3, wedged.4, wedged.5⟩⟩

theorem bodyVerdict_eq_wait_iff {flags : UInt8} {body : Bytes} {used : Nat} :
    bodyVerdict flags body used = .wait ↔
      flags.toNat % 2 = 1 ∧ body.length < sstpControlExtraLen := by
  unfold bodyVerdict
  split_ifs with control short
  · simp [control, short]
  · cases parseControlPayload body <;> simp [control, short]
  · simp [control]

theorem Wedged.append {buf : Bytes} (wedged : Wedged buf) (more : Bytes) : Wedged (buf ++ more) := by
  have header := wedged.header
  have first : 1 < buf.length := Nat.lt_of_lt_of_le (by decide) header
  constructor
  · rw [List.length_append]
    exact header.trans (Nat.le_add_right _ _)
  · rw [getD_append_of_lt (Nat.lt_of_succ_lt first)]
    exact wedged.version
  · rw [getD_append_of_lt first]
    exact wedged.control
  · rw [lengthField_append header]
    exact wedged.least
  · rw [lengthField_append header]
    exact wedged.short

theorem Wedged.waits {buf : Bytes} (wedged : Wedged buf) : Packet.Waits buf := by
  rw [← verdict_eq_wait_iff]
  cases head : packetHead buf with
  | wait => exact verdict_of_wait head
  | bad =>
      rcases (packetHead_eq_bad_iff.mp head).2 with other | small
      · exact (other wedged.version).elim
      · exact (Nat.not_lt.mpr wedged.least small).elim
  | frame size =>
      have framed := packetHead_eq_frame_iff.mp head
      have short := wedged.short
      rw [framed.length] at short
      rw [verdict_of_framed framed, bodyVerdict_eq_wait_iff, length_slice_of_le framed.complete]
      exact ⟨wedged.control, by have := framed.header; omega⟩

/-- A whole packet that is waited for is a control packet without room for a type. -/
theorem Packet.Framed.wedged_iff {buf : Bytes} {used : Nat} (framed : Packet.Framed buf used) :
    Wedged buf ↔ Packet.Waits buf := by
  constructor
  · exact Wedged.waits
  · intro waits
    have header := framed.header
    rw [← verdict_eq_wait_iff, verdict_of_framed framed, bodyVerdict_eq_wait_iff,
      length_slice_of_le framed.complete] at waits
    exact ⟨header.trans framed.complete, framed.version, waits.1, framed.length.symm ▸ header,
      by rw [framed.length]; omega⟩

/-- Bytes that complete every packet. -/
def padding : Bytes :=
  List.replicate (sstpMaxPacketLen + 1) 0

theorem packetHead_padding_ne_wait (buf : Bytes) : packetHead (buf ++ padding) ≠ .wait := by
  intro waiting
  have short := length_lt_of_packetHead_eq_wait waiting
  rw [List.length_append, padding, List.length_replicate] at short
  omega

/-- Zeros behind an incomplete header never make it that of a short control packet. -/
theorem wedged_of_padding {buf : Bytes} (wedged : Wedged (buf ++ padding)) : Wedged buf := by
  by_cases header : sstpHeaderLen ≤ buf.length
  · have first : 1 < buf.length := Nat.lt_of_lt_of_le (by decide) header
    rcases wedged with ⟨-, version, control, least, short⟩
    rw [getD_append_of_lt (Nat.lt_of_succ_lt first)] at version
    rw [getD_append_of_lt first] at control
    rw [lengthField_append header] at least short
    exact ⟨header, version, control, least, short⟩
  · -- The last byte of the Length is a zero, so the Length is a multiple of 256.
    have low : (buf ++ padding).getD 3 0 = 0 := by
      have bound : buf.length ≤ 3 := by
        unfold sstpHeaderLen at header
        omega
      simp only [List.getD_eq_getElem?_getD, List.getElem?_append_right bound, padding]
      rw [List.getElem?_replicate]
      split_ifs <;> rfl
    have least := wedged.least
    have short := wedged.short
    simp only [lengthField, low, be16, sstpMaxPacketLen, sstpHeaderLen, sstpControlExtraLen]
      at least short
    simp at least short
    omega

/-- A buffer that is waited for can be completed to one that is not, exactly when it does
not start with the header of a short control packet. -/
theorem extends_iff (buf : Bytes) :
    (Packet.Waits buf → ∃ more, ¬Packet.Waits (buf ++ more)) ↔ ¬Wedged buf := by
  constructor
  · intro extensible wedged
    rcases extensible wedged.waits with ⟨more, decided⟩
    exact decided (wedged.append more).waits
  · intro other _
    refine ⟨padding, fun waits => ?_⟩
    cases head : packetHead (buf ++ padding) with
    | wait => exact packetHead_padding_ne_wait buf head
    | bad =>
        rw [← verdict_eq_wait_iff, verdict_of_bad head] at waits
        cases waits
    | frame size =>
        have framed := packetHead_eq_frame_iff.mp head
        exact other (wedged_of_padding (framed.wedged_iff.mpr waits))

end SstpServer.Sstp
