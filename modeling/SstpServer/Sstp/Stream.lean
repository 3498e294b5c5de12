import SstpServer.Iteration.Framing
import SstpServer.Sstp.Frame

/-!
# Streams of SSTP packets

The header of a packet declares its size, so a stream is cut into packets by its headers
alone.  A header with another version, or with a Length below its own size, leaves no
way to go on.
-/

namespace SstpServer.Sstp

open SstpServer.Wire
open SstpServer.Iteration

/-- What the header at the head of a buffer says. -/
def packetHead (buf : Bytes) : Head :=
  match buf with
  | version :: _ :: high :: low :: _ =>
      let length := be16 high low % (sstpMaxPacketLen + 1)
      if version ≠ sstpVersion10 ∨ length < sstpHeaderLen then .bad
      else if buf.length < length then .wait
      else .frame length
  | _ => .wait

theorem packetHead_eq_frame_iff {buf : Bytes} {size : Nat} :
    packetHead buf = .frame size ↔ Packet.Framed buf size := by
  match buf with
  | version :: flags :: high :: low :: rest =>
      have length := lengthField_cons version flags high low rest
      constructor
      · intro verdict
        simp only [packetHead] at verdict
        split_ifs at verdict with broken short
        obtain ⟨isVersion, long⟩ := not_or.mp broken
        cases verdict
        exact ⟨not_not.mp isVersion, length, Nat.le_of_not_lt long, Nat.le_of_not_lt short⟩
      · rintro ⟨version10, rfl, header, complete⟩
        rw [length] at header complete ⊢
        have sound : ¬(version ≠ sstpVersion10 ∨
            be16 high low % (sstpMaxPacketLen + 1) < sstpHeaderLen) :=
          not_or.mpr ⟨not_not.mpr version10, Nat.not_lt.mpr header⟩
        simp only [packetHead]
        rw [if_neg sound, if_neg (Nat.not_lt.mpr complete)]
  | [] | [_] | [_, _] | [_, _, _] =>
      constructor
      · intro verdict
        cases verdict
      · intro framed
        have complete := framed.complete
        have header := framed.header
        simp [sstpHeaderLen] at complete header
        omega

theorem packetHead_eq_bad_iff {buf : Bytes} :
    packetHead buf = .bad ↔
      sstpHeaderLen ≤ buf.length ∧
        (buf.getD 0 0 ≠ sstpVersion10 ∨ lengthField buf < sstpHeaderLen) := by
  match buf with
  | version :: flags :: high :: low :: rest =>
      have header : sstpHeaderLen ≤ (version :: flags :: high :: low :: rest).length :=
        Nat.le_add_left _ _
      have split : packetHead (version :: flags :: high :: low :: rest) = .bad ↔
          (version ≠ sstpVersion10 ∨
            be16 high low % (sstpMaxPacketLen + 1) < sstpHeaderLen) := by
        simp only [packetHead]
        split_ifs with broken short <;> simp [broken]
      exact split.trans ⟨fun broken => ⟨header, broken⟩, And.right⟩
  | [] | [_] | [_, _] | [_, _, _] => simp [packetHead, sstpHeaderLen]

/-- A buffer that waits is shorter than the largest packet. -/
theorem length_lt_of_packetHead_eq_wait {buf : Bytes} (waiting : packetHead buf = .wait) :
    buf.length < sstpMaxPacketLen := by
  match buf with
  | version :: flags :: high :: low :: rest =>
      have bound : be16 high low % (sstpMaxPacketLen + 1) < sstpMaxPacketLen + 1 :=
        Nat.mod_lt _ (Nat.succ_pos _)
      simp only [packetHead] at waiting
      split_ifs at waiting with broken short
      omega
  | [] | [_] | [_, _] | [_, _, _] => simp [sstpMaxPacketLen]

/-- A buffer with a whole header and all the bytes it declares does not wait. -/
theorem packetHead_ne_wait {buf : Bytes} (header : sstpHeaderLen ≤ buf.length)
    (complete : lengthField buf ≤ buf.length) : packetHead buf ≠ .wait := by
  rcases buf with _ | ⟨version, _ | ⟨flags, _ | ⟨high, _ | ⟨low, rest⟩⟩⟩⟩
  case cons.cons.cons.cons =>
    intro waiting
    rw [lengthField_cons] at complete
    simp only [packetHead] at waiting
    split_ifs at waiting with broken short
    exact Nat.not_lt.mpr complete short
  all_goals simp [sstpHeaderLen] at header

/-! ## More bytes behind a header -/

theorem getD_append_of_lt {bytes : Bytes} {offset : Nat} (bound : offset < bytes.length)
    (more : Bytes) : (bytes ++ more).getD offset 0 = bytes.getD offset 0 := by
  simp only [List.getD_eq_getElem?_getD, List.getElem?_append_left bound]

theorem lengthField_append {bytes : Bytes} (header : sstpHeaderLen ≤ bytes.length)
    (more : Bytes) : lengthField (bytes ++ more) = lengthField bytes := by
  unfold sstpHeaderLen at header
  rw [lengthField, lengthField, getD_append_of_lt (by omega), getD_append_of_lt (by omega)]

theorem Packet.Framed.append {buf : Bytes} {size : Nat} (framed : Packet.Framed buf size)
    (more : Bytes) : Packet.Framed (buf ++ more) size := by
  have header : sstpHeaderLen ≤ buf.length := framed.header.trans framed.complete
  refine ⟨?_, ?_, framed.header, ?_⟩
  · rw [getD_append_of_lt (Nat.lt_of_lt_of_le (by decide) header)]
    exact framed.version
  · rw [lengthField_append header]
    exact framed.length
  · rw [List.length_append]
    exact framed.complete.trans (Nat.le_add_right _ _)

theorem Packet.Framed.take {buf : Bytes} {size : Nat} (framed : Packet.Framed buf size) :
    Packet.Framed (buf.take size) size := by
  have sized : (buf.take size).length = size := by
    rw [List.length_take, Nat.min_eq_left framed.complete]
  have header : sstpHeaderLen ≤ (buf.take size).length := sized.symm ▸ framed.header
  refine ⟨?_, ?_, framed.header, sized.ge⟩
  · rw [← getD_append_of_lt (Nat.lt_of_lt_of_le (by decide) header) (buf.drop size),
      List.take_append_drop]
    exact framed.version
  · rw [← lengthField_append header (buf.drop size), List.take_append_drop]
    exact framed.length

/-- How a stream is cut into SSTP packets. -/
def sstpFraming : Framing UInt8 where
  head := packetHead
  positive verdict := by
    have header := (packetHead_eq_frame_iff.mp verdict).header
    exact Nat.lt_of_lt_of_le (by decide) header
  complete verdict := (packetHead_eq_frame_iff.mp verdict).complete
  frame_take verdict := packetHead_eq_frame_iff.mpr (packetHead_eq_frame_iff.mp verdict).take
  frame_append verdict more :=
    packetHead_eq_frame_iff.mpr ((packetHead_eq_frame_iff.mp verdict).append more)
  bad_append {buf} verdict more := by
    obtain ⟨header, broken⟩ := packetHead_eq_bad_iff.mp verdict
    refine packetHead_eq_bad_iff.mpr ⟨?_, ?_⟩
    · rw [List.length_append]
      exact header.trans (Nat.le_add_right _ _)
    · rw [getD_append_of_lt (Nat.lt_of_lt_of_le (by decide) header), lengthField_append header]
      exact broken

theorem head_eq_frame_iff {buf : Bytes} {size : Nat} :
    sstpFraming.head buf = .frame size ↔ Packet.Framed buf size :=
  packetHead_eq_frame_iff

/-- The parser takes the packet the framing cuts off. -/
theorem head_of_parse {buf : Bytes} {packet : Packet} {used : Nat}
    (parsed : Packet.parse buf = .ok (packet, used)) : sstpFraming.head buf = .frame used :=
  head_eq_frame_iff.mpr (Packet.parse_eq_ok_iff.mp parsed).1

end SstpServer.Sstp
