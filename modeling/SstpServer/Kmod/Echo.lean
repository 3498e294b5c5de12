import SstpServer.Kmod.Transmit
import SstpServer.Session.Transmit

/-!
# Echo-Replies of the kernel module and of the driver

While the session task owns the link, the driver answers an LCP Echo-Request; after the
handover the kernel module does.  The driver decodes the packet, keeps its data and encodes
a new packet, whereas the module copies the request and overwrites its code and magic
number.  Both leave the same bytes on the wire.
-/

namespace SstpServer.Kmod

open SstpServer.Wire
open SstpServer.Sstp
open SstpServer.Ppp
open SstpServer.Session
open SstpServer.Transition

/-- Largest LCP packet that fits a data packet, behind the address, control and protocol
fields. -/
def maxLcpLen : Nat := sstpMaxPacketLen - sstpHeaderLen - 4

/-- The payload of a data packet is an Echo-Request with a magic number, whose Length is
within the payload, and whose reply fits a data packet. -/
structure EchoRequest (payload : Bytes) where
  identifier : UInt8
  high : UInt8
  low : UInt8
  /-- The magic number, the data and any padding. -/
  rest : Bytes
  stripped : stripAllStations payload = 0xC0 :: 0x21 :: 9 :: identifier :: high :: low :: rest
  magic : 8 ≤ be16 high low
  present : be16 high low ≤ 4 + rest.length
  fits : be16 high low ≤ maxLcpLen

namespace EchoRequest

variable {payload : Bytes} (echo : EchoRequest payload)

/-- The data of the request past its magic number. -/
def data : Bytes :=
  (echo.rest.take (be16 echo.high echo.low - 4)).drop 4

theorem length_data : echo.data.length + 8 = be16 echo.high echo.low := by
  have magic := echo.magic
  have present := echo.present
  simp only [data, List.length_drop, List.length_take]
  omega

/-- The reply as it stands behind the address and control fields. -/
def reply : Bytes :=
  [0xC0, 0x21, 10, echo.identifier, echo.high, echo.low, 0, 0, 0, 0] ++ echo.data

theorem length_reply : echo.reply.length = be16 echo.high echo.low + 2 := by
  have sized := echo.length_data
  simp only [reply, List.length_append, List.length_cons, List.length_nil]
  omega

end EchoRequest

/-! ## The kernel module -/

theorem stripAllStations_eq (payload : Bytes) :
    stripAllStations payload = stripAddressControl payload := by
  match payload with
  | [] | [_] => rfl
  | _ :: _ :: _ => rfl

/-- The module answers with the reply. -/
theorem lcpEchoReply_of_echoRequest {payload : Bytes} (echo : EchoRequest payload) :
    lcpEchoReply (stripAllStations payload) = some echo.reply := by
  obtain ⟨identifier, high, low, rest, stripped, magic, present, fits⟩ := echo
  rw [stripped]
  match rest with
  | first :: second :: third :: fourth :: data =>
      simp only [List.length_cons] at present
      simp only [lcpEchoReply]
      rw [if_neg (by decide), if_neg (by simp only [List.length_cons]; omega)]
      obtain ⟨extra, extraEq⟩ := Nat.exists_eq_add_of_le magic
      simp [EchoRequest.reply, EchoRequest.data, extraEq, Nat.add_comm 8]
  | [] | [_] | [_, _] | [_, _, _] =>
      simp only [List.length_cons, List.length_nil] at present
      omega

/-! ## The driver -/

/-- The driver decodes the request up to its Length. -/
theorem packetOf_of_echoRequest {payload : Bytes} (echo : EchoRequest payload)
    (random : Block 16) :
    ∃ info, packetOf .lcp ⟨.frame payload, random⟩ = some info ∧
      decodeLcpPacket info = .ok ⟨LcpCode.echoRequest.asU8, echo.identifier,
        echo.rest.take (be16 echo.high echo.low - 4)⟩ := by
  obtain ⟨identifier, high, low, rest, stripped, magic, present, fits⟩ := echo
  rw [stripAllStations_eq] at stripped
  have framed : decodeFrame payload =
      .ok ⟨ProtocolId.lcp.asU16, 9 :: identifier :: high :: low :: rest⟩ := by
    rw [decodeFrame, stripped]
    rfl
  refine ⟨_, packetOf_eq_some_iff.mpr ⟨payload, rfl, framed⟩, ?_⟩
  obtain ⟨extra, extraEq⟩ := Nat.exists_eq_add_of_le magic
  have small : ¬be16 high low < lcpHeaderLen := by
    unfold lcpHeaderLen
    omega
  have short : ¬(9 :: identifier :: high :: low :: rest).length < be16 high low := by
    simp only [List.length_cons]
    omega
  simp only [decodeLcpPacket, if_neg small, if_neg short]
  simp [slice, lcpHeaderLen, extraEq, Nat.add_comm]
  rfl

/-- An opened automaton asks for an Echo-Reply and nothing else. -/
theorem step_rcvEcho {fsm : Fsm} (opened : fsm.state = .opened) :
    (fsm.step .rcvEcho).1 = { newState := .opened, send := some .echoReply } := by
  rcases fsm with ⟨state⟩
  cases opened
  rfl

/-- The reply as the driver encodes it: its Length is that of the request. -/
theorem encodeLcpFrame_reply {payload : Bytes} (echo : EchoRequest payload) :
    encodeLcpFrame .echoReply echo.identifier ([0, 0, 0, 0] ++ echo.data) =
      [0xFF, 0x03] ++ echo.reply := by
  have sized : lcpHeaderLen + ([0, 0, 0, 0] ++ echo.data).length = be16 echo.high echo.low := by
    have data := echo.length_data
    simp only [lcpHeaderLen, List.length_append, List.length_cons, List.length_nil]
    omega
  rw [encodeLcpFrame, encodeProtocolPacket, sized, writeLcpHeader, toBe16_be16]
  rfl

/-- The driver answers with the reply behind the address and control fields. -/
theorem respond_of_echoRequest {payload : Bytes} (echo : EchoRequest payload) {ppp : Ppp}
    (opened : ppp.lcp.fsm.state = .opened) (random : Block 16) :
    (ppp.respond ⟨.frame payload, random⟩).frames = [[0xFF, 0x03] ++ echo.reply] := by
  obtain ⟨info, framed, decoded⟩ := packetOf_of_echoRequest echo random
  let cached : LcpServer :=
    { ppp.lcp with
      lastRxrCode := LcpCode.echoRequest.asU8
      lastEchoId := echo.identifier
      lastEchoData := echo.rest.take (be16 echo.high echo.low - 4) }
  have event : ppp.lcp.eventOf ⟨LcpCode.echoRequest.asU8, echo.identifier,
      echo.rest.take (be16 echo.high echo.low - 4)⟩ = (.rcvEcho, cached) := rfl
  have stepped : (cached.stepTraced .rcvEcho).1 =
      { newState := .opened, send := some .echoReply } := step_rcvEcho opened
  have body : cached.echoBody = [0, 0, 0, 0] ++ echo.data := by
    unfold LcpServer.echoBody EchoRequest.data
    split_ifs with long
    · rfl
    · rw [List.drop_eq_nil_of_le (Nat.le_of_not_lt long)]
  rw [respond, run_lcp framed decoded, event, lcpMove, renderLcpStep_frames, stepped,
    ← encodeLcpFrame_reply echo, ← body]
  rfl

/-! ## Agreement -/

/-- The data packet of a frame behind the address and control fields is what the worker
writes for the rest of it. -/
theorem writePppAsSstpData_eq_encode {skb : Bytes}
    (fits : (TxFrame.data skb).size ≤ sstpMaxPacketLen) :
    writePppAsSstpData ([0xFF, 0x03] ++ skb) = some (TxFrame.data skb).encode := by
  rw [TxFrame.encode, txHeader_eq]
  exact if_pos fits

/-- A frame from a data packet is the one that the module delivers. -/
theorem ofPacket_of_parse {packet payload : Bytes} {used : Nat}
    (parsed : Packet.parse packet = .ok (.data payload, used)) :
    RxFrame.ofPacket (packet.take used) = .data payload := by
  obtain ⟨framed, body⟩ := Packet.parse_eq_ok_iff.mp parsed
  rw [ofPacket_take framed.header]
  unfold Packet.ofBody at body
  split_ifs at body with control
  · cases inner : ControlPacket.parseBody (slice packet sstpHeaderLen used) <;>
      simp [inner, Except.map] at body
  · cases body
    exact if_pos (by omega)

/-- With LCP open in the driver and room in the queue of the module, both answer the
Echo-Request of a data packet, and the packet that the module's worker writes for it is the
one that the session task sends. -/
theorem echoReply_agrees {packet payload : Bytes} {used : Nat}
    (parsed : Packet.parse packet = .ok (.data payload, used)) (echo : EchoRequest payload)
    {ppp : Ppp} (opened : ppp.lcp.fsm.state = .opened) {s : TxSession}
    (running : s.closing = false) (room : s.txQ.length < sstpTxQCap) (random : Block 16)
    {turns : Nat} (enough : s.txQ.length < turns) :
    ∃ frame skb reply,
      (ppp.respond ⟨.frame payload, random⟩).frames = [frame] ∧
      writePppAsSstpData frame = some reply ∧
      RxFrame.ofPacket (packet.take used) = .data payload ∧
      (s.deliverPpp payload).txQ = s.txQ ++ [skb] ∧
      (TxFrame.data skb).encode = reply ∧
      (finalState TxSession.step s
          (.deliverPpp payload :: List.replicate turns (.txWorker .sent))).output =
        s.output ++ (s.txQ.map fun skb => (TxFrame.data skb).encode).flatten ++ reply := by
  have fits : (TxFrame.data echo.reply).size ≤ sstpMaxPacketLen := by
    have bound := echo.fits
    have sized := echo.length_reply
    simp only [TxFrame.size, TxFrame.body, List.length_append, List.length_cons, List.length_nil,
      sstpHeaderLen, sstpMaxPacketLen, maxLcpLen] at bound ⊢
    omega
  have delivered : s.deliverPpp payload = s.enqueue echo.reply := by
    rw [TxSession.deliverPpp, lcpEchoReply_of_echoRequest echo]
    simp only [running, Bool.false_eq_true, if_false, if_neg (Nat.not_le.mpr room)]
  have queued : (s.enqueue echo.reply).txQ.length ≤ turns := by
    rw [TxSession.enqueue, List.length_append, List.length_singleton]
    exact enough
  have drained := written_drained turns (s := s.enqueue echo.reply) running queued
  refine ⟨_, echo.reply, _, respond_of_echoRequest echo opened random,
    writePppAsSstpData_eq_encode fits, ofPacket_of_parse parsed, by rw [delivered]; rfl, rfl, ?_⟩
  have stepped : s.step (.deliverPpp payload) = s.enqueue echo.reply := delivered
  rw [finalState_cons, stepped, TxSession.output, drained]
  simp [TxSession.enqueue, TxSession.output, List.append_assoc, Function.comp_def]

/-- A data packet with an Echo-Request of identifier 5 and a magic number. -/
def echoPacket : Bytes :=
  [0x10, 0, 0, 0x10, 0xFF, 0x03, 0xC0, 0x21, 9, 5, 0, 8, 1, 2, 3, 4]

theorem echoReply_agrees_echoPacket :
    ∃ frame skb reply,
      ((stateAfter (Block.zero 4) .pap [peerConfigureAck, peerConfigureRequest]).respond
        ⟨.frame (echoPacket.drop 4), Block.zero 16⟩).frames = [frame] ∧
      writePppAsSstpData frame = some reply ∧
      RxFrame.ofPacket (echoPacket.take 16) = .data (echoPacket.drop 4) ∧
      (({} : TxSession).deliverPpp (echoPacket.drop 4)).txQ = [] ++ [skb] ∧
      (TxFrame.data skb).encode = reply ∧
      (finalState TxSession.step {}
          (.deliverPpp (echoPacket.drop 4) :: List.replicate 1 (.txWorker .sent))).output =
        [] ++ [] ++ reply := by
  have parsed : Packet.parse echoPacket = .ok (.data (echoPacket.drop 4), 16) := by decide
  have echo : EchoRequest (echoPacket.drop 4) :=
    ⟨5, 0, 8, [1, 2, 3, 4], by decide, by decide, by decide, by decide⟩
  have opened : (stateAfter (Block.zero 4) .pap
      [peerConfigureAck, peerConfigureRequest]).lcp.fsm.state = .opened := by decide
  have running : ({} : TxSession).closing = false := rfl
  exact echoReply_agrees parsed echo opened running (by decide) (Block.zero 16) (by decide)

end SstpServer.Kmod
