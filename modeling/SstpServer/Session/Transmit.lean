import SstpServer.Ppp.Authentication
import SstpServer.Ppp.ReplySize
import SstpServer.Sstp.Frame

/-!
# Sending PPP frames as data packets

A PPP frame leaves as one data packet that is put together in a scratch buffer of
the largest packet size.  A frame that does not fit there is sliced out of range,
which ends the process.
-/

namespace SstpServer.Session

open SstpServer.Wire
open SstpServer.Sstp
open SstpServer.Ppp
open SstpServer.Transition

/-- Size of the scratch buffer. -/
def txBufLen : Nat := sstpMaxPacketLen

/-- The data packet for a PPP frame; `none` is the slice out of range. -/
def writePppAsSstpData (payload : Bytes) : Option Bytes :=
  let total := sstpHeaderLen + payload.length
  if total ≤ txBufLen then some (writeHeader false total ++ payload) else none

/-- The largest frame that fits a data packet. -/
def maxPppFrameLen : Nat := txBufLen - sstpHeaderLen

theorem writePppAsSstpData_eq_none_iff {payload : Bytes} :
    writePppAsSstpData payload = none ↔ maxPppFrameLen < payload.length := by
  have room : maxPppFrameLen + sstpHeaderLen = txBufLen := by decide
  simp only [writePppAsSstpData]
  split_ifs with fits
  · simp only [false_iff]
    omega
  · simp only [true_iff]
    omega

/-- The packet of a frame that fits declares its own size. -/
theorem writePppAsSstpData_of_le {payload : Bytes} (fits : payload.length ≤ maxPppFrameLen) :
    ∃ packet, writePppAsSstpData payload = some packet ∧
      lengthField packet = packet.length := by
  have total : sstpHeaderLen + payload.length ≤ txBufLen := by
    have room : maxPppFrameLen + sstpHeaderLen = txBufLen := by decide
    omega
  refine ⟨_, if_pos total, ?_⟩
  have framed := Packet.framed_writeHeader false rfl total
  rw [framed.length, List.length_append, length_writeHeader]

/-- Every frame of the step fits a data packet, and is sent as a packet whose Length
field is its size. -/
def Transmits (step : PppStep) : Prop :=
  ∀ frame ∈ step.frames, frame.length ≤ maxPppFrameLen ∧
    ∃ packet, writePppAsSstpData frame = some packet ∧ lengthField packet = packet.length

theorem transmits_iff_framesFit {step : PppStep} :
    Transmits step ↔ FramesFit maxPppFrameLen step.frames := by
  constructor
  · intro transmits frame member
    exact (transmits frame member).1
  · intro fit frame member
    exact ⟨fit frame member, writePppAsSstpData_of_le (fit frame member)⟩

/-- The frames of a call are all transmitted exactly when the answer to its packet, the
peer's own bytes or the options refused to it, fits a data packet. -/
theorem transmits_respond_iff (ppp : Ppp) (input : Input) :
    Transmits (ppp.respond input) ↔ RepliesFit maxPppFrameLen ppp input := by
  rw [transmits_iff_framesFit]
  exact framesFit_respond_iff (by decide) ppp input

/-- A run transmits every frame of every call exactly when the answer fits in each of its
calls. -/
theorem forall_transmits_iff (localIp : Ipv4) (method : AuthMethod) (inputs : List Ppp.Input) :
    (∀ visit ∈ visits Ppp.step (Ppp.start localIp method) inputs,
        Transmits (visit.1.respond visit.2)) ↔
      ∀ visit ∈ visits Ppp.step (Ppp.start localIp method) inputs,
        RepliesFit maxPppFrameLen visit.1 visit.2 :=
  forall₂_congr fun visit _ => transmits_respond_iff visit.1 visit.2

/-- An Echo-Request without the address and control fields. -/
def peerEchoRequest (data : Bytes) : Bytes :=
  0xC0 :: 0x21 :: (writeLcpHeader LcpCode.echoRequest.asU8 0 (lcpHeaderLen + data.length) ++ data)

theorem length_peerEchoRequest (data : Bytes) :
    (peerEchoRequest data).length = data.length + 6 := by
  simp [peerEchoRequest, writeLcpHeader]
  omega

/-- An opened LCP answers an Echo-Request with all of its data. -/
theorem replyLength_le_of_transmits {ppp : Ppp} {data : Bytes} {random : Block 16}
    (opened : ppp.lcp.fsm.state = .opened) (fits : data.length + 4 < 65536)
    (transmits : Transmits (ppp.respond ⟨.frame (peerEchoRequest data), random⟩)) :
    data.length + 8 ≤ maxPppFrameLen := by
  have framed : decodeFrame (peerEchoRequest data) =
      .ok ⟨ProtocolId.lcp.asU16, writeLcpHeader LcpCode.echoRequest.asU8 0
        (lcpHeaderLen + data.length) ++ data⟩ := rfl
  have reply := (framesFit_respond_iff (by decide) ppp _).mp
    (transmits_iff_framesFit.mp transmits)
  have bound := reply.lcp _ _ (packetOf_eq_some_iff.mpr ⟨_, rfl, framed⟩)
    (decodeLcpPacket_writeLcpHeader _ 0 fits)
  simpa [LcpServer.replyLength, LcpPacket.typedCode, opened] using bound

/-- The reply to an echo of 4085 bytes, which arrives in a data packet of the largest
size, does not fit one: the reply spells out the address and control fields. -/
theorem not_transmits_peerEchoRequest :
    (peerEchoRequest (List.replicate 4085 0)).length ≤ maxPppFrameLen ∧
      ¬Transmits ((stateAfter (Block.zero 4) .pap
        [peerConfigureAck, peerConfigureRequest]).respond
          ⟨.frame (peerEchoRequest (List.replicate 4085 0)), Block.zero 16⟩) := by
  constructor
  · rw [length_peerEchoRequest, List.length_replicate]
    decide
  · intro transmits
    have bound := replyLength_le_of_transmits (by decide)
      (by rw [List.length_replicate]; decide) transmits
    rw [List.length_replicate] at bound
    exact absurd bound (by decide)

end SstpServer.Session
