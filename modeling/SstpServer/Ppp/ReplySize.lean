import SstpServer.Ppp.Calls
import SstpServer.Ppp.Policy

/-!
# The size of the driver's replies

Most frames of the driver have a small fixed size.  Four kinds grow with the
packet they answer: a Configure-Ack and an Echo-Reply return the peer's own bytes,
a Configure-Reject returns the options turned down, and an IPCP Configure-Nak
proposes one address for every option with another value.  This module computes
the size of the answer from the packet and shows that it decides whether all
frames of a call keep a limit.
-/

namespace SstpServer.Ppp

open SstpServer.Wire
open SstpServer.Transition

/-- Every frame keeps the limit. -/
def FramesFit (limit : Nat) (frames : List Bytes) : Prop :=
  ∀ frame ∈ frames, frame.length ≤ limit

@[simp]
theorem framesFit_nil (limit : Nat) : FramesFit limit [] := by
  simp [FramesFit]

@[simp]
theorem framesFit_singleton {limit : Nat} {frame : Bytes} :
    FramesFit limit [frame] ↔ frame.length ≤ limit := by
  simp [FramesFit]

@[simp]
theorem framesFit_append {limit : Nat} {first second : List Bytes} :
    FramesFit limit (first ++ second) ↔ FramesFit limit first ∧ FramesFit limit second :=
  List.forall_mem_append

/-! ## LCP -/

namespace LcpServer

theorem length_writeOwnCrOptions_le (lcp : LcpServer) : lcp.writeOwnCrOptions.length ≤ 5 := by
  unfold writeOwnCrOptions
  cases lcp.authMethod <;> decide

/-- The answers of the automaton that carry bytes of the peer. -/
def AnswersFit (limit : Nat) (lcp : LcpServer) (sends : List Fsm.Send) : Prop :=
  (.configureAck ∈ sends → lcp.lastCrOptions.length + 8 ≤ limit) ∧
    (.configureNak ∈ sends → lcp.pendingNak.length + 8 ≤ limit) ∧
      (.echoReply ∈ sends → lcp.lastRxrCode = LcpCode.echoRequest.asU8 →
        lcp.echoBody.length + 8 ≤ limit)

theorem framesFit_sentFrames_iff {limit : Nat} (roomy : 64 ≤ limit) (lcp : LcpServer)
    (send : Option Fsm.Send) :
    FramesFit limit (lcp.sentFrames send) ↔ AnswersFit limit lcp send.toList := by
  have own := lcp.length_writeOwnCrOptions_le
  rcases send with _ | send
  · simp [sentFrames, renderSend, AnswersFit]
  · cases send
    case echoReply =>
      by_cases request : lcp.lastRxrCode = LcpCode.echoRequest.asU8 <;>
        simp [sentFrames, renderSend, AnswersFit, PppStep.pushFrame, request, encodeLcpFrame]
    case configureRequest =>
      have same : { lcp with fsm := lcp.fsm.bumpIdentifier.2 }.writeOwnCrOptions.length ≤ 5 :=
        own
      simp only [sentFrames, renderSend, PppStep.pushFrame, List.nil_append,
        framesFit_singleton, encodeLcpFrame, length_encodeProtocolPacket]
      simp [AnswersFit]
      omega
    all_goals
      simp [sentFrames, renderSend, AnswersFit, PppStep.pushFrame, encodeLcpFrame]
    all_goals omega

theorem framesFit_stepFrames_iff {limit : Nat} (roomy : 64 ≤ limit) (lcp : LcpServer)
    (step : Fsm.StepOut) :
    FramesFit limit (lcp.stepFrames step) ↔ AnswersFit limit lcp step.sends := by
  have bumped : ∀ sends, AnswersFit limit (lcp.bumped step.send) sends ↔
      AnswersFit limit lcp sends := fun _ => Iff.rfl
  rw [stepFrames, framesFit_append, framesFit_sentFrames_iff roomy,
    framesFit_sentFrames_iff roomy, bumped]
  simp only [AnswersFit, Fsm.StepOut.sends, List.mem_append, or_imp]
  tauto

/-- The options of a request that is not acceptable to the server. -/
def refusal (items : List (Except LcpPacketError ConfigOption)) : Option Bytes :=
  if hasMalformed items || (leadingOptions items).any fun opt => !accepts opt then
    some (rejectBody items)
  else none

/-- The number of bytes that the answer to a packet carries. -/
def replyLength (lcp : LcpServer) (packet : LcpPacket) : Nat :=
  match packet.typedCode with
  | some .configureRequest =>
      if lcp.fsm.state.answersConfigureRequest then
        ((refusal (configOptions packet.data)).getD packet.data).length
      else 0
  | some .echoRequest => if lcp.fsm.state = .opened then packet.data.length else 0
  | _ => 0

theorem classifyOptions_lastCrOptions (lcp : LcpServer) (anyBad : Bool)
    (items : List (Except LcpPacketError ConfigOption)) :
    (lcp.classifyOptions anyBad items).1.lastCrOptions = lcp.lastCrOptions := by
  obtain ⟨pendingNak, peerMru, classified⟩ := lcp.exists_classifyOptions_eq anyBad items
  rw [classified]

/-- What a Configure-Request leaves for its answer. -/
theorem eventOf_configureRequest (lcp : LcpServer) {packet : LcpPacket}
    (request : packet.typedCode = some .configureRequest) :
    (lcp.eventOf packet).1 =
        (if (refusal (configOptions packet.data)).isSome then .rcvConfigReqBad
          else .rcvConfigReqGood) ∧
      (lcp.eventOf packet).2.lastCrOptions = packet.data ∧
      ∀ body, refusal (configOptions packet.data) = some body →
        (lcp.eventOf packet).2.pendingNak = body := by
  simp only [eventOf, request, classifyConfigureRequest]
  refine ⟨?_, classifyOptions_lastCrOptions _ _ _, fun body refused => ?_⟩
  · rw [(classifyOptions_spec _ _ _).2, refusal]
    split_ifs <;> simp_all
  · unfold refusal at refused
    split_ifs at refused
    cases refused
    rw [(classifyOptions_spec _ _ _).1]
    rfl

theorem length_echoBody_le_iff {limit : Nat} (roomy : 4 ≤ limit) (lcp : LcpServer) :
    lcp.echoBody.length ≤ limit ↔ lcp.lastEchoData.length ≤ limit := by
  unfold echoBody
  split_ifs with long
  · simp only [List.length_append, List.length_cons, List.length_nil, List.length_drop]
    omega
  · simp only [List.length_append, List.length_cons, List.length_nil]
    omega

/-- The answer to a packet fits exactly when the bytes it carries do. -/
theorem answersFit_eventOf_iff {limit : Nat} (roomy : 64 ≤ limit) (lcp : LcpServer)
    (packet : LcpPacket) :
    AnswersFit limit (lcp.eventOf packet).2
        ((lcp.eventOf packet).2.fsm.step (lcp.eventOf packet).1).1.sends ↔
      lcp.replyLength packet + 8 ≤ limit := by
  have spec := (lcp.eventOf packet).2.fsm.step_spec (lcp.eventOf packet).1
  rw [(lcp.eventOf_keeps packet).1] at spec ⊢
  simp only [AnswersFit, spec.ack_iff, spec.nak_iff, spec.echo_iff]
  cases typed : packet.typedCode with
  | none =>
      simp only [eventOf, typed, replyLength]
      simp
      omega
  | some code =>
      cases code with
      | configureRequest =>
          obtain ⟨event, options, reject⟩ := lcp.eventOf_configureRequest typed
          rw [event, options]
          simp only [replyLength, typed]
          cases refused : refusal (configOptions packet.data) with
          | none =>
              cases lcp.fsm.state.answersConfigureRequest <;> simp
              omega
          | some body =>
              rw [reject body refused]
              cases lcp.fsm.state.answersConfigureRequest <;> simp
              omega
      | echoRequest =>
          have isRequest : packet.code = LcpCode.echoRequest.asU8 :=
            LcpCode.fromU8_eq_some_iff.mp typed
          have body := length_echoBody_le_iff (show 4 ≤ limit - 8 by omega)
            { lcp with
              lastRxrCode := packet.code
              lastEchoId := packet.identifier
              lastEchoData := packet.data }
          simp only [eventOf, typed, replyLength, isRequest] at body ⊢
          by_cases opened : lcp.fsm.state = .opened <;> simp [opened] <;> omega
      | echoReply | discardRequest =>
          have notRequest : packet.code ≠ LcpCode.echoRequest.asU8 := by
            rw [LcpCode.fromU8_eq_some_iff.mp typed]
            decide
          simp [eventOf, typed, replyLength, notRequest]
          omega
      | _ =>
          simp [eventOf, typed, replyLength]
          omega

end LcpServer

/-! ## IPCP -/

namespace IpcpServer

/-- The answers of the automaton that carry options. -/
def AnswersFit (limit : Nat) (ipcp : IpcpServer) (sends : List Fsm.Send) : Prop :=
  (.configureAck ∈ sends → ipcp.lastCrOptions.length + 8 ≤ limit) ∧
    (.configureNak ∈ sends → ipcp.pendingNak.length + 8 ≤ limit)

theorem framesFit_sentFrames_iff {limit : Nat} (roomy : 64 ≤ limit) (ipcp : IpcpServer)
    (send : Option Fsm.Send) :
    FramesFit limit (ipcp.sentFrames send) ↔ AnswersFit limit ipcp send.toList := by
  rcases send with _ | send
  · simp [sentFrames, renderIpcpSend, AnswersFit]
  · cases send <;>
      simp [sentFrames, renderIpcpSend, AnswersFit, PppStep.pushFrame, encodeIpcpFrame,
        ipv4OptionTotalLen, ipv4OptionValueLen] <;>
      omega

theorem framesFit_stepFrames_iff {limit : Nat} (roomy : 64 ≤ limit) (ipcp : IpcpServer)
    (step : Fsm.StepOut) :
    FramesFit limit (ipcp.stepFrames step) ↔ AnswersFit limit ipcp step.sends := by
  have bumped : ∀ sends, AnswersFit limit (ipcp.bumped step.send) sends ↔
      AnswersFit limit ipcp sends := fun _ => Iff.rfl
  rw [stepFrames, framesFit_append, framesFit_sentFrames_iff roomy,
    framesFit_sentFrames_iff roomy, bumped]
  simp only [AnswersFit, Fsm.StepOut.sends, List.mem_append, or_imp]
  tauto

/-- The options of the answer to a request that does not ask for exactly what was
granted. -/
def refusal (addrs : AssignedAddrs) (items : List (Except LcpPacketError ConfigOption)) :
    Option Bytes :=
  if hasMalformed items then some []
  else if rejectBody addrs (leadingOptions items) ≠ [] then
    some (rejectBody addrs (leadingOptions items))
  else if nakBody addrs (leadingOptions items) ≠ [] then
    some (nakBody addrs (leadingOptions items))
  else none

/-- The number of bytes that the answer to a packet carries. -/
def replyLength (ipcp : IpcpServer) (packet : LcpPacket) : Nat :=
  match IpcpCode.fromU8 packet.code with
  | some .configureRequest =>
      if ipcp.fsm.state.answersConfigureRequest then
        ((refusal ipcp.addrs (configOptions packet.data)).getD packet.data).length
      else 0
  | _ => 0

/-- What a Configure-Request leaves for its answer. -/
theorem eventOf_configureRequest (ipcp : IpcpServer) {packet : LcpPacket}
    (request : IpcpCode.fromU8 packet.code = some .configureRequest) :
    (ipcp.eventOf packet).1 =
        (if (refusal ipcp.addrs (configOptions packet.data)).isSome then .rcvConfigReqBad
          else .rcvConfigReqGood) ∧
      (ipcp.eventOf packet).2.lastCrOptions = packet.data ∧
      ∀ body, refusal ipcp.addrs (configOptions packet.data) = some body →
        (ipcp.eventOf packet).2.pendingNak = body := by
  simp only [eventOf, request, classifyConfigureRequest, classifyOptions_eq, List.nil_append,
    refusal]
  by_cases malformed : hasMalformed (configOptions packet.data) = true
  · simp [malformed]
  · simp only [malformed, Bool.false_eq_true, if_false]
    split_ifs <;> simp_all

/-- The answer to a packet fits exactly when the bytes it carries do. -/
theorem answersFit_eventOf_iff {limit : Nat} (roomy : 64 ≤ limit) (ipcp : IpcpServer)
    (packet : LcpPacket) :
    AnswersFit limit (ipcp.eventOf packet).2
        ((ipcp.eventOf packet).2.fsm.step (ipcp.eventOf packet).1).1.sends ↔
      ipcp.replyLength packet + 8 ≤ limit := by
  have spec := (ipcp.eventOf packet).2.fsm.step_spec (ipcp.eventOf packet).1
  rw [(ipcp.eventOf_keeps packet).1] at spec ⊢
  simp only [AnswersFit, spec.ack_iff, spec.nak_iff]
  cases typed : IpcpCode.fromU8 packet.code with
  | none =>
      simp [eventOf, typed, replyLength]
      omega
  | some code =>
      cases code with
      | configureRequest =>
          obtain ⟨event, options, refuses⟩ := ipcp.eventOf_configureRequest typed
          rw [event, options]
          simp only [replyLength, typed]
          cases refused : refusal ipcp.addrs (configOptions packet.data) with
          | none =>
              cases ipcp.fsm.state.answersConfigureRequest <;> simp
              omega
          | some body =>
              rw [refuses body refused]
              cases ipcp.fsm.state.answersConfigureRequest <;> simp
              omega
      | _ =>
          simp [eventOf, typed, replyLength]
          omega

end IpcpServer

/-! ## Calls -/

/-- The answer to the packet of a call keeps the limit. -/
structure RepliesFit (limit : Nat) (ppp : Ppp) (input : Input) : Prop where
  lcp : ∀ info packet, packetOf .lcp input = some info →
    decodeLcpPacket info = .ok packet → ppp.lcp.replyLength packet + 8 ≤ limit
  ipcp : ∀ info packet ipcp, ppp.phase = .network → packetOf .ipcp input = some info →
    decodeLcpPacket info = .ok packet → ppp.ipcp = some ipcp →
      ipcp.replyLength packet + 8 ≤ limit

theorem framesFit_challengeFrames {limit : Nat} (roomy : 64 ≤ limit) (ppp : Ppp)
    (step : Fsm.StepOut) (random : Block 16) :
    FramesFit limit (ppp.challengeFrames step random) := by
  unfold challengeFrames
  split_ifs
  · simp [encodeChapChallenge, encodeChapFrame, chapServerName]
    omega
  · simp

theorem framesFit_lcpMove_iff {limit : Nat} (roomy : 64 ≤ limit) (ppp : Ppp)
    (event : Fsm.Event) (lcp : LcpServer) (random : Block 16) :
    FramesFit limit (ppp.lcpMove event lcp random).1.frames ↔
      lcp.AnswersFit limit (lcp.fsm.step event).1.sends := by
  rw [lcpMove, renderLcpStep_frames, framesFit_append,
    LcpServer.framesFit_stepFrames_iff roomy]
  exact and_iff_left (framesFit_challengeFrames roomy _ _ _)

theorem framesFit_ipcpMove_iff {limit : Nat} (roomy : 64 ≤ limit) (ppp : Ppp)
    (event : Fsm.Event) (ipcp : IpcpServer) :
    FramesFit limit (ppp.ipcpMove event ipcp).1.frames ↔
      ipcp.AnswersFit limit (ipcp.fsm.step event).1.sends := by
  rw [ipcpMove, renderIpcpStep_frames, IpcpServer.framesFit_stepFrames_iff roomy]
  exact Iff.rfl

/-- An event other than a Configure-Request or an echo calls for no answer that grows. -/
theorem LcpServer.answersFit_of_event {limit : Nat} {lcp : LcpServer} {event : Fsm.Event}
    (good : event ≠ .rcvConfigReqGood) (bad : event ≠ .rcvConfigReqBad)
    (echo : event ≠ .rcvEcho) : lcp.AnswersFit limit (lcp.fsm.step event).1.sends := by
  have spec := lcp.fsm.step_spec event
  simp [AnswersFit, spec.ack_iff, spec.nak_iff, spec.echo_iff, good, bad, echo]

theorem IpcpServer.answersFit_of_event {limit : Nat} {ipcp : IpcpServer} {event : Fsm.Event}
    (good : event ≠ .rcvConfigReqGood) (bad : event ≠ .rcvConfigReqBad) :
    ipcp.AnswersFit limit (ipcp.fsm.step event).1.sends := by
  have spec := ipcp.fsm.step_spec event
  simp [AnswersFit, spec.ack_iff, spec.nak_iff, good, bad]

theorem AuthAnswer.length_le {frame : Bytes} (answer : AuthAnswer frame) :
    frame.length ≤ 264 := by
  cases answer with
  | pap code identifier message short =>
      simp [encodePapFrame]
      omega
  | chap code identifier message terminal short =>
      simp [encodeChapTerminal, encodeChapFrame]
      omega

theorem framesFit_protocolReject {limit : Nat} (roomy : 1504 ≤ limit) (ppp : Ppp)
    (protocol : Nat) (info : Bytes) :
    FramesFit limit (ppp.protocolReject protocol info).1.frames := by
  unfold protocolReject
  split_ifs
  · simp [PppStep.pushFrame, encodeLcpFrame, defaultMru, lcpHeaderLen]
    omega
  · simp

/-- Every frame of a move keeps a limit that the answer to its packet keeps. -/
theorem Move.framesFit {limit : Nat} (roomy : 1504 ≤ limit) {ppp : Ppp} {input : Input}
    {result : PppStep × Ppp} (move : Move ppp input result)
    (fits : RepliesFit limit ppp input) : FramesFit limit result.1.frames := by
  have small : 64 ≤ limit := by omega
  cases move with
  | lcpPacket info packet received decoded =>
      rw [framesFit_lcpMove_iff small, LcpServer.answersFit_eventOf_iff small]
      exact fits.lcp info packet received decoded
  | lcpTimer =>
      rw [framesFit_lcpMove_iff small]
      exact LcpServer.answersFit_of_event (by decide) (by decide) (by decide)
  | ipcpPacket info packet ipcp phase received decoded running =>
      rw [framesFit_ipcpMove_iff small, IpcpServer.answersFit_eventOf_iff small]
      exact fits.ipcp info packet ipcp phase received decoded running
  | ipcpTimer ipcp =>
      rw [framesFit_ipcpMove_iff small]
      exact IpcpServer.answersFit_of_event (by decide) (by decide)
  | protocolReject payload info protocol => exact framesFit_protocolReject roomy _ _ _
  | accept addrs frame accepted answer =>
      rw [advanceToNetwork_frames, framesFit_append, framesFit_singleton,
        IpcpServer.framesFit_stepFrames_iff small, openIpcp_sends]
      exact ⟨answer.length_le.trans (by omega), by simp [IpcpServer.AnswersFit]⟩
  | reject frame inFlight unaccepted answer =>
      rw [tearDownAfterReject_frames, framesFit_append, framesFit_singleton,
        framesFit_lcpMove_iff small]
      exact ⟨answer.length_le.trans (by omega),
        LcpServer.answersFit_of_event (by decide) (by decide) (by decide)⟩
  | _ => simp

/-- The frames of a call keep a limit exactly when the answer to its packet does. -/
theorem framesFit_respond_iff {limit : Nat} (roomy : 1504 ≤ limit) (ppp : Ppp)
    (input : Input) :
    FramesFit limit (ppp.respond input).frames ↔ RepliesFit limit ppp input := by
  have small : 64 ≤ limit := by omega
  constructor
  · intro fit
    constructor
    · intro info packet received decoded
      rw [respond, run_lcp received decoded, framesFit_lcpMove_iff small,
        LcpServer.answersFit_eventOf_iff small] at fit
      exact fit
    · intro info packet ipcp phase received decoded running
      simp only [respond, run_ipcp received decoded, if_pos phase, running] at fit
      rw [framesFit_ipcpMove_iff small, IpcpServer.answersFit_eventOf_iff small] at fit
      exact fit
  · exact (ppp.run_move input).framesFit roomy

end SstpServer.Ppp
