import SstpServer.Ppp.Acknowledgement

/-!
# The identifier of a reply

A reply is to carry the identifier of the packet it answers.  The driver takes it from a
cache that is filled per kind of packet: one entry for Configure-Requests and one for
echoes.  A Terminate-Request fills neither, and its Ack is stamped with the identifier of
the last Configure-Request.
-/

namespace SstpServer.Ppp

open SstpServer.Wire
open SstpServer.Transition

/-! ## Replies on the wire -/

/-- The codes of packets that answer another one. -/
def replyCodes : List LcpCode :=
  [.configureAck, .configureNak, .configureReject, .terminateAck, .echoReply]

/-- The identifier of a frame that holds a reply of either layer. -/
def replyIdentifier (frame : Bytes) : Option UInt8 :=
  match decodeFrame frame with
  | .ok ⟨protocol, code :: identifier :: _⟩ =>
      if (protocol = ProtocolId.lcp.asU16 ∨ protocol = ProtocolId.ipcp.asU16) ∧
          code ∈ replyCodes.map LcpCode.asU8 then
        some identifier
      else none
  | _ => none

/-- The inbound packet of a layer. -/
def packetAt (layer : Layer) (input : Input) : Option LcpPacket :=
  (packetOf layer.protocol input).bind fun info => (decodeLcpPacket info).toOption

/-- The identifiers of the replies that a call sends. -/
def repliesAt (visit : Ppp × Input) : List UInt8 :=
  (visit.1.respond visit.2).frames.filterMap replyIdentifier

/-- Every reply to a packet carries its identifier. -/
def EchoesIdentifier (visit : Ppp × Input) : Prop :=
  ∀ layer packet, packetAt layer visit.2 = some packet →
    ∀ identifier ∈ repliesAt visit, identifier = packet.identifier

/-- The identifier of the last Configure-Request of a layer. -/
def lastCrIdOf (ppp : Ppp) : Layer → Option UInt8
  | .lcp => some ppp.lcp.lastCrId
  | .ipcp => ppp.ipcp.map IpcpServer.lastCrId

/-- States that answer a Terminate-Request. -/
def Fsm.State.acksTerminate : Fsm.State → Bool
  | .initial | .starting => false
  | _ => true

/-- A Terminate-Request that is answered and does not happen to repeat the identifier of
the last Configure-Request. -/
def MisnumbersAck (visit : Ppp × Input) : Prop :=
  ∃ layer packet, packetAt layer visit.2 = some packet ∧
    packet.code = LcpCode.terminateRequest.asU8 ∧
      (layer = .ipcp → visit.1.phase = .network) ∧
        (∃ state, visit.1.stateOf layer = some state ∧ state.acksTerminate = true) ∧
          visit.1.lastCrIdOf layer ≠ some packet.identifier

theorem replyIdentifier_encodeProtocolPacket (layer : Layer) (code identifier : UInt8)
    (body : Bytes) :
    replyIdentifier (encodeProtocolPacket layer.protocol.asU16 code identifier body) =
      if code ∈ replyCodes.map LcpCode.asU8 then some identifier else none := by
  have known : layer.protocol.asU16 = ProtocolId.lcp.asU16 ∨
      layer.protocol.asU16 = ProtocolId.ipcp.asU16 := by
    cases layer
    · exact .inl rfl
    · exact .inr rfl
  simp [replyIdentifier, encodeProtocolPacket, writeLcpHeader, known]

theorem replyIdentifier_encodeLcpFrame (code : LcpCode) (identifier : UInt8) (body : Bytes) :
    replyIdentifier (encodeLcpFrame code identifier body) =
      if code ∈ replyCodes then some identifier else none := by
  rw [encodeLcpFrame, ← Layer.protocol, replyIdentifier_encodeProtocolPacket]
  cases code <;> rfl

theorem replyIdentifier_encodeIpcpFrame (code : IpcpCode) (identifier : UInt8) (body : Bytes) :
    replyIdentifier (encodeIpcpFrame code identifier body) =
      if code.asU8 ∈ replyCodes.map LcpCode.asU8 then some identifier else none :=
  replyIdentifier_encodeProtocolPacket .ipcp code.asU8 identifier body

theorem replyIdentifier_encodeChapChallenge (identifier : UInt8) (challenge : Block 16) :
    replyIdentifier (encodeChapChallenge identifier challenge) = none := by
  unfold replyIdentifier encodeChapChallenge encodeChapFrame
  rw [decodeFrame_encodeFrame_asU16]
  split
  · rename_i equal
    cases equal
    exact if_neg (by decide)
  · rfl

theorem filterMap_replyIdentifier_challengeFrames (ppp : Ppp) (step : Fsm.StepOut)
    (random : Block 16) :
    (ppp.challengeFrames step random).filterMap replyIdentifier = [] := by
  unfold challengeFrames
  split_ifs
  · simp [replyIdentifier_encodeChapChallenge]
  · rfl

/-! ## The automaton -/

namespace Fsm

/-- A Terminate-Ack answers a Terminate-Request, or a Configure-Request to a closed
layer. -/
theorem terminateAck_mem_sends_iff (fsm : Fsm) (event : Event) :
    .terminateAck ∈ (fsm.step event).1.sends ↔
      event = .rcvTerminateReq ∧ fsm.state.acksTerminate = true ∨
        fsm.state = .closed ∧ (event = .rcvConfigReqGood ∨ event = .rcvConfigReqBad) := by
  rw [step_eq_row]
  generalize (fsm.restartCounter == 0) = spent, fsm.state = state
  revert spent state event
  decide +kernel

/-- Identifiers for the packets of an automaton: the answers to a Configure-Request and the
Terminate-Ack share one, and only an Echo-Reply may have another. -/
structure Stamps (stamp : Send → Option UInt8) (shared : UInt8) : Prop where
  configureAck : stamp .configureAck = some shared
  configureNak : stamp .configureNak = some shared
  terminateAck : stamp .terminateAck = some shared
  configureRequest : stamp .configureRequest = none
  terminateReq : stamp .terminateReq = none
  codeReject : stamp .codeReject = none

/-- If the shared identifier is right for Configure-Requests and the other one for echoes,
then the replies of a step are right exactly when a Terminate-Ack among them is. -/
theorem Stamps.forall_eq_iff {stamp : Send → Option UInt8} {shared identifier : UInt8}
    (stamps : Stamps stamp shared) (fsm : Fsm) {event : Event}
    (configure : event = .rcvConfigReqGood ∨ event = .rcvConfigReqBad → shared = identifier)
    (echo : event = .rcvEcho → ∀ other, stamp .echoReply = some other → other = identifier) :
    (∀ other ∈ (fsm.step event).1.sends.filterMap stamp, other = identifier) ↔
      (event = .rcvTerminateReq → fsm.state.acksTerminate = true → shared = identifier) := by
  have spec := fsm.step_spec event
  have acks := fsm.terminateAck_mem_sends_iff event
  constructor
  · intro right terminating answers
    have sent := acks.mpr (.inl ⟨terminating, answers⟩)
    exact right shared (List.mem_filterMap.mpr ⟨_, sent, stamps.terminateAck⟩)
  · intro lucky other member
    obtain ⟨send, sent, stamped⟩ := List.mem_filterMap.mp member
    cases send with
    | configureAck =>
        obtain rfl := Option.some.inj (stamps.configureAck.symm.trans stamped)
        exact configure (.inl (spec.ack_iff.mp sent).1)
    | configureNak =>
        obtain rfl := Option.some.inj (stamps.configureNak.symm.trans stamped)
        exact configure (.inr (spec.nak_iff.mp sent).1)
    | terminateAck =>
        obtain rfl := Option.some.inj (stamps.terminateAck.symm.trans stamped)
        rcases acks.mp sent with ⟨terminating, answers⟩ | ⟨-, configuring⟩
        · exact lucky terminating answers
        · exact configure configuring
    | echoReply => exact echo (spec.echo_iff.mp sent).1 other stamped
    | configureRequest => cases stamps.configureRequest.symm.trans stamped
    | terminateReq => cases stamps.terminateReq.symm.trans stamped
    | codeReject => cases stamps.codeReject.symm.trans stamped

end Fsm

/-! ## The caches -/

namespace LcpServer

/-- The identifier that a reply of the automaton is stamped with. -/
def stamp (lcp : LcpServer) : Fsm.Send → Option UInt8
  | .configureAck | .configureNak | .terminateAck => some lcp.lastCrId
  | .echoReply =>
      if lcp.lastRxrCode = LcpCode.echoRequest.asU8 then some lcp.lastEchoId else none
  | _ => none

theorem replies_sentFrames (lcp : LcpServer) (send : Option Fsm.Send) :
    (lcp.sentFrames send).filterMap replyIdentifier = send.toList.filterMap lcp.stamp := by
  rcases send with _ | send
  · rfl
  · cases send
    case configureNak =>
      cases reject : lcp.pendingNakIsReject <;>
        simp [sentFrames, renderSend, PppStep.pushFrame, stamp, reject,
          replyIdentifier_encodeLcpFrame, replyCodes]
    case echoReply =>
      by_cases request : lcp.lastRxrCode = LcpCode.echoRequest.asU8 <;>
        simp [sentFrames, renderSend, PppStep.pushFrame, stamp, request,
          replyIdentifier_encodeLcpFrame, replyCodes]
    all_goals
      simp [sentFrames, renderSend, PppStep.pushFrame, stamp, replyIdentifier_encodeLcpFrame,
        replyCodes]

theorem replies_stepFrames (lcp : LcpServer) (step : Fsm.StepOut) :
    (lcp.stepFrames step).filterMap replyIdentifier = step.sends.filterMap lcp.stamp := by
  have bumped : (lcp.bumped step.send).stamp = lcp.stamp := rfl
  rw [stepFrames, List.filterMap_append, replies_sentFrames, replies_sentFrames, bumped,
    Fsm.StepOut.sends, List.filterMap_append]

/-- A Configure-Request is remembered, nothing else is. -/
theorem eventOf_lastCrId (lcp : LcpServer) (packet : LcpPacket) :
    (lcp.eventOf packet).2.lastCrId =
      if packet.typedCode = some .configureRequest then packet.identifier else lcp.lastCrId := by
  have heard := lcp.heard_eventOf packet
  generalize lcp.eventOf packet = out at heard ⊢
  cases heard with
  | request typed => rw [if_pos typed]
  | nak typed | rejection typed => rcases typed with typed | typed <;> simp [typed]
  | echo typed => rcases typed with typed | typed | typed <;> simp [typed]
  | ack typed | terminateRequest typed | terminateAck typed | unknown typed => simp [typed]

theorem eventOf_configure {lcp : LcpServer} {packet : LcpPacket}
    (event : (lcp.eventOf packet).1 = .rcvConfigReqGood ∨
      (lcp.eventOf packet).1 = .rcvConfigReqBad) :
    packet.typedCode = some .configureRequest := by
  have heard := lcp.heard_eventOf packet
  generalize lcp.eventOf packet = out at heard event
  cases heard with
  | request typed => exact typed
  | _ => simp at event

theorem eventOf_echo {lcp : LcpServer} {packet : LcpPacket}
    (event : (lcp.eventOf packet).1 = .rcvEcho) :
    (lcp.eventOf packet).2.lastEchoId = packet.identifier := by
  have heard := lcp.heard_eventOf packet
  generalize lcp.eventOf packet = out at heard event ⊢
  cases heard with
  | echo => rfl
  | request _ classified => rcases classified with rfl | rfl <;> cases event
  | _ => cases event

theorem eventOf_terminate_iff {lcp : LcpServer} {packet : LcpPacket} :
    (lcp.eventOf packet).1 = .rcvTerminateReq ↔
      packet.code = LcpCode.terminateRequest.asU8 := by
  rw [← LcpCode.fromU8_eq_some_iff]
  change _ ↔ packet.typedCode = _
  have heard := lcp.heard_eventOf packet
  generalize lcp.eventOf packet = out at heard ⊢
  cases heard with
  | request typed classified => rcases classified with rfl | rfl <;> simp [typed]
  | nak typed | rejection typed => rcases typed with typed | typed <;> simp [typed]
  | echo typed => rcases typed with typed | typed | typed <;> simp [typed]
  | ack typed | terminateRequest typed | terminateAck typed | unknown typed => simp [typed]

/-- The replies to a packet carry its identifier, except for a Terminate-Ack. -/
theorem replies_onPacket_iff (lcp : LcpServer) (packet : LcpPacket) :
    (∀ identifier ∈ ((lcp.onPacket packet).2.stepFrames
          (lcp.onPacket packet).1.1).filterMap replyIdentifier,
        identifier = packet.identifier) ↔
      (packet.code = LcpCode.terminateRequest.asU8 → lcp.fsm.state.acksTerminate = true →
        lcp.lastCrId = packet.identifier) := by
  have stamps : Fsm.Stamps (lcp.onPacket packet).2.stamp (lcp.eventOf packet).2.lastCrId :=
    ⟨rfl, rfl, rfl, rfl, rfl, rfl⟩
  have cached := lcp.eventOf_lastCrId packet
  have stepped : (lcp.onPacket packet).1.1 = (lcp.fsm.step (lcp.eventOf packet).1).1 := by
    rw [← (lcp.eventOf_keeps packet).1]
    rfl
  rw [replies_stepFrames, stepped, stamps.forall_eq_iff lcp.fsm, eventOf_terminate_iff]
  · refine forall_congr' fun terminating => ?_
    have other : packet.typedCode ≠ some .configureRequest := by
      rw [LcpPacket.typedCode, terminating]
      decide
    rw [cached, if_neg other]
  · intro event
    rw [cached, if_pos (eventOf_configure event)]
  · intro event other stamped
    unfold stamp at stamped
    split_ifs at stamped
    exact (Option.some.inj stamped).symm.trans (eventOf_echo event)

end LcpServer

namespace IpcpServer

/-- The identifier that a reply of the automaton is stamped with. -/
def stamp (ipcp : IpcpServer) : Fsm.Send → Option UInt8
  | .configureAck | .configureNak | .terminateAck => some ipcp.lastCrId
  | _ => none

theorem replies_sentFrames (ipcp : IpcpServer) (send : Option Fsm.Send) :
    (ipcp.sentFrames send).filterMap replyIdentifier = send.toList.filterMap ipcp.stamp := by
  rcases send with _ | send
  · rfl
  · cases send
    case configureNak =>
      cases reject : ipcp.pendingNakIsReject <;>
        simp [sentFrames, renderIpcpSend, PppStep.pushFrame, stamp, reject,
          replyIdentifier_encodeIpcpFrame, replyCodes, LcpCode.asU8, IpcpCode.asU8]
    all_goals
      simp [sentFrames, renderIpcpSend, PppStep.pushFrame, stamp,
        replyIdentifier_encodeIpcpFrame, replyCodes, LcpCode.asU8, IpcpCode.asU8]

theorem replies_stepFrames (ipcp : IpcpServer) (step : Fsm.StepOut) :
    (ipcp.stepFrames step).filterMap replyIdentifier = step.sends.filterMap ipcp.stamp := by
  have bumped : (ipcp.bumped step.send).stamp = ipcp.stamp := rfl
  rw [stepFrames, List.filterMap_append, replies_sentFrames, replies_sentFrames, bumped,
    Fsm.StepOut.sends, List.filterMap_append]

/-- A Configure-Request is remembered, nothing else is. -/
theorem eventOf_lastCrId (ipcp : IpcpServer) (packet : LcpPacket) :
    (ipcp.eventOf packet).2.lastCrId =
      if IpcpCode.fromU8 packet.code = some .configureRequest then packet.identifier
      else ipcp.lastCrId := by
  have heard := ipcp.heard_eventOf packet
  generalize ipcp.eventOf packet = out at heard ⊢
  cases heard with
  | request typed => rw [if_pos typed]
  | nak typed => rcases typed with typed | typed <;> simp [typed]
  | ack typed | terminateRequest typed | terminateAck typed | rejection typed | unknown typed =>
      simp [typed]

theorem eventOf_configure {ipcp : IpcpServer} {packet : LcpPacket}
    (event : (ipcp.eventOf packet).1 = .rcvConfigReqGood ∨
      (ipcp.eventOf packet).1 = .rcvConfigReqBad) :
    IpcpCode.fromU8 packet.code = some .configureRequest := by
  have heard := ipcp.heard_eventOf packet
  generalize ipcp.eventOf packet = out at heard event
  cases heard with
  | request typed => exact typed
  | _ => simp at event

theorem eventOf_terminate_iff {ipcp : IpcpServer} {packet : LcpPacket} :
    (ipcp.eventOf packet).1 = .rcvTerminateReq ↔
      packet.code = LcpCode.terminateRequest.asU8 := by
  have code : packet.code = LcpCode.terminateRequest.asU8 ↔
      IpcpCode.fromU8 packet.code = some .terminateRequest := by
    constructor
    · intro same
      rw [same]
      rfl
    · exact IpcpCode.eq_asU8_of_fromU8
  rw [code]
  have heard := ipcp.heard_eventOf packet
  generalize ipcp.eventOf packet = out at heard ⊢
  cases heard with
  | request typed classified => rcases classified with rfl | rfl <;> simp [typed]
  | nak typed => rcases typed with typed | typed <;> simp [typed]
  | ack typed | terminateRequest typed | terminateAck typed | rejection typed | unknown typed =>
      simp [typed]

/-- The replies to a packet carry its identifier, except for a Terminate-Ack. -/
theorem replies_onPacket_iff (ipcp : IpcpServer) (packet : LcpPacket) :
    (∀ identifier ∈ ((ipcp.onPacket packet).2.stepFrames
          (ipcp.onPacket packet).1.1).filterMap replyIdentifier,
        identifier = packet.identifier) ↔
      (packet.code = LcpCode.terminateRequest.asU8 → ipcp.fsm.state.acksTerminate = true →
        ipcp.lastCrId = packet.identifier) := by
  have stamps : Fsm.Stamps (ipcp.onPacket packet).2.stamp (ipcp.eventOf packet).2.lastCrId :=
    ⟨rfl, rfl, rfl, rfl, rfl, rfl⟩
  have cached := ipcp.eventOf_lastCrId packet
  have stepped : (ipcp.onPacket packet).1.1 = (ipcp.fsm.step (ipcp.eventOf packet).1).1 := by
    rw [← (ipcp.eventOf_keeps packet).1]
    rfl
  rw [replies_stepFrames, stepped, stamps.forall_eq_iff ipcp.fsm, eventOf_terminate_iff]
  · refine forall_congr' fun terminating => ?_
    have other : IpcpCode.fromU8 packet.code ≠ some .configureRequest := by
      rw [terminating]
      decide
    rw [cached, if_neg other]
  · intro event
    rw [cached, if_pos (eventOf_configure event)]
  · intro _ other stamped
    cases stamped

end IpcpServer

/-! ## Calls and runs -/

theorem packetAt_eq_some_iff {layer : Layer} {input : Input} {packet : LcpPacket} :
    packetAt layer input = some packet ↔
      ∃ info, packetOf layer.protocol input = some info ∧
        decodeLcpPacket info = .ok packet := by
  unfold packetAt
  rw [Option.bind_eq_some_iff]
  refine exists_congr fun info => and_congr_right fun _ => ?_
  cases decodeLcpPacket info <;> simp [Except.toOption]

/-- The replies of a call to a packet all carry its identifier unless a Terminate-Ack is
stamped with another one. -/
theorem forall_repliesAt_iff {layer : Layer} {ppp : Ppp} {input : Input} {packet : LcpPacket}
    (received : packetAt layer input = some packet) :
    (∀ identifier ∈ repliesAt (ppp, input), identifier = packet.identifier) ↔
      (packet.code = LcpCode.terminateRequest.asU8 →
        (layer = .ipcp → ppp.phase = .network) →
          ∀ state, ppp.stateOf layer = some state → state.acksTerminate = true →
            ppp.lastCrIdOf layer = some packet.identifier) := by
  obtain ⟨info, framed, decoded⟩ := packetAt_eq_some_iff.mp received
  cases layer with
  | lcp =>
      have frames : repliesAt (ppp, input) =
          ((ppp.lcp.onPacket packet).2.stepFrames (ppp.lcp.onPacket packet).1.1).filterMap
            replyIdentifier := by
        rw [repliesAt, respond, run_lcp framed decoded, lcpMove, renderLcpStep_frames,
          List.filterMap_append, filterMap_replyIdentifier_challengeFrames, List.append_nil]
        rfl
      rw [frames, LcpServer.replies_onPacket_iff]
      simp [stateOf, lastCrIdOf]
  | ipcp =>
      rw [repliesAt, respond, run_ipcp framed decoded]
      by_cases phase : ppp.phase = .network
      · rw [if_pos phase]
        cases running : ppp.ipcp with
        | none => simp [stateOf, running]
        | some ipcp =>
            simp only [ipcpMove, renderIpcpStep_frames]
            refine Iff.trans (ipcp.replies_onPacket_iff packet) ?_
            simp [stateOf, lastCrIdOf, running, phase]
      · simp [phase]

/-- In a run every reply carries the identifier of the packet it answers exactly when no
answered Terminate-Request has another identifier than the last Configure-Request. -/
theorem forall_echoesIdentifier_iff (localIp : Ipv4) (method : AuthMethod)
    (inputs : List Input) :
    (∀ visit ∈ visits step (start localIp method) inputs, EchoesIdentifier visit) ↔
      ∀ visit ∈ visits step (start localIp method) inputs, ¬MisnumbersAck visit := by
  refine forall₂_congr fun visit _ => ?_
  unfold EchoesIdentifier MisnumbersAck
  simp only [not_exists, not_and, not_not]
  refine forall₂_congr fun layer packet => forall_congr' fun received => ?_
  rw [forall_repliesAt_iff received]
  simp only [forall_exists_index, and_imp]

/-- A Terminate-Request with identifier 9 before any Configure-Request of the peer. -/
def peerTerminateRequest : Input :=
  ⟨.frame [0xFF, 0x03, 0xC0, 0x21, 0x05, 0x09, 0x00, 0x04], Block.zero 16⟩

/-- Its Terminate-Ack carries the identifier 0. -/
theorem not_echoesIdentifier_peerTerminateRequest :
    packetAt .lcp peerTerminateRequest = some ⟨5, 9, []⟩ ∧
      repliesAt (start (Block.zero 4) .pap, peerTerminateRequest) = [0] ∧
      ¬EchoesIdentifier (start (Block.zero 4) .pap, peerTerminateRequest) := by
  have received : packetAt .lcp peerTerminateRequest = some ⟨5, 9, []⟩ := by decide +kernel
  have replied : repliesAt (start (Block.zero 4) .pap, peerTerminateRequest) = [0] := by
    decide +kernel
  refine ⟨received, replied, fun echoes => ?_⟩
  have same := echoes .lcp _ received 0 (by rw [replied]; exact .head _)
  exact absurd same (by decide)

end SstpServer.Ppp
