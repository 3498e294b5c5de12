import SstpServer.Ppp.Auth
import SstpServer.Ppp.Fsm
import SstpServer.Ppp.Ipcp

/-!
# Server-side LCP and IPCP negotiation

Each negotiation wraps one automaton with the server's option policy.  A
Configure-Request is classified before the automaton sees it; the option bytes
that an answer has to carry are cached until the automaton asks for the answer.
-/

namespace SstpServer.Ppp

open SstpServer.Wire

/-- Whose restart timer a step refers to. -/
inductive TimerOwner where
  | lcp
  | ipcp
  deriving DecidableEq, Repr

/-- Addresses granted by the authentication backend. -/
structure AssignedAddrs where
  ip : Ipv4
  mtu : Option Nat
  dns1 : Option Ipv4
  dns2 : Option Ipv4
  nbns1 : Option Ipv4
  nbns2 : Option Ipv4
  deriving DecidableEq

/-- Authentication methods the server can advertise. -/
inductive AuthMethod where
  | pap
  | chapMd5
  | msChapV2
  deriving DecidableEq, Repr

/-- Events for the session task. -/
inductive PppEvent where
  | needPapAuth (peerId password : Bytes)
  | needChapAuth (username : Bytes) (chapId : UInt8)
      (challenge response : Block 16)
  | needMsChapV2Auth (username : Bytes) (chapId : UInt8)
      (authenticatorChallenge peerChallenge : Block 16)
      (ntResponse : Block 24) (flags : UInt8)
  | networkUp (addrs : AssignedAddrs)
  deriving DecidableEq

/-- Result of one driver call: encoded frames, timer operations, an event and
the teardown flag. -/
structure PppStep where
  frames : List Bytes := []
  timerStarts : List (TimerOwner × Nat) := []
  timerStops : List TimerOwner := []
  event : Option PppEvent := none
  finished : Bool := false
  deriving DecidableEq

def PppStep.pushFrame (out : PppStep) (frame : Bytes) : PppStep :=
  { out with frames := out.frames ++ [frame] }

/-- Record the automaton's restart timer operation. -/
def applyTimer (out : PppStep) (op : Option Fsm.RestartTimer)
    (owner : TimerOwner) : PppStep :=
  match op with
  | some .start => { out with timerStarts := out.timerStarts ++ [(owner, defaultRestart)] }
  | some .stop => { out with timerStops := out.timerStops ++ [owner] }
  | none => out

@[simp]
theorem applyTimer_frames (out : PppStep) (op : Option Fsm.RestartTimer)
    (owner : TimerOwner) : (applyTimer out op owner).frames = out.frames := by
  rcases op with _ | op
  · rfl
  · cases op <;> rfl

@[simp]
theorem applyTimer_event (out : PppStep) (op : Option Fsm.RestartTimer)
    (owner : TimerOwner) : (applyTimer out op owner).event = out.event := by
  rcases op with _ | op
  · rfl
  · cases op <;> rfl

/-- A frame around an LCP-format packet.  The Length field keeps the low
sixteen bits of the packet's size. -/
def encodeProtocolPacket (protocol : Nat) (code identifier : UInt8)
    (body : Bytes) : Bytes :=
  encodeFrame protocol
    (writeLcpHeader code identifier (lcpHeaderLen + body.length) ++ body)

def encodeLcpFrame (code : LcpCode) (identifier : UInt8) (body : Bytes) : Bytes :=
  encodeProtocolPacket ProtocolId.lcp.asU16 code.asU8 identifier body

def encodeIpcpFrame (code : IpcpCode) (identifier : UInt8) (body : Bytes) : Bytes :=
  encodeProtocolPacket ProtocolId.ipcp.asU16 code.asU8 identifier body

@[simp]
theorem length_encodeProtocolPacket (protocol : Nat) (code identifier : UInt8)
    (body : Bytes) :
    (encodeProtocolPacket protocol code identifier body).length =
      body.length + 8 := by
  simp [encodeProtocolPacket, writeLcpHeader]
  omega

/-- The identifier after a send action: requests mint a new one. -/
def Fsm.identifierAfter (fsm : Fsm) : Option Fsm.Send → UInt8
  | some .configureRequest | some .terminateReq => fsm.identifier + 1
  | _ => fsm.identifier

/-! ## LCP -/

/-- The LCP negotiation. -/
structure LcpServer where
  fsm : Fsm
  lastCrId : UInt8
  lastCrOptions : Bytes
  pendingNak : Bytes
  pendingNakIsReject : Bool
  lastRxrCode : UInt8
  lastEchoId : UInt8
  lastEchoData : Bytes
  opened : Bool
  authMethod : AuthMethod
  peerMru : Option Nat
  deriving DecidableEq

namespace LcpServer

def new (authMethod : AuthMethod) : LcpServer where
  fsm := Fsm.new
  lastCrId := 0
  lastCrOptions := []
  pendingNak := []
  pendingNakIsReject := false
  lastRxrCode := 0
  lastEchoId := 0
  lastEchoData := []
  opened := false
  authMethod := authMethod
  peerMru := none

/-- Drive the automaton. -/
def stepTraced (lcp : LcpServer) (event : Fsm.Event) : Fsm.StepOut × LcpServer :=
  let (out, fsm) := lcp.fsm.step event
  (out, { lcp with fsm })

/-- Administrative open followed by lower-layer up. -/
def openLcp (lcp : LcpServer) : Fsm.StepOut × LcpServer :=
  (lcp.stepTraced .adminOpen).2.stepTraced .up

/-- Options of a peer's Configure-Request that the server takes at any value. -/
def accepts (opt : ConfigOption) : Bool :=
  match opt.typed with
  | some .mru | some .magicNumber | some .protocolFieldCompression
  | some .addressControlFieldCompression | some .authProtocol => true
  | _ => false

/-- Remember the peer's MRU. -/
def captureMru (lcp : LcpServer) (opt : ConfigOption) : LcpServer :=
  match opt.typed, opt.asMru with
  | some .mru, .ok mru => { lcp with peerMru := some mru }
  | _, _ => lcp

/-- Walk the option list: unacceptable options are copied into the reject body,
and a malformed option ends the walk. -/
def classifyOptions (lcp : LcpServer) (anyBad : Bool) :
    List (Except LcpPacketError ConfigOption) → LcpServer × Bool
  | [] => (lcp, anyBad)
  | .error _ :: _ => (lcp, true)
  | .ok opt :: rest =>
      let lcp := lcp.captureMru opt
      if accepts opt then
        classifyOptions lcp anyBad rest
      else
        classifyOptions
          { lcp with pendingNak :=
              lcp.pendingNak ++ writeOption opt.optionType opt.value }
          true rest

/-- Decide whether a Configure-Request is acceptable. -/
def classifyConfigureRequest (lcp : LcpServer) (opts : Bytes) :
    Fsm.Event × LcpServer :=
  let (lcp, anyBad) :=
    { lcp with pendingNak := [], pendingNakIsReject := true }.classifyOptions
      false (configOptions opts)
  (if anyBad then .rcvConfigReqBad else .rcvConfigReqGood, lcp)

/-- The automaton event of an inbound packet, with the data cached for the
answer. -/
def eventOf (lcp : LcpServer) (packet : LcpPacket) : Fsm.Event × LcpServer :=
  match packet.typedCode with
  | some .configureRequest =>
      { lcp with lastCrId := packet.identifier,
                 lastCrOptions := packet.data }.classifyConfigureRequest packet.data
  | some .configureAck => (.rcvConfigAck, lcp)
  | some .configureNak | some .configureReject => (.rcvConfigNak, lcp)
  | some .terminateRequest => (.rcvTerminateReq, lcp)
  | some .terminateAck => (.rcvTerminateAck, lcp)
  | some .codeReject | some .protocolReject => (.rcvCodeRejPermitted, lcp)
  | some .echoRequest | some .echoReply | some .discardRequest =>
      (.rcvEcho, { lcp with lastRxrCode := packet.code,
                            lastEchoId := packet.identifier,
                            lastEchoData := packet.data })
  | none => (.rcvUnknownCode, lcp)

theorem exists_captureMru_eq (lcp : LcpServer) (opt : ConfigOption) :
    ∃ peerMru, lcp.captureMru opt = { lcp with peerMru } := by
  unfold captureMru
  split
  · exact ⟨_, rfl⟩
  · exact ⟨lcp.peerMru, rfl⟩

/-- Classification touches nothing but the reject body and the peer's MRU. -/
theorem exists_classifyOptions_eq (lcp : LcpServer) (anyBad : Bool)
    (items : List (Except LcpPacketError ConfigOption)) :
    ∃ pendingNak peerMru,
      (lcp.classifyOptions anyBad items).1 = { lcp with pendingNak, peerMru } := by
  induction items generalizing lcp anyBad with
  | nil => exact ⟨lcp.pendingNak, lcp.peerMru, rfl⟩
  | cons item rest ih =>
      cases item with
      | error error => exact ⟨lcp.pendingNak, lcp.peerMru, rfl⟩
      | ok opt =>
          obtain ⟨captured, capturedEq⟩ := lcp.exists_captureMru_eq opt
          simp only [classifyOptions, capturedEq]
          split
          · exact ih { lcp with peerMru := captured } anyBad
          · exact ih
              { lcp with
                pendingNak := lcp.pendingNak ++ writeOption opt.optionType opt.value
                peerMru := captured } true

/-- The event that an inbound packet is for the automaton, and what is cached of it. -/
inductive Heard (lcp : LcpServer) (packet : LcpPacket) : Fsm.Event × LcpServer → Prop where
  | request {event : Fsm.Event} {pendingNak : Bytes} {peerMru : Option Nat}
      (typed : packet.typedCode = some .configureRequest)
      (classified : event = .rcvConfigReqGood ∨ event = .rcvConfigReqBad) :
      Heard lcp packet (event,
        { lcp with
          lastCrId := packet.identifier
          lastCrOptions := packet.data
          pendingNak
          pendingNakIsReject := true
          peerMru })
  | ack (typed : packet.typedCode = some .configureAck) :
      Heard lcp packet (.rcvConfigAck, lcp)
  | nak (typed : packet.typedCode = some .configureNak ∨
      packet.typedCode = some .configureReject) :
      Heard lcp packet (.rcvConfigNak, lcp)
  | terminateRequest (typed : packet.typedCode = some .terminateRequest) :
      Heard lcp packet (.rcvTerminateReq, lcp)
  | terminateAck (typed : packet.typedCode = some .terminateAck) :
      Heard lcp packet (.rcvTerminateAck, lcp)
  | rejection (typed : packet.typedCode = some .codeReject ∨
      packet.typedCode = some .protocolReject) :
      Heard lcp packet (.rcvCodeRejPermitted, lcp)
  | echo (typed : packet.typedCode = some .echoRequest ∨ packet.typedCode = some .echoReply ∨
      packet.typedCode = some .discardRequest) :
      Heard lcp packet (.rcvEcho,
        { lcp with
          lastRxrCode := packet.code
          lastEchoId := packet.identifier
          lastEchoData := packet.data })
  | unknown (typed : packet.typedCode = none) : Heard lcp packet (.rcvUnknownCode, lcp)

theorem heard_eventOf (lcp : LcpServer) (packet : LcpPacket) :
    lcp.Heard packet (lcp.eventOf packet) := by
  unfold eventOf
  split
  case h_1 typed =>
    obtain ⟨pendingNak, peerMru, classified⟩ := exists_classifyOptions_eq
      { lcp with
        lastCrId := packet.identifier
        lastCrOptions := packet.data
        pendingNak := []
        pendingNakIsReject := true } false (configOptions packet.data)
    simp only [classifyConfigureRequest, classified]
    split_ifs
    · exact .request typed (.inr rfl)
    · exact .request typed (.inl rfl)
  case h_2 typed => exact .ack typed
  case h_3 typed => exact .nak (.inl typed)
  case h_4 typed => exact .nak (.inr typed)
  case h_5 typed => exact .terminateRequest typed
  case h_6 typed => exact .terminateAck typed
  case h_7 typed => exact .rejection (.inl typed)
  case h_8 typed => exact .rejection (.inr typed)
  case h_9 typed => exact .echo (.inl typed)
  case h_10 typed => exact .echo (.inr (.inl typed))
  case h_11 typed => exact .echo (.inr (.inr typed))
  case h_12 typed => exact .unknown typed

/-- Caching an inbound packet leaves the automaton, the opened flag and the
configured method alone. -/
theorem eventOf_keeps (lcp : LcpServer) (packet : LcpPacket) :
    (lcp.eventOf packet).2.fsm = lcp.fsm ∧
      (lcp.eventOf packet).2.opened = lcp.opened ∧
      (lcp.eventOf packet).2.authMethod = lcp.authMethod := by
  have heard := lcp.heard_eventOf packet
  generalize lcp.eventOf packet = out at heard ⊢
  cases heard <;> exact ⟨rfl, rfl, rfl⟩

/-- Handle an inbound packet. -/
def onPacket (lcp : LcpServer) (packet : LcpPacket) :
    (Fsm.StepOut × UInt8) × LcpServer :=
  let (event, lcp) := lcp.eventOf packet
  let (out, lcp) := lcp.stepTraced event
  ((out, packet.identifier), lcp)

/-- The options of the server's own Configure-Request. -/
def writeOwnCrOptions (lcp : LcpServer) : Bytes :=
  match lcp.authMethod with
  | .pap => writeOption LcpOptionId.authProtocol.asU8 authProtocolPap
  | .chapMd5 => writeOption LcpOptionId.authProtocol.asU8 authProtocolChapMd5
  | .msChapV2 => writeOption LcpOptionId.authProtocol.asU8 authProtocolMschapv2

/-- Body of an Echo-Reply: a zero magic number, then the request's data past
its own magic number. -/
def echoBody (lcp : LcpServer) : Bytes :=
  [0, 0, 0, 0] ++ (if 4 < lcp.lastEchoData.length then lcp.lastEchoData.drop 4 else [])

/-- Encode the packet the automaton asks for. -/
def renderSend (out : PppStep) (lcp : LcpServer) (send : Option Fsm.Send) :
    PppStep × LcpServer :=
  match send with
  | none => (out, lcp)
  | some .configureRequest =>
      let (id, fsm) := lcp.fsm.bumpIdentifier
      let lcp := { lcp with fsm }
      (out.pushFrame (encodeLcpFrame .configureRequest id lcp.writeOwnCrOptions), lcp)
  | some .configureAck =>
      (out.pushFrame (encodeLcpFrame .configureAck lcp.lastCrId lcp.lastCrOptions), lcp)
  | some .configureNak =>
      let code := if lcp.pendingNakIsReject then .configureReject else .configureNak
      (out.pushFrame (encodeLcpFrame code lcp.lastCrId lcp.pendingNak), lcp)
  | some .terminateReq =>
      let (id, fsm) := lcp.fsm.bumpIdentifier
      (out.pushFrame (encodeLcpFrame .terminateRequest id []), { lcp with fsm })
  | some .terminateAck =>
      (out.pushFrame (encodeLcpFrame .terminateAck lcp.lastCrId []), lcp)
  | some .echoReply =>
      if lcp.lastRxrCode ≠ LcpCode.echoRequest.asU8 then
        (out, lcp)
      else
        (out.pushFrame (encodeLcpFrame .echoReply lcp.lastEchoId lcp.echoBody), lcp)
  | some .codeReject => (out, lcp)

/-- The frames of a send action. -/
def sentFrames (lcp : LcpServer) (send : Option Fsm.Send) : List Bytes :=
  (renderSend {} lcp send).1.frames

@[simp]
theorem renderSend_fst (out : PppStep) (lcp : LcpServer) (send : Option Fsm.Send) :
    (renderSend out lcp send).1 =
      { out with frames := out.frames ++ lcp.sentFrames send } := by
  rcases send with _ | send
  · simp [sentFrames, renderSend]
  · cases send <;> simp [sentFrames, renderSend, PppStep.pushFrame]
    split <;> simp

/-- The negotiation after a send action. -/
def bumped (lcp : LcpServer) (send : Option Fsm.Send) : LcpServer :=
  { lcp with fsm := { lcp.fsm with identifier := lcp.fsm.identifierAfter send } }

/-- Rendering only moves the identifier. -/
@[simp]
theorem renderSend_snd (out : PppStep) (lcp : LcpServer) (send : Option Fsm.Send) :
    (renderSend out lcp send).2 = lcp.bumped send := by
  rcases send with _ | send
  · rfl
  · cases send
    case echoReply =>
      simp only [renderSend]
      split <;> rfl
    all_goals rfl

/-- Every rendered LCP frame is an LCP packet, and a request only when the automaton asked for
one. -/
theorem eq_encodeLcpFrame_of_mem_sentFrames {lcp : LcpServer}
    {send : Option Fsm.Send} {frame : Bytes} (member : frame ∈ lcp.sentFrames send) :
    ∃ code identifier body, frame = encodeLcpFrame code identifier body ∧
      (code = .configureRequest → send = some .configureRequest) := by
  rcases send with _ | send
  · simp [sentFrames, renderSend] at member
  · cases send <;> simp [sentFrames, renderSend, PppStep.pushFrame] at member
    case configureNak =>
      refine ⟨_, _, _, member, ?_⟩
      split <;> simp
    case echoReply =>
      split at member <;> simp at member
      exact ⟨_, _, _, member, by simp⟩
    all_goals exact ⟨_, _, _, member, by simp⟩

/-- The frames of an action set. -/
def stepFrames (lcp : LcpServer) (step : Fsm.StepOut) : List Bytes :=
  lcp.sentFrames step.send ++ (lcp.bumped step.send).sentFrames step.sendExtra

theorem eq_encodeLcpFrame_of_mem_stepFrames {lcp : LcpServer} {step : Fsm.StepOut}
    {frame : Bytes} (member : frame ∈ lcp.stepFrames step) :
    ∃ code identifier body, frame = encodeLcpFrame code identifier body := by
  rcases List.mem_append.mp member with first | second
  · obtain ⟨code, identifier, body, frameEq, -⟩ := eq_encodeLcpFrame_of_mem_sentFrames first
    exact ⟨code, identifier, body, frameEq⟩
  · obtain ⟨code, identifier, body, frameEq, -⟩ := eq_encodeLcpFrame_of_mem_sentFrames second
    exact ⟨code, identifier, body, frameEq⟩

/-- The negotiation after an action set. -/
def afterStep (lcp : LcpServer) (step : Fsm.StepOut) : LcpServer :=
  { (lcp.bumped step.send).bumped step.sendExtra with
    opened := !step.notify.down && (lcp.opened || step.notify.up) }

end LcpServer

/-! ## IPCP -/

/-- The IPCP negotiation for one grant of addresses. -/
structure IpcpServer where
  fsm : Fsm
  addrs : AssignedAddrs
  localIp : Ipv4
  lastCrId : UInt8
  lastCrOptions : Bytes
  pendingNak : Bytes
  pendingNakIsReject : Bool
  opened : Bool
  deriving DecidableEq

namespace IpcpServer

def new (addrs : AssignedAddrs) (localIp : Ipv4) : IpcpServer where
  fsm := Fsm.new
  addrs := addrs
  localIp := localIp
  lastCrId := 0
  lastCrOptions := []
  pendingNak := []
  pendingNakIsReject := false
  opened := false

/-- Drive the automaton. -/
def stepTraced (ipcp : IpcpServer) (event : Fsm.Event) :
    Fsm.StepOut × IpcpServer :=
  let (out, fsm) := ipcp.fsm.step event
  (out, { ipcp with fsm })

/-- Administrative open followed by lower-layer up. -/
def openIpcp (ipcp : IpcpServer) : Fsm.StepOut × IpcpServer :=
  (ipcp.stepTraced .adminOpen).2.stepTraced .up

/-- A name-server option: accept the granted value, Nak any other value with
it, and reject the option when nothing was granted. -/
def handleOptionalDnsLike (nak reject : Bytes) (opt : ConfigOption)
    (ours : Option Ipv4) (optType : UInt8) : Bytes × Bytes :=
  match ours, readIpv4Value opt.value with
  | some value, .ok client =>
      if client = value then
        (nak, reject)
      else
        (nak ++ writeIpv4Option optType value, reject)
  | some value, .error _ => (nak ++ writeIpv4Option optType value, reject)
  | none, _ => (nak, reject ++ writeOption optType opt.value)

/-- Classify one option, extending the Nak and Reject bodies. -/
def classifyOption (addrs : AssignedAddrs) (nak reject : Bytes)
    (opt : ConfigOption) : Bytes × Bytes :=
  match IpcpOptionId.fromU8 opt.optionType with
  | some .ipAddress =>
      match readIpv4Value opt.value with
      | .ok value =>
          if value = addrs.ip then
            (nak, reject)
          else
            (nak ++ writeIpv4Option IpcpOptionId.ipAddress.asU8 addrs.ip, reject)
      | .error _ =>
          (nak ++ writeIpv4Option IpcpOptionId.ipAddress.asU8 addrs.ip, reject)
  | some .primaryDns =>
      handleOptionalDnsLike nak reject opt addrs.dns1 IpcpOptionId.primaryDns.asU8
  | some .secondaryDns =>
      handleOptionalDnsLike nak reject opt addrs.dns2 IpcpOptionId.secondaryDns.asU8
  | some .primaryNbns =>
      handleOptionalDnsLike nak reject opt addrs.nbns1 IpcpOptionId.primaryNbns.asU8
  | some .secondaryNbns =>
      handleOptionalDnsLike nak reject opt addrs.nbns2 IpcpOptionId.secondaryNbns.asU8
  | some .ipCompressionProtocol | some .mobileIpv4 | none =>
      (nak, reject ++ writeOption opt.optionType opt.value)

/-- Walk the option list; a malformed option gives up with no bodies. -/
def classifyOptions (addrs : AssignedAddrs) (nak reject : Bytes) :
    List (Except LcpPacketError ConfigOption) → Option (Bytes × Bytes)
  | [] => some (nak, reject)
  | .error _ :: _ => none
  | .ok opt :: rest =>
      let (nak, reject) := classifyOption addrs nak reject opt
      classifyOptions addrs nak reject rest

/-- Decide whether a Configure-Request is acceptable; a Reject takes precedence
over a Nak. -/
def classifyConfigureRequest (ipcp : IpcpServer) (opts : Bytes) :
    Fsm.Event × IpcpServer :=
  let ipcp := { ipcp with pendingNak := [], pendingNakIsReject := false }
  match classifyOptions ipcp.addrs [] [] (configOptions opts) with
  | none => (.rcvConfigReqBad, ipcp)
  | some (nak, reject) =>
      if reject ≠ [] then
        (.rcvConfigReqBad, { ipcp with pendingNak := reject, pendingNakIsReject := true })
      else if nak ≠ [] then
        (.rcvConfigReqBad, { ipcp with pendingNak := nak, pendingNakIsReject := false })
      else
        (.rcvConfigReqGood, ipcp)

/-- The automaton event of an inbound packet, with the data cached for the
answer. -/
def eventOf (ipcp : IpcpServer) (packet : LcpPacket) : Fsm.Event × IpcpServer :=
  match IpcpCode.fromU8 packet.code with
  | some .configureRequest =>
      { ipcp with lastCrId := packet.identifier,
                  lastCrOptions := packet.data }.classifyConfigureRequest packet.data
  | some .configureAck => (.rcvConfigAck, ipcp)
  | some .configureNak | some .configureReject => (.rcvConfigNak, ipcp)
  | some .terminateRequest => (.rcvTerminateReq, ipcp)
  | some .terminateAck => (.rcvTerminateAck, ipcp)
  | some .codeReject => (.rcvCodeRejPermitted, ipcp)
  | none => (.rcvUnknownCode, ipcp)

/-- The event that an inbound packet is for the automaton, and what is cached of it. -/
inductive Heard (ipcp : IpcpServer) (packet : LcpPacket) : Fsm.Event × IpcpServer → Prop where
  | request {event : Fsm.Event} {pendingNak : Bytes} {pendingNakIsReject : Bool}
      (typed : IpcpCode.fromU8 packet.code = some .configureRequest)
      (classified : event = .rcvConfigReqGood ∨ event = .rcvConfigReqBad) :
      Heard ipcp packet (event,
        { ipcp with
          lastCrId := packet.identifier
          lastCrOptions := packet.data
          pendingNak
          pendingNakIsReject })
  | ack (typed : IpcpCode.fromU8 packet.code = some .configureAck) :
      Heard ipcp packet (.rcvConfigAck, ipcp)
  | nak (typed : IpcpCode.fromU8 packet.code = some .configureNak ∨
      IpcpCode.fromU8 packet.code = some .configureReject) :
      Heard ipcp packet (.rcvConfigNak, ipcp)
  | terminateRequest (typed : IpcpCode.fromU8 packet.code = some .terminateRequest) :
      Heard ipcp packet (.rcvTerminateReq, ipcp)
  | terminateAck (typed : IpcpCode.fromU8 packet.code = some .terminateAck) :
      Heard ipcp packet (.rcvTerminateAck, ipcp)
  | rejection (typed : IpcpCode.fromU8 packet.code = some .codeReject) :
      Heard ipcp packet (.rcvCodeRejPermitted, ipcp)
  | unknown (typed : IpcpCode.fromU8 packet.code = none) :
      Heard ipcp packet (.rcvUnknownCode, ipcp)

theorem heard_eventOf (ipcp : IpcpServer) (packet : LcpPacket) :
    ipcp.Heard packet (ipcp.eventOf packet) := by
  unfold eventOf
  split
  case h_1 typed =>
    simp only [classifyConfigureRequest]
    split
    · exact .request typed (.inr rfl)
    · split_ifs
      · exact .request typed (.inr rfl)
      · exact .request typed (.inr rfl)
      · exact .request typed (.inl rfl)
  case h_2 typed => exact .ack typed
  case h_3 typed => exact .nak (.inl typed)
  case h_4 typed => exact .nak (.inr typed)
  case h_5 typed => exact .terminateRequest typed
  case h_6 typed => exact .terminateAck typed
  case h_7 typed => exact .rejection typed
  case h_8 typed => exact .unknown typed

/-- Caching an inbound packet leaves the automaton, the granted addresses and the
opened flag alone. -/
theorem eventOf_keeps (ipcp : IpcpServer) (packet : LcpPacket) :
    (ipcp.eventOf packet).2.fsm = ipcp.fsm ∧
      (ipcp.eventOf packet).2.addrs = ipcp.addrs ∧
      (ipcp.eventOf packet).2.opened = ipcp.opened := by
  have heard := ipcp.heard_eventOf packet
  generalize ipcp.eventOf packet = out at heard ⊢
  cases heard <;> exact ⟨rfl, rfl, rfl⟩

/-- Handle an inbound packet. -/
def onPacket (ipcp : IpcpServer) (packet : LcpPacket) :
    (Fsm.StepOut × UInt8) × IpcpServer :=
  let (event, ipcp) := ipcp.eventOf packet
  let (out, ipcp) := ipcp.stepTraced event
  ((out, packet.identifier), ipcp)

/-- Encode the packet the automaton asks for. -/
def renderIpcpSend (out : PppStep) (ipcp : IpcpServer) (send : Option Fsm.Send) :
    PppStep × IpcpServer :=
  match send with
  | none => (out, ipcp)
  | some .configureRequest =>
      let (id, fsm) := ipcp.fsm.bumpIdentifier
      (out.pushFrame (encodeIpcpFrame .configureRequest id
          (writeIpv4Option IpcpOptionId.ipAddress.asU8 ipcp.localIp)),
        { ipcp with fsm })
  | some .configureAck =>
      (out.pushFrame (encodeIpcpFrame .configureAck ipcp.lastCrId ipcp.lastCrOptions),
        ipcp)
  | some .configureNak =>
      let code := if ipcp.pendingNakIsReject then .configureReject else .configureNak
      (out.pushFrame (encodeIpcpFrame code ipcp.lastCrId ipcp.pendingNak), ipcp)
  | some .terminateReq =>
      let (id, fsm) := ipcp.fsm.bumpIdentifier
      (out.pushFrame (encodeIpcpFrame .terminateRequest id []), { ipcp with fsm })
  | some .terminateAck =>
      (out.pushFrame (encodeIpcpFrame .terminateAck ipcp.lastCrId []), ipcp)
  | some .codeReject | some .echoReply => (out, ipcp)

/-- The frames of a send action. -/
def sentFrames (ipcp : IpcpServer) (send : Option Fsm.Send) : List Bytes :=
  (renderIpcpSend {} ipcp send).1.frames

@[simp]
theorem renderIpcpSend_fst (out : PppStep) (ipcp : IpcpServer)
    (send : Option Fsm.Send) :
    (renderIpcpSend out ipcp send).1 =
      { out with frames := out.frames ++ ipcp.sentFrames send } := by
  rcases send with _ | send
  · simp [sentFrames, renderIpcpSend]
  · cases send <;> simp [sentFrames, renderIpcpSend, PppStep.pushFrame]

/-- The negotiation after a send action. -/
def bumped (ipcp : IpcpServer) (send : Option Fsm.Send) : IpcpServer :=
  { ipcp with fsm := { ipcp.fsm with identifier := ipcp.fsm.identifierAfter send } }

/-- Rendering only moves the identifier. -/
@[simp]
theorem renderIpcpSend_snd (out : PppStep) (ipcp : IpcpServer)
    (send : Option Fsm.Send) :
    (renderIpcpSend out ipcp send).2 = ipcp.bumped send := by
  rcases send with _ | send
  · rfl
  · cases send <;> rfl

/-- Every rendered IPCP frame is an IPCP packet; an Ack echoes the options of the
last Configure-Request, and a request goes out only when the automaton asked for one. -/
theorem eq_encodeIpcpFrame_of_mem_sentFrames {ipcp : IpcpServer}
    {send : Option Fsm.Send} {frame : Bytes} (member : frame ∈ ipcp.sentFrames send) :
    ∃ code identifier body, frame = encodeIpcpFrame code identifier body ∧
      (code = .configureAck → send = some .configureAck ∧ body = ipcp.lastCrOptions) ∧
      (code = .configureRequest → send = some .configureRequest) := by
  rcases send with _ | send
  · simp [sentFrames, renderIpcpSend] at member
  · cases send <;> simp [sentFrames, renderIpcpSend, PppStep.pushFrame] at member
    case configureNak =>
      refine ⟨_, _, _, member, ?_, ?_⟩ <;> split <;> simp
    all_goals exact ⟨_, _, _, member, by simp⟩

/-- The frames of an action set. -/
def stepFrames (ipcp : IpcpServer) (step : Fsm.StepOut) : List Bytes :=
  ipcp.sentFrames step.send ++ (ipcp.bumped step.send).sentFrames step.sendExtra

theorem eq_encodeIpcpFrame_of_mem_stepFrames {ipcp : IpcpServer}
    {step : Fsm.StepOut} {frame : Bytes} (member : frame ∈ ipcp.stepFrames step) :
    ∃ code identifier body, frame = encodeIpcpFrame code identifier body ∧
      (code = .configureAck →
        .configureAck ∈ step.sends ∧ body = ipcp.lastCrOptions) := by
  rcases List.mem_append.mp member with first | second
  · obtain ⟨code, identifier, body, frameEq, ack, -⟩ :=
      eq_encodeIpcpFrame_of_mem_sentFrames first
    refine ⟨code, identifier, body, frameEq, fun isAck => ?_⟩
    obtain ⟨send, bodyEq⟩ := ack isAck
    exact ⟨by simp [Fsm.StepOut.sends, send], bodyEq⟩
  · obtain ⟨code, identifier, body, frameEq, ack, -⟩ :=
      eq_encodeIpcpFrame_of_mem_sentFrames second
    refine ⟨code, identifier, body, frameEq, fun isAck => ?_⟩
    obtain ⟨send, bodyEq⟩ := ack isAck
    exact ⟨by simp [Fsm.StepOut.sends, send], bodyEq⟩

/-- The negotiation after an action set. -/
def afterStep (ipcp : IpcpServer) (step : Fsm.StepOut) : IpcpServer :=
  { (ipcp.bumped step.send).bumped step.sendExtra with
    opened := ipcp.opened || step.notify.up }

end IpcpServer

end SstpServer.Ppp
