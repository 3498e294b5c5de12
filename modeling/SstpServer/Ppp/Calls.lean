import SstpServer.Ppp.Driver

/-!
# What a driver call can do

Every call is silent, hands credentials up, or carries out one action set of the
LCP or of the IPCP automaton.  This module gives the fields of the two rendering
functions, and one inversion of a call into these moves.
-/

namespace SstpServer.Ppp

open SstpServer.Wire
open SstpServer.Transition

/-! ## Carrying out an LCP action set -/

/-- The action set brings LCP up for the first time since it was last down. -/
def Enters (ppp : Ppp) (step : Fsm.StepOut) : Prop :=
  step.notify.up = true ∧ ppp.lcp.opened = false

instance (ppp : Ppp) (step : Fsm.StepOut) : Decidable (ppp.Enters step) :=
  inferInstanceAs (Decidable (_ ∧ _))

/-- The server authenticates the peer by challenge. -/
def Challenges (ppp : Ppp) : Prop :=
  ppp.lcp.authMethod ≠ .pap

instance (ppp : Ppp) : Decidable ppp.Challenges :=
  inferInstanceAs (Decidable (_ ≠ _))

/-- The challenge frame of an action set that brings LCP up. -/
def challengeFrames (ppp : Ppp) (step : Fsm.StepOut) (random : Block 16) : List Bytes :=
  if ppp.Enters step ∧ ppp.Challenges then
    [encodeChapChallenge ppp.chapIdCounter random]
  else
    []

theorem not_pap_iff {method : AuthMethod} :
    method ≠ .pap ↔ method = .chapMd5 ∨ method = .msChapV2 := by
  cases method <;> simp

/-- The state after an LCP action set, field by field. -/
theorem renderLcpStep_snd (ppp : Ppp) (step : Fsm.StepOut) (random : Block 16) :
    (ppp.renderLcpStep step random).2 =
      { ppp with
        phase :=
          if step.notify.finished then .dead
          else if ppp.Enters step then .authPending
          else ppp.phase
        lcp := ppp.lcp.afterStep step
        chapChallenge :=
          if ppp.Enters step ∧ ppp.Challenges then some random else ppp.chapChallenge
        chapIdCounter :=
          if ppp.Enters step ∧ ppp.Challenges then ppp.chapIdCounter + 1
          else ppp.chapIdCounter } := by
  rcases step with ⟨newState, send, sendExtra, restartTimer, ⟨up, down, started, finished⟩⟩
  rcases ppp with ⟨phase, ⟨fsm, id, options, nak, isReject, rxr, echoId, echoData,
    opened, method, mru⟩, ipcp, addrs, localIp, challenge, counter, extra⟩
  simp only [renderLcpStep, Enters, Challenges, not_pap_iff, enterAuth, nextChapId,
    LcpServer.renderSend_fst, LcpServer.renderSend_snd]
  cases up <;> cases down <;> cases finished <;> cases opened <;> cases method <;> rfl

/-- The frames of an LCP action set: the automaton's packets, then the
challenge. -/
theorem renderLcpStep_frames (ppp : Ppp) (step : Fsm.StepOut) (random : Block 16) :
    (ppp.renderLcpStep step random).1.frames =
      ppp.lcp.stepFrames step ++ ppp.challengeFrames step random := by
  simp only [renderLcpStep, challengeFrames, Enters, Challenges, not_pap_iff, enterAuth,
    nextChapId, LcpServer.stepFrames, LcpServer.renderSend_fst, LcpServer.renderSend_snd,
    LcpServer.bumped, PppStep.pushFrame, Bool.not_eq_true]
  split_ifs <;> simp_all

/-- LCP never raises an event. -/
theorem renderLcpStep_event (ppp : Ppp) (step : Fsm.StepOut) (random : Block 16) :
    (ppp.renderLcpStep step random).1.event = none := by
  simp only [renderLcpStep, enterAuth, nextChapId, LcpServer.renderSend_fst,
    LcpServer.renderSend_snd, PppStep.pushFrame]
  split_ifs <;> simp

theorem openPpp_event (ppp : Ppp) (random : Block 16) :
    (ppp.openPpp random).1.event = none :=
  renderLcpStep_event _ _ _

/-! ## Carrying out an IPCP action set -/

/-- The state after an IPCP action set. -/
theorem renderIpcpStep_snd (ppp : Ppp) (ipcp : IpcpServer) (step : Fsm.StepOut) :
    (ppp.renderIpcpStep ipcp step).2 =
      { ppp with ipcp := some (ipcp.afterStep step) } := by
  rcases step with ⟨newState, send, sendExtra, restartTimer, ⟨up, down, started, finished⟩⟩
  rcases ipcp with ⟨fsm, addrs, localIp, id, options, nak, isReject, opened⟩
  simp only [renderIpcpStep, IpcpServer.renderIpcpSend_fst, IpcpServer.renderIpcpSend_snd]
  cases up <;> cases opened <;> rfl

theorem renderIpcpStep_frames (ppp : Ppp) (ipcp : IpcpServer) (step : Fsm.StepOut) :
    (ppp.renderIpcpStep ipcp step).1.frames = ipcp.stepFrames step := by
  simp only [renderIpcpStep, IpcpServer.stepFrames, IpcpServer.renderIpcpSend_fst,
    IpcpServer.renderIpcpSend_snd]
  split_ifs <;> simp

/-- IPCP announces the network when it first comes up. -/
theorem renderIpcpStep_event (ppp : Ppp) (ipcp : IpcpServer) (step : Fsm.StepOut) :
    (ppp.renderIpcpStep ipcp step).1.event =
      if step.notify.up = true ∧ ipcp.opened = false then
        ppp.pendingAddrs.map .networkUp
      else none := by
  simp only [renderIpcpStep, IpcpServer.renderIpcpSend_fst, IpcpServer.renderIpcpSend_snd,
    IpcpServer.bumped, Bool.not_eq_true]
  split_ifs <;> simp

/-! ## Moves -/

/-- Feed an event to the LCP automaton and carry out its action set. -/
def lcpMove (ppp : Ppp) (event : Fsm.Event) (lcp : LcpServer) (random : Block 16) :
    PppStep × Ppp :=
  { ppp with lcp := (lcp.stepTraced event).2 }.renderLcpStep (lcp.stepTraced event).1 random

@[simp]
theorem lcpMove_event (ppp : Ppp) (event : Fsm.Event) (lcp : LcpServer)
    (random : Block 16) : (ppp.lcpMove event lcp random).1.event = none :=
  renderLcpStep_event _ _ _

/-- The LCP side after an LCP move: the automaton has stepped, and only its
identifier and the opened flag have changed besides. -/
theorem lcpMove_lcp (ppp : Ppp) (event : Fsm.Event) (lcp : LcpServer)
    (random : Block 16) :
    (ppp.lcpMove event lcp random).2.lcp =
      (lcp.stepTraced event).2.afterStep (lcp.stepTraced event).1 := by
  simp [lcpMove, renderLcpStep_snd]

theorem lcpMove_state (ppp : Ppp) (event : Fsm.Event) (lcp : LcpServer)
    (random : Block 16) :
    (ppp.lcpMove event lcp random).2.lcp.fsm.state = (lcp.fsm.step event).1.newState := by
  rw [lcpMove_lcp]
  rfl

/-- The phase after an LCP move. -/
theorem lcpMove_phase (ppp : Ppp) (event : Fsm.Event) (lcp : LcpServer)
    (random : Block 16) :
    (ppp.lcpMove event lcp random).2.phase =
      if (lcp.fsm.step event).1.notify.finished = true then .dead
      else if (lcp.fsm.step event).1.notify.up = true ∧ lcp.opened = false then .authPending
      else ppp.phase := by
  simp only [lcpMove, renderLcpStep_snd, Enters]
  rfl

/-- An LCP move leaves IPCP and the granted addresses alone. -/
theorem lcpMove_keeps (ppp : Ppp) (event : Fsm.Event) (lcp : LcpServer)
    (random : Block 16) :
    (ppp.lcpMove event lcp random).2.ipcp = ppp.ipcp ∧
      (ppp.lcpMove event lcp random).2.pendingAddrs = ppp.pendingAddrs := by
  simp [lcpMove, renderLcpStep_snd]

/-- Feed an event to the IPCP automaton and carry out its action set. -/
def ipcpMove (ppp : Ppp) (event : Fsm.Event) (ipcp : IpcpServer) : PppStep × Ppp :=
  ppp.renderIpcpStep (ipcp.stepTraced event).2 (ipcp.stepTraced event).1

/-- The addresses of an Accept that a call applies to the exchange in flight. -/
def acceptedAddrs (ppp : Ppp) (input : Input) : Option AssignedAddrs :=
  match ppp.phase, input.call with
  | .authInFlight (.pap _), .authResult (.accept addrs)
  | .authInFlight (.chap _), .authResult (.accept addrs)
  | .authInFlight (.msChapV2 _), .mschapResult (.accept addrs) _ _ => some addrs
  | _, _ => none

/-- The inbound packet of a protocol, when a call is a frame of that protocol. -/
def packetOf (protocol : ProtocolId) (input : Input) : Option Bytes :=
  match input.call with
  | .frame payload =>
      match decodeFrame payload with
      | .ok frame => if frame.protocol = protocol.asU16 then some frame.info else none
      | .error _ => none
  | _ => none

/-- The credential event of an acceptable CHAP packet under a method. -/
inductive ChapEvent (method : AuthMethod) (response : Chap.ChallengeResponse)
    (challenge : Block 16) : PppEvent → InFlightMethod → Prop where
  | md5 (configured : method = .chapMd5) (sized : response.value.length = 16) :
      ChapEvent method response challenge
        (.needChapAuth response.name response.identifier challenge
          (Block.ofBytes 16 response.value))
        (.chap response.identifier)
  | msChapV2 (configured : method = .msChapV2) (sized : response.value.length = 49)
      (reserved : ∀ byte ∈ slice response.value 16 24, byte = 0) :
      ChapEvent method response challenge
        (.needMsChapV2Auth response.name response.identifier challenge
          (Block.ofBytes 16 (slice response.value 0 16))
          (Block.ofBytes 24 (slice response.value 24 48))
          (response.value.getD 48 0))
        (.msChapV2 response.identifier)

/-- The answer to an authentication exchange: a PAP or CHAP frame of at most 259
bytes of packet, never a challenge. -/
inductive AuthAnswer : Bytes → Prop where
  | pap (code : Pap.Code) (identifier : UInt8) (message : Bytes)
      (short : message.length ≤ 255) :
      AuthAnswer (encodePapFrame (Pap.encodeResponse code identifier message))
  | chap (code : Chap.Code) (identifier : UInt8) (message : Bytes)
      (terminal : code = .success ∨ code = .failure) (short : message.length ≤ 255) :
      AuthAnswer (encodeChapTerminal code identifier message)

theorem packetOf_eq_some_iff {protocol : ProtocolId} {input : Input} {info : Bytes} :
    packetOf protocol input = some info ↔
      ∃ payload, input.call = .frame payload ∧
        decodeFrame payload = .ok ⟨protocol.asU16, info⟩ := by
  unfold packetOf
  constructor
  · intro received
    split at received
    · rename_i payload call
      split at received
      · rename_i frame decoded
        split_ifs at received with matches_
        cases received
        exact ⟨payload, call, by rw [decoded, ← matches_]⟩
      · cases received
    · cases received
  · rintro ⟨payload, call, decoded⟩
    simp [call, decoded]

/-- What a call does. -/
inductive Move (ppp : Ppp) (input : Input) : PppStep × Ppp → Prop where
  | silent (unaccepted : ppp.acceptedAddrs input = none) : Move ppp input ({}, ppp)
  | lcpPacket (info : Bytes) (packet : LcpPacket)
      (received : packetOf .lcp input = some info)
      (decoded : decodeLcpPacket info = .ok packet) :
      Move ppp input
        (ppp.lcpMove (ppp.lcp.eventOf packet).1 (ppp.lcp.eventOf packet).2 input.random)
  | lcpTimer (call : input.call = .timer .lcp) :
      Move ppp input (ppp.lcpMove .restartTimeout ppp.lcp input.random)
  | pap (info : Bytes) (request : Pap.AuthenticateRequest)
      (phase : ppp.phase.isAuth = true) (received : packetOf .pap input = some info)
      (decoded : Pap.decodeAuthenticateRequest info = .ok request) :
      Move ppp input
        ({ event := some (.needPapAuth request.peerId request.password) },
          { ppp with phase := .authInFlight (.pap request.identifier) })
  | chap (info : Bytes) (response : Chap.ChallengeResponse) (challenge : Block 16)
      (event : PppEvent) (method : InFlightMethod)
      (phase : ppp.phase.isAuth = true) (received : packetOf .chap input = some info)
      (decoded : Chap.decodeChallengeResponse info = .ok response)
      (sent : ppp.chapChallenge = some challenge)
      (handed : ChapEvent ppp.lcp.authMethod response challenge event method) :
      Move ppp input ({ event := some event }, { ppp with phase := .authInFlight method })
  | ipcpPacket (info : Bytes) (packet : LcpPacket) (ipcp : IpcpServer)
      (phase : ppp.phase = .network) (received : packetOf .ipcp input = some info)
      (decoded : decodeLcpPacket info = .ok packet) (running : ppp.ipcp = some ipcp) :
      Move ppp input (ppp.ipcpMove (ipcp.eventOf packet).1 (ipcp.eventOf packet).2)
  | ipcpTimer (ipcp : IpcpServer) (call : input.call = .timer .ipcp)
      (running : ppp.ipcp = some ipcp) :
      Move ppp input (ppp.ipcpMove .restartTimeout ipcp)
  | protocolReject (payload info : Bytes) (protocol : Nat)
      (call : input.call = .frame payload) :
      Move ppp input (ppp.protocolReject protocol info)
  | accept (addrs : AssignedAddrs) (frame : Bytes)
      (accepted : ppp.acceptedAddrs input = some addrs)
      (answer : AuthAnswer frame) :
      Move ppp input (ppp.advanceToNetwork { frames := [frame] } addrs)
  | reject (frame : Bytes) (inFlight : ppp.phase.isAuth = true)
      (unaccepted : ppp.acceptedAddrs input = none) (answer : AuthAnswer frame) :
      Move ppp input (ppp.tearDownAfterReject { frames := [frame] } input.random)

theorem handlePap_move {ppp : Ppp} {input : Input} {info : Bytes}
    (phase : ppp.phase.isAuth = true) (received : packetOf .pap input = some info)
    (unaccepted : ppp.acceptedAddrs input = none) :
    Move ppp input (ppp.handlePap info) := by
  unfold handlePap
  split
  · exact .silent unaccepted
  · rename_i request decoded
    exact .pap info request phase received decoded

theorem handleChap_move {ppp : Ppp} {input : Input} {info : Bytes}
    (phase : ppp.phase.isAuth = true) (received : packetOf .chap input = some info)
    (unaccepted : ppp.acceptedAddrs input = none) :
    Move ppp input (ppp.handleChap info) := by
  unfold handleChap
  split
  · exact .silent unaccepted
  · rename_i response decoded
    split
    · rename_i configured
      split_ifs with sized
      · exact .silent unaccepted
      · split
        · exact .silent unaccepted
        · rename_i challenge sent
          exact .chap info response challenge _ _ phase received decoded sent
            (.md5 configured (not_not.mp sized))
    · rename_i configured
      split_ifs with sized reserved
      · exact .silent unaccepted
      · exact .silent unaccepted
      · split
        · exact .silent unaccepted
        · rename_i challenge sent
          exact .chap info response challenge _ _ phase received decoded sent
            (.msChapV2 configured (not_not.mp sized) (by simpa using reserved))
    · exact .silent unaccepted

theorem handleLcp_move {ppp : Ppp} {input : Input} {info : Bytes}
    (received : packetOf .lcp input = some info)
    (unaccepted : ppp.acceptedAddrs input = none) :
    Move ppp input (ppp.handleLcp info input.random) := by
  unfold handleLcp
  split
  · exact .silent unaccepted
  · rename_i packet decoded
    exact .lcpPacket info packet received decoded

theorem handleIpcp_move {ppp : Ppp} {input : Input} {info : Bytes}
    (phase : ppp.phase = .network) (received : packetOf .ipcp input = some info)
    (unaccepted : ppp.acceptedAddrs input = none) :
    Move ppp input (ppp.handleIpcp info) := by
  unfold handleIpcp
  split
  · exact .silent unaccepted
  · rename_i packet decoded
    split
    · exact .silent unaccepted
    · rename_i ipcp running
      exact .ipcpPacket info packet ipcp phase received decoded running

theorem packetOf_frame {protocol : ProtocolId} {payload : Bytes} {random : Block 16}
    {frame : PppFrame} (decoded : decodeFrame payload = .ok frame)
    (known : ProtocolId.fromU16 frame.protocol = some protocol) :
    packetOf protocol ⟨.frame payload, random⟩ = some frame.info := by
  simp [packetOf, decoded, ProtocolId.fromU16_eq_some_iff.mp known]

theorem acceptedAddrs_frame (ppp : Ppp) (payload : Bytes) (random : Block 16) :
    ppp.acceptedAddrs ⟨.frame payload, random⟩ = none := by
  unfold acceptedAddrs
  split <;> simp_all

theorem onFrame_move (ppp : Ppp) (payload : Bytes) (random : Block 16) :
    Move ppp ⟨.frame payload, random⟩ (ppp.onFrame payload random) := by
  have unaccepted := ppp.acceptedAddrs_frame payload random
  unfold onFrame
  split
  · exact .silent unaccepted
  · rename_i frame decoded
    split
    · rename_i known
      exact handleLcp_move (packetOf_frame decoded known) unaccepted
    · rename_i phase known
      exact handlePap_move (by simp [phase, Phase.isAuth]) (packetOf_frame decoded known)
        unaccepted
    · rename_i phase known
      exact handlePap_move (by simp [phase, Phase.isAuth]) (packetOf_frame decoded known)
        unaccepted
    · rename_i phase known
      exact handleChap_move (by simp [phase, Phase.isAuth]) (packetOf_frame decoded known)
        unaccepted
    · rename_i phase known
      exact handleChap_move (by simp [phase, Phase.isAuth]) (packetOf_frame decoded known)
        unaccepted
    · exact .silent unaccepted
    · exact .silent unaccepted
    · rename_i phase known
      exact handleIpcp_move phase (packetOf_frame decoded known) unaccepted
    · exact .silent unaccepted
    · exact .protocolReject payload frame.info frame.protocol rfl

theorem onTimer_move (ppp : Ppp) (owner : TimerOwner) (random : Block 16) :
    Move ppp ⟨.timer owner, random⟩ (ppp.onTimer owner random) := by
  cases owner with
  | lcp => exact .lcpTimer rfl
  | ipcp =>
      unfold onTimer
      cases running : ppp.ipcp with
      | none =>
          refine .silent ?_
          unfold acceptedAddrs
          split <;> simp_all
      | some ipcp => exact .ipcpTimer ipcp rfl running

theorem onAuthResult_move (ppp : Ppp) (verdict : AuthVerdict) (random : Block 16) :
    Move ppp ⟨.authResult verdict, random⟩ (ppp.onAuthResult verdict random) := by
  unfold onAuthResult
  split
  · rename_i method phase
    cases method <;> cases verdict
    · exact .accept _ _ (by simp [acceptedAddrs, phase]) (.pap _ _ [] (by simp))
    · exact .reject _ (by simp [phase, Phase.isAuth]) (by simp [acceptedAddrs, phase])
        (.pap _ _ _ (by simp))
    · exact .accept _ _ (by simp [acceptedAddrs, phase]) (.chap _ _ [] (.inl rfl) (by simp))
    · exact .reject _ (by simp [phase, Phase.isAuth]) (by simp [acceptedAddrs, phase])
        (.chap _ _ _ (.inr rfl) (by simp))
    · exact .silent (by simp [acceptedAddrs, phase])
    · exact .silent (by simp [acceptedAddrs, phase])
  · rename_i notInFlight
    refine .silent ?_
    unfold acceptedAddrs
    split <;> simp_all

theorem onMschapResult_move (ppp : Ppp) (verdict : AuthVerdict)
    (authResponse errorString : Option Bytes) (random : Block 16) :
    Move ppp ⟨.mschapResult verdict authResponse errorString, random⟩
      (ppp.onMschapResult verdict authResponse errorString random) := by
  unfold onMschapResult
  split
  · rename_i chapId phase
    cases verdict
    · exact .accept _ _ (by simp [acceptedAddrs, phase]) (.chap _ _ _ (.inl rfl) (by simp))
    · exact .reject _ (by simp [phase, Phase.isAuth]) (by simp [acceptedAddrs, phase])
        (.chap _ _ _ (.inr rfl) (by simp))
  · rename_i notInFlight
    refine .silent ?_
    unfold acceptedAddrs
    split <;> simp_all

/-- Every call is one of the moves. -/
theorem run_move (ppp : Ppp) (input : Input) : Move ppp input (ppp.run input) := by
  rcases input with ⟨call, random⟩
  cases call with
  | frame payload => exact onFrame_move ppp payload random
  | timer owner => exact onTimer_move ppp owner random
  | authResult verdict => exact onAuthResult_move ppp verdict random
  | mschapResult verdict authResponse errorString =>
      exact onMschapResult_move ppp verdict authResponse errorString random

/-- An IPCP move only touches IPCP. -/
theorem ipcpMove_snd (ppp : Ppp) (event : Fsm.Event) (ipcp : IpcpServer) :
    (ppp.ipcpMove event ipcp).2 =
      { ppp with
        ipcp := some ((ipcp.stepTraced event).2.afterStep (ipcp.stepTraced event).1) } := by
  simp [ipcpMove, renderIpcpStep_snd]

/-- Rejecting a protocol only moves its identifier counter. -/
theorem protocolReject_snd (ppp : Ppp) (protocol : Nat) (info : Bytes) :
    ∃ counter, (ppp.protocolReject protocol info).2 =
      { ppp with lcpExtraIdCounter := counter } := by
  unfold protocolReject
  split
  · exact ⟨ppp.lcpExtraIdCounter, rfl⟩
  · exact ⟨_, rfl⟩

theorem protocolReject_event (ppp : Ppp) (protocol : Nat) (info : Bytes) :
    (ppp.protocolReject protocol info).1.event = none := by
  unfold protocolReject
  split <;> rfl

/-- Opening IPCP sends the server's Configure-Request and announces nothing. -/
theorem openIpcp_notify (addrs : AssignedAddrs) (localIp : Ipv4) :
    (IpcpServer.new addrs localIp).openIpcp.1.notify = {} :=
  rfl

theorem openIpcp_sends (addrs : AssignedAddrs) (localIp : Ipv4) :
    (IpcpServer.new addrs localIp).openIpcp.1.sends = [.configureRequest] :=
  rfl

/-- The addresses an applied Accept grants. -/
def grantedAddrs (ppp : Ppp) (addrs : AssignedAddrs) : AssignedAddrs :=
  { addrs with mtu := mergeMtu addrs.mtu ppp.lcp.peerMru }

/-- A fresh negotiation once its first Configure-Request is out. -/
def launchedIpcp (addrs : AssignedAddrs) (localIp : Ipv4) : IpcpServer :=
  (IpcpServer.new addrs localIp).openIpcp.2.afterStep
    (IpcpServer.new addrs localIp).openIpcp.1

theorem advanceToNetwork_snd (ppp : Ppp) (out : PppStep) (addrs : AssignedAddrs) :
    (ppp.advanceToNetwork out addrs).2 =
      { ppp with
        phase := .network
        pendingAddrs := some (ppp.grantedAddrs addrs)
        ipcp := some (launchedIpcp (ppp.grantedAddrs addrs) ppp.localIp) } := by
  simp [advanceToNetwork, renderIpcpStep_snd, grantedAddrs, launchedIpcp]

theorem advanceToNetwork_event (ppp : Ppp) (frames : List Bytes)
    (addrs : AssignedAddrs) :
    (ppp.advanceToNetwork { frames } addrs).1.event = none := by
  simp [advanceToNetwork, renderIpcpStep_event, openIpcp_notify]

theorem advanceToNetwork_frames (ppp : Ppp) (frames : List Bytes)
    (addrs : AssignedAddrs) :
    (ppp.advanceToNetwork { frames } addrs).1.frames =
      frames ++ (IpcpServer.new (ppp.grantedAddrs addrs) ppp.localIp).openIpcp.2.stepFrames
        (IpcpServer.new (ppp.grantedAddrs addrs) ppp.localIp).openIpcp.1 := by
  simp [advanceToNetwork, renderIpcpStep_frames, grantedAddrs]

/-- A rejected authentication closes LCP. -/
theorem tearDownAfterReject_snd (ppp : Ppp) (out : PppStep) (random : Block 16) :
    (ppp.tearDownAfterReject out random).2 =
      { (ppp.lcpMove .adminClose ppp.lcp random).2 with phase := .dead } :=
  rfl

theorem tearDownAfterReject_frames (ppp : Ppp) (out : PppStep) (random : Block 16) :
    (ppp.tearDownAfterReject out random).1.frames =
      out.frames ++ (ppp.lcpMove .adminClose ppp.lcp random).1.frames :=
  rfl

theorem tearDownAfterReject_event (ppp : Ppp) (out : PppStep) (random : Block 16) :
    (ppp.tearDownAfterReject out random).1.event = out.event :=
  rfl

/-- A decoded LCP packet drives the LCP automaton in every phase. -/
theorem run_lcp {ppp : Ppp} {input : Input} {info : Bytes} {packet : LcpPacket}
    (received : packetOf .lcp input = some info)
    (decoded : decodeLcpPacket info = .ok packet) :
    ppp.run input =
      ppp.lcpMove (ppp.lcp.eventOf packet).1 (ppp.lcp.eventOf packet).2 input.random := by
  obtain ⟨payload, call, framed⟩ := packetOf_eq_some_iff.mp received
  simp [run, call, onFrame, framed, handleLcp, decoded, LcpServer.onPacket, lcpMove]

/-- A decoded IPCP packet drives the IPCP automaton in the network phase, and is dropped in
every other. -/
theorem run_ipcp {ppp : Ppp} {input : Input} {info : Bytes} {packet : LcpPacket}
    (received : packetOf .ipcp input = some info)
    (decoded : decodeLcpPacket info = .ok packet) :
    ppp.run input =
      if ppp.phase = .network then
        match ppp.ipcp with
        | some ipcp => ppp.ipcpMove (ipcp.eventOf packet).1 (ipcp.eventOf packet).2
        | none => ({}, ppp)
      else ({}, ppp) := by
  obtain ⟨payload, call, framed⟩ := packetOf_eq_some_iff.mp received
  simp only [run, call, onFrame, framed, ProtocolId.fromU16_asU16]
  cases phase : ppp.phase with
  | network =>
      cases running : ppp.ipcp <;>
        simp [handleIpcp, decoded, running, IpcpServer.onPacket, ipcpMove]
  | _ => simp

/-- An Accept is applied only while an exchange is in flight. -/
theorem isAuth_of_acceptedAddrs {ppp : Ppp} {input : Input} {addrs : AssignedAddrs}
    (accepted : ppp.acceptedAddrs input = some addrs) : ppp.phase.isAuth = true := by
  unfold acceptedAddrs at accepted
  split at accepted
  case h_4 => cases accepted
  all_goals
    rename_i phase _
    rw [phase]
    rfl

/-- No call changes the configured authentication method. -/
theorem Move.authMethod {ppp : Ppp} {input : Input} {result : PppStep × Ppp}
    (move : Move ppp input result) :
    result.2.lcp.authMethod = ppp.lcp.authMethod := by
  have lcpMoved : ∀ event lcp random, lcp.authMethod = ppp.lcp.authMethod →
      (ppp.lcpMove event lcp random).2.lcp.authMethod = ppp.lcp.authMethod := by
    intro event lcp random same
    rw [lcpMove_lcp]
    exact same
  cases move with
  | lcpPacket info packet => exact lcpMoved _ _ _ (ppp.lcp.eventOf_keeps packet).2.2
  | lcpTimer => exact lcpMoved _ _ _ rfl
  | protocolReject payload info protocol =>
      obtain ⟨counter, after⟩ := ppp.protocolReject_snd protocol info
      rw [after]
  | accept addrs frame => rw [advanceToNetwork_snd]
  | reject frame =>
      rw [tearDownAfterReject_snd]
      exact lcpMoved _ _ _ rfl
  | ipcpPacket info packet ipcp => rw [ipcpMove_snd]
  | ipcpTimer ipcp => rw [ipcpMove_snd]
  | _ => rfl

theorem step_authMethod (ppp : Ppp) (input : Input) :
    (ppp.step input).lcp.authMethod = ppp.lcp.authMethod :=
  (ppp.run_move input).authMethod

end SstpServer.Ppp
