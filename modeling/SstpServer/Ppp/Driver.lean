import SstpServer.Ppp.Negotiation
import SstpServer.Transition.Run

/-!
# The PPP control-plane driver

The driver takes an inbound frame, a timer expiry or an authentication verdict
and returns the frames to send, the timer operations and at most one event.  The
random bytes of a CHAP challenge are an argument of every call, since a call
draws at most one challenge.
-/

namespace SstpServer.Ppp

open SstpServer.Wire

/-- Verdict of the authentication backend. -/
inductive AuthVerdict where
  | accept (addrs : AssignedAddrs)
  | reject (message : Bytes)
  deriving DecidableEq

/-- The exchange whose verdict is awaited. -/
inductive InFlightMethod where
  | pap (papId : UInt8)
  | chap (chapId : UInt8)
  | msChapV2 (chapId : UInt8)
  deriving DecidableEq, Repr

/-- Link phases. -/
inductive Phase where
  | establish
  | authPending
  | authInFlight (method : InFlightMethod)
  | network
  | dead
  deriving DecidableEq, Repr

/-- Phases that accept authentication packets. -/
def Phase.isAuth : Phase → Bool
  | .authPending | .authInFlight _ => true
  | _ => false

end SstpServer.Ppp

namespace SstpServer

open Wire Ppp

/-- The driver state. -/
structure Ppp where
  phase : Phase
  lcp : LcpServer
  ipcp : Option IpcpServer
  pendingAddrs : Option AssignedAddrs
  localIp : Ipv4
  chapChallenge : Option (Block 16)
  chapIdCounter : UInt8
  lcpExtraIdCounter : UInt8
  deriving DecidableEq

end SstpServer

namespace SstpServer.Ppp

open SstpServer.Wire
open SstpServer.Transition

def encodePapFrame (packet : Bytes) : Bytes :=
  encodeFrame ProtocolId.pap.asU16 packet

def encodeChapFrame (packet : Bytes) : Bytes :=
  encodeFrame ProtocolId.chap.asU16 packet

/-- The Name field of a challenge, `sstp-server`. -/
def chapServerName : Bytes :=
  [0x73, 0x73, 0x74, 0x70, 0x2D, 0x73, 0x65, 0x72, 0x76, 0x65, 0x72]

def encodeChapChallenge (identifier : UInt8) (challenge : Block 16) : Bytes :=
  encodeChapFrame
    (Chap.encodeChallengeResponse .challenge identifier challenge.toList chapServerName)

def encodeChapTerminal (code : Chap.Code) (identifier : UInt8) (message : Bytes) :
    Bytes :=
  encodeChapFrame (Chap.encodeTerminal code identifier message)

/-- The text `E=691 R=0 V=3 M=` in front of a reject message. -/
def mschapErrorText : Bytes :=
  [0x45, 0x3D, 0x36, 0x39, 0x31, 0x20, 0x52, 0x3D, 0x30, 0x20, 0x56, 0x3D, 0x33,
    0x20, 0x4D, 0x3D]

def new (localIp : Ipv4) (authMethod : AuthMethod) : Ppp where
  phase := .establish
  lcp := LcpServer.new authMethod
  ipcp := none
  pendingAddrs := none
  localIp := localIp
  chapChallenge := none
  chapIdCounter := 0
  lcpExtraIdCounter := 0

def nextChapId (ppp : Ppp) : UInt8 × Ppp :=
  (ppp.chapIdCounter, { ppp with chapIdCounter := ppp.chapIdCounter + 1 })

/-- Enter the authentication phase; under CHAP the server sends a challenge. -/
def enterAuth (ppp : Ppp) (out : PppStep) (random : Block 16) : PppStep × Ppp :=
  let ppp := { ppp with lcp := { ppp.lcp with opened := true }, phase := .authPending }
  if ppp.lcp.authMethod = .chapMd5 ∨ ppp.lcp.authMethod = .msChapV2 then
    let (chapId, ppp) := ppp.nextChapId
    (out.pushFrame (encodeChapChallenge chapId random),
      { ppp with chapChallenge := some random })
  else
    (out, ppp)

/-- Carry out an action set of the LCP automaton. -/
def renderLcpStep (ppp : Ppp) (step : Fsm.StepOut) (random : Block 16) :
    PppStep × Ppp :=
  let (out, lcp) := LcpServer.renderSend {} ppp.lcp step.send
  let (out, lcp) := LcpServer.renderSend out lcp step.sendExtra
  let ppp := { ppp with lcp }
  let out := applyTimer out step.restartTimer .lcp
  let (out, ppp) :=
    if step.notify.up ∧ ¬ppp.lcp.opened then ppp.enterAuth out random else (out, ppp)
  let ppp :=
    if step.notify.down then { ppp with lcp := { ppp.lcp with opened := false } } else ppp
  if step.notify.finished then
    ({ out with finished := true }, { ppp with phase := .dead })
  else
    (out, ppp)

/-- Carry out an action set of the IPCP automaton.  The negotiation is an
argument: every caller has it at hand. -/
def renderIpcpStep (ppp : Ppp) (ipcp : IpcpServer) (step : Fsm.StepOut) :
    PppStep × Ppp :=
  let (out, ipcp) := IpcpServer.renderIpcpSend {} ipcp step.send
  let (out, ipcp) := IpcpServer.renderIpcpSend out ipcp step.sendExtra
  let out := applyTimer out step.restartTimer .ipcp
  let (out, ipcp) :=
    if step.notify.up ∧ ¬ipcp.opened then
      ({ out with event := ppp.pendingAddrs.map .networkUp }, { ipcp with opened := true })
    else
      (out, ipcp)
  let out := if step.notify.finished then { out with finished := true } else out
  (out, { ppp with ipcp := some ipcp })

/-- Send the server's first Configure-Request. -/
def openPpp (ppp : Ppp) (random : Block 16) : PppStep × Ppp :=
  let (step, lcp) := ppp.lcp.openLcp
  { ppp with lcp }.renderLcpStep step random

/-- Reject a protocol the server does not speak, once LCP is open. -/
def protocolReject (ppp : Ppp) (rejectedProtocol : Nat) (rejectedInfo : Bytes) :
    PppStep × Ppp :=
  if ¬ppp.lcp.opened then
    ({}, ppp)
  else
    let maxBody := defaultMru - lcpHeaderLen - 2
    let body := toBe16 rejectedProtocol ++ rejectedInfo.take maxBody
    (({} : PppStep).pushFrame
        (encodeLcpFrame .protocolReject ppp.lcpExtraIdCounter body),
      { ppp with lcpExtraIdCounter := ppp.lcpExtraIdCounter + 1 })

def handleLcp (ppp : Ppp) (info : Bytes) (random : Block 16) : PppStep × Ppp :=
  match decodeLcpPacket info with
  | .error _ => ({}, ppp)
  | .ok packet =>
      let ((step, _), lcp) := ppp.lcp.onPacket packet
      { ppp with lcp }.renderLcpStep step random

/-- Hand PAP credentials up.  The configured method is not consulted. -/
def handlePap (ppp : Ppp) (info : Bytes) : PppStep × Ppp :=
  match Pap.decodeAuthenticateRequest info with
  | .error _ => ({}, ppp)
  | .ok req =>
      ({ event := some (.needPapAuth req.peerId req.password) },
        { ppp with phase := .authInFlight (.pap req.identifier) })

/-- Hand a CHAP or MS-CHAPv2 response up. -/
def handleChap (ppp : Ppp) (info : Bytes) : PppStep × Ppp :=
  match Chap.decodeChallengeResponse info with
  | .error _ => ({}, ppp)
  | .ok resp =>
      match ppp.lcp.authMethod with
      | .chapMd5 =>
          if resp.value.length ≠ 16 then
            ({}, ppp)
          else
            match ppp.chapChallenge with
            | none => ({}, ppp)
            | some challenge =>
                ({ event := some (.needChapAuth resp.name resp.identifier challenge
                    (Block.ofBytes 16 resp.value)) },
                  { ppp with phase := .authInFlight (.chap resp.identifier) })
      | .msChapV2 =>
          if resp.value.length ≠ 49 then
            ({}, ppp)
          else if (slice resp.value 16 24).any (· ≠ 0) then
            ({}, ppp)
          else
            match ppp.chapChallenge with
            | none => ({}, ppp)
            | some challenge =>
                ({ event := some (.needMsChapV2Auth resp.name resp.identifier challenge
                    (Block.ofBytes 16 (slice resp.value 0 16))
                    (Block.ofBytes 24 (slice resp.value 24 48))
                    (resp.value.getD 48 0)) },
                  { ppp with phase := .authInFlight (.msChapV2 resp.identifier) })
      | .pap => ({}, ppp)

def handleIpcp (ppp : Ppp) (info : Bytes) : PppStep × Ppp :=
  match decodeLcpPacket info with
  | .error _ => ({}, ppp)
  | .ok packet =>
      match ppp.ipcp with
      | none => ({}, ppp)
      | some ipcp =>
          let ((step, _), ipcp) := ipcp.onPacket packet
          ppp.renderIpcpStep ipcp step

/-- Drive an inbound frame. -/
def onFrame (ppp : Ppp) (payload : Bytes) (random : Block 16) : PppStep × Ppp :=
  match decodeFrame payload with
  | .error _ => ({}, ppp)
  | .ok frame =>
      match ppp.phase, ProtocolId.fromU16 frame.protocol with
      | _, some .lcp => ppp.handleLcp frame.info random
      | .authPending, some .pap | .authInFlight _, some .pap => ppp.handlePap frame.info
      | .authPending, some .chap | .authInFlight _, some .chap =>
          ppp.handleChap frame.info
      | _, some .pap | _, some .chap => ({}, ppp)
      | .network, some .ipcp => ppp.handleIpcp frame.info
      | _, some .ipcp => ({}, ppp)
      | _, _ => ppp.protocolReject frame.protocol frame.info

/-- A restart timer expired. -/
def onTimer (ppp : Ppp) (owner : TimerOwner) (random : Block 16) : PppStep × Ppp :=
  match owner with
  | .lcp =>
      let (step, lcp) := ppp.lcp.stepTraced .restartTimeout
      { ppp with lcp }.renderLcpStep step random
  | .ipcp =>
      match ppp.ipcp with
      | none => ({}, ppp)
      | some ipcp =>
          let (step, ipcp) := ipcp.stepTraced .restartTimeout
          ppp.renderIpcpStep ipcp step

/-- The link MTU: the smaller of the granted MTU and the peer's MRU. -/
def mergeMtu (framed peer : Option Nat) : Option Nat :=
  match framed, peer with
  | some framed, some peer => some (min framed peer)
  | some framed, none => some framed
  | none, some peer => some peer
  | none, none => none

/-- Start IPCP for the granted addresses, after what the step already holds. -/
def advanceToNetwork (ppp : Ppp) (step : PppStep) (addrs : AssignedAddrs) :
    PppStep × Ppp :=
  let addrs := { addrs with mtu := mergeMtu addrs.mtu ppp.lcp.peerMru }
  let ppp := { ppp with pendingAddrs := some addrs, phase := .network }
  let (fsmStep, ipcp) := (IpcpServer.new addrs ppp.localIp).openIpcp
  let (ipcpStep, ppp) := ppp.renderIpcpStep ipcp fsmStep
  ({ frames := step.frames ++ ipcpStep.frames
     timerStarts := step.timerStarts ++ ipcpStep.timerStarts
     timerStops := step.timerStops ++ ipcpStep.timerStops
     event := if ipcpStep.event.isSome then ipcpStep.event else step.event
     finished := step.finished || ipcpStep.finished }, ppp)

/-- Close LCP after a rejected authentication. -/
def tearDownAfterReject (ppp : Ppp) (step : PppStep) (random : Block 16) :
    PppStep × Ppp :=
  let (close, lcp) := ppp.lcp.stepTraced .adminClose
  let (closeStep, ppp) := { ppp with lcp }.renderLcpStep close random
  ({ step with
     frames := step.frames ++ closeStep.frames
     timerStarts := step.timerStarts ++ closeStep.timerStarts
     timerStops := step.timerStops ++ closeStep.timerStops
     finished := true }, { ppp with phase := .dead })

/-- Apply a verdict to an in-flight PAP or CHAP exchange. -/
def onAuthResult (ppp : Ppp) (verdict : AuthVerdict) (random : Block 16) :
    PppStep × Ppp :=
  match ppp.phase with
  | .authInFlight method =>
      match method, verdict with
      | .pap papId, .accept addrs =>
          ppp.advanceToNetwork
            (({} : PppStep).pushFrame
              (encodePapFrame (Pap.encodeResponse .authenticateAck papId []))) addrs
      | .pap papId, .reject message =>
          ppp.tearDownAfterReject
            (({} : PppStep).pushFrame
              (encodePapFrame
                (Pap.encodeResponse .authenticateNak papId (message.take 11)))) random
      | .chap chapId, .accept addrs =>
          ppp.advanceToNetwork
            (({} : PppStep).pushFrame (encodeChapTerminal .success chapId [])) addrs
      | .chap chapId, .reject message =>
          ppp.tearDownAfterReject
            (({} : PppStep).pushFrame
              (encodeChapTerminal .failure chapId (message.take 255))) random
      | .msChapV2 _, _ => ({}, ppp)
  | _ => ({}, ppp)

/-- Apply a verdict to an in-flight MS-CHAPv2 exchange. -/
def onMschapResult (ppp : Ppp) (verdict : AuthVerdict)
    (authResponse errorString : Option Bytes) (random : Block 16) : PppStep × Ppp :=
  match ppp.phase with
  | .authInFlight (.msChapV2 chapId) =>
      match verdict with
      | .accept addrs =>
          ppp.advanceToNetwork
            (({} : PppStep).pushFrame
              (encodeChapTerminal .success chapId ((authResponse.getD []).take 255))) addrs
      | .reject message =>
          let body :=
            match errorString with
            | some text => text
            | none => mschapErrorText ++ fromUtf8Lossy message
          ppp.tearDownAfterReject
            (({} : PppStep).pushFrame
              (encodeChapTerminal .failure chapId (body.take 255))) random
  | _ => ({}, ppp)

/-! ## Runs -/

/-- A call into the driver. -/
inductive Call where
  | frame (payload : Bytes)
  | timer (owner : TimerOwner)
  | authResult (verdict : AuthVerdict)
  | mschapResult (verdict : AuthVerdict) (authResponse errorString : Option Bytes)
  deriving DecidableEq

/-- A call together with the random bytes it may draw. -/
structure Input where
  call : Call
  random : Block 16
  deriving DecidableEq

/-- What the driver returns for a call, and its next state. -/
def run (ppp : Ppp) (input : Input) : PppStep × Ppp :=
  match input.call with
  | .frame payload => ppp.onFrame payload input.random
  | .timer owner => ppp.onTimer owner input.random
  | .authResult verdict => ppp.onAuthResult verdict input.random
  | .mschapResult verdict authResponse errorString =>
      ppp.onMschapResult verdict authResponse errorString input.random

/-- The result of a call. -/
def respond (ppp : Ppp) (input : Input) : PppStep :=
  (ppp.run input).1

/-- The driver as a transition system. -/
def step (ppp : Ppp) (input : Input) : Ppp :=
  (ppp.run input).2

/-- The driver right after its first Configure-Request. -/
def start (localIp : Ipv4) (authMethod : AuthMethod) : Ppp :=
  ((new localIp authMethod).openPpp (Block.zero 16)).2

/-- The driver after a run of calls. -/
def stateAfter (localIp : Ipv4) (authMethod : AuthMethod) (inputs : List Input) : Ppp :=
  finalState step (start localIp authMethod) inputs

end SstpServer.Ppp
