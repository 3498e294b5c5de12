import SstpServer.Session.Accounting
import SstpServer.Session.DataPath
import SstpServer.Session.Transmit
import SstpServer.Sstp.CallConnected

/-!
# The session task

The task owns the state machine, the PPP driver, two timer slots, the read buffer and
the data path.  It waits for one event at a time.  A TLS read and a batch of kernel
events are then worked off packet by packet before the task waits again; the step of
the model is one such packet or event.  What the environment decides, from random
bytes to the outcome of a write, is an argument of the step.
-/

namespace SstpServer.Session

open SstpServer.Wire
open SstpServer.Sstp
open SstpServer.Ppp
open SstpServer.Transition

/-! ## State -/

/-- What every session of the server is configured with. -/
structure Config where
  id : Nat
  crypto : Crypto
  certHashSha1 : Block 20
  certHashSha256 : Block 32
  localIp : Ipv4
  authMethod : AuthMethod
  dataPath : DataPathMode
  acct : Bool

/-- Outcome of handing the TLS record layer to the kernel. -/
inductive KtlsInstall where
  | installed
  | bufferedData
  | failed
  deriving DecidableEq, Repr

/-- What the environment decides during one step.  Times are in milliseconds; the
outcome of a write may depend on how much the session has done before it. -/
structure Env where
  now : Nat
  wallClock : Nat
  nonce : Block 32
  challenge : Nat → Block 16
  radius : RadiusAnswer
  writeOk : Nat → Bool
  flushOk : Nat → Bool
  sendControlOk : Bool
  ktlsCompatible : Bool
  installKtls : KtlsInstall
  kernelDevice : Option Device
  tunDevice : Option Device
  kmodFdOk : Bool
  stats : Option LinkStats

/-- What a session does that can be seen from outside. -/
inductive Effect where
  | tlsWrite (bytes : Bytes)
  | sendControl (body : Bytes)
  | toTun (packet : Bytes)
  | fromTun (packet : Bytes)
  | radius (answer : RadiusAnswer)
  | established (hlak : Block 32)
  | dataPath (backend : Backend)
  | acct (username : Bytes) (session : AcctSession) (event : AcctEvent)
      (counters : AcctCounters)
  deriving DecidableEq

/-- Whether the task still runs.  A slice out of range aborts the process. -/
inductive Status where
  | running
  | ended
  | aborted
  deriving DecidableEq, Repr

/-- An event of the kernel session.  A control packet comes with what
`SSTP_IOC_RECV_CONTROL` returns for it. -/
inductive KmodEvent where
  | controlPacket (received : Except Unit (Option Bytes))
  | peerClosed
  | tlsFatalAlert
  | protocolError
  | tlsRekeyNeeded
  | unknown
  deriving DecidableEq

/-- Where the task is: waiting, working off the read buffer, or working off kernel
events. -/
inductive Point where
  | select
  | reading
  | events (rest : List KmodEvent)
  deriving DecidableEq

/-- What the control socket shows about a session. -/
structure SessionInfo where
  username : Option Bytes := none
  assignedIp : Option Ipv4 := none
  dataPath : Option KpppSession := none
  deriving DecidableEq

end SstpServer.Session

namespace SstpServer

open Wire Sstp Ppp Session

/-- The locals of the session task. -/
structure Session where
  status : Status
  point : Point
  ssm : StateMachine
  rxBuf : Bytes
  sstpTimer : Option (Timer × Nat)
  ppp : Option Ppp
  pppTimer : Option (TimerOwner × Nat)
  kppp : Option KpppSession
  kmodFd : Bool
  lastRx : Nat
  helloEchoPending : Bool
  acctInterimPeriod : Nat
  lastAcctInterim : Nat
  pendingPolicy : Option SessionPolicy
  pendingUsername : Option Bytes
  pendingHlak : Option (Block 32)
  acctState : Option AcctState
  acctCause : SessionEnd
  sessionTimeoutDeadline : Option Nat
  idleTimeout : Option Nat
  idleTimeoutDeadline : Option Nat
  lastActivityOctets : Nat
  info : SessionInfo
  log : List Effect

end SstpServer

namespace SstpServer.Session

open SstpServer.Wire
open SstpServer.Sstp
open SstpServer.Ppp
open SstpServer.Transition

def seconds (count : Nat) : Nat :=
  1000 * count

def running (s : Session) : Bool :=
  s.status = .running

/-- Return from the task. -/
def stop (s : Session) : Session :=
  { s with status := .ended }

def push (s : Session) (effect : Effect) : Session :=
  { s with log := s.log ++ [effect] }

/-- Go on, unless the task has returned. -/
def andThen (s : Session) (next : Session → Session) : Session :=
  if s.running then next s else s

def isKernel (s : Session) : Bool :=
  s.kppp.any KpppSession.isKernel

def isTun (s : Session) : Bool :=
  s.kppp.any KpppSession.isTun

/-! ## Output -/

def tlsWrite (env : Env) (bytes : Bytes) (s : Session) : Session :=
  let s := s.push (.tlsWrite bytes)
  if env.writeOk s.log.length then s else s.stop

def tlsFlush (env : Env) (s : Session) : Session :=
  if env.flushOk s.log.length then s else s.stop

/-- Send a PPP frame as a data packet. -/
def writeFrame (env : Env) (frame : Bytes) (s : Session) : Session :=
  match writePppAsSstpData frame with
  | some packet => s.tlsWrite env packet
  | none => { s with status := .aborted }

def writeFrames (env : Env) (frames : List Bytes) (s : Session) : Session :=
  let s := frames.foldl (fun s frame => s.andThen (writeFrame env frame)) s
  if frames = [] then s else s.andThen (tlsFlush env)

/-- Send a control packet: through the kernel module once it owns the socket, through
the TLS stream before. -/
def sendPacket (env : Env) (packet : Bytes) (s : Session) : Session :=
  if packet = [] then s
  else if s.isKernel then
    let s := s.push (.sendControl (packet.drop sstpHeaderLen))
    if env.sendControlOk then s else s.stop
  else (s.tlsWrite env packet).andThen (tlsFlush env)

/-! ## SSTP steps -/

/-- Stop and start the SSTP timer.  The hello timer has no slot. -/
def applySstpTimers (env : Env) (out : StepOut) (s : Session) : Session :=
  let slot :=
    if s.sstpTimer.map Prod.fst = out.timerStop then none else s.sstpTimer
  match out.timerStart with
  | some (which, duration) =>
      if which ≠ .hello then
        { s with sstpTimer := some (which, env.now + seconds duration) }
      else
        { s with sstpTimer := slot }
  | none => { s with sstpTimer := slot }

/-- Carry out a step of the state machine, up to the notification for PPP. -/
def applyStep (env : Env) (out : StepOut) (s : Session) : Session :=
  (s.sendPacket env out.send).andThen fun s =>
    let s := s.applySstpTimers env out
    let s := if out.notify = some .sstpEstablished then s.push (.established s.ssm.hlak) else s
    if out.terminate = .none then s else s.stop

/-! ## PPP steps -/

/-- Stop and start the PPP timer; both owners share one slot. -/
def applyPppTimers (env : Env) (step : PppStep) (s : Session) : Session :=
  let slot :=
    step.timerStops.foldl
      (fun slot owner => if slot.map Prod.fst = some owner then none else slot) s.pppTimer
  let slot :=
    step.timerStarts.foldl
      (fun _ start => some (start.1, env.now + seconds start.2)) slot
  { s with pppTimer := slot }

/-- Keep what an Access-Accept brings until the device is up. -/
def recordAccept (user : Bytes) (addrs : AssignedAddrs) (policy : SessionPolicy)
    (s : Session) : Session :=
  { s with
    pendingPolicy := some policy
    pendingUsername := some user
    info := { s.info with username := some user, assignedIp := some addrs.ip } }

/-- Submit PAP or CHAP credentials and apply the verdict. -/
def submitCredentials (env : Env) (user : Bytes) (ppp : Ppp) (s : Session) :
    (PppStep × Ppp) × Session :=
  let s := s.push (.radius env.radius)
  let outcome := env.radius.authOutcome
  let s :=
    match outcome.verdict with
    | .accept addrs => s.recordAccept user addrs outcome.policy
    | .reject _ => s
  (ppp.onAuthResult outcome.verdict (env.challenge 1), s)

/-- Submit an MS-CHAPv2 response, keep the HLAK of an Accept and apply the verdict. -/
def submitMschapv2 (env : Env) (user : Bytes) (ppp : Ppp) (s : Session) :
    (PppStep × Ppp) × Session :=
  let s := s.push (.radius env.radius)
  let outcome := env.radius.msChapOutcome
  let s :=
    match outcome.verdict with
    | .accept addrs =>
        { s.recordAccept user addrs outcome.policy with pendingHlak := outcome.hlak }
    | .reject _ => s
  (ppp.onMschapResult outcome.verdict outcome.authResponse outcome.errorString
    (env.challenge 1), s)

/-- The first accounting record, for an authenticated session. -/
def startAccounting (config : Config) (env : Env) (kppp : KpppSession) (s : Session) :
    Session :=
  match s.pendingUsername, config.acct with
  | some user, true =>
      let session : AcctSession :=
        { sessionId := env.wallClock
          framedIp := kppp.peerIp
          nasPort := config.id % 2 ^ 32
          class? := s.pendingPolicy.bind SessionPolicy.class? }
      { s.push (.acct user session .start {}) with
        pendingUsername := none
        acctState := some ⟨user, kppp.device.ifindex, session, env.now, {}⟩ }
  | _, _ => { s with pendingUsername := none }

/-- Create the device of the data path. -/
def bringUp (config : Config) (env : Env) (mode : DataPathMode) (addrs : AssignedAddrs)
    (s : Session) : Session :=
  match KpppSession.bringUp mode env.kernelDevice env.tunDevice config.localIp addrs.ip
      addrs.mtu with
  | some kppp =>
      { s.push (.dataPath kppp.backend) with
        kppp := some kppp
        info := { s.info with dataPath := some kppp } }.startAccounting config env kppp
  | none => s.stop

/-- The data path for the negotiated TLS session. -/
def effectiveDataPath (config : Config) (env : Env) : DataPathMode :=
  match config.dataPath with
  | .auto => if env.ktlsCompatible then .kernel else .tun
  | mode => mode

/-- The data path to bring up.  Where the kernel is to serve a TLS session it can take
over, the record layer is handed to it first; only `auto` survives data that the TLS
library still buffers. -/
def attachMode (config : Config) (env : Env) : Option DataPathMode :=
  if effectiveDataPath config env = .kernel ∧ env.ktlsCompatible = true then
    match env.installKtls with
    | .installed => some .kernel
    | .bufferedData => if config.dataPath = .auto then some .tun else none
    | .failed => none
  else some (effectiveDataPath config env)

/-- Attach the data path, once. -/
def networkUp (config : Config) (env : Env) (addrs : AssignedAddrs) (s : Session) : Session :=
  if s.kppp.isSome then s
  else
    match attachMode config env with
    | some mode => s.bringUp config env mode addrs
    | none => s.stop

/-- The timers and the event of a PPP step, once its frames are out.  A verdict gives a
further step, for which the loop runs again. -/
def handlePppEvent (config : Config) (env : Env) (again : PppStep → Ppp → Session → Session)
    (step : PppStep) (ppp : Ppp) (s : Session) : Session :=
  let s := s.applyPppTimers env step
  match step.event with
  | some (.needPapAuth peerId _) =>
      let ((step, ppp), s) := s.submitCredentials env (fromUtf8Lossy peerId) ppp
      again step ppp s
  | some (.needChapAuth username _ _ _) =>
      let ((step, ppp), s) := s.submitCredentials env (fromUtf8Lossy username) ppp
      again step ppp s
  | some (.needMsChapV2Auth username _ _ _ _ _) =>
      let ((step, ppp), s) := s.submitMschapv2 env (fromUtf8Lossy username) ppp
      again step ppp s
  | some (.networkUp addrs) =>
      (s.networkUp config env addrs).andThen fun s => if step.finished then s.stop else s
  | none => if step.finished then s.stop else s

/-- Carry out a step of the PPP driver. -/
def handlePppStep (config : Config) (env : Env) : Nat → PppStep → Ppp → Session → Session
  | 0, _, _, s => s.stop
  | fuel + 1, step, ppp, s =>
      ({ s with ppp := some ppp }.writeFrames env step.frames).andThen
        (handlePppEvent config env (handlePppStep config env fuel) step ppp)

/-- The rounds of the loop: a step with credentials, and the step of the verdict. -/
def pppRounds : Nat := 2

/-- Carry out a step of the state machine, starting PPP when it asks for it. -/
def handleSstpStep (config : Config) (env : Env) (out : StepOut) (s : Session) : Session :=
  (s.applyStep env out).andThen fun s =>
    if out.notify = some .startPpp ∧ s.ppp = none then
      let (step, ppp) := (Ppp.new config.localIp config.authMethod).openPpp (env.challenge 0)
      handlePppStep config env pppRounds step ppp s
    else s

/-! ## Packets -/

/-- Feed a frame to the PPP driver. -/
def feedPpp (config : Config) (env : Env) (payload : Bytes) (s : Session) : Session :=
  match s.ppp with
  | none => s
  | some ppp =>
      let (step, ppp) := ppp.onFrame payload (env.challenge 0)
      handlePppStep config env pppRounds step ppp s

/-- A data packet: network-layer frames go to the device or are dropped, all others to
the PPP driver. -/
def routeFrame (config : Config) (env : Env) (payload : Bytes) (s : Session) : Session :=
  match decodeFrame payload with
  | .error _ => s.feedPpp config env payload
  | .ok frame =>
      let networkReady := s.kppp.any fun kppp => !kppp.isKernel
      match npFilterDecide networkReady (s.kppp.elim 0 KpppSession.mtu) frame.protocol
          frame.info.length with
      | .forward => s.push (.toTun frame.info)
      | .dropPreIpcp | .dropMruExceeded => s
      | .notNetworkLayer => s.feedPpp config env payload

def onData (config : Config) (env : Env) (payload : Bytes) (s : Session) : Session :=
  (s.handleSstpStep config env s.ssm.onDataPacket).andThen
    (routeFrame config env payload)

/-- A control message from the read buffer. -/
def onControl (config : Config) (env : Env) (message : ControlMessage) (s : Session) :
    Session :=
  let (out, ssm) := dispatchControl config.crypto s.ssm message s.rxBuf env.nonce
  { s with ssm }.handleSstpStep config env out

/-- A captured HLAK reaches the state machine. -/
def drainHlak (s : Session) : Session :=
  match s.pendingHlak with
  | some hlak =>
      { s with ssm := s.ssm.onInnerAuthCompleted (some hlak), pendingHlak := none }
  | none => s

/-- A kernel session is polled from now on. -/
def pollKernel (env : Env) (s : Session) : Session :=
  if ¬s.kmodFd ∧ s.isKernel then
    if env.kmodFdOk then { s with kmodFd := true } else s.stop
  else s

/-- The policy of the Access-Accept takes effect once the data path is up. -/
def applyPolicy (env : Env) (s : Session) : Session :=
  match s.kppp, s.pendingPolicy with
  | some _, some policy =>
      { s with
        pendingPolicy := none
        acctInterimPeriod :=
          (policy.acctInterimInterval.map seconds).getD s.acctInterimPeriod
        sessionTimeoutDeadline :=
          policy.sessionTimeout.elim s.sessionTimeoutDeadline
            fun duration => some (env.now + seconds duration)
        idleTimeout := policy.idleTimeout.elim s.idleTimeout fun duration => some duration
        idleTimeoutDeadline :=
          policy.idleTimeout.elim s.idleTimeoutDeadline
            fun duration => some (env.now + seconds duration) }
  | _, _ => s

/-- The head of the loop. -/
def loopHead (env : Env) (s : Session) : Session :=
  (s.drainHlak.pollKernel env).andThen (applyPolicy env)

/-- Work off one packet of the read buffer; without a complete packet the task waits
again. -/
def onPacket (config : Config) (env : Env) (s : Session) : Session :=
  match Packet.parse s.rxBuf with
  | .error .truncated | .error (.lengthMismatch _ _) =>
      { s with point := .select }.loopHead env
  | .error _ => s.stop
  | .ok (.data payload, used) =>
      (s.onData config env payload).andThen fun s => { s with rxBuf := s.rxBuf.drop used }
  | .ok (.control packet, used) =>
      match parseControl packet with
      | .error _ => s.stop
      | .ok message =>
          (s.onControl config env message).andThen fun s =>
            { s with rxBuf := s.rxBuf.drop used }

/-- A control message that the kernel module received.  The module strips the packet
header, so the header of a Call-Connected is put back before the MAC is checked. -/
def onKernelControl (config : Config) (env : Env) (payload : Bytes) (s : Session) : Session :=
  match parseControlPayload payload with
  | .error _ => s.stop
  | .ok (.callConnected binding) =>
      if payload.length + sstpHeaderLen ≠ callConnectedLen then s.stop
      else
        let packet := writeHeader true callConnectedLen ++ payload
        let (out, ssm) := s.ssm.verifyCallConnected config.crypto binding (zeroedMac packet)
        { s with ssm }.handleSstpStep config env out
  | .ok message =>
      let (out, ssm) := s.ssm.onMessage config.crypto message env.nonce
      { s with ssm }.handleSstpStep config env out

/-- Work off one kernel event; without a further event the task waits again. -/
def onKmodEvent (config : Config) (env : Env) (s : Session) : Session :=
  match s.point with
  | .events (event :: rest) =>
      let s := { s with point := .events rest }
      match event with
      | .controlPacket (.ok (some payload)) => s.onKernelControl config env payload
      | .controlPacket (.ok none) => s
      | .controlPacket (.error _) => s.stop
      | .peerClosed | .tlsFatalAlert | .protocolError | .tlsRekeyNeeded => s.stop
      | .unknown => s
  | .events [] => { s with point := .select }.loopHead env
  | _ => s

/-! ## Periodic work -/

/-- Send an echo after one silent hello interval, give up after the second. -/
def helloCheck (config : Config) (env : Env) (s : Session) : Session :=
  if s.ssm.state ≠ .serverCallConnected then s
  else
    let idle := env.now - s.lastRx
    if s.helloEchoPending ∧ seconds (timerValHello + timerValHello) ≤ idle then
      let (out, ssm) := s.ssm.onHelloTimeoutNoResponse
      { s with ssm }.handleSstpStep config env out
    else if ¬s.helloEchoPending ∧ seconds timerValHello ≤ idle then
      let (out, ssm) := s.ssm.onTimer .hello
      { s with ssm, helloEchoPending := true }.handleSstpStep config env out
    else s

/-- Push the idle deadline back when the octet counters have moved. -/
def noteActivity (env : Env) (counters : AcctCounters) (s : Session) : Session :=
  let total := min (counters.inputOctets + counters.outputOctets) (2 ^ 64 - 1)
  if total ≠ s.lastActivityOctets then
    { s with
      lastActivityOctets := total
      idleTimeoutDeadline :=
        s.idleTimeout.elim s.idleTimeoutDeadline fun period => some (env.now + seconds period) }
  else s

/-- Send an interim record when one is due. -/
def acctInterim (config : Config) (env : Env) (s : Session) : Session :=
  if env.now - s.lastAcctInterim < s.acctInterimPeriod then s
  else
    let s := { s with lastAcctInterim := env.now }
    match s.acctState, config.acct with
    | some state, true =>
        let counters := sampleAcctCounters env.stats env.now state
        let s := s.noteActivity env counters
        { s.push (.acct state.username state.session .interimUpdate counters) with
          acctState := some { state with lastCounters := counters } }
    | _, _ => s

/-! ## Events -/

/-- Commands of the control channel. -/
inductive ControlCommand where
  | disconnect (reason : DisconnectReason)
  | rekey (requestPeer : Bool)
  | periodicTick
  deriving DecidableEq, Repr

/-- What the waiting task can be woken by. -/
inductive Event where
  | drain
  | control (command : Option ControlCommand)
  | sessionTimeout
  | idleTimeout
  | sstpTimer
  | pppTimer
  | kpppRead (result : Except Unit Bytes)
  | kmodEvents (result : Except Unit (List KmodEvent))
  | read (result : Except Unit Bytes)
  deriving DecidableEq

/-- Size of the buffer a TLS read fills. -/
def chunkLen : Nat := 4096

/-- Room for a packet in the buffer a TUN read fills. -/
def tunPacketLen : Nat := 2048 - 4

/-- An event can only fire while its source is armed. -/
def enabled (env : Env) (s : Session) : Event → Bool
  | .drain | .control _ => true
  | .sessionTimeout => s.sessionTimeoutDeadline.any (· ≤ env.now)
  | .idleTimeout => s.idleTimeoutDeadline.any (· ≤ env.now)
  | .sstpTimer => s.sstpTimer.any fun timer => timer.2 ≤ env.now
  | .pppTimer => s.pppTimer.any fun timer => timer.2 ≤ env.now
  | .kpppRead (.ok packet) => s.isTun && packet.length ≤ tunPacketLen
  | .kpppRead (.error _) => s.isTun
  | .kmodEvents _ => s.kmodFd
  | .read (.ok chunk) => !s.kmodFd && chunk.length ≤ chunkLen
  | .read (.error _) => !s.kmodFd

/-- Ask the state machine to disconnect. -/
def disconnect (config : Config) (env : Env) (cause : SessionEnd) (s : Session) : Session :=
  let (out, ssm) := s.ssm.onHigherLayerDisconnect
  { s with ssm, acctCause := cause }.handleSstpStep config env out

def onSstpTimer (config : Config) (env : Env) (s : Session) : Session :=
  match s.sstpTimer with
  | none => s
  | some (which, _) =>
      let (out, ssm) := s.ssm.onTimer which
      { s with ssm, sstpTimer := none }.handleSstpStep config env out

def onPppTimer (config : Config) (env : Env) (s : Session) : Session :=
  match s.pppTimer, s.ppp with
  | some (owner, _), some ppp =>
      let (step, ppp) := ppp.onTimer owner (env.challenge 0)
      handlePppStep config env pppRounds step ppp { s with pppTimer := none }
  | _, _ => { s with pppTimer := none }

/-- A packet from the TUN device goes to the peer; one that is not IP is an error of the
device, which is ignored. -/
def onTunPacket (env : Env) (packet : Bytes) (s : Session) : Session :=
  if packet = [] then s.stop
  else
    match readFrame packet with
    | none => s
    | some frame =>
        ((s.push (.fromTun packet)).writeFrame env frame).andThen (tlsFlush env)

/-- Inbound bytes of either kind restart the hello interval. -/
def received (env : Env) (s : Session) : Session :=
  { s with lastRx := env.now, helloEchoPending := false }

/-- Handle the event that woke the task. -/
def onEvent (config : Config) (env : Env) (event : Event) (s : Session) : Session :=
  match event with
  | .drain => s.disconnect config env .nasReboot
  | .control (some (.disconnect reason)) => s.disconnect config env (.ofReason reason)
  | .control (some .periodicTick) =>
      (s.helloCheck config env).andThen (acctInterim config env)
  | .control (some (.rekey _)) => s
  | .control none => s.stop
  | .sessionTimeout => { s with acctCause := .sessionTimeout }.stop
  | .idleTimeout => { s with acctCause := .idleTimeout }.stop
  | .sstpTimer => s.onSstpTimer config env
  | .pppTimer => s.onPppTimer config env
  | .kpppRead (.error _) => s
  | .kpppRead (.ok packet) => s.onTunPacket env packet
  | .kmodEvents (.error _) => (s.received env).stop
  | .kmodEvents (.ok events) => { s.received env with point := .events events }
  | .read (.error _) => s.stop
  | .read (.ok chunk) =>
      if chunk = [] then s.stop
      else { s.received env with rxBuf := s.rxBuf ++ chunk, point := .reading }

/-! ## Runs -/

/-- A step of the task. -/
inductive Move where
  | event (event : Event)
  | packet
  | kmodEvent
  deriving DecidableEq

/-- A step with what the environment decides during it. -/
structure Input where
  move : Move
  env : Env

/-- The work of a step; a step that the task is not at leaves it unchanged.  Unless an
event has put the task to work off packets, the loop starts over. -/
def handle (config : Config) (s : Session) (input : Input) : Session :=
  match s.point, input.move with
  | .select, .event event =>
      if s.enabled input.env event then
        (s.onEvent config input.env event).andThen fun s =>
          if s.point = .select then s.loopHead input.env else s
      else s
  | .reading, .packet => s.onPacket config input.env
  | .events _, .kmodEvent => s.onKmodEvent config input.env
  | _, _ => s

/-- The last accounting record is sent when the task returns, but not when the process
aborts. -/
def acctStop (config : Config) (env : Env) (s : Session) : Session :=
  match s.acctState, config.acct with
  | some state, true =>
      { s.push (.acct state.username state.session (.stop s.acctCause)
          (sampleAcctCounters env.stats env.now state)) with acctState := none }
  | _, _ => { s with acctState := none }

def settle (config : Config) (env : Env) (s : Session) : Session :=
  if s.status = .ended then s.acctStop config env else s

def step (config : Config) (s : Session) (input : Input) : Session :=
  if s.running then (s.handle config input).settle config input.env else s

/-- The task before its first event. -/
def new (config : Config) (env : Env) : Session where
  status := .running
  point := .select
  ssm := .new config.certHashSha1 config.certHashSha256
  rxBuf := []
  sstpTimer := none
  ppp := none
  pppTimer := none
  kppp := none
  kmodFd := false
  lastRx := env.now
  helloEchoPending := false
  acctInterimPeriod := seconds 60
  lastAcctInterim := env.now - config.id % 60
  pendingPolicy := none
  pendingUsername := none
  pendingHlak := none
  acctState := none
  acctCause := .lostCarrier
  sessionTimeoutDeadline := none
  idleTimeout := none
  idleTimeoutDeadline := none
  lastActivityOctets := 0
  info := {}
  log := []

/-- The task at its first wait. -/
def start (config : Config) (env : Env) : Session :=
  let s := new config env
  let (out, ssm) := s.ssm.onHttpsAccepted
  let s := { s with ssm }.handleSstpStep config env out
  (s.andThen (loopHead env)).settle config env

/-- Accepting the connection arms the negotiation timer and nothing else. -/
theorem start_eq (config : Config) (env : Env) :
    start config env =
      { new config env with
        ssm := (new config env).ssm.transition .serverConnectRequestPending
        sstpTimer := some (.negotiation, env.now + seconds timerValNegotiation) } :=
  rfl

/-! ## What bookkeeping changes

Each of these changes the fields that are named, and no other. -/

theorem drainHlak_eq (s : Session) :
    s.drainHlak = { s with ssm := s.drainHlak.ssm, pendingHlak := none } := by
  unfold drainHlak
  split
  · rfl
  · rename_i unheld
    rw [← unheld]

theorem pollKernel_eq (env : Env) (s : Session) :
    s.pollKernel env =
      { s with status := (s.pollKernel env).status, kmodFd := (s.pollKernel env).kmodFd } := by
  unfold pollKernel
  split_ifs <;> rfl

theorem applyPolicy_eq (env : Env) (s : Session) :
    s.applyPolicy env =
      { s with
        pendingPolicy := (s.applyPolicy env).pendingPolicy
        acctInterimPeriod := (s.applyPolicy env).acctInterimPeriod
        sessionTimeoutDeadline := (s.applyPolicy env).sessionTimeoutDeadline
        idleTimeout := (s.applyPolicy env).idleTimeout
        idleTimeoutDeadline := (s.applyPolicy env).idleTimeoutDeadline } := by
  unfold applyPolicy
  split <;> rfl

theorem loopHead_eq (env : Env) (s : Session) :
    s.loopHead env =
      { s with
        status := (s.loopHead env).status
        ssm := (s.loopHead env).ssm
        kmodFd := (s.loopHead env).kmodFd
        pendingHlak := (s.loopHead env).pendingHlak
        pendingPolicy := (s.loopHead env).pendingPolicy
        acctInterimPeriod := (s.loopHead env).acctInterimPeriod
        sessionTimeoutDeadline := (s.loopHead env).sessionTimeoutDeadline
        idleTimeout := (s.loopHead env).idleTimeout
        idleTimeoutDeadline := (s.loopHead env).idleTimeoutDeadline } := by
  unfold loopHead andThen
  split_ifs
  · rw [applyPolicy_eq, pollKernel_eq, drainHlak_eq]
  · rw [pollKernel_eq, drainHlak_eq]

theorem noteActivity_eq (env : Env) (counters : AcctCounters) (s : Session) :
    s.noteActivity env counters =
      { s with
        lastActivityOctets := (s.noteActivity env counters).lastActivityOctets
        idleTimeoutDeadline := (s.noteActivity env counters).idleTimeoutDeadline } := by
  unfold noteActivity
  dsimp only
  split_ifs <;> rfl

theorem acctInterim_eq (config : Config) (env : Env) (s : Session) :
    s.acctInterim config env =
      { s with
        lastAcctInterim := (s.acctInterim config env).lastAcctInterim
        acctState := (s.acctInterim config env).acctState
        lastActivityOctets := (s.acctInterim config env).lastActivityOctets
        idleTimeoutDeadline := (s.acctInterim config env).idleTimeoutDeadline
        log := (s.acctInterim config env).log } := by
  unfold acctInterim
  split_ifs
  · rfl
  · dsimp only
    split
    · rw [noteActivity_eq]
      rfl
    · rfl

theorem settle_eq (config : Config) (env : Env) (s : Session) :
    s.settle config env =
      { s with
        acctState := (s.settle config env).acctState
        log := (s.settle config env).log } := by
  unfold settle acctStop
  split_ifs
  · split <;> rfl
  · rfl

/-- The task after a run of steps. -/
def sessionAfter (config : Config) (env : Env) (inputs : List Input) : Session :=
  finalState (step config) (start config env) inputs

end SstpServer.Session
