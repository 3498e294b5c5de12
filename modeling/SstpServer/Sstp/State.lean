import SstpServer.Sstp.Binding

/-!
# The server-side SSTP state machine

The machine handles control messages, timer expiries and the disconnect request
of the layer above.  A step returns the bytes to send, at most one timer to stop
and one to start, a notification for the layer above and how to tear down.  The
server nonce is an argument of the step that draws it.
-/

namespace SstpServer.Sstp

open SstpServer.Wire

/-! ## Timer durations, in seconds -/

def timerValNegotiation : Nat := 60

def timerValAbortStateTimer1 : Nat := 3

def timerValAbortStateTimer2 : Nat := 1

def timerValDisconnectStateTimer1 : Nat := 5

def timerValDisconnectStateTimer2 : Nat := 1

def timerValHello : Nat := 60

/-- Call states. -/
inductive State where
  | serverCallDisconnected
  | serverConnectRequestPending
  | serverCallConnectedPending
  | serverCallConnected
  | callAbortPending
  | callAbortTimeoutPending
  | callDisconnectAckPending
  | callDisconnectTimeoutPending
  deriving DecidableEq, Repr

/-- Timers run on behalf of the machine. -/
inductive Timer where
  | negotiation
  | hello
  | abortT1
  | abortT2
  | disconnectT1
  | disconnectT2
  deriving DecidableEq, Repr

/-- Notifications for the layer above. -/
inductive NotifyHigher where
  | startPpp
  | sstpEstablished
  deriving DecidableEq, Repr

/-- How the connection is torn down. -/
inductive Terminate where
  | none
  | graceful
  | abrupt
  deriving DecidableEq, Repr

/-- Result of one step; no bytes to send is the empty string. -/
structure StepOut where
  send : Bytes := []
  timerStop : Option Timer := none
  timerStart : Option (Timer × Nat) := none
  notify : Option NotifyHigher := none
  terminate : Terminate := .none
  deriving DecidableEq, Repr

/-- Reasons for a Call-Abort. -/
inductive AbortReason where
  | cryptoBindingInvalid
  | cryptoBindingMissing
  | negotiationTimeout
  | unexpectedMessage
  | none
  deriving DecidableEq, Repr

def AbortReason.toStatus : AbortReason → Option (UInt8 × StatusCode)
  | cryptoBindingInvalid => some (AttributeId.cryptoBinding.asU8, .valueNotSupported)
  | cryptoBindingMissing => some (AttributeId.statusInfo.asU8, .attribNotSupportedInMsg)
  | negotiationTimeout => some (AttributeId.statusInfo.asU8, .negotiationTimeout)
  | unexpectedMessage => some (AttributeId.statusInfo.asU8, .unacceptedFrameReceived)
  | none => Option.none

/-- The state machine of one connection. -/
structure StateMachine where
  state : State
  serverCertHashSha1 : Block 20
  serverCertHashSha256 : Block 32
  binding : Option ServerBindingState
  deriving DecidableEq

namespace StateMachine

def new (certHashSha1 : Block 20) (certHashSha256 : Block 32) : StateMachine where
  state := .serverCallDisconnected
  serverCertHashSha1 := certHashSha1
  serverCertHashSha256 := certHashSha256
  binding := none

def transition (ssm : StateMachine) (state : State) : StateMachine :=
  { ssm with state }

/-- A new HTTPS connection. -/
def onHttpsAccepted (ssm : StateMachine) : StepOut × StateMachine :=
  ({ timerStart := some (.negotiation, timerValNegotiation) },
    ssm.transition .serverConnectRequestPending)

def startAbort (ssm : StateMachine) (reason : AbortReason) : StepOut × StateMachine :=
  ({ send := encodeCallAbort reason.toStatus
     timerStart := some (.abortT1, timerValAbortStateTimer1) },
    ssm.transition .callAbortPending)

def isInTerminalDrain (ssm : StateMachine) : Bool :=
  match ssm.state with
  | .callAbortTimeoutPending | .callAbortPending | .callDisconnectAckPending
  | .callDisconnectTimeoutPending => true
  | _ => false

/-- The hash protocols the server advertises. -/
def hashBitmask : UInt8 :=
  certHashProtocolSha1 ||| certHashProtocolSha256

def onCallConnectRequest (ssm : StateMachine) (protocolId : Nat) (nonce : Block 32) :
    StepOut × StateMachine :=
  if ssm.isInTerminalDrain then
    ({}, ssm)
  else if ssm.state ≠ .serverConnectRequestPending then
    ssm.startAbort .unexpectedMessage
  else if protocolId ≠ sstpEncapsulatedProtocolPpp then
    ({ send := encodeCallConnectNak AttributeId.encapsulatedProtocolId.asU8
        .valueNotSupported }, ssm)
  else
    ({ send := encodeCallConnectAck hashBitmask nonce, notify := some .startPpp },
      { ssm with
        binding := some
          ⟨nonce, ssm.serverCertHashSha1, ssm.serverCertHashSha256, hashBitmask, none⟩
        }.transition .serverCallConnectedPending)

def advanceToConnected (ssm : StateMachine) : StepOut × StateMachine :=
  ({ timerStop := some .negotiation
     timerStart := some (.hello, timerValHello)
     notify := some .sstpEstablished },
    ssm.transition .serverCallConnected)

/-- Advance or abort on the outcome of the binding check. -/
def applyBinding (crypto : Crypto) (ssm : StateMachine) (binding : CryptoBinding)
    (packet : Bytes) : StepOut × StateMachine :=
  match ssm.binding with
  | none => ssm.startAbort .cryptoBindingMissing
  | some state =>
      match verify crypto binding state packet with
      | .ok => ssm.advanceToConnected
      | .attribNotSupportedInMsg => ssm.startAbort .cryptoBindingMissing
      | .valueNotSupported => ssm.startAbort .cryptoBindingInvalid

def onCallConnectedStructural (crypto : Crypto) (ssm : StateMachine)
    (binding : CryptoBinding) : StepOut × StateMachine :=
  if ssm.isInTerminalDrain then
    ({}, ssm)
  else if ssm.state ≠ .serverCallConnectedPending then
    ssm.startAbort .unexpectedMessage
  else
    applyBinding crypto ssm binding []

/-- Full validation of a Call-Connected, given the packet with its MAC field
zeroed. -/
def verifyCallConnected (crypto : Crypto) (ssm : StateMachine) (binding : CryptoBinding)
    (packet : Bytes) : StepOut × StateMachine :=
  if ssm.state ≠ .serverCallConnectedPending then
    ssm.startAbort .unexpectedMessage
  else
    applyBinding crypto ssm binding packet

def onCallDisconnect (ssm : StateMachine) : StepOut × StateMachine :=
  match ssm.state with
  | .callAbortTimeoutPending | .callAbortPending | .callDisconnectTimeoutPending =>
      ({}, ssm)
  | .callDisconnectAckPending =>
      ({ send := encodeEmptyControl .callDisconnectAck
         timerStop := some .disconnectT1
         timerStart := some (.disconnectT2, timerValDisconnectStateTimer2) },
        ssm.transition .callDisconnectTimeoutPending)
  | _ =>
      ({ send := encodeEmptyControl .callDisconnectAck
         timerStart := some (.disconnectT2, timerValDisconnectStateTimer2) },
        ssm.transition .callDisconnectTimeoutPending)

def onCallDisconnectAck (ssm : StateMachine) : StepOut × StateMachine :=
  match ssm.state with
  | .callDisconnectAckPending =>
      ({ timerStop := some .disconnectT1, terminate := .graceful },
        ssm.transition .serverCallDisconnected)
  | .callAbortPending | .callAbortTimeoutPending | .callDisconnectTimeoutPending =>
      ({}, ssm)
  | _ => ssm.startAbort .unexpectedMessage

def onCallAbort (ssm : StateMachine) : StepOut × StateMachine :=
  match ssm.state with
  | .callAbortPending =>
      ({ timerStop := some .abortT1
         timerStart := some (.abortT2, timerValAbortStateTimer2) },
        ssm.transition .callAbortTimeoutPending)
  | .callAbortTimeoutPending | .callDisconnectTimeoutPending => ({}, ssm)
  | _ =>
      ({ send := encodeCallAbort (AbortReason.toStatus .none)
         timerStart := some (.abortT2, timerValAbortStateTimer2) },
        ssm.transition .callAbortTimeoutPending)

def onEchoRequest (ssm : StateMachine) : StepOut × StateMachine :=
  match ssm.state with
  | .serverCallConnected =>
      ({ send := encodeEmptyControl .echoResponse
         timerStart := some (.hello, timerValHello) }, ssm)
  | .callAbortTimeoutPending | .callAbortPending | .callDisconnectAckPending
  | .callDisconnectTimeoutPending => ({}, ssm)
  | _ => ssm.startAbort .unexpectedMessage

def onEchoResponse (ssm : StateMachine) : StepOut × StateMachine :=
  match ssm.state with
  | .serverCallConnected => ({ timerStart := some (.hello, timerValHello) }, ssm)
  | .callAbortTimeoutPending | .callAbortPending | .callDisconnectAckPending
  | .callDisconnectTimeoutPending => ({}, ssm)
  | _ => ssm.startAbort .unexpectedMessage

/-- Drive a control message. -/
def onMessage (crypto : Crypto) (ssm : StateMachine) (message : ControlMessage)
    (nonce : Block 32) : StepOut × StateMachine :=
  match message with
  | .callConnectRequest protocolId => ssm.onCallConnectRequest protocolId nonce
  | .callConnected binding => onCallConnectedStructural crypto ssm binding
  | .callDisconnect => ssm.onCallDisconnect
  | .callDisconnectAck => ssm.onCallDisconnectAck
  | .callAbort => ssm.onCallAbort
  | .echoRequest => ssm.onEchoRequest
  | .echoResponse => ssm.onEchoResponse
  | .other _ => ssm.startAbort .unexpectedMessage

/-- A data packet restarts the hello timer of a connected call. -/
def onDataPacket (ssm : StateMachine) : StepOut :=
  if ssm.state = .serverCallConnected then
    { timerStart := some (.hello, timerValHello) }
  else
    {}

/-- Record the HLAK of the inner authentication. -/
def onInnerAuthCompleted (ssm : StateMachine) (hlak : Option (Block 32)) : StateMachine :=
  { ssm with binding := ssm.binding.map fun binding => { binding with hlak } }

/-- Start the disconnect handshake. -/
def onHigherLayerDisconnect (ssm : StateMachine) : StepOut × StateMachine :=
  ({ send := encodeCallDisconnect true
     timerStart := some (.disconnectT1, timerValDisconnectStateTimer1) },
    ssm.transition .callDisconnectAckPending)

def onHelloExpired (ssm : StateMachine) : StepOut × StateMachine :=
  if ssm.state ≠ .serverCallConnected then
    ({}, ssm)
  else
    ({ send := encodeEmptyControl .echoRequest
       timerStart := some (.hello, timerValHello) }, ssm)

/-- The second hello interval passed without a packet. -/
def onHelloTimeoutNoResponse (ssm : StateMachine) : StepOut × StateMachine :=
  ({ terminate := .abrupt }, ssm)

/-- A timer expired. -/
def onTimer (ssm : StateMachine) (timer : Timer) : StepOut × StateMachine :=
  match timer with
  | .negotiation => ssm.startAbort .negotiationTimeout
  | .hello => ssm.onHelloExpired
  | .abortT1 =>
      ({ timerStart := some (.abortT2, timerValAbortStateTimer2) },
        ssm.transition .callAbortTimeoutPending)
  | .abortT2 | .disconnectT1 | .disconnectT2 => ({ terminate := .graceful }, ssm)

/-- A call into the machine. -/
inductive Call where
  | httpsAccepted
  | message (message : ControlMessage) (nonce : Block 32)
  | callConnected (binding : CryptoBinding) (packet : Bytes)
  | dataPacket
  | innerAuthCompleted (hlak : Option (Block 32))
  | higherLayerDisconnect
  | helloTimeout
  | timer (timer : Timer)

/-- A call that does not come from a timer of the slot. -/
def Call.isOutside : Call → Prop
  | .httpsAccepted => False
  | .timer which => which = .hello
  | _ => True

/-- The result of a call. -/
def run (crypto : Crypto) (ssm : StateMachine) : Call → StepOut × StateMachine
  | .httpsAccepted => ssm.onHttpsAccepted
  | .message message nonce => onMessage crypto ssm message nonce
  | .callConnected binding packet => verifyCallConnected crypto ssm binding packet
  | .dataPacket => (ssm.onDataPacket, ssm)
  | .innerAuthCompleted hlak => ({}, ssm.onInnerAuthCompleted hlak)
  | .higherLayerDisconnect => ssm.onHigherLayerDisconnect
  | .helloTimeout => ssm.onHelloTimeoutNoResponse
  | .timer timer => ssm.onTimer timer

/-- The packets of the machine.  Only the hello timer makes it send an Echo-Request. -/
inductive Sends (call : Call) : Bytes → Prop
  | nothing : Sends call []
  | callConnectAck (nonce : Block 32) : Sends call (encodeCallConnectAck hashBitmask nonce)
  | callConnectNak :
      Sends call
        (encodeCallConnectNak AttributeId.encapsulatedProtocolId.asU8 .valueNotSupported)
  | callAbort (statusInfo : Option (UInt8 × StatusCode)) :
      Sends call (encodeCallAbort statusInfo)
  | callDisconnect : Sends call (encodeCallDisconnect true)
  | callDisconnectAck : Sends call (encodeEmptyControl .callDisconnectAck)
  | echoResponse : Sends call (encodeEmptyControl .echoResponse)
  | echoRequest : call = .timer .hello → Sends call (encodeEmptyControl .echoRequest)

theorem sends_run (crypto : Crypto) (ssm : StateMachine) (call : Call) :
    Sends call (ssm.run crypto call).1.send := by
  have aborts : ∀ reason, Sends call (ssm.startAbort reason).1.send :=
    fun reason => .callAbort reason.toStatus
  have binds : ∀ binding packet, Sends call (applyBinding crypto ssm binding packet).1.send := by
    intro binding packet
    unfold applyBinding
    split
    · exact aborts _
    · split
      · exact .nothing
      · exact aborts _
      · exact aborts _
  cases call with
  | message message nonce =>
      cases message <;> simp only [run, onMessage, onCallConnectRequest,
        onCallConnectedStructural, onCallDisconnect, onCallDisconnectAck, onCallAbort,
        onEchoRequest, onEchoResponse]
      case callConnectRequest =>
        split_ifs
        · exact .nothing
        · exact aborts _
        · exact .callConnectNak
        · exact .callConnectAck _
      case callConnected =>
        split_ifs
        · exact .nothing
        · exact aborts _
        · exact binds _ _
      case callDisconnect =>
        split
        all_goals first | exact .nothing | exact .callDisconnectAck
      case echoRequest =>
        split
        all_goals first | exact .nothing | exact .echoResponse | exact aborts _
      case callAbort =>
        split
        all_goals first | exact .nothing | exact .callAbort (AbortReason.toStatus .none)
      case other => exact aborts _
      all_goals
        split
        all_goals first | exact .nothing | exact aborts _
  | callConnected binding packet =>
      simp only [run, verifyCallConnected]
      split_ifs
      · exact aborts _
      · exact binds _ _
  | timer which =>
      cases which
      case negotiation => exact aborts _
      case hello =>
        simp only [run, onTimer, onHelloExpired]
        split_ifs
        · exact .nothing
        · exact .echoRequest rfl
      all_goals exact .nothing
  | dataPacket =>
      simp only [run, onDataPacket]
      split_ifs <;> exact .nothing
  | higherLayerDisconnect => exact .callDisconnect
  | httpsAccepted => exact .nothing
  | innerAuthCompleted hlak => exact .nothing
  | helloTimeout => exact .nothing

/-- The machine only sends control packets. -/
theorem run_send (crypto : Crypto) (ssm : StateMachine) (call : Call) :
    (ssm.run crypto call).1.send = [] ∨ (ssm.run crypto call).1.send.getD 1 0 = 1 := by
  have sends := sends_run crypto ssm call
  generalize (ssm.run crypto call).1.send = packet at sends ⊢
  cases sends with
  | nothing => exact .inl rfl
  | callAbort statusInfo => exact .inr (flag_encodeStatusInfoMessage _ statusInfo)
  | _ => exact .inr rfl

/-- The machine after a call. -/
def step (crypto : Crypto) (ssm : StateMachine) (call : Call) : StateMachine :=
  (ssm.run crypto call).2

end StateMachine

end SstpServer.Sstp
