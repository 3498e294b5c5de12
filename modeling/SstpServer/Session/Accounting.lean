import SstpServer.Ppp.Driver

/-!
# Authentication answers and accounting records

The authentication backend answers with an Access-Accept or an Access-Reject.  A
session whose data path is up reports to the accounting backend: one Start, interim
updates and one Stop.
-/

namespace SstpServer.Session

open SstpServer.Wire
open SstpServer.Ppp

/-! ## Authentication -/

/-- Policy attributes of an Access-Accept; durations are in seconds. -/
structure SessionPolicy where
  class? : Option Bytes := none
  sessionTimeout : Option Nat := none
  idleTimeout : Option Nat := none
  acctInterimInterval : Option Nat := none
  deriving DecidableEq, Repr

/-- A decoded Access-Accept. -/
structure AuthAccept where
  addrs : AssignedAddrs
  policy : SessionPolicy
  mschap2Success : Option Bytes
  mppeSendKey : Bytes
  mppeRecvKey : Bytes
  deriving DecidableEq

/-- The answer of the authentication backend. -/
inductive RadiusAnswer where
  | accept (granted : AuthAccept)
  | reject (message : Bytes) (errorString : Option Bytes)
  deriving DecidableEq

/-- Result of a PAP or CHAP exchange. -/
structure AuthOutcome where
  verdict : AuthVerdict
  policy : SessionPolicy
  deriving DecidableEq

/-- Result of an MS-CHAPv2 exchange. -/
structure MsChapOutcome where
  verdict : AuthVerdict
  policy : SessionPolicy
  authResponse : Option Bytes
  errorString : Option Bytes
  hlak : Option (Block 32)
  deriving DecidableEq

/-- The HLAK: the receive key, then the send key, when both have sixteen bytes. -/
def hlakOfKeys (sendKey recvKey : Bytes) : Option (Block 32) :=
  if sendKey.length ≠ 16 ∨ recvKey.length ≠ 16 then none
  else some (Block.ofBytes 32 (recvKey ++ sendKey))

/-- The HLAK of an Access-Accept. -/
def hlakFromMppe (accept : AuthAccept) : Option (Block 32) :=
  hlakOfKeys accept.mppeSendKey accept.mppeRecvKey

/-- The outcome of a PAP or CHAP exchange; the keys are not passed on. -/
def RadiusAnswer.authOutcome : RadiusAnswer → AuthOutcome
  | .accept granted => ⟨.accept granted.addrs, granted.policy⟩
  | .reject message _ => ⟨.reject message, {}⟩

def RadiusAnswer.msChapOutcome : RadiusAnswer → MsChapOutcome
  | .accept granted =>
      ⟨.accept granted.addrs, granted.policy, granted.mschap2Success, none,
        hlakFromMppe granted⟩
  | .reject message errorString => ⟨.reject message, {}, none, errorString, none⟩

/-! ## Accounting -/

/-- How a session ended. -/
inductive SessionEnd where
  | userRequest
  | lostCarrier
  | idleTimeout
  | sessionTimeout
  | adminReset
  | nasReboot
  | nasError
  | serviceUnavailable
  deriving DecidableEq, Repr

/-- Why a session is torn down through its control channel. -/
inductive DisconnectReason where
  | adminRequested
  | radiusDisconnect
  | serverShutdown
  deriving DecidableEq, Repr

def SessionEnd.ofReason : DisconnectReason → SessionEnd
  | .adminRequested | .radiusDisconnect => .adminReset
  | .serverShutdown => .nasReboot

/-- Counters of a record. -/
structure AcctCounters where
  sessionTime : Nat := 0
  inputOctets : Nat := 0
  outputOctets : Nat := 0
  inputPackets : Nat := 0
  outputPackets : Nat := 0
  deriving DecidableEq, Repr

/-- Device counters as the kernel reports them. -/
structure LinkStats where
  rxBytes : Nat
  txBytes : Nat
  rxPackets : Nat
  txPackets : Nat
  deriving DecidableEq, Repr

/-- What identifies a session in its records. -/
structure AcctSession where
  sessionId : Nat
  framedIp : Ipv4
  nasPort : Nat
  class? : Option Bytes
  deriving DecidableEq

inductive AcctEvent where
  | start
  | interimUpdate
  | stop (cause : SessionEnd)
  deriving DecidableEq, Repr

/-- The accounting state of a session whose data path is up. -/
structure AcctState where
  username : Bytes
  ifindex : Nat
  session : AcctSession
  started : Nat
  lastCounters : AcctCounters
  deriving DecidableEq

/-- Sample the device counters; a failed sample repeats the last ones.  Times are in
milliseconds. -/
def sampleAcctCounters (stats : Option LinkStats) (now : Nat) (state : AcctState) :
    AcctCounters :=
  let sessionTime := (now - state.started) / 1000 % 2 ^ 32
  match stats with
  | some stats =>
      ⟨sessionTime, stats.rxBytes, stats.txBytes, stats.rxPackets % 2 ^ 32,
        stats.txPackets % 2 ^ 32⟩
  | none => { state.lastCounters with sessionTime }

end SstpServer.Session
