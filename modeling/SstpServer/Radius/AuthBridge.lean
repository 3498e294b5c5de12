import SstpServer.Iteration.Attempts
import SstpServer.Radius.AcctClient
import SstpServer.Session.Accounting
import SstpServer.Sstp.Preamble
import SstpServer.Transition.TaskPool

/-!
# The authentication bridge

A session hands its peer's credential to the bridge as a job.  The dispatcher starts a task for
every job, and the task asks the RADIUS servers in their configured order until one of them
answers; it replies to the session once.

The exchange with a server is the RADIUS library's: whatever it gives is a parameter, as are the
library's text and key formats.  Texts are their UTF-8 bytes and durations are in seconds.
-/

namespace SstpServer.Radius

open SstpServer.Wire
open SstpServer.Ppp
open SstpServer.Iteration
open SstpServer.Transition
open SstpServer.Sstp (ascii)

/-! ## Replies of a server -/

/-- The attributes of a reply as the library reads them: the first instance of each, and all of
them in order, a malformed one as `none`. -/
structure ReplyAttributes where
  framedIpAddress : Option Ipv4 := none
  framedIpNetmask : Option Ipv4 := none
  framedMtu : Option UInt32 := none
  msPrimaryDnsServer : Option Ipv4 := none
  msSecondaryDnsServer : Option Ipv4 := none
  msPrimaryNbnsServer : Option Ipv4 := none
  msSecondaryNbnsServer : Option Ipv4 := none
  msMppeSendKey : Option Bytes := none
  msMppeRecvKey : Option Bytes := none
  msChap2Success : Option Bytes := none
  msChapError : Option Bytes := none
  mikrotikRateLimit : Option Bytes := none
  class? : Option Bytes := none
  sessionTimeout : Option UInt32 := none
  idleTimeout : Option UInt32 := none
  acctInterimInterval : Option UInt32 := none
  replyMessage : Option Bytes := none
  slots : List (Option (UInt8 × Bytes)) := []
  deriving DecidableEq

/-- What an exchange with a server gives when a reply arrives. -/
inductive AccessOutcome where
  | accept (authenticator : Block 16) (attributes : ReplyAttributes)
  | reject (attributes : ReplyAttributes)
  | challenge
  deriving DecidableEq

/-- What an exchange gives when none arrives; the other errors are told by their text. -/
inductive ClientError where
  | io (error : Bytes)
  | timeout
  | other (text : Bytes)
  deriving DecidableEq, Repr

/-- Formats that are not part of the bridge, for shaping policies `σ` and routes `ρ`. -/
structure ReplyCodec (σ ρ : Type) where
  /-- Decrypt a key with the secret and the request's authenticator. -/
  mppeKeyDecrypt : Bytes → Bytes → Block 16 → Option Bytes
  /-- The shaping policy of a rate limit. -/
  parseRateLimit : Bytes → Option σ
  /-- Whether a shaping policy sets no rate. -/
  isEmpty : σ → Bool
  isUtf8 : Bytes → Bool
  fromUtf8Lossy : Bytes → Bytes
  parseRoute : Bytes → Option ρ
  ipToString : Bytes → Bytes
  /-- The debug form of the text of a reject. -/
  debug : Option Bytes → Bytes

/-! ### Errors -/

inductive TransportError where
  | io (error : Bytes)
  | timeout
  | other (text : Bytes)
  deriving DecidableEq, Repr

def TransportError.display : TransportError → Bytes
  | .io error => ascii "i/o: " ++ error
  | .timeout => ascii "no reply within retry budget"
  | .other text => text

/-- Why a request did not yield an Access-Accept. -/
inductive AuthError where
  | rejected (message : Option Bytes)
  | unexpectedChallenge
  | missingAttribute (name : String)
  | transport (error : TransportError)
  | malformed (what : String)
  deriving DecidableEq, Repr

def AuthError.ofClientError : ClientError → AuthError
  | .io error => .transport (.io error)
  | .timeout => .transport .timeout
  | .other text => .transport (.other text)

/-! ### Decoding -/

/-- A decoded Access-Accept. -/
structure AuthAccept (σ ρ : Type) where
  framedIp : Ipv4
  framedNetmask : Option Ipv4
  framedMtu : Option UInt32
  primaryDns : Option Ipv4
  secondaryDns : Option Ipv4
  primaryNbns : Option Ipv4
  secondaryNbns : Option Ipv4
  mppeSendKey : Bytes
  mppeRecvKey : Bytes
  mschap2Success : Option Bytes
  shaping : Option σ
  framedRoutes : List ρ
  class? : Option Bytes
  sessionTimeout : Option Nat
  idleTimeout : Option Nat
  acctInterimInterval : Option Nat
  deriving DecidableEq

def minAcctInterim : Nat := 30

/-- Attribute code of Framed-Route. -/
def framedRouteCode : UInt8 := 22

section

variable {σ ρ : Type} (codec : ReplyCodec σ ρ)

def AuthError.display : AuthError → Bytes
  | .rejected message => ascii "access rejected: " ++ codec.debug message
  | .unexpectedChallenge => ascii "unexpected Access-Challenge"
  | .missingAttribute name => ascii "access accepted but missing attribute: " ++ ascii name
  | .transport error => ascii "transport: " ++ error.display
  | .malformed what => ascii "malformed reply: " ++ ascii what

/-- An absent key is the empty one. -/
def mppeKey (key : Option Bytes) (secret : Bytes) (authenticator : Block 16) :
    Except AuthError Bytes :=
  match key with
  | none => .ok []
  | some raw =>
      match codec.mppeKeyDecrypt raw secret authenticator with
      | some key => .ok key
      | none => .error (.malformed "MPPE key decrypt failed")

/-- A rate limit that does not parse, or that sets no rate, is no policy. -/
def mikrotikRateLimit (attrs : ReplyAttributes) : Option σ :=
  match attrs.mikrotikRateLimit.bind codec.parseRateLimit with
  | some policy => if codec.isEmpty policy then none else some policy
  | none => none

/-- The routes that parse, up to the first malformed attribute. -/
def decodeFramedRoutes : List (Option (UInt8 × Bytes)) → List ρ
  | [] => []
  | none :: _ => []
  | some (code, value) :: later =>
      if code ≠ framedRouteCode then decodeFramedRoutes later
      else if codec.isUtf8 value = false then decodeFramedRoutes later
      else
        match codec.parseRoute value with
        | some route => route :: decodeFramedRoutes later
        | none => decodeFramedRoutes later

/-- The address is required and the keys have to decrypt; everything else is optional. -/
def decodeAccept (attrs : ReplyAttributes) (secret : Bytes) (requestAuthenticator : Block 16) :
    Except AuthError (AuthAccept σ ρ) :=
  match attrs.framedIpAddress with
  | none => .error (.missingAttribute "Framed-IP-Address")
  | some framedIp => do
      let mppeSendKey ← mppeKey codec attrs.msMppeSendKey secret requestAuthenticator
      let mppeRecvKey ← mppeKey codec attrs.msMppeRecvKey secret requestAuthenticator
      return {
        framedIp
        framedNetmask := attrs.framedIpNetmask
        framedMtu := attrs.framedMtu
        primaryDns := attrs.msPrimaryDnsServer
        secondaryDns := attrs.msSecondaryDnsServer
        primaryNbns := attrs.msPrimaryNbnsServer
        secondaryNbns := attrs.msSecondaryNbnsServer
        mppeSendKey
        mppeRecvKey
        -- the leading CHAP identifier is stripped
        mschap2Success := attrs.msChap2Success.map (List.drop 1)
        shaping := mikrotikRateLimit codec attrs
        framedRoutes := decodeFramedRoutes codec attrs.slots
        class? := attrs.class?
        sessionTimeout := attrs.sessionTimeout.map UInt32.toNat
        idleTimeout := attrs.idleTimeout.map UInt32.toNat
        acctInterimInterval :=
          attrs.acctInterimInterval.map fun secs => max minAcctInterim secs.toNat }

def rejectReason (attrs : ReplyAttributes) : Option Bytes :=
  attrs.replyMessage

/-- The text of an MS-CHAP-Error behind its identifier. -/
def mschapError (attrs : ReplyAttributes) : Option Bytes :=
  attrs.msChapError.map fun text =>
    match text with
    | [] => []
    | _ :: rest => codec.fromUtf8Lossy rest

def projectTerminal (outcome : AccessOutcome) (secret : Bytes) :
    Except AuthError (AuthAccept σ ρ) :=
  match outcome with
  | .accept authenticator attributes => decodeAccept codec attributes secret authenticator
  | .reject attributes => .error (.rejected (rejectReason attributes))
  | .challenge => .error .unexpectedChallenge

/-! ## Outcomes -/

/-- Policy attributes of an Access-Accept. -/
structure SessionPolicy (ρ : Type) where
  framedRoutes : List ρ := []
  class? : Option Bytes := none
  sessionTimeout : Option Nat := none
  idleTimeout : Option Nat := none
  acctInterimInterval : Option Nat := none
  deriving DecidableEq, Repr

def SessionPolicy.fromAccept (accept : AuthAccept σ ρ) : SessionPolicy ρ where
  framedRoutes := accept.framedRoutes
  class? := accept.class?
  sessionTimeout := accept.sessionTimeout
  idleTimeout := accept.idleTimeout
  acctInterimInterval := accept.acctInterimInterval

/-- Result of a PAP or CHAP job. -/
structure AuthOutcome (σ ρ : Type) where
  verdict : AuthVerdict
  shaping : Option σ
  policy : SessionPolicy ρ
  deriving DecidableEq

/-- Result of an MS-CHAPv2 job. -/
structure MsChapOutcome (σ ρ : Type) where
  verdict : AuthVerdict
  shaping : Option σ
  policy : SessionPolicy ρ
  authResponse : Option Bytes
  errorString : Option Bytes
  hlak : Option (Block 32)
  deriving DecidableEq

/-- An MTU that does not fit sixteen bits is dropped; any other is brought into range. -/
def projectAddrs (accept : AuthAccept σ ρ) : AssignedAddrs where
  ip := accept.framedIp
  mtu := accept.framedMtu.bind fun mtu =>
    if mtu.toNat < 2 ^ 16 then some (max 576 (min mtu.toNat 1500)) else none
  dns1 := accept.primaryDns
  dns2 := accept.secondaryDns
  nbns1 := accept.primaryNbns
  nbns2 := accept.secondaryNbns

def hlakFromMppe (accept : AuthAccept σ ρ) : Option (Block 32) :=
  Session.hlakOfKeys accept.mppeSendKey accept.mppeRecvKey

def reject (message : Bytes) : AuthOutcome σ ρ :=
  ⟨.reject message, none, {}⟩

def acceptOutcome (accept : AuthAccept σ ρ) : AuthOutcome σ ρ :=
  ⟨.accept (projectAddrs accept), accept.shaping, .fromAccept accept⟩

/-- The text when no server has answered. -/
def failureText : Option Bytes → Bytes
  | none => ascii "auth failed: no RADIUS servers reachable"
  | some error => ascii "auth failed: " ++ error

def transportFailure (last : Option Bytes) : AuthOutcome σ ρ :=
  reject (failureText last)

/-! ## Jobs -/

/-- A RADIUS server and its shared secret. -/
structure Server where
  addr : SocketAddr
  secret : Bytes
  deriving DecidableEq, Repr

/-- Attributes that every Access-Request has. -/
structure AccessRequestCtx where
  username : Bytes
  callingStationId : Option Bytes
  nasIdentifier : Option Bytes
  nasIpAddress : Option Ipv4 := none
  calledStationId : Option Bytes := none
  connectInfo : Option Bytes := none
  deriving DecidableEq

/-- The credential of an Access-Request. -/
inductive Credential where
  | pap (password : Bytes)
  | chapMd5 (chapIdent : UInt8) (response challenge : Block 16)
  | mschapv2 (authenticatorChallenge : Block 16) (chapIdent : UInt8) (peerChallenge : Block 16)
      (ntResponse : Block 24) (flags : UInt8)
  deriving DecidableEq

/-- What a server is asked. -/
structure AccessRequest where
  ctx : AccessRequestCtx
  credential : Credential
  deriving DecidableEq

/-- What the exchanges of one job give, by the number of the attempt. -/
abbrev Exchange := Nat → Server → AccessRequest → Except ClientError AccessOutcome

structure PapJob where
  username : Bytes
  password : Bytes
  peer : SocketAddr
  deriving DecidableEq, Repr

structure ChapJob where
  username : Bytes
  chapId : UInt8
  response : Block 16
  challenge : Block 16
  peer : SocketAddr
  deriving DecidableEq

structure MsChapJob where
  username : Bytes
  chapId : UInt8
  authenticatorChallenge : Block 16
  peerChallenge : Block 16
  ntResponse : Block 24
  flags : UInt8
  peer : SocketAddr
  deriving DecidableEq

inductive Job where
  | pap (job : PapJob)
  | chap (job : ChapJob)
  | msChap (job : MsChapJob)
  deriving DecidableEq

/-- The context that every method's loop builds from its job. -/
def requestCtx (nasIdentifier : Option Bytes) (username : Bytes) (peer : SocketAddr) :
    AccessRequestCtx :=
  { username, callingStationId := some (codec.ipToString peer.ip), nasIdentifier }

/-! ## The failover loops -/

/-- One round trip. -/
def authenticate (exchange : Exchange) (attempt : Nat) (server : Server)
    (request : AccessRequest) : Except AuthError (AuthAccept σ ρ) :=
  match exchange attempt server request with
  | .ok outcome => projectTerminal codec outcome server.secret
  | .error error => .error (.ofClientError error)

def authenticatePap (exchange : Exchange) (attempt : Nat) (server : Server)
    (ctx : AccessRequestCtx) (password : Bytes) : Except AuthError (AuthAccept σ ρ) :=
  authenticate codec exchange attempt server ⟨ctx, .pap password⟩

def authenticateChapMd5 (exchange : Exchange) (attempt : Nat) (server : Server)
    (ctx : AccessRequestCtx) (chapIdent : UInt8) (response challenge : Block 16) :
    Except AuthError (AuthAccept σ ρ) :=
  authenticate codec exchange attempt server ⟨ctx, .chapMd5 chapIdent response challenge⟩

/-- The body of the PAP and CHAP loops: an outcome ends the loop, an error text goes on to the
next server. -/
def basicAttempt (result : Except AuthError (AuthAccept σ ρ)) :
    Except Bytes (AuthOutcome σ ρ) :=
  match result with
  | .ok accept => .ok (acceptOutcome accept)
  | .error (.rejected message) => .ok (reject (message.getD (ascii "access rejected")))
  | .error error => .error (error.display codec)

/-- The loop of a PAP or CHAP job. -/
def runBasic (authenticate : Nat → Server → Except AuthError (AuthAccept σ ρ))
    (servers : List Server) : List (Action Server (AuthOutcome σ ρ)) :=
  attempts (fun attempt server => basicAttempt codec (authenticate attempt server))
    transportFailure 0 none servers

def runPap (exchange : Exchange) (servers : List Server) (nasIdentifier : Option Bytes)
    (job : PapJob) : List (Action Server (AuthOutcome σ ρ)) :=
  let ctx := requestCtx codec nasIdentifier job.username job.peer
  runBasic codec (fun attempt server =>
    authenticatePap codec exchange attempt server ctx job.password) servers

def runChap (exchange : Exchange) (servers : List Server) (nasIdentifier : Option Bytes)
    (job : ChapJob) : List (Action Server (AuthOutcome σ ρ)) :=
  let ctx := requestCtx codec nasIdentifier job.username job.peer
  runBasic codec (fun attempt server =>
    authenticateChapMd5 codec exchange attempt server ctx job.chapId job.response job.challenge)
    servers

/-- The body of the MS-CHAPv2 loop, which reads the outcome of the exchange itself. -/
def msChapAttempt (secret : Bytes) (result : Except ClientError AccessOutcome) :
    Except Bytes (MsChapOutcome σ ρ) :=
  match result with
  | .ok (.accept authenticator attributes) =>
      match decodeAccept codec attributes secret authenticator with
      | .ok accept => .ok {
          verdict := .accept (projectAddrs accept)
          shaping := accept.shaping
          policy := .fromAccept accept
          authResponse := accept.mschap2Success
          errorString := none
          hlak := hlakFromMppe accept }
      | .error error => .error (error.display codec)
  | .ok (.reject attributes) =>
      let errorString := mschapError codec attributes
      let reason :=
        ((rejectReason attributes).or errorString).getD (ascii "access rejected")
      .ok ⟨.reject reason, none, {}, none, errorString, none⟩
  | .ok .challenge => .error (ascii "unexpected Access-Challenge")
  | .error error => .error ((AuthError.ofClientError error).display codec)

def runMschapv2 (exchange : Exchange) (servers : List Server) (nasIdentifier : Option Bytes)
    (job : MsChapJob) : List (Action Server (MsChapOutcome σ ρ)) :=
  let ctx := requestCtx codec nasIdentifier job.username job.peer
  let credential := .mschapv2 job.authenticatorChallenge job.chapId job.peerChallenge
    job.ntResponse job.flags
  attempts (fun attempt server => msChapAttempt codec server.secret
      (exchange attempt server ⟨ctx, credential⟩))
    (fun last => ⟨.reject (failureText last), none, {}, none, none, none⟩) 0 none servers

/-! ## The dispatcher -/

/-- What a job's channel carries. -/
inductive Reply (σ ρ : Type) where
  | basic (outcome : AuthOutcome σ ρ)
  | msChap (outcome : MsChapOutcome σ ρ)
  deriving DecidableEq

/-- The task of a job. -/
def Job.run (exchange : Exchange) (servers : List Server) (nasIdentifier : Option Bytes) :
    Job → List (Action Server (Reply σ ρ))
  | .pap job => (runPap codec exchange servers nasIdentifier job).map (.mapOutcome .basic)
  | .chap job => (runChap codec exchange servers nasIdentifier job).map (.mapOutcome .basic)
  | .msChap job =>
      (runMschapv2 codec exchange servers nasIdentifier job).map (.mapOutcome .msChap)

def queueDepth : Nat := 1024

/-- The jobs that were submitted to the bridge, their tasks, and what these have done. -/
abbrev AuthBridge (σ ρ : Type) := TaskPool Job (Action Server (Reply σ ρ))

namespace AuthBridge

/-- The bridge after a run; `exchange i` tells what the exchanges of job `i` give. -/
abbrev reach (exchange : Nat → Exchange) (servers : List Server)
    (nasIdentifier : Option Bytes) (moves : List (PoolMove Job)) : AuthBridge σ ρ :=
  finalState (TaskPool.step queueDepth fun id => Job.run codec (exchange id) servers nasIdentifier)
    {} moves

end AuthBridge

end

end SstpServer.Radius
