import Mathlib.Logic.Function.Basic
import SstpServer.Transition.Run
import SstpServer.Wire.Bytes

/-!
# The accounting client

Every accounting record is sent by a task of its own.  The tasks share one socket and one table
that maps a server and an identifier to the task that waits for the reply; a reader takes the
datagrams off the socket and hands each to the task that the table names.  A task that hears
nothing builds its request again, with the time that has passed, and sends it once more.

Times are in nanoseconds.  The codec of the packets is a parameter.
-/

namespace SstpServer.Radius

open SstpServer.Wire

structure SocketAddr where
  ip : Bytes
  port : UInt16
  deriving DecidableEq, Repr

/-! ## Requests -/

/-- The kind of a record; a Stop has its Acct-Terminate-Cause. -/
inductive AcctEvent where
  | start
  | interimUpdate
  | stop (cause : UInt32)
  deriving DecidableEq, Repr

structure AcctCounters where
  sessionTime : UInt32 := 0
  inputOctets : UInt64 := 0
  outputOctets : UInt64 := 0
  inputPackets : UInt32 := 0
  outputPackets : UInt32 := 0
  deriving DecidableEq, Repr

structure AcctSession where
  sessionId : Bytes
  authentic : UInt32 := 1
  framedIp : Block 4
  nasIp : Option (Block 4) := none
  nasPort : UInt32
  class? : Option Bytes := none
  deriving DecidableEq

/-- What a task reports. -/
structure AcctRecord where
  username : Bytes
  callingStationId : Option Bytes
  nasIdentifier : Option Bytes
  session : AcctSession
  event : AcctEvent
  counters : AcctCounters
  deriving DecidableEq

inductive AttrName where
  | userName | nasIpAddress | nasIdentifier | nasPort | nasPortType | serviceType
  | framedProtocol | framedIpAddress | callingStationId | acctStatusType | acctAuthentic
  | acctSessionId | attrClass | acctDelayTime | acctSessionTime | acctInputOctets
  | acctOutputOctets | acctInputGigawords | acctOutputGigawords | acctInputPackets
  | acctOutputPackets | acctTerminateCause
  deriving DecidableEq, Repr

inductive AttrValue where
  | octets (bytes : Bytes)
  | address (ip : Block 4)
  | integer (value : UInt32)
  deriving DecidableEq

structure Attribute where
  name : AttrName
  value : AttrValue
  deriving DecidableEq

/-- A request as it goes out, with its header. -/
abbrev SealedRequest := { bytes : Bytes // 20 ≤ bytes.length }

/-- The packets as the RADIUS library writes and checks them. -/
structure Codec where
  /-- An Accounting-Request under an identifier and a secret; it fails when an attribute does not
  fit. -/
  sealAsZeroedRequest : UInt8 → List Attribute → Bytes → Option SealedRequest
  /-- A reply against the authenticator of a request and a secret. -/
  verifyResponse : Bytes → Block 16 → Bytes → Bool

/-! ### The packets of RFC 2866

The library is not part of the program; its packets over some digest are one codec. -/

def AttrName.code : AttrName → UInt8
  | .userName => 1
  | .nasIpAddress => 4
  | .nasPort => 5
  | .serviceType => 6
  | .framedProtocol => 7
  | .framedIpAddress => 8
  | .attrClass => 25
  | .callingStationId => 31
  | .nasIdentifier => 32
  | .acctStatusType => 40
  | .acctDelayTime => 41
  | .acctInputOctets => 42
  | .acctOutputOctets => 43
  | .acctSessionId => 44
  | .acctAuthentic => 45
  | .acctSessionTime => 46
  | .acctInputPackets => 47
  | .acctOutputPackets => 48
  | .acctTerminateCause => 49
  | .acctInputGigawords => 52
  | .acctOutputGigawords => 53
  | .nasPortType => 61

def AttrValue.encode : AttrValue → Bytes
  | .octets bytes => bytes
  | .address ip => ip.toList
  | .integer value =>
      [(value >>> 24).toUInt8, (value >>> 16).toUInt8, (value >>> 8).toUInt8, value.toUInt8]

def Attribute.encode (attr : Attribute) : Option Bytes :=
  let value := attr.value.encode
  if 253 < value.length then none
  else some (attr.name.code :: UInt8.ofNat (value.length + 2) :: value)

/-- A packet whose authenticator is a digest over the packet with another authenticator in its
place, and the secret. -/
def sealWith (digest : Bytes → Block 16) (head : Bytes) (authenticator : Block 16)
    (attributes secret : Bytes) : Bytes :=
  head ++ (digest (head ++ authenticator.toList ++ attributes ++ secret)).toList ++ attributes

theorem length_sealWith (digest : Bytes → Block 16) (head : Bytes) (authenticator : Block 16)
    (attributes secret : Bytes) :
    (sealWith digest head authenticator attributes secret).length =
      head.length + 16 + attributes.length := by
  simp [sealWith, Nat.add_assoc]

def Codec.ofDigest (digest : Bytes → Block 16) : Codec where
  sealAsZeroedRequest identifier attributes secret :=
    (attributes.mapM Attribute.encode).bind fun encoded =>
      if 4096 < 20 + encoded.flatten.length then none
      else
        some ⟨sealWith digest ([4, identifier] ++ toBe16 (20 + encoded.flatten.length))
          (Block.zero 16) encoded.flatten secret, by
            rw [length_sealWith]
            simp⟩
  verifyResponse reply requestAuthenticator secret :=
    decide (20 ≤ reply.length ∧
      reply = sealWith digest (reply.take 4) requestAuthenticator (reply.drop 20) secret)

/-- A digest that only adds up. -/
def checksum (bytes : Bytes) : Block 16 :=
  Block.ofBytes 16 (bytes.foldl UInt8.add 0 :: List.replicate 15 0)

/-! ### Building a request -/

def AcctEvent.statusType : AcctEvent → UInt32
  | .start => 1
  | .stop _ => 2
  | .interimUpdate => 3

/-- The high half of a counter travels only where it counts. -/
def gigawords (name : AttrName) (octets : UInt64) : List Attribute :=
  if octets >>> 32 = 0 then [] else [⟨name, .integer (octets >>> 32).toUInt32⟩]

def counterAttributes (counters : AcctCounters) : List Attribute :=
  [⟨.acctSessionTime, .integer counters.sessionTime⟩,
    ⟨.acctInputOctets, .integer counters.inputOctets.toUInt32⟩,
    ⟨.acctOutputOctets, .integer counters.outputOctets.toUInt32⟩] ++
  gigawords .acctInputGigawords counters.inputOctets ++
  gigawords .acctOutputGigawords counters.outputOctets ++
  [⟨.acctInputPackets, .integer counters.inputPackets⟩,
    ⟨.acctOutputPackets, .integer counters.outputPackets⟩]

/-- The attributes of a request, in the order of the packet. -/
def attributes (record : AcctRecord) (delaySecs : UInt32) : List Attribute :=
  [⟨.userName, .octets record.username⟩] ++
  record.session.nasIp.toList.map (fun ip => ⟨.nasIpAddress, .address ip⟩) ++
  record.nasIdentifier.toList.map (fun name => ⟨.nasIdentifier, .octets name⟩) ++
  [⟨.nasPort, .integer record.session.nasPort⟩, ⟨.nasPortType, .integer 5⟩,
    ⟨.serviceType, .integer 2⟩, ⟨.framedProtocol, .integer 1⟩,
    ⟨.framedIpAddress, .address record.session.framedIp⟩] ++
  record.callingStationId.toList.map (fun id => ⟨.callingStationId, .octets id⟩) ++
  [⟨.acctStatusType, .integer record.event.statusType⟩,
    ⟨.acctAuthentic, .integer record.session.authentic⟩,
    ⟨.acctSessionId, .octets record.session.sessionId⟩] ++
  record.session.class?.toList.map (fun bytes => ⟨.attrClass, .octets bytes⟩) ++
  (if delaySecs ≠ 0 then [⟨.acctDelayTime, .integer delaySecs⟩] else []) ++
  (if record.event ≠ .start then counterAttributes record.counters else []) ++
  (match record.event with
    | .stop cause => [⟨.acctTerminateCause, .integer cause⟩]
    | _ => [])

def build (codec : Codec) (identifier : UInt8) (secret : Bytes) (record : AcctRecord)
    (delaySecs : UInt32) : Option SealedRequest :=
  codec.sealAsZeroedRequest identifier (attributes record delaySecs) secret

def requestAuthenticatorFrom (bytes : Bytes) : Block 16 :=
  Block.ofBytes 16 (slice bytes 4 20)

/-! ## Replies -/

inductive AcctError where
  | io
  | codec
  | timeout
  | identifierExhausted (peer : SocketAddr)
  | authenticatorMismatch
  | unexpectedReply (code : UInt8)
  | cancelled
  deriving DecidableEq, Repr

abbrev AcctResult := Except AcctError Unit

/-- The code of an Accounting-Response. -/
def accountingResponse : UInt8 := 5

def verify (codec : Codec) (reply secret : Bytes) (requestAuthenticator : Block 16) : AcctResult :=
  if reply.length < 20 then .error .authenticatorMismatch
  else if reply.getD 0 0 ≠ accountingResponse then .error (.unexpectedReply (reply.getD 0 0))
  else if ¬codec.verifyResponse reply requestAuthenticator secret then
    .error .authenticatorMismatch
  else .ok ()

/-! ## The table of a server -/

/-- The identifiers of one server, each with the task whose sender stands under it. -/
structure PeerState where
  nextId : UInt8 := 0
  inflight : UInt8 → Option Nat := fun _ => none

/-- Look for a free identifier, in at most so many steps. -/
def PeerState.scan (slot : PeerState) : Nat → Option UInt8 × PeerState
  | 0 => (none, slot)
  | count + 1 =>
      if slot.inflight slot.nextId = none then
        (some slot.nextId, { slot with nextId := slot.nextId + 1 })
      else { slot with nextId := slot.nextId + 1 }.scan count

def PeerState.allocate (slot : PeerState) : Option UInt8 × PeerState :=
  slot.scan 256

def PeerState.insert (slot : PeerState) (id : UInt8) (task : Nat) : PeerState :=
  { slot with inflight := Function.update slot.inflight id (some task) }

def PeerState.remove (slot : PeerState) (id : UInt8) : PeerState :=
  { slot with inflight := Function.update slot.inflight id none }

theorem PeerState.insert_inflight (slot : PeerState) (id used : UInt8) (task : Nat) :
    (slot.insert used task).inflight id = if id = used then some task else slot.inflight id :=
  Function.update_apply ..

theorem PeerState.remove_inflight (slot : PeerState) (id used : UInt8) :
    (slot.remove used).inflight id = if id = used then none else slot.inflight id :=
  Function.update_apply ..

/-- The first identifier from the next one on that has no entry. -/
def PeerState.FirstFree (slot : PeerState) (id : UInt8) : Prop :=
  ∃ skipped < 256, id = slot.nextId + UInt8.ofNat skipped ∧ slot.inflight id = none ∧
    ∀ earlier < skipped, slot.inflight (slot.nextId + UInt8.ofNat earlier) ≠ none

theorem PeerState.scan_inflight (slot : PeerState) (count : Nat) :
    (slot.scan count).2.inflight = slot.inflight := by
  induction count generalizing slot with
  | zero => rfl
  | succ count ih =>
    unfold scan
    split
    · rfl
    · exact ih _

theorem PeerState.scan_eq_some_iff (slot : PeerState) (count : Nat) (id : UInt8) :
    (slot.scan count).1 = some id ↔
      ∃ skipped < count, id = slot.nextId + UInt8.ofNat skipped ∧ slot.inflight id = none ∧
        ∀ earlier < skipped, slot.inflight (slot.nextId + UInt8.ofNat earlier) ≠ none := by
  induction count generalizing slot with
  | zero => simp [scan]
  | succ count ih =>
    have shift : ∀ skipped, slot.nextId + UInt8.ofNat (skipped + 1) =
        slot.nextId + 1 + UInt8.ofNat skipped := by
      intro skipped
      rw [UInt8.ofNat_add, UInt8.add_comm (UInt8.ofNat skipped), ← UInt8.add_assoc]
      rfl
    unfold scan
    by_cases free : slot.inflight slot.nextId = none
    · rw [if_pos free]
      constructor
      · rintro ⟨⟩
        refine ⟨0, Nat.succ_pos count, ?_, free, ?_⟩
        · simp
        · intro earlier before
          exact absurd before (Nat.not_lt_zero earlier)
      · rintro ⟨skipped, -, rfl, -, taken⟩
        cases skipped with
        | zero => simp
        | succ skipped => exact absurd (by simpa using free) (taken 0 (Nat.succ_pos skipped))
    · rw [if_neg free, ih]
      constructor
      · rintro ⟨skipped, below, rfl, unused, taken⟩
        refine ⟨skipped + 1, Nat.succ_lt_succ below, (shift skipped).symm, unused, ?_⟩
        intro earlier before
        cases earlier with
        | zero => simpa using free
        | succ earlier =>
          rw [shift]
          exact taken earlier (Nat.lt_of_succ_lt_succ before)
      · rintro ⟨skipped, below, rfl, unused, taken⟩
        cases skipped with
        | zero => exact absurd (by simpa using unused) free
        | succ skipped =>
          refine ⟨skipped, Nat.lt_of_succ_lt_succ below, shift skipped, unused, ?_⟩
          intro earlier before
          rw [← shift]
          exact taken (earlier + 1) (Nat.succ_lt_succ before)

theorem PeerState.allocate_eq_some_iff (slot : PeerState) (id : UInt8) :
    slot.allocate.1 = some id ↔ slot.FirstFree id :=
  slot.scan_eq_some_iff 256 id

theorem PeerState.FirstFree.free {slot : PeerState} {id : UInt8} (first : slot.FirstFree id) :
    slot.inflight id = none := by
  rcases first with ⟨_, _, _, free, _⟩
  exact free

/-! ## Tasks -/

/-- When and how often a request is sent again. -/
structure AcctRetry where
  initialTimeout : Nat := 1000000000
  maxAttempts : Nat := 5
  backoffMultiplier : Nat := 2

def durationMax : Nat := (2 ^ 64 - 1) * 1000000000 + 999999999

def AcctRetry.backoff (retry : AcctRetry) (wait : Nat) : Nat :=
  min (wait * max retry.backoffMultiplier 1) durationMax

/-- The channel for the one reply. -/
inductive Oneshot where
  | pending
  | full (reply : Bytes)
  | closed
  deriving DecidableEq, Repr

/-- Where a task stands. -/
inductive Phase where
  /-- The identifier is taken, the clock not read. -/
  | starting
  /-- The request of an attempt is to be built and sent. -/
  | transmitting (attempt wait : Nat)
  | waiting (attempt wait deadline : Nat) (request : SealedRequest)
  /-- The slot is to be reclaimed. -/
  | finishing (result : AcctResult)
  | done (result : AcctResult)
  deriving DecidableEq

/-- A call to send a record, with the requests that it has transmitted. -/
structure Send where
  peer : SocketAddr
  secret : Bytes
  record : AcctRecord
  identifier : UInt8
  started : Nat := 0
  reply : Oneshot := .pending
  phase : Phase := .starting
  transmitted : List SealedRequest := []
  deriving DecidableEq

namespace Send

def start (retry : AcctRetry) (clock : Nat) (send : Send) : Send :=
  match send.phase with
  | .starting =>
      { send with started := clock, phase := .transmitting 0 retry.initialTimeout }
  | _ => send

def delaySecs (clock : Nat) (send : Send) : UInt32 :=
  UInt32.ofNat (min ((clock - send.started) / 1000000000) (2 ^ 32 - 1))

def transmit (codec : Codec) (clock : Nat) (sent : Bool) (send : Send) : Send :=
  match send.phase with
  | .transmitting attempt wait =>
      match build codec send.identifier send.secret send.record (send.delaySecs clock) with
      | none => { send with phase := .finishing (.error .codec) }
      | some request =>
          if sent then
            { send with
              phase := .waiting attempt wait (clock + wait) request
              transmitted := send.transmitted ++ [request] }
          else { send with phase := .finishing (.error .io) }
  | _ => send

/-- A reply counts before the timer does. -/
def poll (codec : Codec) (retry : AcctRetry) (clock : Nat) (elapsed : Bool) (send : Send) : Send :=
  match send.phase with
  | .waiting attempt wait deadline request =>
      match send.reply with
      | .full reply =>
          { send with
            phase := .finishing
              (verify codec reply send.secret (requestAuthenticatorFrom request.1)) }
      | .closed => { send with phase := .finishing (.error .cancelled) }
      | .pending =>
          if elapsed ∧ deadline ≤ clock then
            if attempt + 1 < max retry.maxAttempts 1 then
              { send with phase := .transmitting (attempt + 1) (retry.backoff wait) }
            else { send with phase := .finishing (.error .timeout) }
          else send
  | _ => send

def Done (send : Send) : Prop :=
  ∃ result, send.phase = .done result

/-- What a call has returned. -/
def result? (send : Send) : Option AcctResult :=
  match send.phase with
  | .done result => some result
  | _ => none

end Send

/-! ## The client -/

structure AcctClient where
  clock : Nat := 0
  peers : SocketAddr → PeerState := fun _ => {}
  sends : List Send := []
  /-- The reader runs until the socket fails. -/
  reading : Bool := true
  /-- The task whose sender the reader has taken from the table, with its datagram. -/
  inHand : Option (Nat × Bytes) := none

inductive Input where
  | tick (duration : Nat)
  | send (peer : SocketAddr) (secret : Bytes) (record : AcctRecord)
  | start (task : Nat)
  | transmit (task : Nat) (sent : Bool)
  | poll (task : Nat) (elapsed : Bool)
  | finish (task : Nat)
  | datagram (source : SocketAddr) (bytes : Bytes)
  | deliver
  | recvError
  deriving DecidableEq

/-- What a read leaves of a datagram. -/
def received (bytes : Bytes) : Bytes :=
  bytes.take 4096

/-- The datagram has a header. -/
def HasHeader (bytes : Bytes) : Prop :=
  20 ≤ (received bytes).length

instance (bytes : Bytes) : Decidable (HasHeader bytes) :=
  inferInstanceAs (Decidable (_ ≤ _))

def identifierOf (bytes : Bytes) : UInt8 :=
  (received bytes).getD 1 0

namespace AcctClient

/-- The task under an identifier of a server. -/
def entry (s : AcctClient) (peer : SocketAddr) (id : UInt8) : Option Nat :=
  (s.peers peer).inflight id

def setPeer (s : AcctClient) (peer : SocketAddr) (slot : PeerState) : AcctClient :=
  { s with peers := Function.update s.peers peer slot }

def update (s : AcctClient) (task : Nat) (change : Send → Send) : AcctClient :=
  { s with sends := s.sends.modify task change }

/-- Take an identifier, under the lock.  A refused call owns none. -/
def begin (s : AcctClient) (peer : SocketAddr) (secret : Bytes) (record : AcctRecord) :
    AcctClient :=
  match (s.peers peer).allocate with
  | (none, slot) =>
      let refused : Send :=
        { peer, secret, record, identifier := slot.nextId, reply := .closed,
          phase := .done (.error (.identifierExhausted peer)) }
      { s.setPeer peer slot with sends := s.sends ++ [refused] }
  | (some identifier, slot) =>
      { s.setPeer peer (slot.insert identifier s.sends.length) with
        sends := s.sends ++ [{ peer, secret, record, identifier }] }

/-- Remove an entry; the sender under it is dropped. -/
def reclaim (s : AcctClient) (peer : SocketAddr) (id : UInt8) : AcctClient :=
  match s.entry peer id with
  | none => s
  | some task =>
      (s.setPeer peer ((s.peers peer).remove id)).update task
        fun send => { send with reply := .closed }

/-- Reclaim the slot and return. -/
def finish (s : AcctClient) (task : Nat) : AcctClient :=
  match s.sends[task]? with
  | none => s
  | some send =>
      match send.phase with
      | .finishing result =>
          (s.reclaim send.peer send.identifier).update task
            fun send => { send with phase := .done result }
      | _ => s

/-- Take a datagram off the socket, and the sender it is for out of the table. -/
def receive (s : AcctClient) (source : SocketAddr) (bytes : Bytes) : AcctClient :=
  if s.reading ∧ s.inHand = none ∧ HasHeader bytes then
    match s.entry source (identifierOf bytes) with
    | none => s
    | some task =>
        { s.setPeer source ((s.peers source).remove (identifierOf bytes)) with
          inHand := some (task, received bytes) }
  else s

def deliver (s : AcctClient) : AcctClient :=
  match s.inHand with
  | none => s
  | some (task, datagram) =>
      { s.update task (fun send => { send with reply := .full datagram }) with inHand := none }

def step (codec : Codec) (retry : AcctRetry) (s : AcctClient) : Input → AcctClient
  | .tick duration => { s with clock := s.clock + duration }
  | .send peer secret record => s.begin peer secret record
  | .start task => s.update task (Send.start retry s.clock)
  | .transmit task sent => s.update task (Send.transmit codec s.clock sent)
  | .poll task elapsed => s.update task (Send.poll codec retry s.clock elapsed)
  | .finish task => s.finish task
  | .datagram source bytes => s.receive source bytes
  | .deliver => s.deliver
  | .recvError => { s with reading := false }

def initial : AcctClient := {}

/-- What the call of a task has returned. -/
def resultAt (s : AcctClient) (task : Nat) : Option AcctResult :=
  s.sends[task]?.bind Send.result?

end AcctClient

end SstpServer.Radius
