import SstpServer.Netlink.Acks

/-!
# The client of rtnetlink

The client sends one request at a time and takes the datagram that it receives next for the reply.
A request that changes something asks for an acknowledgement.  A request for the statistics of a
link is answered with the link itself: a message whose attributes are walked for the counters.

The walk keeps within the attributes that it is given.  These are cut out of the datagram by the
length in the header of the message, which is not compared with what has been received.
-/

namespace SstpServer.Netlink

open SstpServer.Wire SstpServer.Iteration

/-! ## Exchanges -/

/-- What becomes of a request, and the datagram that is received next. -/
structure NetlinkSocket where
  send : Bytes → Except IoError Unit
  recv : Except IoError Bytes

/-- Receive into a buffer; what does not fit is lost. -/
def NetlinkSocket.recvInto (sock : NetlinkSocket) (size : Nat) : Except IoError Bytes :=
  sock.recv.map (List.take size)

inductive NetlinkError where
  | send (op : String) (source : IoError)
  | recv (op : String) (source : IoError)
  | kernel (op : String) (errno : Int32)
  | unexpected (op : String) (got : UInt16)
  deriving DecidableEq, Repr

structure RtNetlink where
  sock : NetlinkSocket
  seq : UInt32

/-- The client after a sequence number has been taken; the counter wraps around. -/
def RtNetlink.nextSeq (client : RtNetlink) : UInt32 × RtNetlink :=
  (client.seq, { client with seq := client.seq + 1 })

/-- Send a request and consume its acknowledgement. -/
def RtNetlink.exchange (order : ByteOrder) (op : String) (buf : MessageBuf) (client : RtNetlink) :
    Option (Except NetlinkError Unit) :=
  match client.sock.send buf.bytes with
  | .error source => some (.error (.send op source))
  | .ok () =>
      match client.sock.recvInto 4096 with
      | .error source => some (.error (.recv op source))
      | .ok received => do
          let drained ← drainAcks order received {buf.seq}
          match drained.result with
          | .ok () => some (if drained.remaining = ∅ then .ok () else .error (.unexpected op 0))
          | .error .truncated => some (.error (.recv op (.other "truncated netlink ack")))
          | .error (.kernel errno) => some (.error (.kernel op errno))

/-- An exchange returns.  If it succeeds, the datagram holds no error and acknowledges the
request. -/
theorem RtNetlink.exchange_returns (order : ByteOrder) (op : String) (buf : MessageBuf)
    (client : RtNetlink) :
    ∃ result, client.exchange order op buf = some result ∧
      (result = .ok () → client.sock.send buf.bytes = .ok () ∧
        ∃ received acked, client.sock.recvInto 4096 = .ok received ∧
          Confirms order received acked ∧ buf.seq ∈ acked) := by
  unfold exchange
  match client.sock.send buf.bytes with
  | .error source => exact ⟨_, rfl, nofun⟩
  | .ok () =>
      match client.sock.recvInto 4096 with
      | .error source => exact ⟨_, rfl, nofun⟩
      | .ok received =>
          rcases drainAcks_explains order received {buf.seq} with
            ⟨⟨result, after⟩, ran, walked, stop, walks, stops, left⟩
          dsimp only at stops left ⊢
          rw [ran, Option.bind_eq_bind, Option.bind_some]
          match result with
          | .ok () =>
              refine ⟨_, rfl, fun ok => ⟨rfl, received, _, rfl, ⟨walked, stop, walks, stops, rfl⟩, ?_⟩⟩
              by_cases cleared : after = ∅
              · rw [left, Finset.sdiff_eq_empty_iff_subset, Finset.singleton_subset_iff] at cleared
                exact cleared
              · rw [if_neg cleared] at ok
                cases ok
          | .error .truncated => exact ⟨_, rfl, nofun⟩
          | .error (.kernel errno) => exact ⟨_, rfl, nofun⟩

/-! ## The counters of a link -/

def iflaStats64 : UInt16 := 23

def rtmNewlink : UInt16 := 16

def rtmGetlink : UInt16 := 18

def nlmFRequest : UInt16 := 0x01

def nlmFAck : UInt16 := 0x04

def enodev : Int32 := 19

structure LinkStats64 where
  rxPackets : UInt64
  txPackets : UInt64
  rxBytes : UInt64
  txBytes : UInt64
  deriving DecidableEq, Repr

def readU64 (order : ByteOrder) (payload : Bytes) (off : Nat) : Option UInt64 :=
  (range? payload off (off + 8)).map fun bytes => .ofNat (fromNeBytes order bytes)

/-- The counters in a payload, of which only the first 32 bytes are used; `some none` stands for one
that is too short. -/
def LinkStats64.fromPayload (order : ByteOrder) (payload : Bytes) :
    Option (Option LinkStats64) :=
  if payload.length < 32 then some none
  else do
    let rxPackets ← readU64 order payload 0
    let txPackets ← readU64 order payload 8
    let rxBytes ← readU64 order payload 16
    let txBytes ← readU64 order payload 24
    some (some ⟨rxPackets, txPackets, rxBytes, txBytes⟩)

/-- One attribute of the walk. -/
def findStats64Pass (order : ByteOrder) (attrs : Bytes) :
    Option (Pass Bytes (Option LinkStats64)) :=
  if 4 ≤ attrs.length then do
    let lenBytes ← range? attrs 0 2
    let typeBytes ← range? attrs 2 4
    let rtaLen := fromNeBytes order lenBytes
    let rtaType := UInt16.ofNat (fromNeBytes order typeBytes)
    if rtaLen < 4 ∨ attrs.length < rtaLen then
      some (.done none)
    else if rtaType = iflaStats64 then do
      let payload ← range? attrs 4 rtaLen
      let found ← LinkStats64.fromPayload order payload
      some (.done found)
    else if attrs.length ≤ nlmsgAlign rtaLen then
      some (.done none)
    else do
      let rest ← range? attrs (nlmsgAlign rtaLen) attrs.length
      some (.next rest)
  else
    some (.done none)

/-- Walk attributes for the counters.  Each attribute is four bytes long at least. -/
def findStats64 (order : ByteOrder) (attrs : Bytes) : Option (Option LinkStats64) :=
  run (findStats64Pass order) (attrs.length + 1) attrs

def statsOp : String := "RTM_GETLINK(IFLA_STATS64)"

/-- The family header of a link. -/
def ifinfomsg (order : ByteOrder) (index flags change : UInt32) : Bytes :=
  [0, 0] ++ toNeBytes order 2 0 ++ toNeBytes order 4 index.toNat ++ toNeBytes order 4 flags.toNat ++
    toNeBytes order 4 change.toNat

/-- The offset of the attributes in a message about a link. -/
def bodyOff : Nat := nlmsgHdrlen + 16

/-- What `link_stats64` makes of a message about a link. -/
def readNewlink (order : ByteOrder) (received : Bytes) (hdr : Nlmsghdr) :
    Option (Except NetlinkError LinkStats64) :=
  if received.length < bodyOff then
    some (.error (.unexpected statsOp hdr.nlmsgType))
  else do
    let attrs ← range? received bodyOff hdr.nlmsgLen
    let found ← findStats64 order attrs
    match found with
    | some stats => some (.ok stats)
    | none => some (.error (.unexpected statsOp iflaStats64))

/-- What it makes of an error. -/
def readError (order : ByteOrder) (received : Bytes) (hdr : Nlmsghdr) :
    Option (Except NetlinkError LinkStats64) :=
  if received.length < nlmsgHdrlen + 4 then
    some (.error (.unexpected statsOp hdr.nlmsgType))
  else do
    let errbuf ← range? received nlmsgHdrlen (nlmsgHdrlen + 4)
    let err := i32OfBytes order errbuf
    -- A bare acknowledgement comes without the link.
    some (.error (.kernel statsOp (if err = 0 then enodev else -err)))

def readLinkStats (order : ByteOrder) (received : Bytes) :
    Option (Except NetlinkError LinkStats64) :=
  if received.length < nlmsgHdrlen then some (.error (.unexpected statsOp 0))
  else do
    let hdr ← readHdr order received 0
    if hdr.nlmsgType = nlmsgError then readError order received hdr
    else if hdr.nlmsgType = rtmNewlink then readNewlink order received hdr
    else some (.error (.unexpected statsOp hdr.nlmsgType))

-- An index that is not an `i32` makes the process panic.
def getlinkRequest (order : ByteOrder) (seq ifindex : UInt32) : Option MessageBuf :=
  if ifindex.toNat < 2 ^ 31 then
    message order rtmGetlink (nlmFRequest ||| nlmFAck) seq (ifinfomsg order ifindex 0 0) []
  else none

def RtNetlink.linkStats64 (order : ByteOrder) (ifindex : UInt32) (client : RtNetlink) :
    Option (Except NetlinkError LinkStats64 × RtNetlink) := do
  let (seq, after) := client.nextSeq
  let buf ← getlinkRequest order seq ifindex
  match after.sock.send buf.bytes with
  | .error source => some (.error (.send "RTM_GETLINK" source), after)
  | .ok () =>
      match after.sock.recvInto 8192 with
      | .error source => some (.error (.recv "RTM_GETLINK" source), after)
      | .ok received => do
          let result ← readLinkStats order received
          some (result, after)

/-! ## The walk of the attributes -/

/-- The counters in a payload that is long enough. -/
def LinkStats64.ofBytes (order : ByteOrder) (payload : Bytes) : LinkStats64 where
  rxPackets := .ofNat (fromNeBytes order (slice payload 0 8))
  txPackets := .ofNat (fromNeBytes order (slice payload 8 16))
  rxBytes := .ofNat (fromNeBytes order (slice payload 16 24))
  txBytes := .ofNat (fromNeBytes order (slice payload 24 32))

/-- An attribute at an offset, with its length and its type. -/
structure RtaAt (order : ByteOrder) (attrs : Bytes) (offset len : Nat) (rtaType : UInt16) :
    Prop where
  length : fromNeBytes order (slice attrs offset (offset + 2)) = len
  type : UInt16.ofNat (fromNeBytes order (slice attrs (offset + 2) (offset + 4))) = rtaType
  long : 4 ≤ len
  inside : offset + len ≤ attrs.length

/-- The offsets that the lengths of the attributes lead to. -/
inductive RtaStart (order : ByteOrder) (attrs : Bytes) : Nat → Prop
  | first : RtaStart order attrs 0
  | next {offset len : Nat} {rtaType : UInt16} :
      RtaStart order attrs offset → RtaAt order attrs offset len rtaType →
        RtaStart order attrs (offset + nlmsgAlign len)

/-- The attribute at an offset holds these counters. -/
def CountsAt (order : ByteOrder) (attrs : Bytes) (offset len : Nat) (stats : LinkStats64) : Prop :=
  RtaAt order attrs offset len iflaStats64 ∧ 4 + 32 ≤ len ∧
    LinkStats64.ofBytes order (slice attrs (offset + 4) (offset + len)) = stats

variable {order : ByteOrder}

theorem readU64_of_le {payload : Bytes} {off : Nat} (fits : off + 8 ≤ payload.length) :
    readU64 order payload off =
      some (.ofNat (fromNeBytes order (slice payload off (off + 8)))) := by
  rw [readU64, range?_of_le (Nat.le_add_right _ _) fits, Option.map_some]

theorem LinkStats64.fromPayload_of_le {payload : Bytes} (long : 32 ≤ payload.length) :
    fromPayload order payload = some (some (ofBytes order payload)) := by
  rw [fromPayload, if_neg (Nat.not_lt.mpr long), readU64_of_le (by omega), readU64_of_le (by omega),
    readU64_of_le (by omega), readU64_of_le (by omega)]
  rfl

theorem RtaAt.of_drop {attrs : Bytes} {skipped offset len : Nat} {rtaType : UInt16}
    (within : skipped ≤ attrs.length) (rta : RtaAt order (attrs.drop skipped) offset len rtaType) :
    RtaAt order attrs (skipped + offset) len rtaType := by
  have inside := rta.inside
  rw [List.length_drop] at inside
  refine ⟨?_, ?_, rta.long, by omega⟩
  · rw [Nat.add_assoc, ← slice_drop]
    exact rta.length
  · rw [Nat.add_assoc, Nat.add_assoc, ← slice_drop]
    exact rta.type

theorem CountsAt.of_drop {attrs : Bytes} {skipped offset len : Nat} {stats : LinkStats64}
    (within : skipped ≤ attrs.length) (counts : CountsAt order (attrs.drop skipped) offset len stats) :
    CountsAt order attrs (skipped + offset) len stats := by
  refine ⟨counts.1.of_drop within, counts.2.1, ?_⟩
  rw [Nat.add_assoc, Nat.add_assoc, ← slice_drop]
  exact counts.2.2

/-- What the walk does at an attribute: it ends there, or goes on behind it. -/
theorem findStats64Pass_cases (order : ByteOrder) (attrs : Bytes) :
    (∃ found, findStats64Pass order attrs = some (.done found) ∧
        ∀ stats, found = some stats → ∃ len, CountsAt order attrs 0 len stats) ∨
      ∃ len rtaType, RtaAt order attrs 0 len rtaType ∧ nlmsgAlign len < attrs.length ∧
        findStats64Pass order attrs = some (.next (attrs.drop (nlmsgAlign len))) := by
  unfold findStats64Pass
  split_ifs with header
  · rw [range?_of_le (by omega) (by omega), range?_of_le (by omega) header]
    simp only [Option.bind_eq_bind, Option.bind_some]
    generalize length : fromNeBytes order (slice attrs 0 2) = len
    generalize type : UInt16.ofNat (fromNeBytes order (slice attrs 2 4)) = rtaType
    split_ifs with bad isStats last
    · exact .inl ⟨none, rfl, nofun⟩
    · obtain ⟨long, inside⟩ := not_or.mp bad
      have rta : RtaAt order attrs 0 len iflaStats64 :=
        ⟨length, type.trans isStats, by omega, by omega⟩
      rw [range?_of_le (by omega) (by omega), Option.bind_some]
      by_cases short : (slice attrs 4 len).length < 32
      · rw [LinkStats64.fromPayload, if_pos short]
        exact .inl ⟨none, rfl, nofun⟩
      · rw [LinkStats64.fromPayload_of_le (Nat.not_lt.mp short)]
        rw [length_slice] at short
        refine .inl ⟨_, rfl, fun stats found => ⟨len, rta, by omega, ?_⟩⟩
        rw [Nat.zero_add, Nat.zero_add]
        exact Option.some.inj found
    · exact .inl ⟨none, rfl, nofun⟩
    · obtain ⟨long, inside⟩ := not_or.mp bad
      refine .inr ⟨len, rtaType, ⟨length, type, by omega, by omega⟩, Nat.not_le.mp last, ?_⟩
      rw [range?_length_of_le (Nat.le_of_not_le last), Option.bind_some]
  · exact .inl ⟨none, rfl, nofun⟩

/-- The walk comes to an end without an access outside the attributes.  The counters that it finds
are those of an attribute that the lengths of the attributes lead to. -/
theorem findStats64_returns (order : ByteOrder) (area : Bytes) :
    ∃ found, findStats64 order area = some found ∧
      ∀ stats, found = some stats →
        ∃ offset len, RtaStart order area offset ∧ CountsAt order area offset len stats := by
  let invariant (attrs : Bytes) : Prop :=
    ∃ offset, RtaStart order area offset ∧ offset ≤ area.length ∧ attrs = area.drop offset
  have initially : invariant area := ⟨0, .first, Nat.zero_le _, rfl⟩
  have pass : ∀ attrs, invariant attrs →
      (∃ found, findStats64Pass order attrs = some (.done found) ∧
          ∀ stats, found = some stats →
            ∃ offset len, RtaStart order area offset ∧ CountsAt order area offset len stats) ∨
        ∃ after, findStats64Pass order attrs = some (.next after) ∧ invariant after ∧
          after.length < attrs.length := by
    rintro attrs ⟨offset, start, within, rfl⟩
    rcases findStats64Pass_cases order (area.drop offset) with
      ⟨found, done, counts⟩ | ⟨len, rtaType, rta, shorter, next⟩
    · refine .inl ⟨found, done, fun stats isFound => ?_⟩
      rcases counts stats isFound with ⟨len, counted⟩
      exact ⟨offset, len, start, counted.of_drop within⟩
    · have long := rta.long
      have aligned := le_nlmsgAlign len
      rw [List.length_drop] at shorter
      refine .inr ⟨_, next, ⟨offset + nlmsgAlign len, .next start (rta.of_drop within),
        by omega, List.drop_drop⟩, ?_⟩
      rw [List.length_drop, List.length_drop]
      omega
  exact run_of_variant List.length invariant _ pass initially (Nat.lt_succ_self _)

/-! ## The reply -/

/-- The counters are those of an attribute of the message that is received, which lies within the
length of the message and within what is received. -/
def Counted (order : ByteOrder) (received : Bytes) (stats : LinkStats64) : Prop :=
  ∃ hdr offset len, readHdr order received 0 = some hdr ∧ hdr.nlmsgType = rtmNewlink ∧
    bodyOff + (offset + len) ≤ hdr.nlmsgLen ∧ hdr.nlmsgLen ≤ received.length ∧
      RtaStart order (slice received bodyOff hdr.nlmsgLen) offset ∧
        CountsAt order (slice received bodyOff hdr.nlmsgLen) offset len stats

/-- The length of a message about a link ends it before its attributes or behind what is
received. -/
def Overruns (received : Bytes) (hdr : Nlmsghdr) : Prop :=
  hdr.nlmsgType = rtmNewlink ∧ bodyOff ≤ received.length ∧
    (hdr.nlmsgLen < bodyOff ∨ received.length < hdr.nlmsgLen)

theorem readNewlink_eq_none {received : Bytes} {hdr : Nlmsghdr} (overruns : Overruns received hdr) :
    readNewlink order received hdr = none := by
  rcases overruns with ⟨-, long, outside⟩
  rw [readNewlink, if_neg (Nat.not_lt.mpr long), range?, if_neg (by omega)]
  rfl

theorem readNewlink_returns {received : Bytes} {hdr : Nlmsghdr}
    (read : readHdr order received 0 = some hdr) (isLink : hdr.nlmsgType = rtmNewlink)
    (fits : ¬Overruns received hdr) :
    ∃ result, readNewlink order received hdr = some result ∧
      ∀ stats, result = .ok stats → Counted order received stats := by
  by_cases short : received.length < bodyOff
  · exact ⟨_, if_pos short, nofun⟩
  have ordered : bodyOff ≤ hdr.nlmsgLen := by
    by_contra outside
    exact fits ⟨isLink, Nat.not_lt.mp short, .inl (Nat.not_le.mp outside)⟩
  have bound : hdr.nlmsgLen ≤ received.length := by
    by_contra outside
    exact fits ⟨isLink, Nat.not_lt.mp short, .inr (Nat.not_le.mp outside)⟩
  rcases findStats64_returns order (slice received bodyOff hdr.nlmsgLen) with
    ⟨found, walked, counts⟩
  rw [readNewlink, if_neg short, range?_of_le ordered bound, Option.bind_eq_bind, Option.bind_some,
    walked, Option.bind_eq_bind, Option.bind_some]
  cases found with
  | none => exact ⟨_, rfl, nofun⟩
  | some stats =>
      refine ⟨_, rfl, ?_⟩
      rintro _ ⟨⟩
      rcases counts stats rfl with ⟨offset, len, start, counted⟩
      have within := counted.1.inside
      rw [length_slice_of_le bound] at within
      exact ⟨hdr, offset, len, read, isLink, by omega, bound, start, counted⟩

theorem readError_returns (order : ByteOrder) (received : Bytes) (hdr : Nlmsghdr) :
    ∃ error, readError order received hdr = some (.error error) := by
  unfold readError
  split_ifs with short
  · exact ⟨_, rfl⟩
  · rw [range?_of_le (Nat.le_add_right _ _) (Nat.not_lt.mp short)]
    exact ⟨_, rfl⟩

/-- Reading a reply faults if its message overruns.  Otherwise it returns, and only counters of the
message. -/
theorem readLinkStats_cases (order : ByteOrder) (received : Bytes) :
    (∃ hdr, readHdr order received 0 = some hdr ∧ Overruns received hdr ∧
        readLinkStats order received = none) ∨
      (∀ hdr, readHdr order received 0 = some hdr → ¬Overruns received hdr) ∧
        ∃ result, readLinkStats order received = some result ∧
          ∀ stats, result = .ok stats → Counted order received stats := by
  by_cases short : received.length < nlmsgHdrlen
  · refine .inr ⟨?_, _, if_pos short, nofun⟩
    rintro hdr - ⟨-, long, -⟩
    unfold bodyOff at long
    omega
  have fits : 0 + nlmsgHdrlen ≤ received.length := by omega
  have read := readHdr_of_le order fits
  generalize Nlmsghdr.ofBytes order (slice received 0 (0 + nlmsgHdrlen)) = hdr at read
  rw [readLinkStats, if_neg short, read, Option.bind_eq_bind, Option.bind_some]
  by_cases overruns : Overruns received hdr
  · refine .inl ⟨hdr, rfl, overruns, ?_⟩
    have noError : ¬hdr.nlmsgType = nlmsgError := by
      rw [overruns.1]
      decide
    rw [if_neg noError, if_pos overruns.1]
    exact readNewlink_eq_none overruns
  · refine .inr ⟨?_, ?_⟩
    · rintro _ ⟨⟩
      exact overruns
    · split_ifs with isError isLink
      · rcases readError_returns order received hdr with ⟨error, returns⟩
        exact ⟨_, returns, nofun⟩
      · exact readNewlink_returns read isLink overruns
      · exact ⟨_, rfl, nofun⟩

-- The counters stand behind the MTU of the link.
example :
    readLinkStats .little
        (nlmsghdr .little 76 rtmNewlink 0 1 0 ++ ifinfomsg .little 3 0 0 ++
          (nlattr .little 8 4 ++ toNeBytes .little 4 1400) ++
            (nlattr .little 36 iflaStats64 ++ toNeBytes .little 8 1 ++ toNeBytes .little 8 2 ++
              toNeBytes .little 8 1500 ++ toNeBytes .little 8 3000)) =
      some (.ok ⟨1, 2, 1500, 3000⟩) := by
  decide

theorem getlinkRequest_isSome {ifindex : UInt32} (index : ifindex.toNat < 2 ^ 31)
    (order : ByteOrder) (seq : UInt32) : ∃ buf, getlinkRequest order seq ifindex = some buf := by
  have built := message_eq order rtmGetlink (nlmFRequest ||| nlmFAck) seq
    (ifinfomsg order ifindex 0 0) .nil trivial
  have small : nlmsgHdrlen + nlmsgAlign (ifinfomsg order ifindex 0 0).length + Attrs.nil.size <
      2 ^ 32 := by
    simp [ifinfomsg, nlmsgHdrlen, nlmsgAlign, Attrs.size]
  rw [getlinkRequest, if_pos index, built, if_pos small]
  exact ⟨_, rfl⟩

namespace RtNetlink

variable {client : RtNetlink} {ifindex : UInt32} {received : Bytes}

/-- The request has been sent, and this has been received then. -/
def Replied (order : ByteOrder) (ifindex : UInt32) (client : RtNetlink) (received : Bytes) : Prop :=
  ∃ buf, getlinkRequest order client.seq ifindex = some buf ∧
    client.sock.send buf.bytes = .ok () ∧ client.sock.recvInto 8192 = .ok received

theorem Replied.unique {other : Bytes} (replied : client.Replied order ifindex received)
    (again : client.Replied order ifindex other) : received = other := by
  rcases replied with ⟨-, -, -, isReceived⟩
  rcases again with ⟨-, -, -, isOther⟩
  exact Except.ok.inj (isReceived.symm.trans isOther)

theorem linkStats64_of_large (large : ¬ifindex.toNat < 2 ^ 31) :
    client.linkStats64 order ifindex = none := by
  have refused : getlinkRequest order client.seq ifindex = none := if_neg large
  rw [linkStats64, nextSeq]
  dsimp only
  rw [refused]
  rfl

theorem linkStats64_of_replied (replied : client.Replied order ifindex received) :
    client.linkStats64 order ifindex =
      (readLinkStats order received).map fun result => (result, client.nextSeq.2) := by
  rcases replied with ⟨buf, built, sent, isReceived⟩
  rw [linkStats64, nextSeq]
  dsimp only
  rw [built, Option.bind_eq_bind, Option.bind_some, sent]
  dsimp only
  rw [isReceived]
  exact Option.map_eq_bind.symm

theorem linkStats64_of_silent (index : ifindex.toNat < 2 ^ 31)
    (silent : ∀ received, ¬client.Replied order ifindex received) :
    ∃ error, client.linkStats64 order ifindex = some (.error error, client.nextSeq.2) := by
  rcases getlinkRequest_isSome index order client.seq with ⟨buf, built⟩
  rw [linkStats64, nextSeq]
  dsimp only
  rw [built, Option.bind_eq_bind, Option.bind_some]
  cases sent : client.sock.send buf.bytes with
  | error source => exact ⟨_, rfl⟩
  | ok done =>
      cases isReceived : client.sock.recvInto 8192 with
      | error source => exact ⟨_, rfl⟩
      | ok received => exact absurd ⟨buf, built, sent, isReceived⟩ (silent received)

/-- The client faults exactly if the index is not an `i32`, or the reply to its request is a message
about a link that overruns.  Counters that it returns are those of an attribute of the reply. -/
theorem linkStats64_reply (order : ByteOrder) (client : RtNetlink) (ifindex : UInt32) :
    (client.linkStats64 order ifindex = none ↔
        2 ^ 31 ≤ ifindex.toNat ∨ ∃ received hdr, client.Replied order ifindex received ∧
          readHdr order received 0 = some hdr ∧ Overruns received hdr) ∧
      ∀ stats after, client.linkStats64 order ifindex = some (.ok stats, after) →
        ∃ received, client.Replied order ifindex received ∧ Counted order received stats := by
  by_cases index : ifindex.toNat < 2 ^ 31
  · rw [or_iff_right (Nat.not_le.mpr index)]
    by_cases replies : ∃ received, client.Replied order ifindex received
    · rcases replies with ⟨received, replied⟩
      rw [linkStats64_of_replied replied]
      rcases readLinkStats_cases order received with
        ⟨hdr, read, overruns, fault⟩ | ⟨fits, result, reads, counted⟩
      · rw [fault]
        exact ⟨⟨fun _ => ⟨received, hdr, replied, read, overruns⟩, fun _ => rfl⟩, nofun⟩
      · rw [reads]
        refine ⟨⟨nofun, ?_⟩, ?_⟩
        · rintro ⟨other, hdr, repliedOther, read, overruns⟩
          cases replied.unique repliedOther
          exact absurd overruns (fits hdr read)
        · rintro stats after ⟨⟩
          exact ⟨received, replied, counted stats rfl⟩
    · have silent := not_exists.mp replies
      rcases linkStats64_of_silent index silent with ⟨error, failed⟩
      rw [failed]
      refine ⟨⟨nofun, ?_⟩, nofun⟩
      rintro ⟨received, hdr, replied, -⟩
      exact absurd replied (silent received)
  · rw [linkStats64_of_large index]
    exact ⟨⟨fun _ => .inl (Nat.not_lt.mp index), fun _ => rfl⟩, nofun⟩

/-- A client whose request is answered with a link without attributes, in a message that gives its
length as `len`. -/
def answered (len : Nat) : RtNetlink where
  sock.send _ := .ok ()
  sock.recv := .ok (nlmsghdr .little len rtmNewlink 0 1 0 ++ ifinfomsg .little 3 0 0)
  seq := 1

/-- The message gives the length of its header alone, or four bytes more than are received. -/
theorem linkStats64_overruns :
    (answered 16).linkStats64 .little 3 = none ∧ (answered 36).linkStats64 .little 3 = none := by
  have replied (len : Nat) : (answered len).Replied .little 3
      (nlmsghdr .little len rtmNewlink 0 1 0 ++ ifinfomsg .little 3 0 0) := by
    have index : (3 : UInt32).toNat < 2 ^ 31 := by decide
    rcases getlinkRequest_isSome index .little 1 with ⟨buf, built⟩
    refine ⟨buf, built, rfl, ?_⟩
    refine congrArg Except.ok (List.take_of_length_le ?_)
    simp [nlmsgHdrlen, ifinfomsg]
  constructor
  · rw [linkStats64_of_replied (replied 16)]
    rfl
  · rw [linkStats64_of_replied (replied 36)]
    rfl

end RtNetlink

end SstpServer.Netlink
