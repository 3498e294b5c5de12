import Mathlib.Data.Finset.Basic
import Mathlib.Data.Finset.Lattice.Lemmas
import SstpServer.Iteration.Loop
import SstpServer.Netlink.Message

/-!
# Acknowledgements of the kernel

The kernel answers a request with a datagram of messages.  `drain_acks` walks them by their length
fields and strikes the sequence numbers off that an `NLMSG_ERROR` with code zero names.  It stops at
the first message that is cut short, and at the first code that is not zero.

The batches of nf_tables ask for several acknowledgements.  Their loop receives datagrams until
none is outstanding.
-/

namespace SstpServer.Netlink

open SstpServer.Wire SstpServer.Iteration

/-! ## Reading a message -/

def nlmsgError : UInt16 := 2

/-- The fields of a message header that are looked at. -/
structure Nlmsghdr where
  nlmsgLen : Nat
  nlmsgType : UInt16
  nlmsgSeq : UInt32
  deriving DecidableEq, Repr

/-- The header in sixteen bytes. -/
def Nlmsghdr.ofBytes (order : ByteOrder) (bytes : Bytes) : Nlmsghdr where
  nlmsgLen := fromNeBytes order (slice bytes 0 4)
  nlmsgType := .ofNat (fromNeBytes order (slice bytes 4 6))
  nlmsgSeq := .ofNat (fromNeBytes order (slice bytes 8 12))

/-- Read the header at an offset; its sixteen bytes have to be there. -/
def readHdr (order : ByteOrder) (buf : Bytes) (offset : Nat) : Option Nlmsghdr :=
  (range? buf offset (offset + nlmsgHdrlen)).map (Nlmsghdr.ofBytes order)

/-- The signed number in four bytes. -/
def i32OfBytes (order : ByteOrder) (bytes : Bytes) : Int32 :=
  (UInt32.ofNat (fromNeBytes order bytes)).toInt32

/-! ## The walk -/

inductive DrainError where
  | truncated
  | kernel (errno : Int32)
  deriving DecidableEq, Repr

/-- The locals of the walk. -/
structure DrainState where
  offset : Nat
  remaining : Finset UInt32

/-- What the walk returns, and what it leaves outstanding. -/
structure Drained where
  result : Except DrainError Unit
  remaining : Finset UInt32

-- The negation of a code wraps around, as it does without overflow checks.
def drainPass (order : ByteOrder) (buf : Bytes) (s : DrainState) :
    Option (Pass DrainState Drained) :=
  if s.offset + nlmsgHdrlen ≤ buf.length then do
    let hdr ← readHdr order buf s.offset
    if hdr.nlmsgLen < nlmsgHdrlen ∨ buf.length < s.offset + hdr.nlmsgLen then
      some (.done ⟨.error .truncated, s.remaining⟩)
    else if hdr.nlmsgType = nlmsgError then
      if hdr.nlmsgLen < nlmsgHdrlen + 4 then
        some (.done ⟨.error .truncated, s.remaining⟩)
      else do
        let errBytes ← range? buf (s.offset + nlmsgHdrlen) (s.offset + nlmsgHdrlen + 4)
        let err := i32OfBytes order errBytes
        if err ≠ 0 then
          some (.done ⟨.error (.kernel (-err)), s.remaining⟩)
        else
          some (.next ⟨s.offset + nlmsgAlign hdr.nlmsgLen, s.remaining.erase hdr.nlmsgSeq⟩)
    else
      some (.next ⟨s.offset + nlmsgAlign hdr.nlmsgLen, s.remaining⟩)
  else
    some (.done ⟨.ok (), s.remaining⟩)

/-- Strike off what a datagram acknowledges.  Every pass moves on by a header at least, so the
length of the datagram bounds the passes. -/
def drainAcks (order : ByteOrder) (buf : Bytes) (remaining : Finset UInt32) : Option Drained :=
  run (drainPass order buf) (buf.length + 1) ⟨0, remaining⟩

/-! ## The messages of a datagram -/

section Messages

variable (order : ByteOrder) (buf : Bytes)

/-- A well-formed message at an offset. -/
structure MessageAt (offset : Nat) (hdr : Nlmsghdr) : Prop where
  header : readHdr order buf offset = some hdr
  long : nlmsgHdrlen ≤ hdr.nlmsgLen
  inside : offset + hdr.nlmsgLen ≤ buf.length
  coded : hdr.nlmsgType = nlmsgError → nlmsgHdrlen + 4 ≤ hdr.nlmsgLen

/-- The code of an `NLMSG_ERROR` at an offset. -/
def codeAt (offset : Nat) : Int32 :=
  i32OfBytes order (slice buf (offset + nlmsgHdrlen) (offset + nlmsgHdrlen + 4))

/-- The message is an error of the kernel. -/
def Refuses (offset : Nat) (hdr : Nlmsghdr) : Prop :=
  hdr.nlmsgType = nlmsgError ∧ codeAt order buf offset ≠ 0

/-- The message acknowledges its sequence number. -/
def Acknowledges (offset : Nat) (hdr : Nlmsghdr) : Prop :=
  hdr.nlmsgType = nlmsgError ∧ codeAt order buf offset = 0

instance (offset : Nat) (hdr : Nlmsghdr) : Decidable (Acknowledges order buf offset hdr) :=
  inferInstanceAs (Decidable (_ ∧ _))

/-- The first messages of a datagram with their offsets, all well formed and none an error, and the
offset behind them. -/
inductive Walked : List (Nat × Nlmsghdr) → Nat → Prop
  | start : Walked [] 0
  | message {walked : List (Nat × Nlmsghdr)} {offset : Nat} {hdr : Nlmsghdr} :
      Walked walked offset → MessageAt order buf offset hdr → ¬Refuses order buf offset hdr →
        Walked (walked ++ [(offset, hdr)]) (offset + nlmsgAlign hdr.nlmsgLen)

/-- Why a walk ends at an offset: no header fits any more, there is no well-formed message, or there
is an error. -/
inductive Stops (offset : Nat) : Except DrainError Unit → Prop
  | finished : buf.length < offset + nlmsgHdrlen → Stops offset (.ok ())
  | truncated : offset + nlmsgHdrlen ≤ buf.length → (∀ hdr, ¬MessageAt order buf offset hdr) →
      Stops offset (.error .truncated)
  | kernel {hdr : Nlmsghdr} : MessageAt order buf offset hdr → Refuses order buf offset hdr →
      Stops offset (.error (.kernel (-codeAt order buf offset)))

/-- The sequence numbers that messages acknowledge. -/
def acknowledged (walked : List (Nat × Nlmsghdr)) : Finset UInt32 :=
  ((walked.filter fun message => Acknowledges order buf message.1 message.2).map
    fun message => message.2.nlmsgSeq).toFinset

end Messages

variable {order : ByteOrder} {buf : Bytes}

theorem acknowledged_append (walked : List (Nat × Nlmsghdr)) (offset : Nat) (hdr : Nlmsghdr) :
    acknowledged order buf (walked ++ [(offset, hdr)]) =
      acknowledged order buf walked ∪
        if Acknowledges order buf offset hdr then {hdr.nlmsgSeq} else ∅ := by
  unfold acknowledged
  rw [List.filter_append, List.map_append, List.toFinset_append]
  by_cases acks : Acknowledges order buf offset hdr
  · simp [acks]
  · simp [acks]

theorem le_nlmsgAlign (len : Nat) : len ≤ nlmsgAlign len := by
  unfold nlmsgAlign
  omega

theorem readHdr_of_le (order : ByteOrder) {offset : Nat} (fits : offset + nlmsgHdrlen ≤ buf.length) :
    readHdr order buf offset =
      some (.ofBytes order (slice buf offset (offset + nlmsgHdrlen))) := by
  rw [readHdr, range?_of_le (Nat.le_add_right _ _) fits, Option.map_some]

/-- What a pass does: it ends the walk for a reason, or strikes a message off. -/
theorem drainPass_cases (order : ByteOrder) (buf : Bytes) (s : DrainState) :
    (∃ result, drainPass order buf s = some (.done ⟨result, s.remaining⟩) ∧
        Stops order buf s.offset result) ∨
      ∃ hdr, MessageAt order buf s.offset hdr ∧ ¬Refuses order buf s.offset hdr ∧
        drainPass order buf s = some (.next ⟨s.offset + nlmsgAlign hdr.nlmsgLen,
          s.remaining \ if Acknowledges order buf s.offset hdr then {hdr.nlmsgSeq} else ∅⟩) := by
  unfold drainPass
  split_ifs with fits
  · have read := readHdr_of_le order fits
    generalize Nlmsghdr.ofBytes order (slice buf s.offset (s.offset + nlmsgHdrlen)) = hdr at read
    rw [read, Option.bind_eq_bind, Option.bind_some]
    split_ifs with short isError uncoded
    · refine .inl ⟨_, rfl, .truncated fits fun other message => ?_⟩
      cases Option.some.inj (read.symm.trans message.header)
      rcases short with small | large
      · exact absurd message.long (Nat.not_le.mpr small)
      · exact absurd message.inside (Nat.not_le.mpr large)
    · refine .inl ⟨_, rfl, .truncated fits fun other message => ?_⟩
      cases Option.some.inj (read.symm.trans message.header)
      exact absurd (message.coded isError) (Nat.not_le.mpr uncoded)
    · obtain ⟨small, large⟩ := not_or.mp short
      have message : MessageAt order buf s.offset hdr :=
        ⟨read, Nat.le_of_not_lt small, Nat.le_of_not_lt large, fun _ => Nat.le_of_not_lt uncoded⟩
      have code : range? buf (s.offset + nlmsgHdrlen) (s.offset + nlmsgHdrlen + 4) =
          some (slice buf (s.offset + nlmsgHdrlen) (s.offset + nlmsgHdrlen + 4)) := by
        refine range?_of_le (Nat.le_add_right _ _) ?_
        have coded := message.coded isError
        have inside := message.inside
        omega
      rw [code]
      change (∃ result, (if codeAt order buf s.offset ≠ 0 then _ else _) = _ ∧ _) ∨
        ∃ hdr, _ ∧ _ ∧ (if codeAt order buf s.offset ≠ 0 then _ else _) = _
      by_cases zero : codeAt order buf s.offset = 0
      · refine .inr ⟨hdr, message, fun refuses => refuses.2 zero, ?_⟩
        rw [if_neg (not_not.mpr zero), if_pos ⟨isError, zero⟩, Finset.sdiff_singleton_eq_erase]
      · refine .inl ⟨_, if_pos zero, .kernel message ⟨isError, zero⟩⟩
    · obtain ⟨small, large⟩ := not_or.mp short
      have message : MessageAt order buf s.offset hdr :=
        ⟨read, Nat.le_of_not_lt small, Nat.le_of_not_lt large, fun coded => (isError coded).elim⟩
      refine .inr ⟨hdr, message, fun refuses => isError refuses.1, ?_⟩
      rw [if_neg fun acks => isError acks.1, Finset.sdiff_empty]
  · exact .inl ⟨_, rfl, .finished (Nat.lt_of_not_le fits)⟩

/-- What a walk returns and leaves, by the messages that it has walked. -/
def Explains (order : ByteOrder) (buf : Bytes) (remaining : Finset UInt32) (drained : Drained) :
    Prop :=
  ∃ walked stop, Walked order buf walked stop ∧ Stops order buf stop drained.result ∧
    drained.remaining = remaining \ acknowledged order buf walked

theorem drainAcks_explains (order : ByteOrder) (buf : Bytes) (remaining : Finset UInt32) :
    ∃ drained, drainAcks order buf remaining = some drained ∧
      Explains order buf remaining drained := by
  let invariant (s : DrainState) : Prop :=
    ∃ walked, Walked order buf walked s.offset ∧
      s.remaining = remaining \ acknowledged order buf walked
  have initially : invariant ⟨0, remaining⟩ := ⟨[], .start, Finset.sdiff_empty.symm⟩
  have pass : ∀ s, invariant s →
      (∃ drained, drainPass order buf s = some (.done drained) ∧
          Explains order buf remaining drained) ∨
        ∃ after, drainPass order buf s = some (.next after) ∧ invariant after ∧
          buf.length - after.offset < buf.length - s.offset := by
    rintro s ⟨walked, walks, left⟩
    rcases drainPass_cases order buf s with ⟨result, done, stops⟩ | ⟨hdr, message, accepted, next⟩
    · exact .inl ⟨_, done, walked, s.offset, walks, stops, left⟩
    · refine .inr ⟨_, next, ⟨walked ++ [(s.offset, hdr)], .message walks message accepted, ?_⟩, ?_⟩
      · rw [acknowledged_append, left, sdiff_sdiff_left]
        rfl
      · have moves := message.long
        have inside := message.inside
        have aligned := le_nlmsgAlign hdr.nlmsgLen
        unfold nlmsgHdrlen at moves
        dsimp only
        omega
  exact run_of_variant _ invariant (Explains order buf remaining) pass initially
    (Nat.lt_succ_self _)

/-- The walk comes to an end without an access outside the datagram.  It has walked well-formed
messages without errors up to the offset where it stops, for the reason that it returns, and has
struck off exactly what these acknowledge. -/
theorem drainAcks_walks (order : ByteOrder) (buf : Bytes) (remaining : Finset UInt32) :
    ∃ walked stop result, Walked order buf walked stop ∧ Stops order buf stop result ∧
      drainAcks order buf remaining =
        some ⟨result, remaining \ acknowledged order buf walked⟩ := by
  rcases drainAcks_explains order buf remaining with
    ⟨drained, ran, walked, stop, walks, stops, left⟩
  refine ⟨walked, stop, drained.result, walks, stops, ?_⟩
  rw [← left]
  exact ran

/-! ## The loop of a batch -/

/-- An error of the socket, or one that the process makes up. -/
inductive IoError where
  | os (errno : Int32)
  | other (message : String)
  deriving DecidableEq, Repr

/-- How the exchange of a batch stands.  With acknowledgements outstanding and no datagram to
receive, it waits. -/
inductive BatchOutcome where
  | waits (remaining : Finset UInt32)
  | ok
  | netlink (op : String) (source : IoError)
  | kernel (op : String) (errno : Int32)
  deriving DecidableEq

/-- The size of the buffer that replies are received into; what does not fit is lost. -/
def replyLen : Nat := 8192

/-- `NfNetlink::exchange_batch` after the batch has been sent, on what the socket returns from one
call to the next. -/
def receiveAcks (order : ByteOrder) (op : String) (remaining : Finset UInt32) :
    List (Except IoError Bytes) → Option BatchOutcome
  | [] => some (if remaining = ∅ then .ok else .waits remaining)
  | reply :: later =>
      if remaining = ∅ then some .ok
      else
        match reply with
        | .error source => some (.netlink op source)
        | .ok datagram => do
            let drained ← drainAcks order (datagram.take replyLen) remaining
            match drained.result with
            | .ok () => receiveAcks order op drained.remaining later
            | .error .truncated => some (.netlink op (.other "truncated netlink ack"))
            | .error (.kernel errno) => some (.kernel op errno)

def exchangeBatch (order : ByteOrder) (op : String) (expectedAcks : List UInt32)
    (sent : Except IoError Unit) (replies : List (Except IoError Bytes)) : Option BatchOutcome :=
  match sent with
  | .error source => some (.netlink op source)
  | .ok () => receiveAcks order op expectedAcks.toFinset replies

/-- What is received is walked to its end, and acknowledges these sequence numbers. -/
def Confirms (order : ByteOrder) (received : Bytes) (acked : Finset UInt32) : Prop :=
  ∃ walked stop, Walked order received walked stop ∧ Stops order received stop (.ok ()) ∧
    acknowledged order received walked = acked

/-- The walk of what is received ends with an error. -/
def Fails (order : ByteOrder) (received : Bytes) (error : DrainError) : Prop :=
  ∃ walked stop, Walked order received walked stop ∧ Stops order received stop (.error error)

/-- Datagrams received one after the other, while something is outstanding, and what they leave. -/
inductive Received (order : ByteOrder) : Finset UInt32 → List Bytes → Finset UInt32 → Prop
  | nil (left : Finset UInt32) : Received order left [] left
  | cons {remaining acked left : Finset UInt32} {datagram : Bytes} {datagrams : List Bytes} :
      remaining ≠ ∅ → Confirms order (datagram.take replyLen) acked →
        Received order (remaining \ acked) datagrams left →
          Received order remaining (datagram :: datagrams) left

/-- How an exchange ends with what is outstanding and what the socket returns next. -/
inductive Ends (order : ByteOrder) (op : String) (left : Finset UInt32) :
    List (Except IoError Bytes) → BatchOutcome → Prop
  | cleared (later : List (Except IoError Bytes)) : left = ∅ → Ends order op left later .ok
  | waits : left ≠ ∅ → Ends order op left [] (.waits left)
  | socket (source : IoError) (later : List (Except IoError Bytes)) :
      left ≠ ∅ → Ends order op left (.error source :: later) (.netlink op source)
  | truncated {datagram : Bytes} (later : List (Except IoError Bytes)) :
      left ≠ ∅ → Fails order (datagram.take replyLen) .truncated →
        Ends order op left (.ok datagram :: later)
          (.netlink op (.other "truncated netlink ack"))
  | kernel {datagram : Bytes} {errno : Int32} (later : List (Except IoError Bytes)) :
      left ≠ ∅ → Fails order (datagram.take replyLen) (.kernel errno) →
        Ends order op left (.ok datagram :: later) (.kernel op errno)

/-- The loop receives confirmed datagrams while something is outstanding, and ends with the first
that is not. -/
theorem receiveAcks_ends (order : ByteOrder) (op : String) (remaining : Finset UInt32)
    (replies : List (Except IoError Bytes)) :
    ∃ datagrams left later outcome, replies = datagrams.map .ok ++ later ∧
      Received order remaining datagrams left ∧ Ends order op left later outcome ∧
        receiveAcks order op remaining replies = some outcome := by
  induction replies generalizing remaining with
  | nil =>
      by_cases cleared : remaining = ∅
      · exact ⟨[], remaining, [], .ok, rfl, .nil _, .cleared [] cleared,
          congrArg some (if_pos cleared)⟩
      · exact ⟨[], remaining, [], .waits remaining, rfl, .nil _, .waits cleared,
          congrArg some (if_neg cleared)⟩
  | cons reply later ih =>
      by_cases cleared : remaining = ∅
      · exact ⟨[], remaining, reply :: later, .ok, rfl, .nil _, .cleared _ cleared,
          if_pos cleared⟩
      cases reply with
      | error source =>
          rw [receiveAcks, if_neg cleared]
          exact ⟨[], remaining, _, _, rfl, .nil _, .socket source later cleared, rfl⟩
      | ok datagram =>
          rcases drainAcks_explains order (datagram.take replyLen) remaining with
            ⟨⟨result, after⟩, ran, walked, stop, walks, stops, left⟩
          dsimp only at stops left
          rw [receiveAcks, if_neg cleared, ran, Option.bind_eq_bind, Option.bind_some]
          -- What the walk returns decides whether the loop goes on.
          match result with
          | .ok () =>
              rcases ih after with ⟨datagrams, final, rest, outcome, split, received, ends, runs⟩
              refine ⟨datagram :: datagrams, final, rest, outcome, ?_, ?_, ends, runs⟩
              · rw [split, List.map_cons, List.cons_append]
              · rw [left] at received
                exact .cons cleared ⟨walked, stop, walks, stops, rfl⟩ received
          | .error .truncated =>
              exact ⟨[], remaining, _, _, rfl, .nil _,
                .truncated later cleared ⟨walked, stop, walks, stops⟩, rfl⟩
          | .error (.kernel errno) =>
              exact ⟨[], remaining, _, _, rfl, .nil _,
                .kernel later cleared ⟨walked, stop, walks, stops⟩, rfl⟩

/-- What was outstanding and is not any more has been acknowledged. -/
theorem Received.acknowledged {remaining left : Finset UInt32} {datagrams : List Bytes}
    (received : Received order remaining datagrams left) {seq : UInt32}
    (outstanding : seq ∈ remaining) :
    seq ∈ left ∨ ∃ datagram ∈ datagrams, ∃ acked,
      Confirms order (datagram.take replyLen) acked ∧ seq ∈ acked := by
  induction received with
  | nil left => exact .inl outstanding
  | @cons remaining acked left datagram datagrams _ confirms _ ih =>
      by_cases acks : seq ∈ acked
      · exact .inr ⟨datagram, List.mem_cons_self, acked, confirms, acks⟩
      · refine (ih (Finset.mem_sdiff.mpr ⟨outstanding, acks⟩)).imp_right ?_
        rintro ⟨other, member, acknowledged⟩
        exact ⟨other, List.mem_cons_of_mem _ member, acknowledged⟩

/-- A batch that succeeds has been sent, and each message that asks for it has been acknowledged by
a datagram that the socket has returned and that holds no error. -/
theorem exchangeBatch_acknowledged {op : String} {expectedAcks : List UInt32}
    {sent : Except IoError Unit} {replies : List (Except IoError Bytes)}
    (ok : exchangeBatch order op expectedAcks sent replies = some .ok) :
    sent = .ok () ∧ ∀ seq ∈ expectedAcks, ∃ datagram acked, .ok datagram ∈ replies ∧
      Confirms order (datagram.take replyLen) acked ∧ seq ∈ acked := by
  match sent with
  | .error source => cases ok
  | .ok () =>
      refine ⟨rfl, fun seq expected => ?_⟩
      rcases receiveAcks_ends order op expectedAcks.toFinset replies with
        ⟨datagrams, left, later, outcome, split, received, ends, runs⟩
      cases Option.some.inj (runs.symm.trans ok)
      cases ends with
      | cleared _ cleared =>
          have outstanding := List.mem_toFinset.mpr expected
          rcases received.acknowledged outstanding with stays | ⟨datagram, member, acked, confirms⟩
          · rw [cleared] at stays
            exact absurd stays (Finset.notMem_empty seq)
          · refine ⟨datagram, acked, ?_, confirms⟩
            rw [split]
            exact List.mem_append_left _ (List.mem_map_of_mem member)

/-- A datagram that acknowledges the request with number 7. -/
def oneAck : Bytes :=
  [36, 0, 0, 0, 2, 0, 0, 0, 7] ++ List.replicate 27 0

theorem exchangeBatch_oneAck :
    ∃ datagram acked, .ok datagram ∈ [Except.ok (ε := IoError) oneAck] ∧
      Confirms .little (datagram.take replyLen) acked ∧ 7 ∈ acked := by
  have ok : exchangeBatch .little "add_rule" [7] (.ok ()) [.ok oneAck] = some .ok := by
    decide +kernel
  exact (exchangeBatch_acknowledged ok).2 7 (List.mem_singleton_self 7)

end SstpServer.Netlink
