import SstpServer.Radius.Turns

/-!
# Who owns an identifier

A call owns its identifier from the moment it takes it until it has reclaimed it.  The reader
removes the entry of a call before the call is over, and from then on the identifier may be taken
again: two calls own it, and the clean-up of the first removes the entry of the second.
-/

namespace SstpServer.Radius

open SstpServer.Wire
open SstpServer.Transition

namespace AcctClient

/-- The call has taken the identifier of the server and is not over. -/
def Owns (s : AcctClient) (task : Nat) (peer : SocketAddr) (id : UInt8) : Prop :=
  ∃ send, s.sends[task]? = some send ∧ send.peer = peer ∧ send.identifier = id ∧ ¬send.Done

/-- No identifier of a server has two owners. -/
def Exclusive (s : AcctClient) : Prop :=
  ∀ peer id first second, s.Owns first peer id → s.Owns second peer id → first = second

/-- Every entry is that of an owner. -/
def Registered (s : AcctClient) : Prop :=
  ∀ peer id task, s.entry peer id = some task → s.Owns task peer id

/-- A call takes an identifier only when no call owns it. -/
def TakesUnowned (s : AcctClient) (input : Input) : Prop :=
  ∀ peer secret record id, input = .send peer secret record → (s.peers peer).FirstFree id →
    ∀ task, ¬s.Owns task peer id

section Steps

variable {codec : Codec} {retry : AcctRetry} {s : AcctClient}

theorem TaskTurn.keeps {task : Nat} {input : Input} {send send' : Send}
    (turn : TaskTurn codec retry s task input send send') :
    send'.peer = send.peer ∧ send'.identifier = send.identifier := by
  cases turn <;> exact ⟨rfl, rfl⟩

theorem TaskTurn.done {task : Nat} {input : Input} {send send' : Send}
    (turn : TaskTurn codec retry s task input send send') (ended : send.Done) : send'.Done := by
  rcases ended with ⟨result, phase⟩
  cases turn with
  | idle | hand | cut => exact ⟨result, phase⟩
  | finish => exact ⟨_, rfl⟩
  | start other | fail _ _ other | transmit _ other | take _ other | cancel _ other | again other
  | expire other => cases other.symm.trans phase

/-- A call is over only by its own clean-up. -/
theorem TaskTurn.done_or_finish {task : Nat} {input : Input} {send send' : Send}
    (turn : TaskTurn codec retry s task input send send') (ended : send'.Done) :
    send.Done ∨ input = .finish task ∧ ∃ result, send.phase = .finishing result := by
  rcases ended with ⟨result, phase⟩
  cases turn with
  | idle | hand | cut => exact .inl ⟨result, phase⟩
  | finish reply finishing => exact .inr ⟨rfl, _, finishing⟩
  | start | fail | transmit | take | cancel | again | expire => cases phase

/-- An owner has been one before the step, or takes the first free identifier. -/
theorem owns_of_owns_step {task : Nat} {peer : SocketAddr} {id : UInt8} {input : Input}
    (owns : (s.step codec retry input).Owns task peer id) :
    s.Owns task peer id ∨
      task = s.sends.length ∧ (s.peers peer).FirstFree id ∧
        ∃ secret record, input = .send peer secret record := by
  rcases owns with ⟨send', found', rfl, rfl, unfinished⟩
  rcases taskTurn_or_fresh found' with ⟨send, found, turn⟩ |
    ⟨peer, secret, record, rfl, last, ⟨ended, _⟩ | ⟨identifier, scanned, rfl⟩⟩
  · exact .inl ⟨send, found, turn.keeps.1.symm, turn.keeps.2.symm,
      fun ended => unfinished (turn.done ended)⟩
  · exact absurd ⟨_, ended⟩ unfinished
  · exact .inr ⟨last, ((s.peers peer).allocate_eq_some_iff identifier).mp scanned,
        secret, record, rfl⟩

variable (codec retry) in
/-- An owner stays one until its clean-up. -/
theorem owns_step {task : Nat} {peer : SocketAddr} {id : UInt8} (input : Input)
    (owns : s.Owns task peer id) :
    (s.step codec retry input).Owns task peer id ∨
      input = .finish task ∧ (s.step codec retry input).entry peer id = none := by
  rcases owns with ⟨send, found, rfl, rfl, unfinished⟩
  rcases exists_taskTurn codec retry input found with ⟨send', found', turn⟩
  by_cases ended : send'.Done
  · rcases turn.done_or_finish ended with before | ⟨rfl, result, phase⟩
    · exact absurd before unfinished
    · exact .inr ⟨rfl, entry_finish found phase⟩
  · exact .inl ⟨send', found', turn.keeps.1, turn.keeps.2, ended⟩

variable (codec retry) in
/-- The call that takes the first free identifier owns it. -/
theorem owns_of_firstFree {peer : SocketAddr} {id : UInt8} (secret : Bytes) (record : AcctRecord)
    (first : (s.peers peer).FirstFree id) :
    (s.step codec retry (.send peer secret record)).Owns s.sends.length peer id := by
  have scanned := ((s.peers peer).allocate_eq_some_iff id).mpr first
  change (s.begin peer secret record).Owns s.sends.length peer id
  unfold begin
  split
  · rename_i slot refused
    rw [refused] at scanned
    cases scanned
  · rename_i identifier slot found
    rw [found] at scanned
    cases scanned
    refine ⟨{ peer, secret, record, identifier := id }, ?_, rfl, rfl, ?_⟩
    · exact List.getElem?_concat_length
    · rintro ⟨result, phase⟩
      cases phase

variable (codec retry) in
theorem registered_step (input : Input) (registered : s.Registered) :
    (s.step codec retry input).Registered := by
  intro peer id task entered
  have turn := entryTurn_step codec retry s input peer id
  rw [entered] at turn
  generalize before : s.entry peer id = owner at turn
  cases turn with
  | same =>
    rcases owns_step codec retry input (registered peer id task before) with
      owns | ⟨_, removed⟩
    · exact owns
    · cases entered.symm.trans removed
  | take secret record first => exact owns_of_firstFree codec retry secret record first

variable (codec retry) in
/-- A call that takes the identifier of an owner makes a second owner. -/
theorem not_exclusive_of_firstFree {task : Nat} {peer : SocketAddr} {id : UInt8} (secret : Bytes)
    (record : AcctRecord) (owns : s.Owns task peer id) (first : (s.peers peer).FirstFree id) :
    ¬(s.step codec retry (.send peer secret record)).Exclusive := by
  intro exclusive
  have fresh := owns_of_firstFree codec retry secret record first
  rcases owns_step codec retry (.send peer secret record) owns with still | ⟨finished, _⟩
  · have same := exclusive peer id task s.sends.length still fresh
    rcases owns with ⟨send, found, _⟩
    have below := (List.getElem?_eq_some_iff.mp found).1
    omega
  · cases finished

variable (codec retry) in
/-- A step makes a second owner only by taking an identifier that has an owner. -/
theorem exclusive_step_iff (input : Input) (exclusive : s.Exclusive) :
    (s.step codec retry input).Exclusive ↔ s.TakesUnowned input := by
  constructor
  · intro exclusive' peer secret record id taken first task owns
    subst taken
    exact not_exclusive_of_firstFree codec retry secret record owns first exclusive'
  · intro unowned peer id first second ownsFirst ownsSecond
    rcases owns_of_owns_step ownsFirst with oldFirst | ⟨newFirst, free, secret, record, taken⟩
    · rcases owns_of_owns_step ownsSecond with oldSecond | ⟨_, free, secret, record, taken⟩
      · exact exclusive peer id first second oldFirst oldSecond
      · exact absurd oldFirst (unowned peer secret record id taken free first)
    · rcases owns_of_owns_step ownsSecond with oldSecond | ⟨newSecond, _⟩
      · exact absurd oldSecond (unowned peer secret record id taken free second)
      · rw [newFirst, newSecond]

/-- An entry is removed by a datagram that carries its identifier or by the clean-up of its
owner. -/
def RemovedByOwner (codec : Codec) (retry : AcctRetry) (s : AcctClient) (input : Input) : Prop :=
  ∀ peer id task, s.entry peer id = some task →
    (s.step codec retry input).entry peer id ≠ some task →
      Carries peer id input ∨ input = .finish task

variable (codec retry) in
theorem removedByOwner_of_exclusive (input : Input) (registered : s.Registered)
    (exclusive : s.Exclusive) : s.RemovedByOwner codec retry input := by
  intro peer id task entered removed
  have turn := entryTurn_step codec retry s input peer id
  rw [entered] at turn
  generalize (s.step codec retry input).entry peer id = after at turn removed
  cases turn with
  | same => exact absurd rfl removed
  | read carries => exact .inl carries
  | @reclaim cleaner send result _ found phase atPeer underId =>
    have unfinished : ¬send.Done := by
      rintro ⟨_, ended⟩
      cases phase.symm.trans ended
    have owns : s.Owns cleaner peer id := ⟨send, found, atPeer, underId, unfinished⟩
    have same := exclusive peer id cleaner task owns (registered peer id task entered)
    exact .inr (by rw [same])

end Steps

/-! ## Runs -/

theorem registered_initial : initial.Registered := by
  rintro peer id task ⟨⟩

theorem exclusive_initial : initial.Exclusive := by
  rintro peer id first second ⟨send, found, -⟩
  cases found

/-- In every run, entries are removed by a datagram with their identifier or by their owner and
no identifier has two owners, if and only if no call takes an identifier that has an owner. -/
theorem identifiers_exclusive_iff (codec : Codec) (retry : AcctRetry) (inputs : List Input) :
    ((∀ visit ∈ visits (step codec retry) initial inputs,
        RemovedByOwner codec retry visit.1 visit.2) ∧
      ∀ state ∈ states (step codec retry) initial inputs, state.Exclusive) ↔
    ∀ visit ∈ visits (step codec retry) initial inputs, visit.1.TakesUnowned visit.2 := by
  have exclusive := forall_states_iff_forall_visits
    (fun s input registered => registered_step codec retry input registered)
    registered_initial exclusive_initial
    (fun s input _ exclusive => exclusive_step_iff codec retry input exclusive) inputs
  constructor
  · rintro ⟨_, held⟩
    exact exclusive.mp held
  · intro unowned
    have held := exclusive.mpr unowned
    refine ⟨?_, held⟩
    intro visit visited
    apply removedByOwner_of_exclusive codec retry visit.2
    · exact invariant_of_mem_visits
        (fun s input registered => registered_step codec retry input registered)
        registered_initial visited
    · exact held visit.1 (mem_states_of_mem_visits visited)

/-! ## A full round of identifiers -/

section Round

variable (codec : Codec) (retry : AcctRetry) {s : AcctClient}

/-- The first call waits for its clean-up while so many more have begun; the identifiers that the
scan has still ahead, the one of the first call at their end, have no entries. -/
structure Rounding (peer : SocketAddr) (count : Nat) (s : AcctClient) : Prop where
  first : s.Owns 0 peer 0
  nextId : (s.peers peer).nextId = UInt8.ofNat (count + 1)
  ahead : ∀ id, count < id → id ≤ 256 → s.entry peer (UInt8.ofNat id) = none

theorem Rounding.firstFree {peer : SocketAddr} {count : Nat} (rounding : Rounding peer count s)
    (below : count < 256) : (s.peers peer).FirstFree (UInt8.ofNat (count + 1)) := by
  refine ⟨0, by decide, ?_, rounding.ahead _ (Nat.lt_succ_self count) below, ?_⟩
  · rw [rounding.nextId]
    simp
  · intro earlier before
    exact absurd before (Nat.not_lt_zero earlier)

theorem begin_of_free {peer : SocketAddr} (secret : Bytes) (record : AcctRecord)
    (free : (s.peers peer).inflight (s.peers peer).nextId = none) :
    s.begin peer secret record =
      { s.setPeer peer (PeerState.insert
          { s.peers peer with nextId := (s.peers peer).nextId + 1 }
          (s.peers peer).nextId s.sends.length) with
        sends := s.sends ++ [{ peer, secret, record, identifier := (s.peers peer).nextId }] } := by
  unfold begin PeerState.allocate PeerState.scan
  rw [if_pos free]

theorem Rounding.step {peer : SocketAddr} {count : Nat} (secret : Bytes) (record : AcctRecord)
    (rounding : Rounding peer count s) (below : count + 1 < 256) :
    Rounding peer (count + 1) (s.step codec retry (.send peer secret record)) := by
  have free : (s.peers peer).inflight (s.peers peer).nextId = none := by
    rw [rounding.nextId]
    exact rounding.ahead _ (Nat.lt_succ_self count) below.le
  have begun := begin_of_free secret record free
  refine ⟨?_, ?_, ?_⟩
  · rcases owns_step codec retry (.send peer secret record) rounding.first with owns | ⟨other, _⟩
    · exact owns
    · cases other
  · change ((s.begin peer secret record).peers peer).nextId = _
    rw [begun]
    simp [setPeer, PeerState.insert, rounding.nextId]
  · intro id above atMost
    change (s.begin peer secret record).entry peer (UInt8.ofNat id) = none
    have other : UInt8.ofNat id ≠ (s.peers peer).nextId := by
      rw [rounding.nextId, Ne, ← UInt8.toNat_inj]
      simp
      omega
    rw [begun]
    change (s.setPeer peer _).entry peer (UInt8.ofNat id) = none
    rw [entry_setPeer, if_pos rfl, PeerState.insert_inflight, if_neg other]
    exact rounding.ahead id (by omega) atMost

theorem Rounding.replicate {peer : SocketAddr} (secret : Bytes) (record : AcctRecord)
    (rounding : Rounding peer 0 s) {count : Nat} (below : count < 256) :
    Rounding peer count (finalState (AcctClient.step codec retry) s
      (List.replicate count (.send peer secret record))) := by
  induction count with
  | zero => exact rounding
  | succ count ih =>
    rw [List.replicate_succ', finalState_append]
    exact (ih (Nat.lt_of_succ_lt below)).step codec retry secret record below

end Round

def roundPeer : SocketAddr := ⟨[127, 0, 0, 1], 1813⟩

def roundRecord : AcctRecord :=
  ⟨[], none, none, { sessionId := [], framedIp := Block.zero 4, nasPort := 0 }, .start, {}⟩

/-- The reader takes a reply to the first call, and the calls that follow go once through all
identifiers before the first call reclaims its own. -/
def roundRun : List Input :=
  [.send roundPeer [] roundRecord, .datagram roundPeer (5 :: List.replicate 19 0)] ++
    List.replicate 255 (.send roundPeer [] roundRecord) ++ [.send roundPeer [] roundRecord]

theorem rounding_two : Rounding roundPeer 0
    (finalState (step (Codec.ofDigest checksum) {}) initial
      [.send roundPeer [] roundRecord, .datagram roundPeer (5 :: List.replicate 19 0)]) := by
  refine ⟨⟨_, rfl, rfl, rfl, ?_⟩, rfl, ?_⟩
  · rintro ⟨result, phase⟩
    cases phase
  · intro id _ _
    change (PeerState.remove (PeerState.insert { nextId := 1 } 0 0) 0).inflight _ = none
    rw [PeerState.remove_inflight, PeerState.insert_inflight]
    split_ifs <;> rfl

/-- The last call takes the identifier that the first call still owns. -/
theorem not_exclusive_roundRun :
    ¬(finalState (step (Codec.ofDigest checksum) {}) initial roundRun).Exclusive := by
  rw [roundRun, finalState_append, finalState_append, finalState_cons, finalState_nil]
  have rounding := rounding_two.replicate (Codec.ofDigest checksum) {} [] roundRecord
    (by decide : 255 < 256)
  have wrapped : UInt8.ofNat (255 + 1) = 0 := by decide
  have first := rounding.firstFree (by decide)
  rw [wrapped] at first
  exact not_exclusive_of_firstFree (Codec.ofDigest checksum) {} [] roundRecord rounding.first first

end AcctClient

end SstpServer.Radius
