import SstpServer.Radius.AcctClient

/-!
# The turns of the accounting client

One step of the client, from the side of one call and from the side of one entry of the table.
-/

namespace SstpServer.Radius

open SstpServer.Wire

namespace AcctClient

/-! ## What a step does to a task -/

section Turns

variable (codec : Codec) (retry : AcctRetry) (s : AcctClient)

/-- What a step does to a call: it goes on where it stands, or the reader or another call gets at
its channel. -/
inductive TaskTurn (task : Nat) : Input → Send → Send → Prop where
  | idle (input : Input) (send : Send) : TaskTurn task input send send
  | start {send : Send} (phase : send.phase = .starting) :
      TaskTurn task (.start task) send
        { send with started := s.clock, phase := .transmitting 0 retry.initialTimeout }
  | fail {send : Send} {attempt wait : Nat} (sent : Bool) (error : AcctError)
      (phase : send.phase = .transmitting attempt wait) :
      TaskTurn task (.transmit task sent) send { send with phase := .finishing (.error error) }
  | transmit {send : Send} {attempt wait : Nat} (request : SealedRequest)
      (phase : send.phase = .transmitting attempt wait) :
      TaskTurn task (.transmit task true) send
        { send with
          phase := .waiting attempt wait (s.clock + wait) request
          transmitted := send.transmitted ++ [request] }
  | take {send : Send} {attempt wait deadline : Nat} {request : SealedRequest} {reply : Bytes}
      (elapsed : Bool) (phase : send.phase = .waiting attempt wait deadline request)
      (full : send.reply = .full reply) :
      TaskTurn task (.poll task elapsed) send
        { send with
          phase := .finishing
            (verify codec reply send.secret (requestAuthenticatorFrom request.1)) }
  | cancel {send : Send} {attempt wait deadline : Nat} {request : SealedRequest}
      (elapsed : Bool) (phase : send.phase = .waiting attempt wait deadline request)
      (closed : send.reply = .closed) :
      TaskTurn task (.poll task elapsed) send { send with phase := .finishing (.error .cancelled) }
  | again {send : Send} {attempt wait deadline : Nat} {request : SealedRequest}
      (phase : send.phase = .waiting attempt wait deadline request)
      (pending : send.reply = .pending) :
      TaskTurn task (.poll task true) send
        { send with phase := .transmitting (attempt + 1) (retry.backoff wait) }
  | expire {send : Send} {attempt wait deadline : Nat} {request : SealedRequest}
      (phase : send.phase = .waiting attempt wait deadline request)
      (pending : send.reply = .pending) :
      TaskTurn task (.poll task true) send { send with phase := .finishing (.error .timeout) }
  | hand {send : Send} (datagram : Bytes) (inHand : s.inHand = some (task, datagram)) :
      TaskTurn task .deliver send { send with reply := .full datagram }
  | cut {send owner : Send} {other : Nat} {result : AcctResult} (distinct : other ≠ task)
      (at_other : s.sends[other]? = some owner) (phase : owner.phase = .finishing result)
      (registered : s.entry owner.peer owner.identifier = some task) :
      TaskTurn task (.finish other) send { send with reply := .closed }
  | finish {send : Send} {result : AcctResult} {reply : Oneshot}
      (kept : reply = send.reply ∨ reply = .closed) (phase : send.phase = .finishing result) :
      TaskTurn task (.finish task) send { send with reply, phase := .done result }

variable {codec retry s}

theorem taskTurn_start {task : Nat} (send : Send) :
    TaskTurn codec retry s task (.start task) send (send.start retry s.clock) := by
  unfold Send.start
  split
  · exact .start ‹_›
  · exact .idle _ _

theorem taskTurn_transmit {task : Nat} (sent : Bool) (send : Send) :
    TaskTurn codec retry s task (.transmit task sent) send (send.transmit codec s.clock sent) := by
  unfold Send.transmit
  split
  · rename_i attempt wait phase
    split
    · exact .fail sent _ phase
    · split
      · subst sent
        exact .transmit _ phase
      · exact .fail sent _ phase
  · exact .idle _ _

theorem taskTurn_poll {task : Nat} (elapsed : Bool) (send : Send) :
    TaskTurn codec retry s task (.poll task elapsed) send
      (send.poll codec retry s.clock elapsed) := by
  unfold Send.poll
  split
  · rename_i attempt wait deadline request phase
    split
    · exact .take elapsed phase ‹_›
    · exact .cancel elapsed phase ‹_›
    · rename_i pending
      split
      · rename_i expired
        rw [expired.1]
        split
        · exact .again phase pending
        · exact .expire phase pending
      · exact .idle _ _
  · exact .idle _ _

theorem exists_taskTurn_update {task other : Nat} {send : Send} {input : Input}
    {change : Send → Send} (found : s.sends[task]? = some send)
    (turn : other = task → TaskTurn codec retry s task input send (change send)) :
    ∃ send', (s.update other change).sends[task]? = some send' ∧
      TaskTurn codec retry s task input send send' := by
  by_cases own : other = task
  · refine ⟨change send, ?_, turn own⟩
    simp [update, own, found]
  · refine ⟨send, ?_, .idle _ _⟩
    simp [update, own, found]

theorem getElem?_sends_reclaim {task : Nat} {send : Send} (peer : SocketAddr) (id : UInt8)
    (found : s.sends[task]? = some send) :
    (s.reclaim peer id).sends[task]? =
      some (if s.entry peer id = some task then { send with reply := .closed } else send) := by
  unfold reclaim
  split
  · rename_i free
    simp [free, found]
  · rename_i holder registered
    by_cases own : holder = task
    · simp [registered, update, setPeer, own, found]
    · simp [registered, update, setPeer, own, found]

theorem finish_eq {task : Nat} {send : Send} {result : AcctResult}
    (found : s.sends[task]? = some send) (phase : send.phase = .finishing result) :
    s.finish task =
      (s.reclaim send.peer send.identifier).update task
        fun send => { send with phase := .done result } := by
  unfold finish
  rw [found]
  dsimp only
  rw [phase]

/-- The clean-up of a call ends it, and closes the channel of the call whose entry it removes. -/
theorem getElem?_sends_finish {task other : Nat} {send owner : Send} {result : AcctResult}
    (found : s.sends[task]? = some send) (foundOwner : s.sends[other]? = some owner)
    (phase : owner.phase = .finishing result) :
    (s.finish other).sends[task]? =
      some { send with
        reply := if s.entry owner.peer owner.identifier = some task then .closed else send.reply
        phase := if other = task then .done result else send.phase } := by
  have reclaimed := getElem?_sends_reclaim owner.peer owner.identifier found
  rw [finish_eq foundOwner phase]
  by_cases own : other = task
  · split_ifs at reclaimed ⊢ <;> simp [update, own, reclaimed]
  · split_ifs at reclaimed ⊢ <;> simp [update, own, reclaimed]

theorem exists_taskTurn_finish {task : Nat} {send : Send} (other : Nat)
    (found : s.sends[task]? = some send) :
    ∃ send', (s.finish other).sends[task]? = some send' ∧
      TaskTurn codec retry s task (.finish other) send send' := by
  cases foundOwner : s.sends[other]? with
  | none => exact ⟨send, by simp [finish, foundOwner, found], .idle _ _⟩
  | some owner =>
    cases phase : owner.phase with
    | finishing result =>
      refine ⟨_, getElem?_sends_finish found foundOwner phase, ?_⟩
      by_cases own : other = task
      · subst other
        cases found.symm.trans foundOwner
        rw [if_pos rfl]
        refine .finish ?_ phase
        split_ifs
        · exact .inr rfl
        · exact .inl rfl
      · rw [if_neg own]
        split_ifs with registered
        · exact .cut own foundOwner phase registered
        · exact .idle _ _
    | starting | transmitting | waiting | done =>
      exact ⟨send, by simp [finish, foundOwner, phase, found], .idle _ _⟩

theorem getElem?_sends_deliver {task : Nat} {send : Send} {datagram : Bytes}
    (found : s.sends[task]? = some send) (inHand : s.inHand = some (task, datagram)) :
    s.deliver.sends[task]? = some { send with reply := .full datagram } := by
  simp [deliver, inHand, update, found]

variable (codec retry) in
/-- Every step makes a turn of every call. -/
theorem exists_taskTurn {task : Nat} {send : Send} (input : Input)
    (found : s.sends[task]? = some send) :
    ∃ send', (s.step codec retry input).sends[task]? = some send' ∧
      TaskTurn codec retry s task input send send' := by
  cases input with
  | tick duration => exact ⟨send, found, .idle _ _⟩
  | send peer secret record =>
    refine ⟨send, ?_, .idle _ _⟩
    have below : task < s.sends.length := (List.getElem?_eq_some_iff.mp found).1
    change (s.begin peer secret record).sends[task]? = some send
    unfold begin
    split
    · exact (List.getElem?_append_left below).trans found
    · exact (List.getElem?_append_left below).trans found
  | start other =>
    apply exists_taskTurn_update found
    rintro rfl
    exact taskTurn_start send
  | transmit other sent =>
    apply exists_taskTurn_update found
    rintro rfl
    exact taskTurn_transmit sent send
  | poll other elapsed =>
    apply exists_taskTurn_update found
    rintro rfl
    exact taskTurn_poll elapsed send
  | finish other => exact exists_taskTurn_finish other found
  | datagram source bytes =>
    refine ⟨send, ?_, .idle _ _⟩
    change (s.receive source bytes).sends[task]? = some send
    unfold receive
    split
    · split <;> exact found
    · exact found
  | deliver =>
    change ∃ send', s.deliver.sends[task]? = some send' ∧ _
    unfold deliver
    split
    · exact ⟨send, found, .idle _ _⟩
    · rename_i holder datagram inHand
      apply exists_taskTurn_update found
      rintro rfl
      exact .hand datagram inHand
  | recvError => exact ⟨send, found, .idle _ _⟩

theorem length_sends_update (task : Nat) (change : Send → Send) :
    (s.update task change).sends.length = s.sends.length :=
  List.length_modify ..

theorem length_sends_finish (task : Nat) : (s.finish task).sends.length = s.sends.length := by
  unfold finish reclaim
  split
  · rfl
  · split
    · rw [length_sends_update]
      split
      · rfl
      · rw [length_sends_update]
        rfl
    · rfl

theorem length_sends_receive (source : SocketAddr) (bytes : Bytes) :
    (s.receive source bytes).sends.length = s.sends.length := by
  unfold receive
  split
  · split <;> rfl
  · rfl

theorem length_sends_deliver : s.deliver.sends.length = s.sends.length := by
  unfold deliver
  split
  · rfl
  · exact length_sends_update ..

/-- A call that a step adds is refused or has taken the identifier that the scan found. -/
theorem fresh_of_getElem?_step {task : Nat} {send : Send} {input : Input}
    (found : (s.step codec retry input).sends[task]? = some send)
    (absent : s.sends[task]? = none) :
    ∃ peer secret record, input = .send peer secret record ∧ task = s.sends.length ∧
      (send.phase = .done (.error (.identifierExhausted peer)) ∧ send.reply = .closed ∨
        ∃ identifier, (s.peers peer).allocate.1 = some identifier ∧
          send = { peer, secret, record, identifier }) := by
  have below : task < (s.step codec retry input).sends.length :=
    (List.getElem?_eq_some_iff.mp found).1
  have above : s.sends.length ≤ task := List.getElem?_eq_none_iff.mp absent
  cases input with
  | send peer secret record =>
    refine ⟨peer, secret, record, rfl, ?_⟩
    change (s.begin peer secret record).sends[task]? = some send at found
    unfold begin at found
    split at found
    · rename_i slot scanned
      rw [List.getElem?_append_right above, List.getElem?_singleton] at found
      split_ifs at found with last
      cases found
      exact ⟨by omega, .inl ⟨rfl, rfl⟩⟩
    · rename_i identifier slot scanned
      rw [List.getElem?_append_right above, List.getElem?_singleton] at found
      split_ifs at found with last
      cases found
      exact ⟨by omega, .inr ⟨identifier, congrArg Prod.fst scanned, rfl⟩⟩
  | tick | recvError => exact absurd below (Nat.not_lt.mpr above)
  | start | transmit | poll =>
    rw [step, length_sends_update] at below
    exact absurd below (Nat.not_lt.mpr above)
  | finish =>
    rw [step, length_sends_finish] at below
    exact absurd below (Nat.not_lt.mpr above)
  | datagram =>
    rw [step, length_sends_receive] at below
    exact absurd below (Nat.not_lt.mpr above)
  | deliver =>
    rw [step, length_sends_deliver] at below
    exact absurd below (Nat.not_lt.mpr above)

/-- A call after a step has made a turn of its own, or the step has added it. -/
theorem taskTurn_or_fresh {task : Nat} {send' : Send} {input : Input}
    (found' : (s.step codec retry input).sends[task]? = some send') :
    (∃ send, s.sends[task]? = some send ∧ TaskTurn codec retry s task input send send') ∨
      ∃ peer secret record, input = .send peer secret record ∧ task = s.sends.length ∧
        (send'.phase = .done (.error (.identifierExhausted peer)) ∧ send'.reply = .closed ∨
          ∃ identifier, (s.peers peer).allocate.1 = some identifier ∧
            send' = { peer, secret, record, identifier }) := by
  cases found : s.sends[task]? with
  | none => exact .inr (fresh_of_getElem?_step found' found)
  | some send =>
    rcases exists_taskTurn codec retry input found with ⟨next, foundNext, turn⟩
    cases found'.symm.trans foundNext
    exact .inl ⟨send, rfl, turn⟩

end Turns

/-! ## What a step does to the table -/

section Entries

variable {codec : Codec} {retry : AcctRetry} {s : AcctClient}

/-- The datagram comes from the server under the identifier. -/
def Carries (peer : SocketAddr) (id : UInt8) : Input → Prop
  | .datagram source bytes => source = peer ∧ HasHeader bytes ∧ identifierOf bytes = id
  | _ => False

/-- What a step does to an entry. -/
inductive EntryTurn (s : AcctClient) (peer : SocketAddr) (id : UInt8) :
    Input → Option Nat → Option Nat → Prop where
  | same (input : Input) (owner : Option Nat) : EntryTurn s peer id input owner owner
  | take (secret : Bytes) (record : AcctRecord) (first : (s.peers peer).FirstFree id) :
      EntryTurn s peer id (.send peer secret record) none (some s.sends.length)
  | read {input : Input} {owner : Nat} (carries : Carries peer id input)
      (reading : s.reading = true) (idle : s.inHand = none) :
      EntryTurn s peer id input (some owner) none
  | reclaim {task : Nat} {send : Send} {result : AcctResult} (owner : Option Nat)
      (found : s.sends[task]? = some send) (phase : send.phase = .finishing result)
      (atPeer : send.peer = peer) (underId : send.identifier = id) :
      EntryTurn s peer id (.finish task) owner none

theorem entry_setPeer (peer other : SocketAddr) (slot : PeerState) (id : UInt8) :
    (s.setPeer other slot).entry peer id =
      if peer = other then slot.inflight id else s.entry peer id := by
  unfold entry setPeer
  by_cases same : peer = other
  · subst other
    simp
  · simp [same]

theorem entry_reclaim (peer other : SocketAddr) (id used : UInt8) :
    (s.reclaim other used).entry peer id =
      if peer = other ∧ id = used then none else s.entry peer id := by
  unfold reclaim
  split
  · rename_i free
    split_ifs with both
    · rw [both.1, both.2, free]
    · rfl
  · change (s.setPeer other ((s.peers other).remove used)).entry peer id = _
    rw [entry_setPeer]
    by_cases same : peer = other
    · subst other
      rw [if_pos rfl, PeerState.remove_inflight]
      simp [entry]
    · simp [same]

theorem entryTurn_send (peer other : SocketAddr) (id : UInt8) (secret : Bytes)
    (record : AcctRecord) :
    EntryTurn s peer id (.send other secret record) (s.entry peer id)
      ((s.begin other secret record).entry peer id) := by
  have kept : (s.peers other).allocate.2.inflight = (s.peers other).inflight :=
    (s.peers other).scan_inflight 256
  unfold begin
  split
  · rename_i slot scanned
    rw [scanned] at kept
    change EntryTurn s peer id _ _ ((s.setPeer other slot).entry peer id)
    rw [entry_setPeer]
    split_ifs with same
    · rw [kept, same]
      exact .same _ _
    · exact .same _ _
  · rename_i identifier slot scanned
    have first : (s.peers other).FirstFree identifier :=
      ((s.peers other).allocate_eq_some_iff identifier).mp (congrArg Prod.fst scanned)
    rw [scanned] at kept
    change EntryTurn s peer id _ _
      ((s.setPeer other (slot.insert identifier s.sends.length)).entry peer id)
    rw [entry_setPeer]
    split_ifs with same
    · subst other
      by_cases own : id = identifier
      · subst identifier
        rw [PeerState.insert_inflight, if_pos rfl, show s.entry peer id = none from first.free]
        exact .take secret record first
      · rw [PeerState.insert_inflight, if_neg own, kept]
        exact .same _ _
    · exact .same _ _

theorem entryTurn_finish (task : Nat) (peer : SocketAddr) (id : UInt8) :
    EntryTurn s peer id (.finish task) (s.entry peer id) ((s.finish task).entry peer id) := by
  unfold finish
  split
  · exact .same _ _
  · rename_i send found
    split
    · rename_i result phase
      change EntryTurn s peer id _ _ ((s.reclaim send.peer send.identifier).entry peer id)
      rw [entry_reclaim]
      split_ifs with both
      · exact .reclaim _ found phase both.1.symm both.2.symm
      · exact .same _ _
    · exact .same _ _

theorem entryTurn_receive (source : SocketAddr) (bytes : Bytes) (peer : SocketAddr) (id : UInt8) :
    EntryTurn s peer id (.datagram source bytes) (s.entry peer id)
      ((s.receive source bytes).entry peer id) := by
  unfold receive
  split
  · rename_i taken
    split
    · exact .same _ _
    · rename_i owner registered
      change EntryTurn s peer id _ _
        ((s.setPeer source ((s.peers source).remove (identifierOf bytes))).entry peer id)
      rw [entry_setPeer]
      split_ifs with same
      · subst source
        by_cases own : id = identifierOf bytes
        · subst id
          rw [registered, PeerState.remove_inflight, if_pos rfl]
          exact .read ⟨rfl, taken.2.2, rfl⟩ taken.1 taken.2.1
        · rw [PeerState.remove_inflight, if_neg own]
          exact .same _ _
      · exact .same _ _
  · exact .same _ _

variable (codec retry s) in
/-- Every step makes a turn of every entry. -/
theorem entryTurn_step (input : Input) (peer : SocketAddr) (id : UInt8) :
    EntryTurn s peer id input (s.entry peer id) ((s.step codec retry input).entry peer id) := by
  cases input with
  | send other secret record => exact entryTurn_send peer other id secret record
  | finish task => exact entryTurn_finish task peer id
  | datagram source bytes => exact entryTurn_receive source bytes peer id
  | deliver =>
    change EntryTurn s peer id _ _ (s.deliver.entry peer id)
    unfold deliver
    split <;> exact .same _ _
  | tick | start | transmit | poll | recvError => exact .same _ _

/-- The entry of a call that has taken an identifier. -/
theorem entry_send {peer : SocketAddr} {id : UInt8} (secret : Bytes) (record : AcctRecord)
    (first : (s.peers peer).FirstFree id) :
    (s.step codec retry (.send peer secret record)).entry peer id = some s.sends.length := by
  have scanned := ((s.peers peer).allocate_eq_some_iff id).mpr first
  change (s.begin peer secret record).entry peer id = some s.sends.length
  unfold begin
  split
  · rename_i slot refused
    rw [refused] at scanned
    cases scanned
  · rename_i identifier slot taken
    rw [taken] at scanned
    cases scanned
    change (s.setPeer peer (slot.insert id s.sends.length)).entry peer id = _
    rw [entry_setPeer, if_pos rfl, PeerState.insert_inflight, if_pos rfl]

/-- The reader leaves no entry under the identifier of a datagram that it takes. -/
theorem entry_receive {source : SocketAddr} {bytes : Bytes} (reading : s.reading = true)
    (idle : s.inHand = none) (header : HasHeader bytes) :
    (s.step codec retry (.datagram source bytes)).entry source (identifierOf bytes) = none := by
  change (s.receive source bytes).entry source (identifierOf bytes) = none
  unfold receive
  rw [if_pos ⟨reading, idle, header⟩]
  split
  · assumption
  · change (s.setPeer source _).entry source (identifierOf bytes) = none
    rw [entry_setPeer, if_pos rfl, PeerState.remove_inflight, if_pos rfl]

/-- The clean-up of a call leaves no entry under its identifier. -/
theorem entry_finish {task : Nat} {send : Send} {result : AcctResult}
    (found : s.sends[task]? = some send) (phase : send.phase = .finishing result) :
    (s.step codec retry (.finish task)).entry send.peer send.identifier = none := by
  rw [step, finish_eq found phase]
  change (s.reclaim send.peer send.identifier).entry send.peer send.identifier = none
  rw [entry_reclaim, if_pos ⟨rfl, rfl⟩]

end Entries

/-! ## What a step does to the reader -/

section Reader

variable {codec : Codec} {retry : AcctRetry} {s : AcctClient}

theorem inHand_begin (peer : SocketAddr) (secret : Bytes) (record : AcctRecord) :
    (s.begin peer secret record).inHand = s.inHand := by
  unfold begin
  split <;> rfl

theorem inHand_finish (task : Nat) : (s.finish task).inHand = s.inHand := by
  unfold finish reclaim
  split
  · rfl
  · split
    · split <;> rfl
    · rfl

theorem inHand_deliver : s.deliver.inHand = none := by
  unfold deliver
  split
  · assumption
  · rfl

/-- The reader keeps what it has in hand until it delivers it. -/
theorem inHand_step_of_held {task : Nat} {datagram : Bytes} {input : Input}
    (held : s.inHand = some (task, datagram)) (notDelivered : input ≠ .deliver) :
    (s.step codec retry input).inHand = some (task, datagram) := by
  cases input with
  | send peer secret record => exact (inHand_begin peer secret record).trans held
  | finish other => exact (inHand_finish other).trans held
  | datagram source bytes => simp [step, receive, held]
  | deliver => exact absurd rfl notDelivered
  | tick | start | transmit | poll | recvError => exact held

/-- What the reader has in hand it has taken from an entry. -/
theorem inHand_of_inHand_step {task : Nat} {datagram : Bytes} {input : Input}
    (held : (s.step codec retry input).inHand = some (task, datagram)) :
    s.inHand = some (task, datagram) ∨
      ∃ source bytes, input = .datagram source bytes ∧ HasHeader bytes ∧
        s.entry source (identifierOf bytes) = some task ∧ datagram = received bytes := by
  cases input with
  | send peer secret record => exact .inl ((inHand_begin peer secret record).symm.trans held)
  | finish other => exact .inl ((inHand_finish other).symm.trans held)
  | datagram source bytes =>
    change (s.receive source bytes).inHand = _ at held
    unfold receive at held
    split at held
    · rename_i taken
      split at held
      · exact .inl held
      · rename_i owner registered
        cases held
        exact .inr ⟨source, bytes, rfl, taken.2.2, registered, rfl⟩
    · exact .inl held
  | deliver =>
    change s.deliver.inHand = _ at held
    unfold deliver at held
    split at held
    · exact .inl held
    · cases held
  | tick | start | transmit | poll | recvError => exact .inl held

theorem inHand_receive {task : Nat} {source : SocketAddr} {bytes : Bytes}
    (reading : s.reading = true) (idle : s.inHand = none) (header : HasHeader bytes)
    (registered : s.entry source (identifierOf bytes) = some task) :
    (s.step codec retry (.datagram source bytes)).inHand = some (task, received bytes) := by
  simp [step, receive, reading, idle, header, registered]

end Reader

end AcctClient

end SstpServer.Radius
