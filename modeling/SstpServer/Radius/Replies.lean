import SstpServer.Radius.Identifiers

/-!
# Replies to retransmitted requests

A call that hears nothing builds its request anew, with the time that has passed since it began;
the request has another authenticator then.  When a reply comes, the call checks it against the
request it has transmitted last and returns, whichever request the reply was for.
-/

namespace SstpServer.Radius

open SstpServer.Wire
open SstpServer.Transition

namespace Send

/-- The reply verifies against a request of the call. -/
def Answers (codec : Codec) (send : Send) (reply : Bytes) (request : SealedRequest) : Prop :=
  verify codec reply send.secret (requestAuthenticatorFrom request.1) = .ok ()

instance (codec : Codec) (send : Send) (reply : Bytes) (request : SealedRequest) :
    Decidable (send.Answers codec reply request) :=
  inferInstanceAs (Decidable (_ = _))

/-- A request is due. -/
def Transmitting (send : Send) : Prop :=
  ∃ attempt wait, send.phase = .transmitting attempt wait

def Waiting (send : Send) : Prop :=
  ∃ attempt wait deadline request, send.phase = .waiting attempt wait deadline request

/-- The result of the call stands. -/
def Over (send : Send) : Prop :=
  ∃ result, send.phase = .finishing result ∨ send.phase = .done result

/-- The last timeout of the call has not expired. -/
def OnAttempt (send : Send) : Prop :=
  send.Transmitting ∨ send.Waiting

end Send

namespace AcctClient

/-! ## Channels -/

/-- What holds of every call. -/
structure Linked (s : AcctClient) (task : Nat) (send : Send) : Prop where
  /-- A call waits on the request that it has transmitted last. -/
  last : ∀ attempt wait deadline request,
    send.phase = .waiting attempt wait deadline request →
      send.transmitted.getLast? = some request
  /-- The sender of an open channel is in the table or with the reader. -/
  open_channel : send.reply = .pending → ¬send.Done →
    s.entry send.peer send.identifier = some task ∨ ∃ datagram, s.inHand = some (task, datagram)

def AllLinked (s : AcctClient) : Prop :=
  ∀ task send, s.sends[task]? = some send → s.Linked task send

section Steps

variable {codec : Codec} {retry : AcctRetry} {s : AcctClient}

theorem TaskTurn.last {task : Nat} {input : Input} {send send' : Send}
    (turn : TaskTurn codec retry s task input send send') (linked : s.Linked task send) :
    ∀ attempt wait deadline request,
      send'.phase = .waiting attempt wait deadline request →
        send'.transmitted.getLast? = some request := by
  intro attempt wait deadline request phase
  cases turn with
  | idle | hand | cut => exact linked.last _ _ _ _ phase
  | transmit =>
    cases phase
    exact List.getLast?_concat
  | start | fail | take | cancel | again | expire | finish => cases phase

theorem TaskTurn.pending {task : Nat} {input : Input} {send send' : Send}
    (turn : TaskTurn codec retry s task input send send') (pending : send'.reply = .pending)
    (unfinished : ¬send'.Done) : send.reply = .pending ∧ ¬send.Done := by
  refine ⟨?_, fun ended => unfinished (turn.done ended)⟩
  cases turn with
  | finish => exact absurd ⟨_, rfl⟩ unfinished
  | hand | cut => cases pending
  | idle | start | fail | transmit | take | cancel | again | expire => exact pending

theorem open_channel_step {task : Nat} {send send' : Send} (input : Input)
    (found : s.sends[task]? = some send) (linked : s.Linked task send)
    (found' : (s.step codec retry input).sends[task]? = some send')
    (turn : TaskTurn codec retry s task input send send')
    (pending : send'.reply = .pending) (unfinished : ¬send'.Done) :
    (s.step codec retry input).entry send'.peer send'.identifier = some task ∨
      ∃ datagram, (s.step codec retry input).inHand = some (task, datagram) := by
  rcases turn.pending pending unfinished with ⟨before, going⟩
  rw [turn.keeps.1, turn.keeps.2]
  rcases linked.open_channel before going with entered | ⟨datagram, held⟩
  · have entryTurn := entryTurn_step codec retry s input send.peer send.identifier
    rw [entered] at entryTurn
    generalize after : (s.step codec retry input).entry send.peer send.identifier = entry
      at entryTurn
    cases entryTurn with
    | same => exact .inl rfl
    | read carries reading idle =>
      cases input with
      | datagram source bytes =>
        rcases carries with ⟨rfl, header, carried⟩
        rw [← carried] at entered
        exact .inr ⟨_, inHand_receive reading idle header entered⟩
      | _ => exact carries.elim
    | @reclaim other owner result _ foundOwner phase atPeer underId =>
      have finished := getElem?_sends_finish found foundOwner phase
      rw [atPeer, underId, if_pos entered] at finished
      cases found'.symm.trans finished
      cases pending
  · by_cases delivered : input = .deliver
    · subst delivered
      cases found'.symm.trans (getElem?_sends_deliver found held)
      cases pending
    · exact .inr ⟨datagram, inHand_step_of_held held delivered⟩

theorem allLinked_step (input : Input) (linked : s.AllLinked) :
    (s.step codec retry input).AllLinked := by
  intro task send' found'
  rcases taskTurn_or_fresh found' with ⟨send, found, turn⟩ |
    ⟨peer, secret, record, rfl, rfl, ⟨phase, _⟩ | ⟨identifier, scanned, rfl⟩⟩
  · have before := linked task send found
    exact ⟨turn.last before, open_channel_step input found before found' turn⟩
  · refine ⟨?_, fun _ unfinished => absurd ⟨_, phase⟩ unfinished⟩
    intro attempt wait deadline request waiting
    cases phase.symm.trans waiting
  · refine ⟨?_, fun _ _ => .inl ?_⟩
    · intro attempt wait deadline request waiting
      cases waiting
    · exact entry_send secret record
        (((s.peers peer).allocate_eq_some_iff identifier).mp scanned)

end Steps

/-! ## A call whose sender is gone -/

/-- No entry is that of the call, and none will be. -/
structure Unregistered (task : Nat) (s : AcctClient) : Prop where
  begun : task < s.sends.length
  entry_ne : ∀ peer id, s.entry peer id ≠ some task

/-- No reply will be handed to the call any more. -/
structure Settled (task : Nat) (s : AcctClient) : Prop extends Unregistered task s where
  inHand_ne : ∀ datagram, s.inHand ≠ some (task, datagram)

section Settling

variable {codec : Codec} {retry : AcctRetry} {s : AcctClient} {task : Nat}

theorem length_le_length_step (input : Input) (begun : task < s.sends.length) :
    task < (s.step codec retry input).sends.length := by
  rcases exists_taskTurn codec retry input (List.getElem?_eq_getElem begun) with ⟨_, found, _⟩
  exact (List.getElem?_eq_some_iff.mp found).1

theorem Unregistered.step (input : Input) (gone : s.Unregistered task) :
    (s.step codec retry input).Unregistered task := by
  refine ⟨length_le_length_step input gone.begun, ?_⟩
  intro peer id entered
  have turn := entryTurn_step codec retry s input peer id
  rw [entered] at turn
  generalize before : s.entry peer id = owner at turn
  cases turn with
  | same => exact gone.entry_ne peer id before
  | take => exact absurd gone.begun (Nat.lt_irrefl _)

theorem Settled.step (input : Input) (settled : s.Settled task) :
    (s.step codec retry input).Settled task := by
  refine ⟨settled.toUnregistered.step input, ?_⟩
  intro datagram held
  rcases inHand_of_inHand_step held with before | ⟨source, bytes, _, _, entered, _⟩
  · exact settled.inHand_ne datagram before
  · exact settled.entry_ne source _ entered

/-- The entry of a call is under its own identifier. -/
theorem unregistered_of_entry_ne {send : Send} (registered : s.Registered)
    (found : s.sends[task]? = some send)
    (gone : s.entry send.peer send.identifier ≠ some task) : s.Unregistered task := by
  refine ⟨(List.getElem?_eq_some_iff.mp found).1, ?_⟩
  intro peer id entered
  rcases registered peer id task entered with ⟨owner, foundOwner, rfl, rfl, _⟩
  cases found.symm.trans foundOwner
  exact gone entered

end Settling

/-! ## After the hand-over -/

/-- The reply verifies against the request transmitted last; a request that was due when the reply
was handed over has been transmitted. -/
def AnswersLast (codec : Codec) (origin send : Send) (reply : Bytes) : Prop :=
  (∃ request, send.transmitted.getLast? = some request ∧ send.Answers codec reply request) ∧
    (origin.Transmitting → send.transmitted ≠ origin.transmitted)

/-- How a call stands that has been handed a reply. -/
inductive Conclusion (codec : Codec) (origin : Send) (reply : Bytes) : Send → Prop where
  | due {send : Send} {attempt wait : Nat} (phase : send.phase = .transmitting attempt wait)
      (full : send.reply = .full reply) (same : send.transmitted = origin.transmitted)
      (due : origin.Transmitting) : Conclusion codec origin reply send
  | waits {send : Send} {attempt wait deadline : Nat} {request : SealedRequest}
      (phase : send.phase = .waiting attempt wait deadline request)
      (full : send.reply = .full reply) (last : send.transmitted.getLast? = some request)
      (sent : origin.Transmitting → send.transmitted ≠ origin.transmitted) :
      Conclusion codec origin reply send
  | finishes {send : Send} {result : AcctResult} (phase : send.phase = .finishing result)
      (exactly : result = .ok () ↔ AnswersLast codec origin send reply) :
      Conclusion codec origin reply send
  | returned {send : Send} {result : AcctResult} (phase : send.phase = .done result)
      (exactly : result = .ok () ↔ AnswersLast codec origin send reply) :
      Conclusion codec origin reply send

/-- How many turns a call needs at most once it has its reply. -/
def rank (send : Send) : Nat :=
  match send.phase with
  | .starting => 4
  | .transmitting .. => 3
  | .waiting .. => 2
  | .finishing _ => 1
  | .done _ => 0

section Concluding

variable {codec : Codec} {retry : AcctRetry} {s : AcctClient} {task : Nat} {origin : Send}
  {reply : Bytes}

theorem answersLast_iff {send : Send} {request : SealedRequest}
    (last : send.transmitted.getLast? = some request)
    (sent : origin.Transmitting → send.transmitted ≠ origin.transmitted) :
    AnswersLast codec origin send reply ↔ send.Answers codec reply request := by
  constructor
  · rintro ⟨⟨other, lastOther, answers⟩, _⟩
    cases last.symm.trans lastOther
    exact answers
  · intro answers
    exact ⟨⟨request, last, answers⟩, sent⟩

/-- With its reply in the channel, a call moves on only by its own turns. -/
theorem Conclusion.turn {input : Input} {send send' : Send} (settled : s.Settled task)
    (conclusion : Conclusion codec origin reply send)
    (turn : TaskTurn codec retry s task input send send') :
    Conclusion codec origin reply send' ∧ rank send' ≤ rank send := by
  cases turn with
  | idle => exact ⟨conclusion, Nat.le_refl _⟩
  | hand datagram inHand => exact absurd inHand (settled.inHand_ne datagram)
  | cut _ _ _ registered => exact absurd registered (settled.entry_ne _ _)
  | start phase =>
    cases conclusion with
    | due other | waits other | finishes other | returned other => cases phase.symm.trans other
  | fail sent error phase =>
    cases conclusion with
    | due _ _ same due =>
      refine ⟨.finishes rfl (iff_of_false ?_ fun last => last.2 due same), by simp [rank, phase]⟩
      intro ok
      cases ok
    | waits other | finishes other | returned other => cases phase.symm.trans other
  | transmit request phase =>
    cases conclusion with
    | due _ full same _ =>
      refine ⟨.waits rfl full List.getLast?_concat ?_, by simp [rank, phase]⟩
      intro _ unchanged
      simp [same] at unchanged
    | waits other | finishes other | returned other => cases phase.symm.trans other
  | take elapsed phase taken =>
    cases conclusion with
    | waits other full last sent =>
      cases phase.symm.trans other
      cases taken.symm.trans full
      exact ⟨.finishes rfl (answersLast_iff last sent).symm, by simp [rank, phase]⟩
    | due other | finishes other | returned other => cases phase.symm.trans other
  | cancel _ phase unlike | again phase unlike | expire phase unlike =>
    cases conclusion with
    | waits _ full => cases unlike.symm.trans full
    | due other | finishes other | returned other => cases phase.symm.trans other
  | finish _ phase =>
    cases conclusion with
    | finishes other exactly =>
      cases phase.symm.trans other
      exact ⟨.returned rfl exactly, by simp [rank]⟩
    | due other | waits other | returned other => cases phase.symm.trans other

/-- The call has its reply and needs at most so many more turns. -/
def Concludes (codec : Codec) (origin : Send) (reply : Bytes) (task turns : Nat)
    (s : AcctClient) : Prop :=
  s.Settled task ∧ ∃ send, s.sends[task]? = some send ∧ Conclusion codec origin reply send ∧
    rank send ≤ turns

theorem concludes_step {turns : Nat} (s : AcctClient) (input : Input)
    (concludes : Concludes codec origin reply task turns s) :
    Concludes codec origin reply task turns (s.step codec retry input) := by
  rcases concludes with ⟨settled, send, found, conclusion, bound⟩
  rcases exists_taskTurn codec retry input found with ⟨send', found', turn⟩
  rcases conclusion.turn settled turn with ⟨conclusion', less⟩
  exact ⟨settled.step input, send', found', conclusion', less.trans bound⟩

theorem getElem?_sends_update {send : Send} (change : Send → Send)
    (found : s.sends[task]? = some send) :
    (s.update task change).sends[task]? = some (change send) := by
  simp [update, found]

/-- A turn of the call brings it on. -/
theorem concludes_of_turn {turns : Nat} {input : Input}
    (advances : ∀ send, s.sends[task]? = some send → Conclusion codec origin reply send →
      rank send ≤ turns + 1 → ∃ send', (s.step codec retry input).sends[task]? = some send' ∧
        rank send' ≤ turns)
    (concludes : Concludes codec origin reply task (turns + 1) s) :
    Concludes codec origin reply task turns (s.step codec retry input) := by
  rcases concludes with ⟨settled, send, found, conclusion, bound⟩
  rcases exists_taskTurn codec retry input found with ⟨send', found', turn⟩
  rcases advances send found conclusion bound with ⟨next, foundNext, less⟩
  cases found'.symm.trans foundNext
  exact ⟨settled.step input, send', found', (conclusion.turn settled turn).1, less⟩

theorem concludes_transmit (sent : Bool) (s : AcctClient)
    (concludes : Concludes codec origin reply task 3 s) :
    Concludes codec origin reply task 2 (s.step codec retry (.transmit task sent)) := by
  apply concludes_of_turn _ concludes
  intro send found conclusion _
  refine ⟨_, getElem?_sends_update _ found, ?_⟩
  unfold Send.transmit
  cases conclusion with
  | due phase =>
    rw [phase]
    dsimp only
    split
    · simp [rank]
    · split_ifs <;> simp [rank]
  | waits phase | finishes phase | returned phase =>
    rw [phase]
    simp [rank, phase]

theorem concludes_poll (elapsed : Bool) (s : AcctClient)
    (concludes : Concludes codec origin reply task 2 s) :
    Concludes codec origin reply task 1 (s.step codec retry (.poll task elapsed)) := by
  apply concludes_of_turn _ concludes
  intro send found conclusion bound
  refine ⟨_, getElem?_sends_update _ found, ?_⟩
  unfold Send.poll
  cases conclusion with
  | due phase => simp [rank, phase] at bound
  | waits phase full =>
    rw [phase]
    dsimp only
    rw [full]
    simp [rank]
  | finishes phase | returned phase =>
    rw [phase]
    simp [rank, phase]

theorem concludes_finish (s : AcctClient)
    (concludes : Concludes codec origin reply task 1 s) :
    Concludes codec origin reply task 0 (s.step codec retry (.finish task)) := by
  apply concludes_of_turn _ concludes
  intro send found conclusion bound
  cases conclusion with
  | due phase | waits phase => simp [rank, phase] at bound
  | finishes phase =>
    refine ⟨_, getElem?_sends_finish found found phase, ?_⟩
    simp [rank]
  | returned phase =>
    refine ⟨send, ?_, by simp [rank, phase]⟩
    simp [step, finish, found, phase]

/-- Three turns of the call are enough. -/
theorem concludes_of_turns {sent elapsed : Bool} {inputs : List Input}
    (concludes : Concludes codec origin reply task 3 s)
    (turns : [.transmit task sent, .poll task elapsed, .finish task].Sublist inputs) :
    Concludes codec origin reply task 0 (finalState (step codec retry) s inputs) := by
  rcases List.cons_sublist_iff.mp turns with ⟨first, rest, rfl, transmits, turns⟩
  rcases List.cons_sublist_iff.mp turns with ⟨second, third, rfl, polls, turns⟩
  have finishes := List.singleton_sublist.mp turns
  rw [finalState_append, finalState_append]
  apply finalState_of_mem concludes_step concludes_step concludes_finish _ finishes
  apply finalState_of_mem concludes_step concludes_step (concludes_poll elapsed) _ polls
  exact finalState_of_mem concludes_step concludes_step (concludes_transmit sent) concludes transmits

theorem resultAt_iff_of_concludes (concludes : Concludes codec origin reply task 0 s) :
    s.resultAt task = some (.ok ()) ↔
      ∃ send, s.sends[task]? = some send ∧ AnswersLast codec origin send reply := by
  rcases concludes with ⟨_, send, found, conclusion, bound⟩
  cases conclusion with
  | due phase | waits phase | finishes phase => simp [rank, phase] at bound
  | returned phase exactly => simp [resultAt, found, Send.result?, phase, exactly]

end Concluding

/-! ## A closed channel -/

/-- The channel of the call is closed, and the call has not returned Ok. -/
def CutOff (task : Nat) (s : AcctClient) : Prop :=
  s.Settled task ∧ ∃ send, s.sends[task]? = some send ∧ send.reply = .closed ∧
    send.phase ≠ .finishing (.ok ()) ∧ send.phase ≠ .done (.ok ())

/-! ## The arrival of a response -/

section Arrival

variable {codec : Codec} {retry : AcctRetry} {s : AcctClient} {task : Nat}

theorem cutOff_step (s : AcctClient) (input : Input) (cut : s.CutOff task) :
    (s.step codec retry input).CutOff task := by
  rcases cut with ⟨settled, send, found, closed, notFinishing, notDone⟩
  rcases exists_taskTurn codec retry input found with ⟨send', found', turn⟩
  refine ⟨settled.step input, send', found', ?_⟩
  cases turn with
  | idle => exact ⟨closed, notFinishing, notDone⟩
  | hand datagram inHand => exact absurd inHand (settled.inHand_ne datagram)
  | cut _ _ _ registered => exact absurd registered (settled.entry_ne _ _)
  | take _ _ full => cases closed.symm.trans full
  | again _ pending | expire _ pending => cases closed.symm.trans pending
  | start | fail | transmit | cancel => exact ⟨closed, by simp, by simp⟩
  | finish kept phase =>
    refine ⟨?_, by simp, ?_⟩
    · rcases kept with same | now
      · exact same.trans closed
      · exact now
    · intro ended
      cases ended
      exact notFinishing phase

/-- A datagram with the identifier of the call has come since it began. -/
def HeardOf (history : List (AcctClient × Input)) (task : Nat) (send : Send) : Prop :=
  ∃ visit ∈ history, task < visit.1.sends.length ∧ Carries send.peer send.identifier visit.2

/-- The reader has taken the reply since the call began, off a datagram from its server that has a
header and its identifier. -/
def Took (history : List (AcctClient × Input)) (task : Nat) (send : Send) (reply : Bytes) : Prop :=
  ∃ visit ∈ history, task < visit.1.sends.length ∧ ∃ bytes,
    visit.2 = .datagram send.peer bytes ∧ HasHeader bytes ∧ identifierOf bytes = send.identifier ∧
      reply = received bytes

/-- The reader has taken whatever a call has been handed, or is about to be. -/
structure Traced (history : List (AcctClient × Input)) (s : AcctClient) : Prop where
  registered : s.Registered
  inHand : ∀ task datagram, s.inHand = some (task, datagram) →
    ∃ send, s.sends[task]? = some send ∧ Took history task send datagram
  full : ∀ task send reply, s.sends[task]? = some send → send.reply = .full reply →
    Took history task send reply

theorem Took.heardOf {history : List (AcctClient × Input)} {send : Send} {reply : Bytes}
    (took : Took history task send reply) : HeardOf history task send := by
  rcases took with ⟨visit, member, begun, bytes, datagram, header, carried, _⟩
  refine ⟨visit, member, begun, ?_⟩
  rw [datagram]
  exact ⟨rfl, header, carried⟩

theorem Took.turn {history : List (AcctClient × Input)} {visit : AcctClient × Input}
    {input : Input} {send send' : Send} {reply : Bytes}
    (turn : TaskTurn codec retry s task input send send')
    (took : Took history task send reply) : Took (history ++ [visit]) task send' reply := by
  rcases took with ⟨earlier, member, taken⟩
  rw [← turn.keeps.1, ← turn.keeps.2] at taken
  exact ⟨earlier, List.mem_append_left _ member, taken⟩

theorem TaskTurn.full {input : Input} {send send' : Send} {reply : Bytes}
    (turn : TaskTurn codec retry s task input send send') (full : send'.reply = .full reply) :
    send.reply = .full reply ∨ s.inHand = some (task, reply) := by
  cases turn with
  | hand datagram inHand =>
    cases full
    exact .inr inHand
  | cut => cases full
  | finish kept =>
    rcases kept with same | closed
    · exact .inl (same.symm.trans full)
    · cases closed.symm.trans full
  | idle | start | fail | transmit | take | cancel | again | expire => exact .inl full

theorem traced_step (history : List (AcctClient × Input)) (s : AcctClient) (input : Input)
    (traced : Traced history s) :
    Traced (history ++ [(s, input)]) (s.step codec retry input) := by
  refine ⟨registered_step codec retry input traced.registered, ?_, ?_⟩
  · intro task datagram held
    rcases inHand_of_inHand_step held with before | ⟨source, bytes, rfl, header, entered, rfl⟩
    · rcases traced.inHand task datagram before with ⟨send, found, took⟩
      rcases exists_taskTurn codec retry input found with ⟨send', found', turn⟩
      exact ⟨send', found', took.turn turn⟩
    · rcases traced.registered _ _ _ entered with ⟨send, found, rfl, underId, _⟩
      rcases exists_taskTurn codec retry (.datagram send.peer bytes) found with
        ⟨send', found', turn⟩
      refine ⟨send', found', (s, .datagram send.peer bytes), List.mem_append_right _ ?_, ?_, bytes,
        ?_⟩
      · exact List.mem_singleton_self _
      · exact (List.getElem?_eq_some_iff.mp found).1
      · rw [turn.keeps.1, turn.keeps.2]
        exact ⟨rfl, header, underId.symm, rfl⟩
  · intro task send' reply found' full
    rcases taskTurn_or_fresh found' with ⟨send, found, turn⟩ |
      ⟨peer, secret, record, _, _, ⟨_, closed⟩ | ⟨identifier, _, rfl⟩⟩
    · rcases turn.full full with before | inHand
      · exact (traced.full task send reply found before).turn turn
      · rcases traced.inHand task reply inHand with ⟨owner, foundOwner, took⟩
        cases found.symm.trans foundOwner
        exact took.turn turn
    · cases closed.symm.trans full
    · cases full

theorem TaskTurn.stillOver {input : Input} {send send' : Send}
    (turn : TaskTurn codec retry s task input send send') (ended : send.Over) : send'.Over := by
  rcases ended with ⟨result, stands⟩
  cases turn with
  | idle | hand | cut => exact ⟨result, stands⟩
  | finish => exact ⟨_, .inr rfl⟩
  | start phase | fail _ _ phase | transmit _ phase | take _ phase | cancel _ phase | again phase
  | expire phase =>
    rcases stands with finishing | done
    · cases phase.symm.trans finishing
    · cases phase.symm.trans done

theorem not_over_of_onAttempt {send : Send} (onAttempt : send.OnAttempt) : ¬send.Over := by
  rintro ⟨result, finishing | done⟩
  · rcases onAttempt with ⟨_, _, phase⟩ | ⟨_, _, _, _, phase⟩ <;> cases phase.symm.trans finishing
  · rcases onAttempt with ⟨_, _, phase⟩ | ⟨_, _, _, _, phase⟩ <;> cases phase.symm.trans done

/-- The call goes on under its peer and identifier, and its result stands if it did. -/
def Continues (task : Nat) (send : Send) (s : AcctClient) : Prop :=
  ∃ send', s.sends[task]? = some send' ∧ send'.peer = send.peer ∧
    send'.identifier = send.identifier ∧ (send.Over → send'.Over)

theorem continues_step {send : Send} (s : AcctClient) (input : Input)
    (continues : s.Continues task send) : (s.step codec retry input).Continues task send := by
  rcases continues with ⟨next, found, atPeer, underId, ended⟩
  rcases exists_taskTurn codec retry input found with ⟨send', found', turn⟩
  exact ⟨send', found', turn.keeps.1.trans atPeer, turn.keeps.2.trans underId,
    fun stands => turn.stillOver (ended stands)⟩

theorem inHand_run {datagram : Bytes} {inputs : List Input}
    (held : s.inHand = some (task, datagram)) (undelivered : .deliver ∉ inputs) :
    (finalState (step codec retry) s inputs).inHand = some (task, datagram) := by
  induction inputs generalizing s with
  | nil => exact held
  | cons input rest ih =>
    rw [List.mem_cons, not_or] at undelivered
    exact ih (inHand_step_of_held held (Ne.symm undelivered.1)) undelivered.2

/-! ## The result of a call that receives a response -/

/-- The states of a run from the start. -/
abbrev reach (codec : Codec) (retry : AcctRetry) (inputs : List Input) : AcctClient :=
  finalState (step codec retry) initial inputs

theorem registered_reach (inputs : List Input) : (reach codec retry inputs).Registered :=
  finalState_invariant (fun _ input registered => registered_step codec retry input registered)
    registered_initial inputs

theorem allLinked_reach (inputs : List Input) : (reach codec retry inputs).AllLinked := by
  apply finalState_invariant (fun _ input linked => allLinked_step input linked)
  rintro task send ⟨⟩

theorem traced_reach (inputs : List Input) :
    Traced (visits (step codec retry) initial inputs) (reach codec retry inputs) := by
  apply visits_finalState_induction traced_step
  refine ⟨registered_initial, ?_, ?_⟩
  · rintro task datagram ⟨⟩
  · rintro task send reply ⟨⟩

/-- The reader takes a datagram with the identifier of the call, the first one that has come, and
hands it over before the last timeout of the call expires. -/
structure Handed (codec : Codec) (retry : AcctRetry) (before between : List Input) (task : Nat)
    (source : SocketAddr) (bytes : Bytes) (send : Send) : Prop where
  begun : task < (reach codec retry before).sends.length
  reading : (reach codec retry before).reading = true
  idle : (reach codec retry before).inHand = none
  undelivered : .deliver ∉ between
  found : (reach codec retry (before ++ .datagram source bytes :: between)).sends[task]? =
    some send
  onAttempt : send.OnAttempt
  carries : Carries send.peer send.identifier (.datagram source bytes)
  alone : ¬HeardOf (visits (step codec retry) initial before) task send

/-- The datagram is a response to one of the requests that the call has transmitted. -/
structure Receives (codec : Codec) (retry : AcctRetry) (before between : List Input) (task : Nat)
    (source : SocketAddr) (bytes : Bytes) (send : Send) : Prop
    extends Handed codec retry before between task source bytes send where
  answers : ∃ request ∈ send.transmitted, send.Answers codec (received bytes) request

section Handed

variable {before between : List Input} {source : SocketAddr} {bytes : Bytes} {send : Send}

/-- The call as it stands when the response comes. -/
theorem Handed.exists_before (handed : Handed codec retry before between task source bytes send) :
    ∃ call, (reach codec retry before).sends[task]? = some call ∧ call.peer = send.peer ∧
      call.identifier = send.identifier ∧ ¬call.Over := by
  cases found : (reach codec retry before).sends[task]? with
  | none =>
    exact absurd (List.getElem?_eq_none_iff.mp found) (Nat.not_le.mpr handed.begun)
  | some call =>
    have continues : (finalState (step codec retry) (reach codec retry before)
        (.datagram source bytes :: between)).Continues task call :=
      finalState_invariant continues_step ⟨call, found, rfl, rfl, id⟩ _
    rw [← finalState_append] at continues
    rcases continues with ⟨send', found', atPeer, underId, ended⟩
    cases found'.symm.trans handed.found
    exact ⟨call, rfl, atPeer.symm, underId.symm,
      fun stands => not_over_of_onAttempt handed.onAttempt (ended stands)⟩

theorem Handed.cutOff (handed : Handed codec retry before between task source bytes send)
    (gone : (reach codec retry before).entry send.peer send.identifier ≠ some task) :
    (reach codec retry before).CutOff task := by
  rcases handed.exists_before with ⟨call, found, atPeer, underId, going⟩
  rw [← atPeer, ← underId] at gone
  have unregistered := unregistered_of_entry_ne (registered_reach before) found gone
  have inHand : ∀ datagram, (reach codec retry before).inHand ≠ some (task, datagram) := by
    intro datagram held
    cases handed.idle.symm.trans held
  refine ⟨⟨unregistered, inHand⟩, call, found, ?_, ?_, ?_⟩
  · cases reply : call.reply with
    | closed => rfl
    | pending =>
      have unfinished : ¬call.Done := fun ⟨result, phase⟩ => going ⟨result, .inr phase⟩
      rcases (allLinked_reach before task call found).open_channel reply unfinished with
        entered | ⟨datagram, held⟩
      · exact absurd entered gone
      · exact absurd held (inHand datagram)
    | full datagram =>
      have heard := ((traced_reach before).full task call datagram found reply).heardOf
      unfold HeardOf at heard
      rw [atPeer, underId] at heard
      exact absurd heard handed.alone
  · exact fun phase => going ⟨_, .inl phase⟩
  · exact fun phase => going ⟨_, .inr phase⟩

theorem reach_append (first : List Input) (input : Input) (second : List Input) :
    reach codec retry (first ++ input :: second) =
      finalState (step codec retry) ((reach codec retry first).step codec retry input) second := by
  rw [reach, finalState_append, finalState_cons]

/-- The reader takes the datagram and holds it until it delivers it. -/
theorem Handed.inHand (handed : Handed codec retry before between task source bytes send)
    (intact : (reach codec retry before).entry send.peer send.identifier = some task) :
    (reach codec retry (before ++ .datagram source bytes :: between)).inHand =
      some (task, received bytes) := by
  rcases handed.carries with ⟨rfl, header, carried⟩
  rw [← carried] at intact
  rw [reach_append]
  exact inHand_run (inHand_receive handed.reading handed.idle header intact) handed.undelivered

/-- The entry of the call is gone then, so no other call can get at its channel. -/
theorem Handed.unregistered (handed : Handed codec retry before between task source bytes send) :
    (reach codec retry (before ++ .datagram source bytes :: between)).Unregistered task := by
  rcases handed.exists_before with ⟨call, found, atPeer, underId, _⟩
  rcases handed.carries with ⟨rfl, header, carried⟩
  rw [reach_append]
  apply finalState_invariant fun _ input gone => gone.step input
  rcases exists_taskTurn codec retry (.datagram send.peer bytes) found with ⟨next, foundNext, turn⟩
  apply unregistered_of_entry_ne (registered_step codec retry _ (registered_reach before)) foundNext
  rw [turn.keeps.1, turn.keeps.2, atPeer, underId, ← carried,
    entry_receive handed.reading handed.idle header]
  intro entered
  cases entered

/-- After the hand-over, three turns of the call are ahead at most. -/
theorem Handed.concludes (handed : Handed codec retry before between task source bytes send)
    (intact : (reach codec retry before).entry send.peer send.identifier = some task) :
    Concludes codec send (received bytes) task 3
      ((reach codec retry (before ++ .datagram source bytes :: between)).step codec retry
        .deliver) := by
  have settled : ((reach codec retry (before ++ .datagram source bytes :: between)).step codec
      retry .deliver).Settled task := by
    refine ⟨handed.unregistered.step .deliver, ?_⟩
    intro datagram still
    cases inHand_deliver.symm.trans still
  have found := getElem?_sends_deliver handed.found (handed.inHand intact)
  have linked := allLinked_reach _ task send handed.found
  rcases handed.onAttempt with ⟨attempt, wait, phase⟩ | ⟨attempt, wait, deadline, request, phase⟩
  · exact ⟨settled, _, found, .due phase rfl rfl ⟨attempt, wait, phase⟩, by simp [rank, phase]⟩
  · refine ⟨settled, _, found, .waits phase rfl (linked.last _ _ _ _ phase) ?_,
      by simp [rank, phase]⟩
    rintro ⟨_, _, transmitting⟩
    cases phase.symm.trans transmitting

theorem resultAt_ne_ok_of_cutOff (cut : s.CutOff task) : s.resultAt task ≠ some (.ok ()) := by
  rcases cut with ⟨_, send, found, _, _, notDone⟩
  unfold resultAt Send.result?
  rw [found]
  intro returned
  simp only [Option.bind_some] at returned
  split at returned
  · rename_i result phase
    cases returned
    exact notDone phase
  · cases returned

/-- A call that is handed a datagram and then gets its turns returns Ok if and only if the datagram
was taken for it and verifies against the request that it has transmitted last. -/
theorem Handed.returned_iff {after : List Input} {sent elapsed : Bool}
    (handed : Handed codec retry before between task source bytes send)
    (turns : [.transmit task sent, .poll task elapsed, .finish task].Sublist after) :
    (reach codec retry (before ++ .datagram source bytes :: between ++ .deliver :: after)).resultAt
        task = some (.ok ()) ↔
      (reach codec retry before).entry send.peer send.identifier = some task ∧
        ∃ last, (reach codec retry
            (before ++ .datagram source bytes :: between ++ .deliver :: after)).sends[task]? =
              some last ∧
          AnswersLast codec send last (received bytes) := by
  by_cases intact : (reach codec retry before).entry send.peer send.identifier = some task
  · rw [reach_append,
      resultAt_iff_of_concludes (concludes_of_turns (handed.concludes intact) turns)]
    exact (and_iff_right intact).symm
  · have cut : (reach codec retry
        (before ++ .datagram source bytes :: between ++ .deliver :: after)).CutOff task := by
      rw [reach, List.append_assoc, finalState_append]
      exact finalState_invariant cutOff_step (handed.cutOff intact) _
    exact iff_of_false (resultAt_ne_ok_of_cutOff cut) fun both => intact both.1

end Handed

end Arrival

/-- A call that receives a response to one of its requests, and then gets its turns, returns Ok if
and only if no clean-up of another call has removed its entry and the response also verifies
against the request that it has transmitted last. -/
theorem resultAt_eq_ok_iff {codec : Codec} {retry : AcctRetry} {before between after : List Input}
    {task : Nat} {source : SocketAddr} {bytes : Bytes} {send : Send} {sent elapsed : Bool}
    (receives : Receives codec retry before between task source bytes send)
    (turns : [.transmit task sent, .poll task elapsed, .finish task].Sublist after) :
    (reach codec retry (before ++ .datagram source bytes :: between ++ .deliver :: after)).resultAt
        task = some (.ok ()) ↔
      (reach codec retry before).entry send.peer send.identifier = some task ∧
        ∃ last, (reach codec retry
            (before ++ .datagram source bytes :: between ++ .deliver :: after)).sends[task]? =
              some last ∧
          AnswersLast codec send last (received bytes) :=
  receives.toHanded.returned_iff turns

/-! ## A response before and after the retry -/

theorem not_heardOf {codec : Codec} {retry : AcctRetry} {inputs : List Input} {task : Nat}
    {send : Send} (quiet : ∀ input ∈ inputs, ∀ peer id, ¬Carries peer id input) :
    ¬HeardOf (visits (step codec retry) initial inputs) task send := by
  rintro ⟨⟨state, input⟩, visited, _, carries⟩
  rcases mem_visits_iff.mp visited with ⟨early, late, rfl, _⟩
  exact quiet input (by simp) _ _ carries

/-- The request that the first call transmits after some seconds. -/
def firstRequest (delaySecs : UInt32) : SealedRequest :=
  (build (Codec.ofDigest checksum) 0 [] roundRecord delaySecs).getD ⟨List.replicate 20 0, by simp⟩

/-- The response to the first request of the first call. -/
def firstResponse : Bytes :=
  sealWith checksum [5, 0, 0, 20] (requestAuthenticatorFrom (firstRequest 0).1) [] []

/-- The call has transmitted its request. -/
def firstAttempt : List Input :=
  [.send roundPeer [] roundRecord, .start 0, .transmit 0 true]

/-- The first timeout has expired and the call has transmitted its request again. -/
def firstRetry : List Input :=
  firstAttempt ++ [.tick 1000000000, .poll 0 true, .transmit 0 true]

def lastTurns : List Input :=
  [.transmit 0 true, .poll 0 false, .finish 0]

def firstCall (phase : Phase) (transmitted : List SealedRequest) : Send :=
  { peer := roundPeer, secret := [], record := roundRecord, identifier := 0, phase, transmitted }

theorem receives_firstAttempt :
    Receives (Codec.ofDigest checksum) {} firstAttempt [] 0 roundPeer firstResponse
      (firstCall (.waiting 0 1000000000 1000000000 (firstRequest 0)) [firstRequest 0]) where
  begun := by decide
  reading := rfl
  idle := rfl
  undelivered := List.not_mem_nil
  found := by decide +kernel
  onAttempt := .inr ⟨_, _, _, _, rfl⟩
  carries := ⟨rfl, by decide +kernel, by decide +kernel⟩
  answers := by decide +kernel
  alone := not_heardOf (by simp [firstAttempt, Carries])

/-- In time, the response is accepted. -/
theorem resultAt_firstAttempt :
    (reach (Codec.ofDigest checksum) {}
      (firstAttempt ++ .datagram roundPeer firstResponse :: [] ++ .deliver :: lastTurns)).resultAt
        0 = some (.ok ()) := by
  apply (resultAt_eq_ok_iff receives_firstAttempt (List.Sublist.refl lastTurns)).mpr
  refine ⟨by decide +kernel,
    { firstCall (.done (.ok ())) [firstRequest 0] with reply := .full firstResponse },
    by decide +kernel, ⟨firstRequest 0, rfl, by decide +kernel⟩, ?_⟩
  rintro ⟨_, _, ⟨⟩⟩

theorem receives_firstRetry :
    Receives (Codec.ofDigest checksum) {} firstRetry [] 0 roundPeer firstResponse
      (firstCall (.waiting 1 2000000000 3000000000 (firstRequest 1))
        [firstRequest 0, firstRequest 1]) where
  begun := by decide
  reading := by decide +kernel
  idle := by decide +kernel
  undelivered := List.not_mem_nil
  found := by decide +kernel
  onAttempt := .inr ⟨_, _, _, _, rfl⟩
  carries := ⟨rfl, by decide +kernel, by decide +kernel⟩
  answers := by decide +kernel
  alone := not_heardOf (by simp [firstRetry, firstAttempt, Carries])

/-- After the retry, the call receives the same response and fails. -/
theorem resultAt_firstRetry :
    Receives (Codec.ofDigest checksum) {} firstRetry [] 0 roundPeer firstResponse
        (firstCall (.waiting 1 2000000000 3000000000 (firstRequest 1))
          [firstRequest 0, firstRequest 1]) ∧
      (reach (Codec.ofDigest checksum) {}
        (firstRetry ++ .datagram roundPeer firstResponse :: [] ++ .deliver :: lastTurns)).resultAt
          0 = some (.error .authenticatorMismatch) :=
  ⟨receives_firstRetry, by decide +kernel⟩

end AcctClient

end SstpServer.Radius
