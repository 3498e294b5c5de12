import SstpServer.Radius.Replies
import SstpServer.Transition.Erasure

/-!
# Forged datagrams

A datagram is forged when it verifies against no request that any call has transmitted.  The
reader does not look at that: it takes the sender of the call whose identifier the datagram has,
and the call checks the datagram only after it has given up its entry.  So a forged datagram can
make a call fail, but it never makes one return Ok.
-/

namespace SstpServer.Radius

open SstpServer.Wire
open SstpServer.Transition

namespace AcctClient

/-- The datagram verifies against a transmitted request. -/
def Genuine (codec : Codec) (s : AcctClient) (bytes : Bytes) : Prop :=
  ∃ send ∈ s.sends, ∃ request ∈ send.transmitted, send.Answers codec (received bytes) request

instance (codec : Codec) (s : AcctClient) (bytes : Bytes) : Decidable (s.Genuine codec bytes) :=
  inferInstanceAs (Decidable (∃ send ∈ s.sends, ∃ request ∈ send.transmitted,
    send.Answers codec (received bytes) request))

def forged (codec : Codec) (s : AcctClient) : Input → Bool
  | .datagram _ bytes => decide (¬s.Genuine codec bytes)
  | _ => false

/-- A forged datagram that the reader takes has no header or meets no entry. -/
def ForgedMisses (codec : Codec) (s : AcctClient) : Input → Prop
  | .datagram source bytes =>
      ¬s.Genuine codec bytes → s.reading = true → s.inHand = none → HasHeader bytes →
        s.entry source (identifierOf bytes) = none
  | _ => True

instance (codec : Codec) (s : AcctClient) (input : Input) : Decidable (s.ForgedMisses codec input) :=
  match input with
  | .datagram source bytes =>
      inferInstanceAs (Decidable (¬s.Genuine codec bytes → s.reading = true → s.inHand = none →
        HasHeader bytes → s.entry source (identifierOf bytes) = none))
  | .tick _ | .send .. | .start _ | .transmit .. | .poll .. | .finish _ | .deliver | .recvError =>
      .isTrue trivial

section Forged

variable {codec : Codec} {retry : AcctRetry}

/-- A forged datagram that meets no entry changes nothing. -/
theorem step_of_forgedMisses {s : AcctClient} {input : Input} (isForged : s.forged codec input = true)
    (misses : s.ForgedMisses codec input) : s.step codec retry input = s := by
  cases input with
  | datagram source bytes =>
    change s.receive source bytes = s
    unfold receive
    split
    · rename_i taken
      rw [misses (of_decide_eq_true isForged) taken.1 taken.2.1 taken.2.2]
    · rfl
  | _ => cases isForged

/-- A call that is handed a datagram that answers none of its requests does not return Ok. -/
theorem resultAt_ne_ok_of_handed {before between after : List Input} {task : Nat}
    {source : SocketAddr} {bytes : Bytes} {send : Send} {sent elapsed : Bool}
    (handed : Handed codec retry before between task source bytes send)
    (turns : [.transmit task sent, .poll task elapsed, .finish task].Sublist after)
    (unanswered : ∀ last, (reach codec retry
        (before ++ .datagram source bytes :: between ++ .deliver :: after)).sends[task]? = some last →
      ∀ request ∈ last.transmitted, ¬last.Answers codec (received bytes) request) :
    (reach codec retry (before ++ .datagram source bytes :: between ++ .deliver :: after)).resultAt
      task ≠ some (.ok ()) := by
  intro returned
  rcases (handed.returned_iff turns).mp returned with ⟨_, last, found, ⟨request, isLast, answers⟩, _⟩
  exact unanswered last found request (List.mem_of_getLast? isLast) answers

/-- Two runs that differ in forged datagrams only, each of which has no header or meets no entry,
return the same results; and a call that is handed a datagram that answers none of its requests
does not return Ok. -/
theorem resultAt_eq_of_forgedMisses {inputs inputs' : List Input}
    (same : erase (step codec retry) (forged codec) initial inputs =
      erase (step codec retry) (forged codec) initial inputs')
    (misses : ∀ visit ∈ visits (step codec retry) initial inputs,
      visit.1.ForgedMisses codec visit.2)
    (misses' : ∀ visit ∈ visits (step codec retry) initial inputs',
      visit.1.ForgedMisses codec visit.2) :
    (reach codec retry inputs).resultAt = (reach codec retry inputs').resultAt ∧
    ∀ before between after task source bytes send sent elapsed,
      Handed codec retry before between task source bytes send →
      [.transmit task sent, .poll task elapsed, .finish task].Sublist after →
      inputs = before ++ .datagram source bytes :: between ++ .deliver :: after →
      (∀ last, (reach codec retry inputs).sends[task]? = some last →
        ∀ request ∈ last.transmitted, ¬last.Answers codec (received bytes) request) →
      (reach codec retry inputs).resultAt task ≠ some (.ok ()) := by
  constructor
  · -- A silent step changes nothing, so the two runs go through equal states.
    refine observe_eq_of_erase_eq ?_ ?_ ?_ rfl same misses misses'
    · rintro state _ input rfl missed isForged
      exact step_of_forgedMisses isForged missed
    · rintro state _ input rfl _ _
      rfl
    · rintro state _ rfl
      rfl
  · rintro before between after task source bytes send sent elapsed handed turns rfl unanswered
    exact resultAt_ne_ok_of_handed handed turns unanswered

end Forged

/-! ## What Ok stands for -/

/-- The reader has taken a reply for the call that verifies against the request that the call has
transmitted last. -/
def Earned (codec : Codec) (history : List (AcctClient × Input)) (task : Nat) (send : Send) :
    Prop :=
  ∃ reply request, Took history task send reply ∧ send.transmitted.getLast? = some request ∧
    send.Answers codec reply request

/-- A call that has its Ok has earned it. -/
structure Sound (codec : Codec) (history : List (AcctClient × Input)) (s : AcctClient) : Prop where
  traced : Traced history s
  linked : s.AllLinked
  ok : ∀ task send, s.sends[task]? = some send →
    send.phase = .finishing (.ok ()) ∨ send.phase = .done (.ok ()) →
      Earned codec history task send

section Ok

variable {codec : Codec} {retry : AcctRetry} {s : AcctClient} {task : Nat}

/-- A call gets its Ok by taking a reply that verifies against its last request, and keeps it. -/
theorem TaskTurn.earned {history : List (AcctClient × Input)} {visit : AcctClient × Input}
    {input : Input} {send send' : Send} (sound : Sound codec history s)
    (found : s.sends[task]? = some send) (turn : TaskTurn codec retry s task input send send')
    (ok : send'.phase = .finishing (.ok ()) ∨ send'.phase = .done (.ok ())) :
    Earned codec (history ++ [visit]) task send' := by
  have moved : ∀ reply, Took history task send reply →
      Took (history ++ [visit]) task send' reply := fun _ took => took.turn turn
  have kept : send.phase = .finishing (.ok ()) ∨ send.phase = .done (.ok ()) →
      send'.transmitted = send.transmitted → send'.secret = send.secret →
        Earned codec (history ++ [visit]) task send' := by
    intro before transmitted secret
    rcases sound.ok task send found before with ⟨reply, request, took, last, answers⟩
    refine ⟨reply, request, moved reply took, transmitted ▸ last, ?_⟩
    unfold Send.Answers
    rw [secret]
    exact answers
  cases turn with
  | idle | hand | cut => exact kept ok rfl rfl
  | take elapsed phase full =>
    rcases ok with verified | other
    · have last := (sound.linked task send found).last _ _ _ _ phase
      have took := sound.traced.full task send _ found full
      exact ⟨_, _, moved _ took, last, Phase.finishing.inj verified⟩
    · cases other
  | finish _ phase =>
    rcases ok with other | ended
    · cases other
    · cases ended
      exact kept (.inl phase) rfl rfl
  | start | fail | transmit | cancel | again | expire => rcases ok with other | other <;> cases other

theorem sound_step (history : List (AcctClient × Input)) (s : AcctClient) (input : Input)
    (sound : Sound codec history s) :
    Sound codec (history ++ [(s, input)]) (s.step codec retry input) := by
  refine ⟨traced_step history s input sound.traced, allLinked_step input sound.linked, ?_⟩
  intro task send' found' ok
  rcases taskTurn_or_fresh found' with ⟨send, found, turn⟩ |
    ⟨peer, secret, record, _, _, ⟨refused, _⟩ | ⟨identifier, _, rfl⟩⟩
  · exact turn.earned sound found ok
  · rcases ok with other | other <;> cases refused.symm.trans other
  · rcases ok with other | other <;> cases other

/-- In every interleaving, a call returns Ok only if the reader has taken a datagram from its
server, under its identifier and since it began, that verifies against the request that the call
has transmitted last. -/
theorem earned_of_resultAt_ok {inputs : List Input}
    (returned : (reach codec retry inputs).resultAt task = some (.ok ())) :
    ∃ send, (reach codec retry inputs).sends[task]? = some send ∧
      Earned codec (visits (step codec retry) initial inputs) task send := by
  have sound : Sound codec (visits (step codec retry) initial inputs)
      (reach codec retry inputs) := by
    apply visits_finalState_induction sound_step
    refine ⟨⟨registered_initial, ?_, ?_⟩, ?_, ?_⟩
    · rintro task datagram ⟨⟩
    · rintro task send reply ⟨⟩
    · rintro task send ⟨⟩
    · rintro task send ⟨⟩
  rcases Option.bind_eq_some_iff.mp returned with ⟨send, found, result⟩
  refine ⟨send, found, sound.ok task send found (.inr ?_)⟩
  unfold Send.result? at result
  split at result
  · rename_i phase
    rw [phase, Option.some.inj result]
  · cases result

end Ok

/-- Two calls wait.  A datagram with another code comes for the second one, then the response for
the first. -/
def contestedRun : List Input :=
  [.send roundPeer [] roundRecord, .send roundPeer [] roundRecord, .start 0, .start 1,
    .transmit 0 true, .transmit 1 true, .datagram roundPeer (2 :: 1 :: List.replicate 18 0),
    .deliver, .datagram roundPeer firstResponse, .deliver, .poll 1 false, .poll 0 false, .finish 1,
    .finish 0]

/-- The second call fails, and the first has earned its Ok. -/
theorem earned_contestedRun :
    (reach (Codec.ofDigest checksum) {} contestedRun).resultAt 1 =
        some (.error (.unexpectedReply 2)) ∧
      ∃ send, (reach (Codec.ofDigest checksum) {} contestedRun).sends[0]? = some send ∧
        Earned (Codec.ofDigest checksum)
          (visits (step (Codec.ofDigest checksum) {}) initial contestedRun) 0 send :=
  ⟨by decide +kernel, earned_of_resultAt_ok (by decide +kernel)⟩

/-! ## A forged datagram before the response -/

/-- A datagram with another code comes first, and is handed over. -/
def forgedRun (forgedBytes : Bytes) : List Input :=
  firstAttempt ++ [.datagram roundPeer forgedBytes, .deliver] ++
    [.datagram roundPeer firstResponse, .deliver] ++ lastTurns

/-- The same run without it. -/
def honestRun : List Input :=
  firstAttempt ++ [.deliver] ++ [.datagram roundPeer firstResponse, .deliver] ++ lastTurns

/-- Under an identifier that is not in use the datagram has no effect. -/
theorem resultAt_eq_honestRun :
    (reach (Codec.ofDigest checksum) {} (forgedRun (2 :: 1 :: List.replicate 18 0))).resultAt =
      (reach (Codec.ofDigest checksum) {} honestRun).resultAt :=
  (resultAt_eq_of_forgedMisses (by decide +kernel) (by decide +kernel) (by decide +kernel)).1

/-- Under the identifier of the call it makes the call fail. -/
theorem resultAt_forgedRun :
    erase (step (Codec.ofDigest checksum) {}) (forged (Codec.ofDigest checksum)) initial
        (forgedRun (2 :: 0 :: List.replicate 18 0)) =
      erase (step (Codec.ofDigest checksum) {}) (forged (Codec.ofDigest checksum)) initial
        honestRun ∧
    (reach (Codec.ofDigest checksum) {} (forgedRun (2 :: 0 :: List.replicate 18 0))).resultAt 0 =
      some (.error (.unexpectedReply 2)) ∧
    (reach (Codec.ofDigest checksum) {} honestRun).resultAt 0 = some (.ok ()) := by
  decide +kernel

end AcctClient

end SstpServer.Radius
