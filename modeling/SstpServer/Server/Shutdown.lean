import SstpServer.Server.Registry

/-!
# The shutdown signal and the tick

A receiver of the shutdown signal that is made after the signal was sent never sees it.  A worker
looks at the signal before it accepts, so at most one of its running connections can be without
it.  The tick goes to every running task of the worker; a task that gets it, or any other command,
in the TLS handshake never leaves the handshake.
-/

namespace SstpServer.Server

open SstpServer.Session SstpServer.Transition

/-- Where an accept loop is past its look at the shutdown signal and may register a
connection. -/
def LoopPc.mayRegister : LoopPc → Bool
  | .polled | .accepting _ => true
  | _ => false

namespace Process

variable {config : Config} {s s' : Process} {move : Move} {k j w v : Nat} {c c' : Connection}

/-! ## Input from outside does not end a task -/

theorem phase_trySend (t : Task) (queued : Queued) : (t.trySend queued).phase = t.phase := by
  unfold Task.trySend
  split_ifs <;> rfl

theorem phase_connection_trySend {input : Task.Input}
    (same : ∀ config, (c.task.step config input).phase = c.task.phase) :
    (c.trySend config input).task.phase = c.task.phase := by
  unfold Connection.trySend
  split_ifs
  · exact same _
  · rfl

theorem phase_hear : (c.hear config).task.phase = c.task.phase := by
  unfold Connection.hear
  split_ifs <;> rfl

theorem isOpen_congr (stage : c'.stage = c.stage) (phase : c'.task.phase = c.task.phase) :
    c'.isOpen = c.isOpen := by
  unfold Connection.isOpen Task.live
  rw [stage, phase]

theorem isOpen_of_subscribed (live : c.task.live = true) (subscribed : c.subscribed = true) :
    c.isOpen = true := by
  rcases subscribed_iff.mp subscribed with stage | stage <;> simp [Connection.isOpen, live, stage]

theorem isOpen_iff : c.isOpen = true ↔
    c.task.live = true ∧ c.stage ≠ .unregistered ∧ c.stage ≠ .dropped := by
  simp [Connection.isOpen, and_assoc]

/-- A running connection that is not subscribed has no task yet. -/
theorem registered_of_isOpen (isOpen : c.isOpen = true) (apart : c.subscribed = false) :
    c.stage = .registered := by
  rw [isOpen_iff] at isOpen
  cases stage : c.stage <;> simp_all [Connection.subscribed]

/-! ## Running connections -/

/-- A worker is past its look at the shutdown signal and may register a connection. -/
def Between (s : Process) (w : Nat) : Prop :=
  s.At w (·.mayRegister = true)

theorem Hands.not_between (hands : s.Hands w k) : ¬s.Between w := by
  rintro ⟨worker, place, may⟩
  rw [hands.of_found place] at may
  cases may

theorem Turn.mayRegister {first second : LoopPc} (turn : Turn s first second)
    (signalled : s.signalled = true) : second.mayRegister = false := by
  cases turn with
  | passes quiet => cases signalled.symm.trans quiet
  | stops | waits | ticked | exits => rfl

/-- Once the signal is sent no worker gets past its look at it. -/
theorem Effect.between (effect : Effect config s move s') (signalled : s.signalled = true)
    (between : s'.Between w) : s.Between w := by
  cases effect with
  | stays | polls | leaves | discards | unwinds | signals | commands | tells | mains =>
      exact between
  | turns ready found turn =>
      refine at_of_set found rfl (fun may => ?_) between
      cases (turn.mayRegister signalled).symm.trans may
  | ticks found | fans _ found | registers _ found | hands _ found =>
      exact at_of_set found rfl (fun may => by cases may) between
  | allocates found polled =>
      exact at_of_set (s := s) found rfl (fun _ => by rw [polled]; rfl) between

/-- A running connection was running before the move, or its worker has just registered it. -/
theorem Effect.isOpen (effect : Effect config s move s') (staged : s.Staged)
    (found : s'.connections[k]? = some c') (isOpen : c'.isOpen = true) :
    (∃ c, s.connections[k]? = some c ∧ c.isOpen = true ∧ c.worker = c'.worker) ∨
      k = s.connections.length ∧ s.Between c'.worker ∧ s'.Hands c'.worker k := by
  have back (rel : Option.Rel (fun c c' : Connection =>
      c'.isOpen = true → c.isOpen = true ∧ c.worker = c'.worker) s.connections[k]?
      s'.connections[k]?) :
      ∃ c, s.connections[k]? = some c ∧ c.isOpen = true ∧ c.worker = c'.worker := by
    rcases exists_of_rel rel found with ⟨c, place, before⟩
    exact ⟨c, place, before isOpen⟩
  have refl (c : Connection) (isOpen : c.isOpen = true) : c.isOpen = true ∧ c.worker = c.worker :=
    ⟨isOpen, rfl⟩
  cases effect with
  | stays | turns | ticks | allocates | mains => exact .inl ⟨c', found, isOpen, rfl⟩
  | polls place subscribed live =>
      refine .inl (back (rel_update refl (fun c place' _ => ?_) k))
      cases place.symm.trans place'
      exact ⟨isOpen_of_subscribed live subscribed, rfl⟩
  | leaves =>
      refine .inl (back (rel_update refl (fun c _ isOpen => ?_) k))
      exact absurd rfl (isOpen_iff.mp isOpen).2.1
  | discards | unwinds =>
      refine .inl (back (rel_update refl (fun c _ isOpen => ?_) k))
      have stage := (isOpen_iff.mp isOpen).2
      unfold Connection.discard at stage
      dsimp only at stage
      split_ifs at stage
      · exact absurd rfl stage.1
      · exact absurd rfl stage.2
  | fans | commands | tells =>
      refine .inl (back (rel_update refl (fun c _ isOpen => ?_) k))
      rw [isOpen_congr (stage_trySend _) (phase_connection_trySend ?_)] at isOpen
      · exact ⟨isOpen, (alike_trySend _).worker.symm⟩
      · exact fun _ => phase_trySend _ _
  | signals =>
      refine .inl (back (rel_signal (fun c isOpen => ?_) k))
      rw [isOpen_congr stage_hear phase_hear] at isOpen
      exact ⟨isOpen, alike_hear.worker.symm⟩
  | @hands w i worker ready place handing =>
      refine .inl (back (rel_update refl (fun c place' isOpen => ?_) k))
      have hands : s.Hands w i := ⟨worker, place, handing⟩
      rcases staged.hands w i hands with ⟨c, own, rfl⟩
      cases own.symm.trans place'
      have stage := (staged.registered i c own).mpr hands
      exact ⟨isOpen_iff.mpr ⟨(isOpen_iff.mp isOpen).1, by simp [stage], by simp [stage]⟩, rfl⟩
  | @registers w id worker ready place accepting =>
      rcases getElem?_accept found with before | ⟨rfl, rfl⟩
      · exact .inl ⟨c', before, isOpen, rfl⟩
      · refine .inr ⟨rfl, ⟨worker, place, by rw [accepting]; rfl⟩, ?_⟩
        exact (at_set (s := s) place rfl).mpr (by rw [if_pos rfl])

/-! ## Connections without the shutdown signal -/

/-- In the steps so far the signal was sent while the connection had a receiver. -/
def Told (history : List (Process × Move)) (k : Nat) : Prop :=
  ∃ visit ∈ history, visit.1.Signals visit.2 ∧
    ∃ c, visit.1.connections[k]? = some c ∧ c.subscribed = true

theorem Told.append {history : List (Process × Move)} (told : Told history k)
    (visit : Process × Move) : Told (history ++ [visit]) k := by
  rcases told with ⟨earlier, member, signals, subscribed⟩
  exact ⟨earlier, List.mem_append_left _ member, signals, subscribed⟩

/-- A connection of a worker that runs and that no signal has reached. -/
structure Missed (history : List (Process × Move)) (s : Process) (w k : Nat) : Prop where
  runs : ∃ c, s.connections[k]? = some c ∧ c.isOpen = true ∧ c.worker = w
  untold : ¬Told history k

/-- After a signal: a worker that may still register a connection has missed none, and no worker
has missed two. -/
structure Notified (history : List (Process × Move)) (s : Process) : Prop where
  signalled : s.signalled = true
  between : ∀ w k, s.Between w → ¬Missed history s w k
  atMostOne : ∀ w j k, Missed history s w j → Missed history s w k → j = k

theorem Effect.signalled (effect : Effect config s move s') (signalled : s.signalled = true) :
    s'.signalled = true := by
  cases effect with
  | signals => rfl
  | _ => exact signalled

/-- The signal reaches every connection but those without a task. -/
theorem notified_of_signals {history : List (Process × Move)} (staged : s.Staged)
    (signals : s.Signals move) (main : MainPc) :
    Notified (history ++ [(s, move)]) { s.signal config with main } := by
  have hands : ∀ w k, Missed (history ++ [(s, move)]) { s.signal config with main } w k →
      s.Hands w k := by
    rintro w k ⟨⟨c', found, isOpen, rfl⟩, untold⟩
    rcases exists_of_rel (rel_signal (fun _ => rfl) k) found with ⟨c, before, rfl⟩
    have apart : c.subscribed = false := by
      by_contra subscribed
      exact untold ⟨(s, move), List.mem_append_right _ (List.mem_singleton_self _), signals, c,
        before, by simpa using subscribed⟩
    rw [isOpen_congr stage_hear phase_hear] at isOpen
    rw [alike_hear.worker]
    exact (staged.registered k c before).mp (registered_of_isOpen isOpen apart)
  refine ⟨rfl, ?_, ?_⟩
  · exact fun w k between missed => (hands w k missed).not_between between
  · intro w j k first second
    rcases hands w j first with ⟨worker, place, handing⟩
    exact LoopPc.handing.inj (handing.symm.trans ((hands w k second).of_found place))

theorem Notified.step {history : List (Process × Move)} (notified : Notified history s)
    (staged : s.Staged) (effect : Effect config s move s') :
    Notified (history ++ [(s, move)]) s' := by
  have missed : ∀ w k, Missed (history ++ [(s, move)]) s' w k → Missed history s w k ∨
      k = s.connections.length ∧ s.Between w ∧ s'.Hands w k := by
    rintro w k ⟨⟨c', found, isOpen, rfl⟩, untold⟩
    rcases effect.isOpen staged found isOpen with ⟨c, before, isOpen, same⟩ | fresh
    · exact .inl ⟨⟨c, before, isOpen, same⟩, fun told => untold (told.append _)⟩
    · exact .inr fresh
  refine ⟨effect.signalled notified.signalled, ?_, ?_⟩
  · intro w k between new
    rcases missed w k new with old | ⟨_, _, hands⟩
    · exact notified.between w k (effect.between notified.signalled between) old
    · exact hands.not_between between
  · intro w j k first second
    rcases missed w j first with first | ⟨first, between, _⟩ <;>
      rcases missed w k second with second | ⟨second, between', _⟩
    · exact notified.atMostOne w j k first second
    · exact absurd first (notified.between w j between')
    · exact absurd second (notified.between w k between)
    · exact first.trans second.symm

theorem exists_step_eq_of_signals (config : Config) (signals : s.Signals move) :
    ∃ main, s.step config move = { s.signal config with main } := by
  cases move with
  | shutdown => exact ⟨s.main, rfl⟩
  | drain =>
      have waiting : s.main = .waiting := signals
      exact ⟨.signalled, by simp only [step, mainStep, waiting]⟩
  | poll | leave | work | discard | command => cases signals

theorem notified_run (config : Config) (count : Nat) (moves : List Move)
    (signals : ∃ visit ∈ visits (step config) (start count) moves, visit.1.Signals visit.2) :
    Notified (visits (step config) (start count) moves) (run config count moves) := by
  have keeps : ∀ (history : List (Process × Move)) (s : Process) (move : Move),
      (s.Staged ∧ ((∃ visit ∈ history, visit.1.Signals visit.2) → Notified history s)) →
      (s.step config move).Staged ∧
        ((∃ visit ∈ history ++ [(s, move)], visit.1.Signals visit.2) →
          Notified (history ++ [(s, move)]) (s.step config move)) := by
    rintro history s move ⟨staged, notified⟩
    have effect := effect_step config s move
    refine ⟨effect.change.staged staged, fun signals => ?_⟩
    by_cases earlier : ∃ visit ∈ history, visit.1.Signals visit.2
    · exact (notified earlier).step staged effect
    · rcases signals with ⟨visit, member, signals⟩
      rcases List.mem_append.mp member with member | member
      · exact absurd ⟨visit, member, signals⟩ earlier
      · cases List.mem_singleton.mp member
        rcases exists_step_eq_of_signals config signals with ⟨main, stepped⟩
        rw [stepped]
        exact notified_of_signals staged signals main
  exact (visits_finalState_induction keeps ⟨staged_start count, by simp⟩ moves).2 signals

/-- Of the running connections of a worker, at most one has not got the shutdown signal, at any
time after the signal was sent. -/
theorem missed_unique (config : Config) (count : Nat) (moves : List Move)
    (signals : ∃ visit ∈ visits (step config) (start count) moves, visit.1.Signals visit.2)
    {w j k : Nat}
    (first : Missed (visits (step config) (start count) moves) (run config count moves) w j)
    (second : Missed (visits (step config) (start count) moves) (run config count moves) w k) :
    j = k :=
  (notified_run config count moves signals).atMostOne w j k first second

/-- A worker has looked at the signal, which is then sent, and accepts a connection. -/
def lateConnection : List Move :=
  [.work 0 .nothing, .shutdown, .work 0 .connection, .work 0 .nothing, .work 0 .nothing]

theorem missed_lateConnection :
    Missed (visits (step tunConfig) (start 1) lateConnection) (run tunConfig 1 lateConnection) 0 0 ∧
      ∀ k, Missed (visits (step tunConfig) (start 1) lateConnection)
        (run tunConfig 1 lateConnection) 0 k → k = 0 := by
  have missed : Missed (visits (step tunConfig) (start 1) lateConnection)
      (run tunConfig 1 lateConnection) 0 0 := by
    refine ⟨⟨⟨1, 0, .spawned, Task.new⟩, rfl, rfl, rfl⟩, ?_⟩
    rintro ⟨visit, member, signals, c, found, _⟩
    simp only [lateConnection, visits_cons, visits_nil, List.mem_cons, List.not_mem_nil,
      or_false] at member
    rcases member with rfl | rfl | rfl | rfl | rfl
    · cases signals
    · cases found
    · cases signals
    · cases signals
    · cases signals
  have signals : ∃ visit ∈ visits (step tunConfig) (start 1) lateConnection,
      visit.1.Signals visit.2 :=
    ⟨_, List.mem_cons_of_mem _ List.mem_cons_self, trivial⟩
  exact ⟨missed, fun k other => missed_unique tunConfig 1 lateConnection signals other missed⟩

/-! ## Commands during the handshake -/

/-- The task is in the TLS handshake with a command that it has not taken, or was ended there. -/
def Cut (t : Task) : Prop :=
  t.phase = .tlsHandshake ∧ t.queue ≠ [] ∨ t.phase = .ended .drained ∨ t.phase = .ended .commanded

theorem cut_trySend {t : Task} (cut : Cut t) (queued : Queued) : Cut (t.trySend queued) := by
  rw [Cut, phase_trySend]
  refine cut.imp_left fun waits => ⟨waits.1, ?_⟩
  unfold Task.trySend
  split_ifs
  · exact List.append_ne_nil_of_right_ne_nil _ (List.cons_ne_nil _ _)
  · exact waits.2

/-- A poll of the handshake finds the command and ends the task, also when the handshake is done. -/
theorem cut_step {t : Task} (cut : Cut t) (input : Task.Input) : Cut (t.step config input) := by
  cases input with
  | tick | send => exact cut_trySend cut _
  | drain => exact cut
  | handshake result =>
      rcases cut with ⟨inside, some⟩ | ended | ended
      · right
        simp only [Task.step, Task.onHandshake, inside, if_pos some]
        split_ifs
        · exact .inl rfl
        · exact .inr rfl
      · exact .inr (.inl (by simp only [Task.step, Task.onHandshake, ended]))
      · exact .inr (.inr (by simp only [Task.step, Task.onHandshake, ended]))
  | preamble accepted env =>
      have same : t.step config (.preamble accepted env) = t := by
        rcases cut with ⟨phase, _⟩ | phase | phase <;> simp only [Task.step, Task.onPreamble, phase]
      rwa [same]
  | turn input =>
      have same : t.step config (.turn input) = t := by
        rcases cut with ⟨phase, _⟩ | phase | phase <;> simp only [Task.step, Task.onTurn, phase]
      rwa [same]

theorem Effect.cut (effect : Effect config s move s')
    (cut : ∃ c, s.connections[k]? = some c ∧ Cut c.task) :
    ∃ c, s'.connections[k]? = some c ∧ Cut c.task := by
  rcases cut with ⟨c, found, cut⟩
  rcases effect.exists_after found with ⟨c', after, follows⟩
  refine ⟨c', after, ?_⟩
  rcases follows.task with task | ⟨input, _, task⟩
  · exact task ▸ cut
  · exact task ▸ cut_step cut input

end Process

end SstpServer.Server
