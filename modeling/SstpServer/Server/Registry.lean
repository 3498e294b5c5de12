import SstpServer.Server.Process
import SstpServer.Session.Forwarding

/-!
# The registry of sessions

A lookup finds the connection with the given id, from its registration until its guard is
dropped, and no other one, as long as the counter of ids has not wrapped around.  Each connection
lives as a lone task does, on the polls of its own task, the ticks of its own worker, the commands
for its own id and the shutdown: nothing that is meant for another connection reaches it.
-/

namespace SstpServer.Server

open SstpServer.Session SstpServer.Transition

/-- The connections that a worker has yet to send the tick to in this round. -/
def LoopPc.rest : LoopPc → List Nat
  | .ticking rest => rest
  | _ => []

namespace Process

variable {config : Config} {s s' : Process} {move : Move} {k j w v : Nat} {c c' : Connection}
  {r : Connection → Connection → Prop}

theorem getElem?_update (change : Connection → Connection) (s : Process) (k j : Nat) :
    (s.update k change).connections[j]? =
      s.connections[j]?.map fun c => if k = j then change c else c :=
  List.getElem?_modify change k s.connections j

theorem getElem?_signal (config : Config) (s : Process) (j : Nat) :
    (s.signal config).connections[j]? = s.connections[j]?.map (Connection.hear config) :=
  List.getElem?_map

theorem getElem?_accept {id : Nat} (found : (s.accept id w).connections[j]? = some c) :
    s.connections[j]? = some c ∨ j = s.connections.length ∧ c = ⟨id, w, .registered, Task.new⟩ := by
  change (s.connections ++ [_])[j]? = some c at found
  rw [List.getElem?_append] at found
  split_ifs at found with inside
  · exact .inl found
  · right
    rcases Nat.eq_zero_or_pos (j - s.connections.length) with first | later
    · rw [first, List.getElem?_cons_zero, Option.some.injEq] at found
      exact ⟨by omega, found.symm⟩
    · rw [List.getElem?_eq_none (by simp; omega)] at found
      cases found

/-- A change of one connection relates the connections before and after it. -/
theorem rel_update {change : Connection → Connection}
    (refl : ∀ c, r c c) (changed : ∀ c, s.connections[k]? = some c → r c (change c))
    (j : Nat) : Option.Rel r s.connections[j]? (s.update k change).connections[j]? := by
  rw [getElem?_update]
  cases found : s.connections[j]? with
  | none => exact .none
  | some c =>
      refine .some ?_
      split_ifs with same
      · exact changed c (same ▸ found)
      · exact refl c

theorem rel_signal (changed : ∀ c, r c (c.hear config)) (j : Nat) :
    Option.Rel r s.connections[j]? (s.signal config).connections[j]? := by
  rw [getElem?_signal]
  cases s.connections[j]? with
  | none => exact .none
  | some c => exact .some (changed c)

theorem exists_iff_of_rel {p q : Connection → Prop}
    {before after : Option Connection} (rel : Option.Rel r before after)
    (same : ∀ c c', r c c' → (p c ↔ q c')) :
    (∃ c, before = some c ∧ p c) ↔ ∃ c', after = some c' ∧ q c' := by
  cases rel with
  | none => simp
  | some holds => simpa using same _ _ holds

theorem exists_of_rel {before after : Option Connection}
    (rel : Option.Rel r before after) (found : after = some c') :
    ∃ c, before = some c ∧ r c c' := by
  subst found
  cases rel with
  | some holds => exact ⟨_, rfl, holds⟩

/-- A worker has come to a point of its accept loop. -/
def At (s : Process) (w : Nat) (point : LoopPc → Prop) : Prop :=
  ∃ worker, s.workers[w]? = some worker ∧ point worker.pc

section

variable {worker new : Worker} {point : LoopPc → Prop}

theorem At.of_found (place : s.At w point) (found : s.workers[w]? = some worker) :
    point worker.pc := by
  rcases place with ⟨other, place, holds⟩
  cases found.symm.trans place
  exact holds

theorem at_set (found : s.workers[w]? = some worker) (set : s'.workers = s.workers.set w new) :
    s'.At v point ↔ if w = v then point new.pc else s.At v point := by
  unfold At
  rw [set, List.getElem?_set, if_pos (List.getElem?_eq_some_iff.mp found).1]
  by_cases same : w = v <;> simp [same]

theorem at_of_set (found : s.workers[w]? = some worker) (set : s'.workers = s.workers.set w new)
    (earlier : point new.pc → point worker.pc) (place : s'.At v point) : s.At v point := by
  rw [at_set found set] at place
  split_ifs at place with same
  · exact same ▸ ⟨worker, found, earlier place⟩
  · exact place

/-- A step of an accept loop that neither comes to a point nor leaves it. -/
theorem at_set_of_not (found : s.workers[w]? = some worker)
    (set : s'.workers = s.workers.set w new) (before : ¬point worker.pc) (after : ¬point new.pc) :
    s'.At v point ↔ s.At v point := by
  refine ⟨at_of_set found set fun reached => absurd reached after, fun place => ?_⟩
  rw [at_set found set]
  split_ifs with same
  · exact absurd (place.of_found (same ▸ found)) before
  · exact place

end

/-! ## What happens to one connection -/

/-- The task of a connection has had at most one input, of those that may come. -/
structure Follows (config : Config) (may : Task.Input → Prop) (c c' : Connection) : Prop where
  id : c'.id = c.id
  worker : c'.worker = c.worker
  task : c'.task = c.task ∨
    ∃ input, may input ∧ c'.task = c.task.step { config with id := c.id } input

section

variable {may : Task.Input → Prop}

theorem follows_refl (c : Connection) : Follows config may c c :=
  ⟨rfl, rfl, .inl rfl⟩

theorem follows_stage (stage : Stage) : Follows config may c { c with stage } :=
  ⟨rfl, rfl, .inl rfl⟩

theorem follows_trySend {input : Task.Input} (comes : may input) :
    Follows config may c (c.trySend config input) := by
  unfold Connection.trySend
  split_ifs
  · exact ⟨rfl, rfl, .inr ⟨input, comes, rfl⟩⟩
  · exact follows_refl c

theorem follows_hear (comes : may .drain) : Follows config may c (c.hear config) := by
  unfold Connection.hear
  split_ifs
  · exact ⟨rfl, rfl, .inr ⟨.drain, comes, rfl⟩⟩
  · exact follows_refl c

theorem follows_poll {poll : Poll} (comes : may poll.input) :
    Follows config may c (c.poll config poll) :=
  ⟨rfl, rfl, .inr ⟨poll.input, comes, rfl⟩⟩

end

/-- The input that a move brings to a connection with its place, id and worker. -/
inductive Brings (k id w : Nat) : Move → Task.Input → Prop where
  | poll (poll : Poll) : Brings k id w (.poll k poll) poll.input
  | tick (ready : Ready) : Brings k id w (.work w ready) .tick
  | command (command : ControlCommand) : Brings k id w (.command id command) (.send command)
  | broadcast : Brings k id w .drain (.send (.disconnect .serverShutdown))
  | shutdown : Brings k id w .shutdown .drain
  | drain : Brings k id w .drain .drain

/-- A worker sends the tick to a connection. -/
def Ticks (s : Process) (w k : Nat) : Prop :=
  ∃ worker, s.workers[w]? = some worker ∧ (k ∈ worker.tickSenders ∨ k ∈ worker.pc.rest)

/-- The registry leads to connections with the given ids, and a worker ticks its own. -/
structure Addressed (s : Process) : Prop where
  entries : ∀ id k, (id, k) ∈ s.registry → ∃ c, s.connections[k]? = some c ∧ c.id = id
  ticks : ∀ w k, s.Ticks w k → ∃ c, s.connections[k]? = some c ∧ c.worker = w

theorem mem_registry_of_get {id : Nat} (got : s.get id = some k) : (id, k) ∈ s.registry := by
  rcases Option.map_eq_some_iff.mp got with ⟨entry, found, rfl⟩
  have same : entry.1 = id := by simpa using List.find?_some found
  exact same ▸ List.mem_of_find?_eq_some found

theorem exists_follows_update {may : Connection → Task.Input → Prop} {i : Nat}
    {change : Connection → Connection} (found : (s.update i change).connections[k]? = some c')
    (changed : ∀ c, i = k → s.connections[k]? = some c → Follows config (may c) c (change c)) :
    ∃ c, s.connections[k]? = some c ∧ Follows config (may c) c c' := by
  rw [getElem?_update] at found
  rcases Option.map_eq_some_iff.mp found with ⟨c, before, rfl⟩
  refine ⟨c, before, ?_⟩
  split_ifs with same
  · exact changed c same before
  · exact follows_refl c

/-- A connection after a move is a new one or follows one before it, with what the move brings. -/
theorem Effect.exists_follows (effect : Effect config s move s')
    (found : s'.connections[k]? = some c') :
    s.connections[k]? = none ∧ c'.task = Task.new ∨
      ∃ c, s.connections[k]? = some c ∧
        Follows config (fun input => s.Addressed → Brings k c.id c.worker move input) c c' := by
  cases effect with
  | stays | turns | ticks | allocates | mains => exact .inr ⟨c', found, follows_refl c'⟩
  | polls =>
      refine .inr (exists_follows_update found fun c same _ => follows_poll fun _ => ?_)
      exact same ▸ .poll _
  | leaves | hands | discards | unwinds =>
      exact .inr (exists_follows_update found fun c _ _ => follows_stage _)
  | @fans w i worker rest ready place ticking =>
      refine .inr (exists_follows_update found fun c same before =>
        follows_trySend fun addressed => ?_)
      have ticks : s.Ticks w i := ⟨worker, place, .inr (by simp [ticking, LoopPc.rest])⟩
      rcases addressed.ticks w i ticks with ⟨own, there, rfl⟩
      cases (same ▸ there).symm.trans before
      exact .tick ready
  | commands command got =>
      refine .inr (exists_follows_update found fun c same before =>
        follows_trySend fun addressed => ?_)
      rcases addressed.entries _ _ (mem_registry_of_get got) with ⟨own, place, rfl⟩
      cases (same ▸ place).symm.trans before
      exact .command command
  | tells =>
      exact .inr (exists_follows_update found fun c _ _ => follows_trySend fun _ => .broadcast)
  | signals main signals =>
      rw [getElem?_signal] at found
      rcases Option.map_eq_some_iff.mp found with ⟨c, before, rfl⟩
      refine .inr ⟨c, before, follows_hear fun _ => ?_⟩
      cases move with
      | shutdown => exact .shutdown
      | drain => exact .drain
      | poll | leave | work | discard | command => cases signals
  | registers =>
      rcases getElem?_accept found with found | ⟨rfl, rfl⟩
      · exact .inr ⟨c', found, follows_refl c'⟩
      · exact .inl ⟨List.getElem?_eq_none (Nat.le_refl _), rfl⟩

theorem Effect.length_le (effect : Effect config s move s') :
    s.connections.length ≤ s'.connections.length := by
  cases effect <;> simp [setWorker, update, unregister, register, accept, signal]

/-- No connection is lost, and none changes its id or its worker. -/
theorem Effect.exists_after (effect : Effect config s move s')
    (found : s.connections[k]? = some c) :
    ∃ c', s'.connections[k]? = some c' ∧
      Follows config (fun input => s.Addressed → Brings k c.id c.worker move input) c c' := by
  have inside := (List.getElem?_eq_some_iff.mp found).1.trans_le effect.length_le
  refine ⟨_, List.getElem?_eq_getElem inside, ?_⟩
  rcases effect.exists_follows (List.getElem?_eq_getElem inside) with
    ⟨absent, _⟩ | ⟨before, place, follows⟩
  · cases absent.symm.trans found
  · cases place.symm.trans found
    exact follows

/-! ## The connections and the registry -/

/-- A worker has registered a connection and not spawned its task. -/
def Hands (s : Process) (w k : Nat) : Prop :=
  s.At w (· = .handing k)

/-- A worker has taken an id for a connection that is not registered yet. -/
def Accepts (s : Process) (w id : Nat) : Prop :=
  s.At w (· = .accepting id)

/-- A connection that is still before its task, and still before the end of its guard. -/
structure Alike (c c' : Connection) : Prop where
  id : c'.id = c.id
  worker : c'.worker = c.worker
  registered : c'.stage = .registered ↔ c.stage = .registered
  unregistered : c'.stage = .unregistered ↔ c.stage = .unregistered

/-- Nothing has changed that the registry depends on. -/
structure Keeps (s s' : Process) : Prop where
  next : s'.next = s.next
  registry : s'.registry = s.registry
  hands : ∀ w k, s'.Hands w k ↔ s.Hands w k
  accepts : ∀ w id, s'.Accepts w id → s.Accepts w id
  connections : ∀ k : Nat, Option.Rel Alike s.connections[k]? s'.connections[k]?

/-- What a move does to the connections and the registry. -/
inductive Change (s : Process) : Process → Prop where
  | keeps {s' : Process} (keeps : Keeps s s') : Change s s'
  | leaves {k : Nat} {c : Connection} (change : Connection → Connection)
      (found : s.connections[k]? = some c) (started : c.stage = .started)
      (same : ∀ c, (change c).id = c.id ∧ (change c).worker = c.worker)
      (gone : (change c).stage = .unregistered) :
      Change s ((s.update k change).unregister c.id)
  | allocates {w : Nat} {worker : Worker} (found : s.workers[w]? = some worker)
      (polled : worker.pc = .polled) :
      Change s ({ s with next := (s.next + 1) % 2 ^ 64 }.setWorker w
        { worker with pc := .accepting s.next })
  | registers {w id : Nat} {worker : Worker} (found : s.workers[w]? = some worker)
      (accepting : worker.pc = .accepting id) :
      Change s (((s.accept id w).register id s.connections.length).setWorker w
        { worker with pc := .handing s.connections.length })
  | hands {w k : Nat} {worker : Worker} (found : s.workers[w]? = some worker)
      (handing : worker.pc = .handing k) :
      Change s ((s.update k fun c => { c with stage := .spawned }).setWorker w
        ⟨.select, worker.tickSenders ++ [k]⟩)

theorem alike_refl (c : Connection) : Alike c c :=
  ⟨rfl, rfl, Iff.rfl, Iff.rfl⟩

theorem alike_of_follows (follows : Follows config (fun _ => True) c c')
    (stage : c'.stage = c.stage) : Alike c c' :=
  ⟨follows.id, follows.worker, by rw [stage], by rw [stage]⟩

theorem rel_alike (connections : s'.connections = s.connections) (k : Nat) :
    Option.Rel Alike s.connections[k]? s'.connections[k]? := by
  rw [connections]
  cases s.connections[k]? with
  | none => exact .none
  | some c => exact .some (alike_refl c)

theorem Turn.apart {first second : LoopPc} (turn : Turn s first second) (n : Nat) :
    first ≠ .handing n ∧ second ≠ .handing n ∧ second ≠ .accepting n := by
  cases turn <;> exact ⟨nofun, nofun, nofun⟩

theorem subscribed_iff : c.subscribed = true ↔ c.stage = .spawned ∨ c.stage = .started := by
  simp [Connection.subscribed]

theorem stage_trySend (input : Task.Input) : (c.trySend config input).stage = c.stage := by
  unfold Connection.trySend
  split_ifs <;> rfl

theorem stage_hear : (c.hear config).stage = c.stage := by
  unfold Connection.hear
  split_ifs <;> rfl

theorem alike_trySend (input : Task.Input) : Alike c (c.trySend config input) :=
  alike_of_follows (follows_trySend trivial) (stage_trySend input)

theorem alike_hear : Alike c (c.hear config) :=
  alike_of_follows (follows_hear trivial) stage_hear

theorem Effect.change (effect : Effect config s move s') : Change s s' := by
  cases effect with
  | stays | mains => exact .keeps ⟨rfl, rfl, fun _ _ => Iff.rfl, fun _ _ => id, rel_alike rfl⟩
  | turns ready found turn =>
      exact .keeps ⟨rfl, rfl,
        fun _ k => at_set_of_not found rfl (turn.apart k).1 (turn.apart k).2.1,
        fun _ id => at_of_set found rfl fun same => absurd same (turn.apart id).2.2, rel_alike rfl⟩
  | ticks found polled =>
      exact .keeps ⟨rfl, rfl, fun _ _ => at_set_of_not found rfl (by rw [polled]; nofun) nofun,
        fun _ _ => at_of_set found rfl nofun, rel_alike rfl⟩
  | fans ready found ticking =>
      exact .keeps ⟨rfl, rfl, fun _ _ => at_set_of_not found rfl (by rw [ticking]; nofun) nofun,
        fun _ _ => at_of_set found rfl nofun, rel_update alike_refl fun _ _ => alike_trySend _⟩
  | commands | tells =>
      exact .keeps ⟨rfl, rfl, fun _ _ => Iff.rfl, fun _ _ => id,
        rel_update alike_refl fun _ _ => alike_trySend _⟩
  | signals =>
      exact .keeps ⟨rfl, rfl, fun _ _ => Iff.rfl, fun _ _ => id,
        rel_signal fun _ => alike_hear⟩
  | polls found subscribed =>
      refine .keeps ⟨rfl, rfl, fun _ _ => Iff.rfl, fun _ _ => id, rel_update alike_refl ?_⟩
      intro c' found'
      cases found.symm.trans found'
      constructor
      · rfl
      · rfl
      all_goals rcases subscribed_iff.mp subscribed with stage | stage <;>
        simp [Connection.poll, stage]
  | discards found spawned =>
      refine .keeps ⟨rfl, rfl, fun _ _ => Iff.rfl, fun _ _ => id, rel_update alike_refl ?_⟩
      intro c' found'
      cases found.symm.trans found'
      exact ⟨rfl, rfl, by simp [Connection.discard, spawned], by simp [Connection.discard, spawned]⟩
  | leaves found started =>
      exact .leaves (fun c => { c with stage := .unregistered }) found started
        (fun _ => ⟨rfl, rfl⟩) rfl
  | unwinds found started =>
      exact .leaves Connection.discard found started (fun _ => ⟨rfl, rfl⟩) (if_pos started)
  | allocates found polled => exact .allocates found polled
  | registers ready found accepting => exact .registers found accepting
  | hands ready found handing => exact .hands found handing

/-! ## Connections without a task yet -/

/-- The connections without a task are the ones their workers are about to spawn one for. -/
structure Staged (s : Process) : Prop where
  hands : ∀ w k, s.Hands w k → ∃ c, s.connections[k]? = some c ∧ c.worker = w
  registered : ∀ k c, s.connections[k]? = some c → (c.stage = .registered ↔ s.Hands c.worker k)

theorem Staged.of_rel (staged : s.Staged)
    (hands : ∀ w k, s'.Hands w k ↔ s.Hands w k)
    (connections : ∀ k : Nat, Option.Rel r s.connections[k]? s'.connections[k]?)
    (worker : ∀ c c', r c c' → c'.worker = c.worker)
    (stage : ∀ c c', r c c' → (c'.stage = .registered ↔ c.stage = .registered)) :
    s'.Staged := by
  constructor
  · intro w k handing
    refine (exists_iff_of_rel (connections k) fun c c' holds => ?_).mp
      (staged.hands w k ((hands w k).mp handing))
    rw [worker c c' holds]
  · intro k c' found
    rcases exists_of_rel (connections k) found with ⟨c, before, holds⟩
    rw [stage c c' holds, staged.registered k c before, hands, worker c c' holds]

theorem Staged.register {worker : Worker} {id : Nat} (staged : s.Staged)
    (found : s.workers[w]? = some worker) (accepting : worker.pc = .accepting id) :
    (((s.accept id w).register id s.connections.length).setWorker w
      { worker with pc := .handing s.connections.length }).Staged := by
  constructor
  · intro v k hands
    rw [Hands, at_set found rfl] at hands
    split_ifs at hands with same
    · cases hands
      exact ⟨_, List.getElem?_concat_length, same⟩
    · rcases staged.hands v k hands with ⟨c, place, worker⟩
      exact ⟨c, (List.getElem?_append_left (List.getElem?_eq_some_iff.mp place).1).trans place,
        worker⟩
  · intro k c place
    rw [Hands, at_set found rfl]
    rcases getElem?_accept place with before | ⟨rfl, rfl⟩
    · rw [staged.registered k c before]
      split_ifs with same
      · constructor
        · intro hands
          cases accepting.symm.trans (hands.of_found (same ▸ found))
        · rintro ⟨⟩
          exact absurd (List.getElem?_eq_some_iff.mp before).1 (Nat.lt_irrefl _)
      · rfl
    · simp

theorem Staged.spawn {worker : Worker} (staged : s.Staged) (found : s.workers[w]? = some worker)
    (handing : worker.pc = .handing k) :
    ((s.update k fun c => { c with stage := .spawned }).setWorker w
      ⟨.select, worker.tickSenders ++ [k]⟩).Staged := by
  have own : ∃ c, s.connections[k]? = some c ∧ c.worker = w :=
    staged.hands w k ⟨worker, found, handing⟩
  constructor
  · intro v j hands
    rw [Hands, at_set found rfl] at hands
    split_ifs at hands with same
    · rcases staged.hands v j hands with ⟨c, place, worker⟩
      refine ⟨if k = j then { c with stage := .spawned } else c, ?_, ?_⟩
      · exact (getElem?_update _ s k j).trans (by rw [place]; rfl)
      · split_ifs <;> exact worker
  · intro j c' place
    rw [Hands, at_set found rfl]
    rcases Option.map_eq_some_iff.mp ((getElem?_update _ s k j).symm.trans place)
      with ⟨c, before, rfl⟩
    by_cases same : k = j
    · subst same
      rcases own with ⟨other, holds, rfl⟩
      cases holds.symm.trans before
      simp
    · rw [if_neg same, staged.registered j c before]
      split_ifs with mine
      · constructor
        · intro hands
          cases handing.symm.trans (hands.of_found (mine ▸ found))
          exact absurd rfl same
        · nofun
      · rfl

theorem Change.staged (change : Change s s') (staged : s.Staged) : s'.Staged := by
  cases change with
  | keeps keeps =>
      exact staged.of_rel keeps.hands keeps.connections (fun _ _ alike => alike.worker)
        fun _ _ alike => alike.registered
  | leaves change found started same gone =>
      refine staged.of_rel (r := fun c c' => c'.worker = c.worker ∧
        (c'.stage = .registered ↔ c.stage = .registered)) (fun _ _ => Iff.rfl)
        (rel_update (fun _ => ⟨rfl, Iff.rfl⟩) fun c' found' => ?_) (fun _ _ => And.left)
        fun _ _ => And.right
      cases found.symm.trans found'
      exact ⟨(same _).2, by simp [started, gone]⟩
  | allocates found polled =>
      exact staged.of_rel (fun _ _ => at_set_of_not (s := s) found rfl (by rw [polled]; nofun) nofun)
        (rel_alike rfl) (fun _ _ alike => alike.worker) fun _ _ alike => alike.registered
  | registers found accepting => exact staged.register found accepting
  | hands found handing => exact staged.spawn found handing

/-! ## Each connection is a lone task -/

theorem Effect.mem_registry {id : Nat} (effect : Effect config s move s')
    (member : (id, k) ∈ s'.registry) :
    (id, k) ∈ s.registry ∨ ∃ c, s'.connections[k]? = some c ∧ c.id = id := by
  cases effect with
  | stays | polls | turns | ticks | allocates | fans | hands | discards | signals | commands |
      tells | mains => exact .inl member
  | leaves | unwinds => exact .inl (List.mem_filter.mp member).1
  | registers =>
      rcases List.mem_append.mp member with member | member
      · exact .inl (List.mem_filter.mp member).1
      · cases List.mem_singleton.mp member
        exact .inr ⟨_, List.getElem?_concat_length, rfl⟩

theorem ticks_of_set {worker new : Worker} (found : s.workers[w]? = some worker)
    (set : s'.workers = s.workers.set w new)
    (fewer : k ∈ new.tickSenders ∨ k ∈ new.pc.rest →
      k ∈ worker.tickSenders ∨ k ∈ worker.pc.rest)
    (ticks : s'.Ticks v k) : s.Ticks v k := by
  rcases ticks with ⟨after, place, ticks⟩
  rw [set, List.getElem?_set] at place
  split_ifs at place with same inside
  · cases place
    exact same ▸ ⟨worker, found, fewer ticks⟩
  · exact ⟨after, place, ticks⟩

theorem Turn.rest {first second : LoopPc} (turn : Turn s first second) : second.rest = [] := by
  cases turn <;> rfl

/-- A worker gets to tick a connection by the spawn of its task. -/
theorem Effect.ticks_or_hands (effect : Effect config s move s') (ticks : s'.Ticks w k) :
    s.Ticks w k ∨ s.Hands w k := by
  cases effect with
  | stays | polls | leaves | discards | unwinds | signals | commands | tells | mains =>
      exact .inl ticks
  | turns ready found turn =>
      refine .inl (ticks_of_set found rfl ?_ ticks)
      rw [turn.rest]
      exact fun either => .inl (either.resolve_right List.not_mem_nil)
  | ticks found =>
      refine .inl (ticks_of_set found rfl ?_ ticks)
      rintro (sender | sender) <;> exact .inl (List.mem_filter.mp sender).1
  | allocates found | registers _ found =>
      refine .inl (ticks_of_set (s := s) found rfl ?_ ticks)
      exact fun either => .inl (either.resolve_right List.not_mem_nil)
  | fans ready found ticking =>
      refine .inl (ticks_of_set (s := s) found rfl ?_ ticks)
      rw [ticking]
      exact Or.imp_right (List.mem_cons_of_mem _)
  | @hands v i worker ready found handing =>
      by_cases own : w = v ∧ k = i
      · exact .inr ⟨worker, own.1 ▸ found, own.2 ▸ handing⟩
      · left
        rcases ticks with ⟨after, place, ticks⟩
        change (s.workers.set v _)[w]? = some after at place
        rw [List.getElem?_set] at place
        split_ifs at place with same inside
        · cases place
          rcases ticks with sender | sender
          · rcases List.mem_append.mp sender with sender | sender
            · exact same ▸ ⟨worker, found, .inl sender⟩
            · exact absurd ⟨same.symm, List.mem_singleton.mp sender⟩ own
          · cases sender
        · exact ⟨after, place, ticks⟩

theorem Effect.addressed (effect : Effect config s move s') (staged : s.Staged)
    (addressed : s.Addressed) : s'.Addressed := by
  constructor
  · intro id k member
    rcases effect.mem_registry member with earlier | fresh
    · rcases addressed.entries id k earlier with ⟨c, found, rfl⟩
      rcases effect.exists_after found with ⟨c', after, follows⟩
      exact ⟨c', after, follows.id⟩
    · exact fresh
  · intro w k ticks
    have earlier : ∃ c, s.connections[k]? = some c ∧ c.worker = w :=
      (effect.ticks_or_hands ticks).elim (addressed.ticks w k) (staged.hands w k)
    rcases earlier with ⟨c, found, rfl⟩
    rcases effect.exists_after found with ⟨c', after, follows⟩
    exact ⟨c', after, follows.worker⟩

theorem staged_start (count : Nat) : (start count).Staged := by
  constructor
  · rintro w k ⟨worker, found, handing⟩
    rw [List.eq_of_mem_replicate (List.mem_of_getElem? found)] at handing
    cases handing
  · simp [start]

theorem addressed_start (count : Nat) : (start count).Addressed := by
  constructor
  · simp [start]
  · rintro w k ⟨worker, found, ticks⟩
    rw [List.eq_of_mem_replicate (List.mem_of_getElem? found)] at ticks
    rcases ticks with sender | sender <;> cases sender

theorem staged_run (config : Config) (count : Nat) (moves : List Move) :
    (run config count moves).Staged :=
  finalState_invariant (fun _ _ staged => (effect_step config _ _).change.staged staged)
    (staged_start count) moves

theorem addressed_run (config : Config) (count : Nat) (moves : List Move) :
    (run config count moves).Addressed := by
  induction moves using List.reverseRecOn with
  | nil => exact addressed_start count
  | append_singleton before move ih =>
      rw [run, finalState_concat]
      exact (effect_step config _ move).addressed (staged_run config count before) ih

/-- The session of a task, while it drives one and after it returned with one. -/
def sessionOf (t : Task) : Option Session :=
  match t.phase with
  | .driving s | .ended (.session s) => some s
  | _ => none

theorem sessionOf_drive (t : Task) (s : Session) : sessionOf (t.drive s) = some s := by
  unfold sessionOf Task.drive
  split_ifs <;> rfl

/-- A step of a task leaves its session alone, starts one, or is a step of it. -/
theorem sessionOf_step (config : Config) (t : Task) (input : Task.Input) :
    sessionOf (t.step config input) = sessionOf t ∨
      (∃ env, sessionOf (t.step config input) = some (Session.start config env)) ∨
      ∃ s input', sessionOf t = some s ∧
        sessionOf (t.step config input) = some (s.step config input') := by
  cases input with
  | tick | send =>
      left
      simp only [Task.step, Task.trySend]
      split_ifs <;> rfl
  | drain => exact .inl rfl
  | handshake result =>
      left
      simp only [Task.step, Task.onHandshake]
      split
      case h_1 phase =>
          have none : sessionOf t = none := by rw [sessionOf, phase]
          rw [none]
          split_ifs
          · rfl
          · rfl
          · cases result with
            | none => exact none
            | some done => cases done <;> rfl
      case h_2 => rfl
  | preamble accepted env =>
      simp only [Task.step, Task.onPreamble]
      split
      case h_1 phase =>
          split_ifs
          · exact .inr (.inl ⟨env, sessionOf_drive _ _⟩)
          · exact .inl (by rw [sessionOf, sessionOf, phase])
      case h_2 => exact .inl rfl
  | turn input =>
      simp only [Task.step, Task.onTurn]
      split
      case h_1 s phase =>
          have own : sessionOf t = some s := by rw [sessionOf, phase]
          by_cases selects : s.point = .select
          · rw [if_pos selects]
            by_cases draining : t.draining = true
            · rw [if_pos draining]
              exact .inr (.inr ⟨s, _, own, sessionOf_drive _ _⟩)
            · rw [if_neg draining]
              cases t.queue with
              | cons next rest => exact .inr (.inr ⟨s, _, own, sessionOf_drive _ _⟩)
              | nil =>
                  dsimp only
                  split_ifs
                  · exact .inl rfl
                  · exact .inr (.inr ⟨s, _, own, sessionOf_drive _ _⟩)
          · rw [if_neg selects]
            exact .inr (.inr ⟨s, _, own, sessionOf_drive _ _⟩)
      case h_2 => exact .inl rfl

theorem exists_sessionAfter {s : Session} (inputs : List Task.Input)
    (own : sessionOf (taskAfter config inputs) = some s) :
    ∃ env inputs, s = sessionAfter config env inputs := by
  have keeps : ∀ (t : Task) (input : Task.Input),
      (∀ s, sessionOf t = some s → ∃ env inputs, s = sessionAfter config env inputs) →
      ∀ s, sessionOf (t.step config input) = some s →
        ∃ env inputs, s = sessionAfter config env inputs := by
    intro t input reached s own
    rcases sessionOf_step config t input with same | ⟨env, fresh⟩ | ⟨before, step, earlier, later⟩
    · exact reached s (same ▸ own)
    · cases fresh.symm.trans own
      exact ⟨env, [], rfl⟩
    · cases later.symm.trans own
      rcases reached before earlier with ⟨env, inputs, rfl⟩
      exact ⟨env, inputs ++ [step], (finalState_concat _ _ _ _).symm⟩
  exact finalState_invariant keeps (fun s own => by cases own) inputs s own

/-- A connection is where a lone task is that has had the inputs which some of the moves bring to
it, in their order, and its session is one that a lone session reaches. -/
structure Lone (config : Config) (moves : List Move) (k : Nat) (c : Connection) : Prop where
  task : ∃ taken inputs, taken.Sublist moves ∧ List.Forall₂ (Brings k c.id c.worker) taken inputs ∧
    c.task = taskAfter { config with id := c.id } inputs
  session : ∀ s, sessionOf c.task = some s →
    ∃ env inputs, s = sessionAfter { config with id := c.id } env inputs

theorem exists_taken (config : Config) (count : Nat) (moves : List Move)
    (found : (run config count moves).connections[k]? = some c) :
    ∃ taken inputs, taken.Sublist moves ∧ List.Forall₂ (Brings k c.id c.worker) taken inputs ∧
      c.task = taskAfter { config with id := c.id } inputs := by
  induction moves using List.reverseRecOn generalizing c with
  | nil => cases found
  | append_singleton before move ih =>
      rw [run, finalState_concat] at found
      rcases (effect_step config _ move).exists_follows found with
        ⟨_, fresh⟩ | ⟨earlier, found, follows⟩
      · exact ⟨[], [], List.nil_sublist _, .nil, fresh⟩
      · rcases ih found with ⟨taken, inputs, part, brings, task⟩
        rw [follows.id, follows.worker]
        rcases follows.task with same | ⟨input, comes, next⟩
        · exact ⟨taken, inputs, part.trans (List.sublist_append_left _ _), brings,
            same.trans task⟩
        · refine ⟨taken ++ [move], inputs ++ [input], part.append (List.Sublist.refl _),
            List.rel_append brings (.cons (comes (addressed_run config count before)) .nil), ?_⟩
          rw [next, task]
          exact (finalState_concat _ _ _ _).symm

/-- Whatever the other connections do, and whatever is sent to them, a connection lives as a lone
task does on what is meant for it. -/
theorem connection_reaches (config : Config) (count : Nat) (moves : List Move) (k : Nat)
    (c : Connection) (found : (run config count moves).connections[k]? = some c) :
    Lone config moves k c := by
  have task := exists_taken config count moves found
  refine ⟨task, fun s own => ?_⟩
  rcases task with ⟨_, inputs, _, _, reached⟩
  exact exists_sessionAfter inputs (reached ▸ own)

/-- Two workers accept a connection each.  The first connection gets to its session; the second
one is disconnected during its handshake and leaves. -/
def twoConnections : List Move :=
  [.work 0 .nothing, .work 0 .connection, .work 1 .nothing, .work 1 .connection, .work 1 .nothing,
    .work 0 .nothing, .work 0 .nothing, .work 1 .nothing, .poll 1 (.handshake (some true)),
    .poll 1 (.preamble true obligingEnv), .command 2 (.disconnect .adminRequested),
    .poll 0 (.handshake none), .leave 0]

theorem connection_reaches_twoConnections :
    ∃ c d s, (run tunConfig 2 twoConnections).connections = [c, d] ∧
      c.task.phase = .ended .commanded ∧ sessionOf d.task = some s ∧
      Lone tunConfig twoConnections 0 c ∧ Lone tunConfig twoConnections 1 d :=
  ⟨_, _, _, rfl, rfl, rfl, connection_reaches tunConfig 2 twoConnections 0 _ rfl,
    connection_reaches tunConfig 2 twoConnections 1 _ rfl⟩

/-! ## Lookups -/

/-- The ids that have been taken are all different, and the registry holds those of the
connections whose guard has not been dropped. -/
structure Registered (s : Process) : Prop where
  entries : ∀ id k, (id, k) ∈ s.registry ↔
    ∃ c, s.connections[k]? = some c ∧ c.id = id ∧ c.stage ≠ .unregistered
  below : ∀ (k : Nat) (c : Connection), s.connections[k]? = some c → c.id < s.next
  unique : ∀ (j k : Nat) (c d : Connection), s.connections[j]? = some c →
    s.connections[k]? = some d → c.id = d.id → j = k
  taken : ∀ w id, s.Accepts w id → id < s.next ∧
    ∀ (k : Nat) (c : Connection), s.connections[k]? = some c → c.id ≠ id
  apart : ∀ v w id, s.Accepts v id → s.Accepts w id → v = w

/-- A move that changes no id, adds no connection and takes no id. -/
theorem Registered.of_rel (registered : s.Registered)
    (next : s'.next = s.next) (accepts : ∀ w id, s'.Accepts w id → s.Accepts w id)
    (connections : ∀ k : Nat, Option.Rel r s.connections[k]? s'.connections[k]?)
    (ids : ∀ c c', r c c' → c'.id = c.id)
    (entries : ∀ id k, (id, k) ∈ s'.registry ↔
      ∃ c, s'.connections[k]? = some c ∧ c.id = id ∧ c.stage ≠ .unregistered) :
    s'.Registered := by
  have back : ∀ (k : Nat) (c' : Connection), s'.connections[k]? = some c' →
      ∃ c, s.connections[k]? = some c ∧ c'.id = c.id := by
    intro k c' found
    rcases exists_of_rel (connections k) found with ⟨c, before, holds⟩
    exact ⟨c, before, ids c c' holds⟩
  refine ⟨entries, ?_, ?_, ?_, ?_⟩
  · intro k c' found
    rcases back k c' found with ⟨c, found, same⟩
    rw [same, next]
    exact registered.below k c found
  · intro j k c' d' first second same
    rcases back j c' first with ⟨c, first, one⟩
    rcases back k d' second with ⟨d, second, two⟩
    exact registered.unique j k c d first second (one.symm.trans (same.trans two))
  · intro w id accepted
    rcases registered.taken w id (accepts w id accepted) with ⟨below, apart⟩
    refine ⟨next ▸ below, fun k c' found => ?_⟩
    rcases back k c' found with ⟨c, found, same⟩
    exact same ▸ apart k c found
  · exact fun v w id first second =>
      registered.apart v w id (accepts v id first) (accepts w id second)

/-- A move that changes nothing the registry depends on. -/
theorem Registered.keep (registered : s.Registered)
    (next : s'.next = s.next) (registry : s'.registry = s.registry)
    (accepts : ∀ w id, s'.Accepts w id → s.Accepts w id)
    (connections : ∀ k : Nat, Option.Rel r s.connections[k]? s'.connections[k]?)
    (ids : ∀ c c', r c c' → c'.id = c.id)
    (stages : ∀ c c', r c c' → (c'.stage = .unregistered ↔ c.stage = .unregistered)) :
    s'.Registered := by
  refine registered.of_rel next accepts connections ids fun id k => ?_
  rw [registry, registered.entries]
  apply exists_iff_of_rel (connections k)
  intro c c' holds
  rw [ids c c' holds, Ne, Ne, stages c c' holds]

/-- A guard is dropped. -/
theorem Registered.unregister (registered : s.Registered) (found : s.connections[k]? = some c)
    (change : Connection → Connection) (ids : ∀ c : Connection, (change c).id = c.id)
    (gone : (change c).stage = .unregistered) :
    ((s.update k change).unregister c.id).Registered := by
  refine registered.of_rel (r := fun c c' => c'.id = c.id) rfl (fun _ _ => id)
    (rel_update (fun _ => rfl) fun c _ => ids c) (fun _ _ => id) ?_
  intro id j
  change (id, j) ∈ s.registry.filter _ ↔ ∃ d, (s.update k change).connections[j]? = some d ∧ _
  rw [List.mem_filter, registered.entries, getElem?_update]
  simp only [ne_eq, decide_not, Bool.not_eq_true', decide_eq_false_iff_not]
  by_cases same : k = j
  · subst same
    rw [found]
    simp only [Option.some.injEq, exists_eq_left', Option.map_some, if_pos, gone]
    exact ⟨fun ⟨⟨same, _⟩, other⟩ => absurd same.symm other, fun ⟨_, there⟩ => absurd trivial there⟩
  · simp only [if_neg same, Option.map_id']
    constructor
    · exact fun ⟨there, _⟩ => there
    · rintro ⟨d, place, rfl, there⟩
      exact ⟨⟨d, place, rfl, there⟩, fun equal =>
        same (registered.unique k j c d found place equal.symm)⟩

theorem Registered.register {worker : Worker} {id : Nat} (registered : s.Registered)
    (found : s.workers[w]? = some worker) (accepting : worker.pc = .accepting id) :
    (((s.accept id w).register id s.connections.length).setWorker w
      { worker with pc := .handing s.connections.length }).Registered := by
  have mine : s.Accepts w id := ⟨worker, found, accepting⟩
  rcases registered.taken w id mine with ⟨below, fresh⟩
  have others : ∀ v other, Accepts (((s.accept id w).register id s.connections.length).setWorker w
      { worker with pc := .handing s.connections.length }) v other → s.Accepts v other ∧ w ≠ v := by
    intro v other accepts
    rw [Accepts, at_set found rfl] at accepts
    split_ifs at accepts with same
    exact ⟨accepts, same⟩
  refine ⟨?_, ?_, ?_, ?_, ?_⟩
  · intro i k
    change (i, k) ∈ s.registry.filter _ ++ [_] ↔ _
    simp only [List.mem_append, List.mem_filter, List.mem_singleton, Prod.mk.injEq, ne_eq,
      decide_not, Bool.not_eq_true', decide_eq_false_iff_not, registered.entries]
    constructor
    · rintro (⟨⟨c, place, same, there⟩, _⟩ | ⟨rfl, rfl⟩)
      · exact ⟨c, (List.getElem?_append_left (List.getElem?_eq_some_iff.mp place).1).trans place,
          same, there⟩
      · exact ⟨_, List.getElem?_concat_length, rfl, nofun⟩
    · rintro ⟨c, place, rfl, there⟩
      rcases getElem?_accept place with before | ⟨rfl, rfl⟩
      · exact .inl ⟨⟨c, before, rfl, there⟩, fresh k c before⟩
      · exact .inr ⟨rfl, rfl⟩
  · intro k c place
    rcases getElem?_accept place with before | ⟨_, rfl⟩
    · exact registered.below k c before
    · exact below
  · intro j k c d first second same
    rcases getElem?_accept first with first | ⟨rfl, rfl⟩ <;>
      rcases getElem?_accept second with second | ⟨rfl, rfl⟩
    · exact registered.unique j k c d first second same
    · exact absurd same (fresh j c first)
    · exact absurd same.symm (fresh k d second)
    · rfl
  · intro v other accepts
    rcases others v other accepts with ⟨accepts, apart⟩
    refine ⟨(registered.taken v other accepts).1, fun k c place => ?_⟩
    rcases getElem?_accept place with before | ⟨_, rfl⟩
    · exact (registered.taken v other accepts).2 k c before
    · rintro rfl
      exact apart (registered.apart w v id mine accepts)
  · intro v u other first second
    exact registered.apart v u other (others v other first).1 (others u other second).1

/-- An id is taken while the counter has not wrapped around. -/
theorem Registered.allocate {worker : Worker} (registered : s.Registered)
    (found : s.workers[w]? = some worker) (room : s.next + 1 < 2 ^ 64) :
    ({ s with next := (s.next + 1) % 2 ^ 64 }.setWorker w
      { worker with pc := .accepting s.next }).Registered := by
  have next : (s.next + 1) % 2 ^ 64 = s.next + 1 := Nat.mod_eq_of_lt room
  have taken : ∀ v id, Accepts ({ s with next := (s.next + 1) % 2 ^ 64 }.setWorker w
      { worker with pc := .accepting s.next }) v id →
      (v = w ∧ id = s.next) ∨ (v ≠ w ∧ s.Accepts v id) := by
    intro v id accepts
    rw [Accepts, at_set (s := s) found rfl] at accepts
    split_ifs at accepts with same
    · exact .inl ⟨same.symm, (LoopPc.accepting.inj accepts).symm⟩
    · exact .inr ⟨fun equal => same equal.symm, accepts⟩
  refine ⟨registered.entries, ?_, registered.unique, ?_, ?_⟩
  · intro k c place
    show c.id < (s.next + 1) % 2 ^ 64
    have below := registered.below k c place
    omega
  · intro v id accepts
    show id < (s.next + 1) % 2 ^ 64 ∧ _
    rw [next]
    rcases taken v id accepts with ⟨rfl, rfl⟩ | ⟨_, earlier⟩
    · exact ⟨Nat.lt_succ_self _, fun k c place => Nat.ne_of_lt (registered.below k c place)⟩
    · rcases registered.taken v id earlier with ⟨below, fresh⟩
      exact ⟨Nat.lt_succ_of_lt below, fresh⟩
  · intro u v id first second
    rcases taken u id first with ⟨rfl, rfl⟩ | ⟨_, earlier⟩ <;>
      rcases taken v _ second with ⟨rfl, same⟩ | ⟨_, later⟩
    · rfl
    · exact absurd (registered.taken v _ later).1 (Nat.lt_irrefl _)
    · exact absurd (registered.taken u _ earlier).1 (same ▸ Nat.lt_irrefl _)
    · exact registered.apart u v id earlier later

theorem Change.registered (change : Change s s') (registered : s.Registered) (staged : s.Staged)
    (room : s.next + 1 < 2 ^ 64) : s'.Registered := by
  cases change with
  | keeps keeps =>
      exact registered.keep keeps.next keeps.registry keeps.accepts keeps.connections
        (fun _ _ alike => alike.id) fun _ _ alike => alike.unregistered
  | leaves change found _ same gone =>
      exact registered.unregister found change (fun c => (same c).1) gone
  | allocates found => exact registered.allocate found room
  | registers found accepting => exact registered.register found accepting
  | @hands w k worker found handing =>
      refine registered.keep (r := fun c c' => c'.id = c.id ∧
        (c'.stage = .unregistered ↔ c.stage = .unregistered)) rfl rfl
        (fun _ _ => at_of_set found rfl nofun)
        (rel_update (fun _ => ⟨rfl, Iff.rfl⟩) fun c place => ?_) (fun _ _ => And.left)
        fun _ _ => And.right
      rcases staged.hands w k ⟨worker, found, handing⟩ with ⟨c', place', rfl⟩
      cases place'.symm.trans place
      have stage := (staged.registered k c place).mpr ⟨worker, found, handing⟩
      exact ⟨rfl, by simp [stage]⟩

theorem Effect.next_le (effect : Effect config s move s') : s'.next ≤ s.next + 1 := by
  cases effect with
  | allocates => exact Nat.mod_le _ _
  | _ => exact Nat.le_succ _

theorem registered_start (count : Nat) : (start count).Registered := by
  have idle : ∀ w id, ¬(start count).Accepts w id := by
    rintro w id ⟨worker, found, accepting⟩
    rw [List.eq_of_mem_replicate (List.mem_of_getElem? found)] at accepting
    cases accepting
  exact ⟨by simp [start], by simp [start], by simp [start],
    fun w id accepts => absurd accepts (idle w id), fun v _ id accepts => absurd accepts (idle v id)⟩

theorem registered_run (config : Config) (count : Nat) {moves : List Move}
    (short : moves.length + 1 < 2 ^ 64) :
    (run config count moves).Registered ∧ (run config count moves).next ≤ moves.length + 1 := by
  induction moves using List.reverseRecOn with
  | nil => exact ⟨registered_start count, Nat.le_refl 1⟩
  | append_singleton before move ih =>
      rw [List.length_append, List.length_singleton] at short ⊢
      rcases ih (by omega) with ⟨registered, next⟩
      have effect := effect_step config (run config count before) move
      rw [run, finalState_concat]
      have room : (run config count before).next + 1 < 2 ^ 64 := by omega
      exact ⟨effect.change.registered registered (staged_run config count before) room,
        effect.next_le.trans (Nat.succ_le_succ next)⟩

theorem Registered.get_eq_some_iff (registered : s.Registered) {id : Nat} :
    s.get id = some k ↔ (id, k) ∈ s.registry := by
  refine ⟨mem_registry_of_get, fun entry => ?_⟩
  have there : (s.registry.find? fun entry => entry.1 = id).isSome := by
    rw [List.find?_isSome]
    exact ⟨(id, k), entry, decide_eq_true rfl⟩
  rcases Option.isSome_iff_exists.mp there with ⟨⟨other, j⟩, found⟩
  have same : other = id := by simpa using List.find?_some found
  subst same
  rcases (registered.entries _ _).mp entry with ⟨c, place, first, _⟩
  rcases (registered.entries _ _).mp (List.mem_of_find?_eq_some found) with ⟨d, place', second, _⟩
  rw [get, found, Option.map_some, registered.unique j k d c place' place (second.trans first.symm)]

/-- A lookup in the registry finds the connection with the id, from its registration until its
guard is dropped, and no two connections have the same id, in every run that is too short for the
counter of ids to wrap around. -/
theorem registry_exact (config : Config) (count : Nat) {moves : List Move}
    (short : moves.length + 1 < 2 ^ 64) :
    (∀ id k, (run config count moves).get id = some k ↔
      ∃ c, (run config count moves).connections[k]? = some c ∧ c.id = id ∧
        c.stage ≠ .unregistered) ∧
    ∀ (j k : Nat) (c d : Connection), (run config count moves).connections[j]? = some c →
      (run config count moves).connections[k]? = some d → c.id = d.id → j = k := by
  have registered := (registered_run config count short).1
  exact ⟨fun id k => registered.get_eq_some_iff.trans (registered.entries id k), registered.unique⟩

theorem registry_exact_twoConnections :
    (run tunConfig 2 twoConnections).get 1 = some 1 ∧
      ∀ k, (run tunConfig 2 twoConnections).get 2 ≠ some k := by
  have lookups := registry_exact tunConfig 2 (show twoConnections.length + 1 < 2 ^ 64 by decide)
  refine ⟨(lookups.1 1 1).mpr ⟨_, rfl, rfl, nofun⟩, fun k got => ?_⟩
  rcases (lookups.1 2 k).mp got with ⟨c, found, same, there⟩
  cases lookups.2 0 k _ c rfl found same.symm
  cases found
  exact there rfl

end Process

end SstpServer.Server
