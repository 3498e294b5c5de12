import SstpServer.Transition.Run

/-!
# Jobs that run as tasks of their own

A dispatcher takes jobs from a bounded queue and starts a task for each.  The tasks take turns in
any order; what a task does is a list of actions that its job determines.  Whatever the order of
the turns, the log of one task is a part of its own list, and the whole of it once the task has
had enough turns.
-/

namespace SstpServer.Transition

universe u v

variable {β : Type u} {α : Type v}

/-- The jobs that were sent, in order, the actions that the tasks have left, and what was done by
which task.  Task `i` runs job `i`. -/
structure TaskPool (β : Type u) (α : Type v) where
  jobs : List β := []
  tasks : List (List α) := []
  log : List (Nat × α) := []

/-- A job is sent, the dispatcher takes one, or a task has a turn. -/
inductive PoolMove (β : Type u) where
  | submit (job : β)
  | dispatch
  | turn (task : Nat)

namespace PoolMove

def isDispatch : PoolMove β → Bool
  | dispatch => true
  | _ => false

def isTurn (task : Nat) : PoolMove β → Bool
  | turn other => other == task
  | _ => false

end PoolMove

namespace TaskPool

/-- The jobs that no task has been started for. -/
def queued (pool : TaskPool β α) : Nat :=
  pool.jobs.length - pool.tasks.length

/-- One move, with room for `depth` jobs in the queue. -/
def step (depth : Nat) (program : Nat → β → List α) (pool : TaskPool β α) :
    PoolMove β → TaskPool β α
  | .submit job =>
      -- a sender waits while the queue is full
      if pool.queued < depth then { pool with jobs := pool.jobs ++ [job] } else pool
  | .dispatch =>
      match pool.jobs[pool.tasks.length]? with
      | some job => { pool with tasks := pool.tasks ++ [program pool.tasks.length job] }
      | none => pool
  | .turn task =>
      match pool.tasks[task]? with
      | some (action :: rest) =>
          { pool with tasks := pool.tasks.set task rest, log := pool.log ++ [(task, action)] }
      | _ => pool

/-- What a task has done, in order. -/
def logOf (pool : TaskPool β α) (task : Nat) : List α :=
  (pool.log.filter fun entry => entry.1 == task).map Prod.snd

section

variable {depth : Nat} {program : Nat → β → List α} {pool next : TaskPool β α} {move : PoolMove β}

/-- What a move does. -/
inductive Moved (program : Nat → β → List α) (pool : TaskPool β α) :
    PoolMove β → TaskPool β α → Prop where
  | waits {move : PoolMove β}
      (noJob : move = .dispatch → pool.jobs.length ≤ pool.tasks.length)
      (noAction : ∀ task rest, move = .turn task → pool.tasks[task]? = some rest → rest = []) :
      Moved program pool move pool
  | submits (job : β) : Moved program pool (.submit job) { pool with jobs := pool.jobs ++ [job] }
  | dispatches {job : β} (place : pool.jobs[pool.tasks.length]? = some job) :
      Moved program pool .dispatch
        { pool with tasks := pool.tasks ++ [program pool.tasks.length job] }
  | turns {task : Nat} {action : α} {rest : List α}
      (place : pool.tasks[task]? = some (action :: rest)) :
      Moved program pool (.turn task)
        { pool with tasks := pool.tasks.set task rest, log := pool.log ++ [(task, action)] }

theorem moved_step (depth : Nat) (program : Nat → β → List α) (pool : TaskPool β α)
    (move : PoolMove β) : Moved program pool move (step depth program pool move) := by
  cases move with
  | submit job =>
      simp only [step]
      split
      · exact .submits job
      · exact .waits (fun same => by cases same) (fun _ _ same => by cases same)
  | dispatch =>
      simp only [step]
      split
      · exact .dispatches ‹_›
      · exact .waits (fun _ => List.getElem?_eq_none_iff.mp ‹_›) (fun _ _ same => by cases same)
  | turn task =>
      simp only [step]
      split
      · exact .turns ‹_›
      · rename_i noAction
        apply Moved.waits (fun same => by cases same)
        rintro _ rest ⟨⟩ found
        cases rest with
        | nil => rfl
        | cons action rest => exact absurd found (noAction action rest)

/-! ## What a task has done and what it has left -/

theorem logOf_turn (tasks : List (List α)) (task other : Nat) (action : α) :
    logOf { pool with tasks, log := pool.log ++ [(task, action)] } other =
      if task = other then pool.logOf other ++ [action] else pool.logOf other := by
  by_cases same : task = other <;> simp [logOf, same]

/-- Every task has done and has left what its job determines, in this order. -/
structure Faithful (program : Nat → β → List α) (pool : TaskPool β α) : Prop where
  started : ∀ task rest, pool.tasks[task]? = some rest →
    ∃ job, pool.jobs[task]? = some job ∧ pool.logOf task ++ rest = program task job
  notStarted : ∀ task, pool.tasks.length ≤ task → pool.logOf task = []

theorem faithful_empty : Faithful program ({} : TaskPool β α) :=
  ⟨fun task rest found => by simp at found, fun _ _ => rfl⟩

/-- A job keeps its place. -/
theorem Moved.jobs {job : β} {place : Nat} (moved : Moved program pool move next)
    (found : pool.jobs[place]? = some job) : next.jobs[place]? = some job := by
  cases moved with
  | submits => exact List.getElem?_append_left (List.getElem?_eq_some_iff.mp found).1 ▸ found
  | waits | dispatches | turns => exact found

theorem jobs_finalState (depth : Nat) (program : Nat → β → List α) {job : β} {place : Nat}
    (found : pool.jobs[place]? = some job) (moves : List (PoolMove β)) :
    (finalState (step depth program) pool moves).jobs[place]? = some job := by
  induction moves generalizing pool with
  | nil => exact found
  | cons move later ih => exact ih ((moved_step depth program pool move).jobs found)

theorem Moved.faithful (moved : Moved program pool move next)
    (faithful : Faithful program pool) : Faithful program next := by
  cases moved with
  | waits => exact faithful
  | submits job =>
      refine ⟨fun task rest found => ?_, faithful.notStarted⟩
      rcases faithful.started task rest found with ⟨own, place, done⟩
      have submits : Moved program pool (.submit job) _ := .submits job
      exact ⟨own, submits.jobs place, done⟩
  | @dispatches job place =>
      constructor
      · intro task rest found
        rcases Nat.lt_trichotomy task pool.tasks.length with old | rfl | beyond
        · rw [List.getElem?_append_left old] at found
          exact faithful.started task rest found
        · rw [List.getElem?_concat_length, Option.some.injEq] at found
          subst rest
          refine ⟨job, place, ?_⟩
          change pool.logOf pool.tasks.length ++ _ = _
          rw [faithful.notStarted _ (Nat.le_refl _), List.nil_append]
        · rw [List.getElem?_eq_none (by simp; omega)] at found
          cases found
      · intro task beyond
        apply faithful.notStarted
        simp at beyond
        omega
  | @turns turned action rest place =>
      constructor
      · intro task left found
        rw [logOf_turn]
        by_cases same : turned = task
        · subst same
          rw [List.getElem?_set_self (List.getElem?_eq_some_iff.mp place).1,
            Option.some.injEq] at found
          subst left
          rcases faithful.started turned _ place with ⟨job, own, done⟩
          exact ⟨job, own, by simpa using done⟩
        · rw [List.getElem?_set_ne same] at found
          rw [if_neg same]
          exact faithful.started task left found
      · intro task beyond
        rw [List.length_set] at beyond
        have other : turned ≠ task := by
          rintro rfl
          exact absurd (List.getElem?_eq_some_iff.mp place).1 (Nat.not_lt.mpr beyond)
        rw [logOf_turn, if_neg other]
        exact faithful.notStarted task beyond

/-- After every run the tasks are faithful to their jobs. -/
theorem faithful_finalState (depth : Nat) (program : Nat → β → List α)
    (moves : List (PoolMove β)) :
    Faithful program (finalState (step depth program) ({} : TaskPool β α) moves) :=
  finalState_invariant (fun _ _ => (moved_step _ _ _ _).faithful) faithful_empty moves

/-- What a task has done is a part of what its job determines. -/
theorem Faithful.logOf_isPrefix {task : Nat} {job : β} (faithful : Faithful program pool)
    (sent : pool.jobs[task]? = some job) : pool.logOf task <+: program task job := by
  cases found : pool.tasks[task]? with
  | none =>
      rw [faithful.notStarted task (List.getElem?_eq_none_iff.mp found)]
      exact List.nil_prefix
  | some rest =>
      rcases faithful.started task rest found with ⟨own, place, done⟩
      cases sent.symm.trans place
      exact ⟨rest, done⟩

/-! ## Enough turns -/

/-- A turn takes the first of the actions that its task has left; no other move changes them. -/
theorem Moved.tasks {task : Nat} {rest : List α} (moved : Moved program pool move next)
    (found : pool.tasks[task]? = some rest) :
    next.tasks[task]? = some (rest.drop (if move.isTurn task then 1 else 0)) := by
  cases moved with
  | waits noJob noAction =>
      cases move with
      | turn other =>
          by_cases same : other = task
          · subst same
            rw [found, noAction other rest rfl found, List.drop_nil]
          · simpa [PoolMove.isTurn, same] using found
      | submit | dispatch => exact found
  | submits => exact found
  | dispatches =>
      exact List.getElem?_append_left (List.getElem?_eq_some_iff.mp found).1 ▸ found
  | @turns turned action left place =>
      by_cases same : turned = task
      · subst same
        cases found.symm.trans place
        simp [PoolMove.isTurn, (List.getElem?_eq_some_iff.mp found).1]
      · simpa [PoolMove.isTurn, same, List.getElem?_set_ne same] using found

theorem tasks_finalState (depth : Nat) (program : Nat → β → List α) {task : Nat} {rest : List α}
    (found : pool.tasks[task]? = some rest) (moves : List (PoolMove β)) :
    (finalState (step depth program) pool moves).tasks[task]? =
      some (rest.drop (moves.countP (PoolMove.isTurn task))) := by
  induction moves generalizing pool rest with
  | nil => exact found
  | cons move later ih =>
      rw [finalState_cons, ih ((moved_step depth program pool move).tasks found), List.drop_drop,
        List.countP_cons, Nat.add_comm]

/-- While a job waits, every time the dispatcher takes a job a task is started. -/
theorem Moved.length_tasks {task : Nat} (moved : Moved program pool move next)
    (sent : task < pool.jobs.length) :
    min (task + 1) (pool.tasks.length + if move.isDispatch then 1 else 0) ≤
      next.tasks.length := by
  cases moved with
  | waits noJob =>
      cases move with
      | dispatch => exact Nat.le_trans (Nat.min_le_left _ _) (Nat.le_trans sent (noJob rfl))
      | submit | turn => exact Nat.min_le_right _ _
  | submits => exact Nat.min_le_right _ _
  | dispatches =>
      rw [List.length_append]
      exact Nat.min_le_right _ _
  | turns =>
      rw [List.length_set]
      exact Nat.min_le_right _ _

theorem length_tasks_finalState (depth : Nat) (program : Nat → β → List α) {task : Nat}
    (sent : task < pool.jobs.length) (moves : List (PoolMove β)) :
    min (task + 1) (pool.tasks.length + moves.countP PoolMove.isDispatch) ≤
      (finalState (step depth program) pool moves).tasks.length := by
  induction moves generalizing pool with
  | nil => exact Nat.min_le_right _ _
  | cons move later ih =>
      have moved := moved_step depth program pool move
      have kept := moved.jobs (List.getElem?_eq_getElem sent)
      have started := moved.length_tasks sent
      have rest := ih (List.getElem?_eq_some_iff.mp kept).1
      rw [finalState_cons, List.countP_cons]
      omega

/-- A task is given `turns` turns: its job is sent, then the dispatcher takes the jobs up to it,
then the task has its turns.  Other moves may come between them. -/
def GivenTurns (depth : Nat) (program : Nat → β → List α) (turns task : Nat)
    (moves : List (PoolMove β)) : Prop :=
  ∃ before during after, moves = before ++ during ++ after ∧
    task < (finalState (step depth program) ({} : TaskPool β α) before).jobs.length ∧
    task < during.countP PoolMove.isDispatch ∧ turns ≤ after.countP (PoolMove.isTurn task)

/-- A task that is given enough turns does all that its job determines. -/
theorem logOf_eq_of_givenTurns {turns task : Nat} {job : β} {moves : List (PoolMove β)}
    (enough : (program task job).length ≤ turns)
    (sent : (finalState (step depth program) ({} : TaskPool β α) moves).jobs[task]? = some job)
    (given : GivenTurns depth program turns task moves) :
    (finalState (step depth program) ({} : TaskPool β α) moves).logOf task =
      program task job := by
  rcases given with ⟨before, during, after, rfl, waiting, taken, turned⟩
  have taking := length_tasks_finalState depth program waiting during
  have early := faithful_finalState depth program (before ++ during)
  have late := faithful_finalState depth program (before ++ during ++ after)
  rw [← finalState_append] at taking
  rw [finalState_append] at sent late ⊢
  generalize finalState (step depth program) {} (before ++ during) = middle at *
  have started : task < middle.tasks.length := by omega
  rcases early.started task _ (List.getElem?_eq_getElem started) with ⟨own, place, split⟩
  cases (jobs_finalState depth program place after).symm.trans sent
  -- what is left when the turns begin is no longer than what the job determines
  have short : middle.tasks[task].length ≤ (program task job).length := by
    rw [← split, List.length_append]
    exact Nat.le_add_left _ _
  have left := tasks_finalState depth program (List.getElem?_eq_getElem started) after
  rw [List.drop_eq_nil_of_le (by omega)] at left
  rcases late.started task [] left with ⟨own, place, done⟩
  cases place.symm.trans sent
  rwa [List.append_nil] at done

end

end TaskPool

end SstpServer.Transition
