import SstpServer.Session.Handover
import SstpServer.Session.Lifecycle
import SstpServer.Transition.Erasure

/-!
# Ticks and the other commands

A tick that comes while the task works off packets, or while it waits for the preamble, stays
on the channel until the task takes it at the `select` of the session, and then does nothing
unless an interval has passed.  It still takes up room on the channel, and during the TLS
handshake it ends the task as any other command does.
-/

namespace SstpServer.Session

open SstpServer.Wire
open SstpServer.Sstp
open SstpServer.Ppp
open SstpServer.Transition

/-! ## A tick at the select -/

/-- A hello interval has passed without a packet from the peer of a connected call. -/
def HelloDue (env : Env) (s : Session) : Prop :=
  s.ssm.state = .serverCallConnected ∧
    (s.helloEchoPending = true ∧ seconds (timerValHello + timerValHello) ≤ env.now - s.lastRx ∨
      s.helloEchoPending = false ∧ seconds timerValHello ≤ env.now - s.lastRx)

/-- The accounting interval has passed. -/
def InterimDue (env : Env) (s : Session) : Prop :=
  s.acctInterimPeriod ≤ env.now - s.lastAcctInterim

instance (env : Env) (s : Session) : Decidable (HelloDue env s) :=
  inferInstanceAs (Decidable (_ ∧ _))

instance (env : Env) (s : Session) : Decidable (InterimDue env s) :=
  inferInstanceAs (Decidable (_ ≤ _))

theorem helloCheck_of_not_due (config : Config) {env : Env} {s : Session}
    (early : ¬HelloDue env s) : s.helloCheck config env = s := by
  unfold helloCheck
  dsimp only
  split_ifs with other silent echo
  · rfl
  · exact (early ⟨not_not.mp other, .inl silent⟩).elim
  · exact (early ⟨not_not.mp other, .inr ⟨Bool.eq_false_iff.mpr echo.1, echo.2⟩⟩).elim
  · rfl

theorem acctInterim_of_not_due (config : Config) {env : Env} {s : Session}
    (early : ¬InterimDue env s) : s.acctInterim config env = s := by
  rw [acctInterim, if_pos (Nat.lt_of_not_le early)]

/-- A tick before any interval has passed leaves the session as it is. -/
theorem step_tick_of_not_due (config : Config) {env : Env} {s : Session}
    (running : s.running = true) (waiting : s.point = .select) (rests : AtRest s)
    (hello : ¬HelloDue env s) (interim : ¬InterimDue env s) :
    s.step config ⟨.event (.control (some .periodicTick)), env⟩ = s := by
  have handled : s.onEvent config env (.control (some .periodicTick)) = s := by
    rw [onEvent, helloCheck_of_not_due config hello, andThen, if_pos running,
      acctInterim_of_not_due config interim]
  have going : ¬s.status = .ended := by
    intro ended
    simp [Session.running, ended] at running
  have armed : s.enabled env (.control (some .periodicTick)) = true := rfl
  unfold step handle
  rw [if_pos running, waiting]
  dsimp only
  rw [if_pos armed, handled, andThen, if_pos running, if_pos waiting, loopHead_of_atRest rests,
    settle, if_neg going]

theorem atRest_start (config : Config) (env : Env) : AtRest (start config env) := by
  rw [start_eq]
  exact ⟨rfl, nofun, nofun⟩

/-- A session that waits is at rest. -/
theorem atRest_step {config : Config} {s : Session} {input : Input}
    (rests : s.point = .select → AtRest s) (survives : (s.step config input).running = true)
    (waiting : (s.step config input).point = .select) : AtRest (s.step config input) := by
  rcases (turns_step survives).rests with same | arrives
  · rw [same] at waiting ⊢
    exact rests waiting
  · exact arrives waiting

/-! ## Runs that differ in ticks -/

namespace Queued

/-- A tick that came while the task could not take it. -/
def isEarlyTick (queued : Queued) : Bool :=
  queued.early && queued.command = .periodicTick

end Queued

namespace Phase

/-- No interval has passed for the session of a task. -/
def NothingDue (env : Env) : Phase → Prop
  | .driving s => ¬HelloDue env s ∧ ¬InterimDue env s
  | _ => True

instance (env : Env) : ∀ phase : Phase, Decidable (phase.NothingDue env)
  | .driving _ => inferInstanceAs (Decidable (¬_ ∧ ¬_))
  | .tlsHandshake | .preamble | .ended _ => isTrue trivial

end Phase

namespace Task

/-- The next command that the task takes is an early tick. -/
def takesEarlyTick (t : Task) : Bool :=
  match t.phase, t.queue with
  | .driving s, next :: _ => s.point = .select && !t.draining && next.isEarlyTick
  | _, _ => false

/-- A tick that comes during a wait, or the turn in which the task takes it. -/
def passesOver (t : Task) : Task.Input → Bool
  | .tick => t.waits
  | .turn _ => t.takesEarlyTick
  | _ => false

/-- The channel of a live task is full, and a command that `counts` is on it. -/
def Full (t : Task) (counts : Queued → Prop) : Prop :=
  t.live = true ∧ controlChannelDepth ≤ t.queue.length ∧ ∃ queued ∈ t.queue, counts queued

/-- The channel of a live task is full, and an early tick is on it. -/
def Crowded (t : Task) : Prop :=
  t.Full fun queued => queued.isEarlyTick = true

/-- The channel of a live task is full, and not only of other commands than ticks. -/
def Jammed (t : Task) : Prop :=
  t.Full fun queued => queued.command = .periodicTick

def inHandshake (t : Task) : Bool :=
  match t.phase with
  | .tlsHandshake => true
  | _ => false

/-- No tick comes during the TLS handshake, nothing but early ticks comes while the channel is
full with an early tick on it, no Disconnect comes while it is full with any tick on it, and
an early tick is taken before an interval has passed. -/
def Undisturbed (t : Task) : Task.Input → Prop
  | .tick => t.inHandshake = false ∧ (t.waits = false → ¬t.Crowded)
  | .send (.disconnect _) => ¬t.Jammed
  | .send _ => ¬t.Crowded
  | .turn input => t.takesEarlyTick = true → t.phase.NothingDue input.env
  | _ => True

instance (t : Task) (counts : Queued → Prop) [DecidablePred counts] : Decidable (t.Full counts) :=
  inferInstanceAs (Decidable (_ ∧ _))

instance (t : Task) : Decidable t.Crowded :=
  inferInstanceAs (Decidable (t.Full _))

instance (t : Task) : Decidable t.Jammed :=
  inferInstanceAs (Decidable (t.Full _))

instance (t : Task) : ∀ input : Task.Input, Decidable (t.Undisturbed input)
  | .tick => inferInstanceAs (Decidable (_ = _ ∧ (_ = _ → ¬t.Crowded)))
  | .send (.disconnect _) => inferInstanceAs (Decidable ¬t.Jammed)
  | .send (.rekey _) | .send .periodicTick => inferInstanceAs (Decidable ¬t.Crowded)
  | .turn input => inferInstanceAs (Decidable (_ = _ → t.phase.NothingDue input.env))
  | .drain | .handshake _ | .preamble _ _ => isTrue trivial

/-- The task is where another one is that never got its early ticks. -/
structure Shadows (t d : Task) : Prop where
  phase : d.phase = t.phase
  draining : d.draining = t.draining
  queue : d.queue = t.queue.filter fun queued => !queued.isEarlyTick
  handshake : t.inHandshake = true → ∀ queued ∈ t.queue, queued.isEarlyTick = false
  driving : ∀ s, t.phase = .driving s → s.running = true ∧ (s.point = .select → AtRest s)

section Shadows

variable {config : Config} {t d : Task}

theorem phase_drive {s : Session} (running : s.running = true) :
    (t.drive s).phase = .driving s :=
  if_pos running

theorem Shadows.live (shadows : t.Shadows d) : d.live = t.live := by
  rw [Task.live, shadows.phase, Task.live]

theorem Crowded.jammed (crowded : t.Crowded) : t.Jammed := by
  rcases crowded with ⟨live, full, queued, member, early⟩
  simp only [Queued.isEarlyTick, Bool.and_eq_true, decide_eq_true_eq] at early
  exact ⟨live, full, queued, member, early.2⟩

theorem Undisturbed.not_crowded {command : ControlCommand}
    (undisturbed : t.Undisturbed (.send command)) : ¬t.Crowded := by
  cases command with
  | disconnect reason => exact fun crowded => undisturbed crowded.jammed
  | rekey requestPeer => exact undisturbed
  | periodicTick => exact undisturbed

/-- Two tasks have room alike, unless early ticks take it up. -/
theorem Shadows.room (shadows : t.Shadows d) (clear : ¬t.Crowded) : d.room = t.room := by
  unfold Task.room
  rw [shadows.live]
  by_cases live : t.live = true
  · have shorter : d.queue.length ≤ t.queue.length := by
      rw [shadows.queue]
      exact List.length_filter_le _ _
    by_cases full : controlChannelDepth ≤ t.queue.length
    · have same : d.queue = t.queue := by
        rw [shadows.queue]
        apply List.filter_eq_self.mpr
        intro queued member
        rw [Bool.not_eq_true', Bool.eq_false_iff]
        exact fun early => clear ⟨live, full, queued, member, early⟩
      rw [same]
    · have less : t.queue.length < controlChannelDepth := Nat.lt_of_not_le full
      rw [decide_eq_true less, decide_eq_true (Nat.lt_of_le_of_lt shorter less)]
  · rw [Bool.eq_false_iff.mpr live]
    rfl

/-- A command that is sent to both finds room on both channels or on none. -/
theorem Shadows.trySend (shadows : t.Shadows d) (clear : ¬t.Crowded) {queued : Queued}
    (counts : queued.isEarlyTick = false) : (t.trySend queued).Shadows (d.trySend queued) := by
  unfold Task.trySend
  rw [shadows.room clear]
  split_ifs
  · constructor
    · exact shadows.phase
    · exact shadows.draining
    · simp [shadows.queue, counts]
    · intro early other member
      rcases List.mem_append.mp member with before | last
      · exact shadows.handshake early other before
      · rw [List.mem_singleton.mp last]
        exact counts
    · exact shadows.driving
  · exact shadows

/-- An early tick changes nothing but the room on the channel. -/
theorem Shadows.early (shadows : t.Shadows d) (later : t.inHandshake = false) {queued : Queued}
    (early : queued.isEarlyTick = true) : (t.trySend queued).Shadows d := by
  unfold Task.trySend
  split_ifs
  · constructor
    · exact shadows.phase
    · exact shadows.draining
    · simp [shadows.queue, early]
    · intro handshake
      exact absurd (later.symm.trans handshake) nofun
    · exact shadows.driving
  · exact shadows

theorem Shadows.drive (shadows : t.Shadows d) {s : Session} (rests : s.running = true →
    s.point = .select → AtRest s) : (t.drive s).Shadows (d.drive s) := by
  constructor
  · rfl
  · exact shadows.draining
  · exact shadows.queue
  · intro handshake
    simp only [inHandshake, Task.drive] at handshake
    split at handshake
    · rename_i phase
      split_ifs at phase
    · cases handshake
  · intro s' phase
    simp only [Task.drive] at phase
    split_ifs at phase with running
    cases phase
    exact ⟨running, rests running⟩

/-- Both tasks go on to a phase that leaves the channel alone. -/
theorem Shadows.leave (shadows : t.Shadows d) {phase : Phase}
    (silent : phase = .preamble ∨ ∃ outcome, phase = .ended outcome) :
    { t with phase }.Shadows { d with phase } := by
  constructor
  · rfl
  · exact shadows.draining
  · exact shadows.queue
  · intro handshake
    rcases silent with rfl | ⟨outcome, rfl⟩ <;> cases handshake
  · intro s driving
    rcases silent with rfl | ⟨outcome, rfl⟩ <;> cases driving

theorem Shadows.onHandshake (shadows : t.Shadows d) (result : Option Bool) :
    (t.onHandshake result).Shadows (d.onHandshake result) := by
  unfold Task.onHandshake
  rw [shadows.phase, shadows.draining]
  cases phase : t.phase with
  | tlsHandshake =>
      -- Neither channel has an early tick yet, so the two tasks find the same commands.
      have same : d.queue = t.queue := by
        rw [shadows.queue]
        apply List.filter_eq_self.mpr
        intro queued member
        rw [shadows.handshake (by rw [inHandshake, phase]) queued member]
        rfl
      have leaves : ∀ phase : Phase, (phase = .preamble ∨ ∃ outcome, phase = .ended outcome) →
          Shadows ⟨phase, t.queue, t.draining⟩ ⟨phase, t.queue, t.draining⟩ := by
        intro phase silent
        have left := shadows.leave silent
        rw [same, shadows.draining] at left
        exact left
      dsimp only
      rw [same]
      split_ifs
      · exact leaves _ (.inr ⟨_, rfl⟩)
      · exact leaves _ (.inr ⟨_, rfl⟩)
      · rcases result with _ | _ | _
        · exact shadows
        · exact leaves _ (.inr ⟨_, rfl⟩)
        · exact leaves _ (.inl rfl)
  | preamble => exact shadows
  | driving s => exact shadows
  | ended outcome => exact shadows

theorem Shadows.onPreamble (shadows : t.Shadows d) (accepted : Bool) (env : Env) :
    (t.onPreamble config accepted env).Shadows (d.onPreamble config accepted env) := by
  unfold Task.onPreamble
  rw [shadows.phase]
  cases phase : t.phase with
  | preamble =>
      dsimp only
      split_ifs
      · exact shadows.drive fun _ _ => atRest_start config env
      · exact shadows.leave (.inr ⟨_, rfl⟩)
  | tlsHandshake => exact shadows
  | driving s => exact shadows
  | ended outcome => exact shadows

/-- The turn in which an early tick is taken does nothing. -/
theorem Shadows.onTurn_early (shadows : t.Shadows d) (input : Session.Input)
    (early : t.takesEarlyTick = true) (nothing : t.phase.NothingDue input.env) :
    (t.onTurn config input).Shadows d := by
  unfold takesEarlyTick at early
  split at early
  · rename_i s next rest phase queue
    simp only [Bool.and_eq_true, Bool.not_eq_true', decide_eq_true_eq] at early
    rcases early with ⟨⟨waiting, undrained⟩, tick⟩
    rcases shadows.driving s phase with ⟨running, rests⟩
    rw [phase] at nothing
    have command : next.command = .periodicTick := by
      simp only [Queued.isEarlyTick, Bool.and_eq_true, decide_eq_true_eq] at tick
      exact tick.2
    have taken : t.onTurn config input = { t with phase := .driving s, queue := rest } := by
      simp only [Task.onTurn, phase, waiting, undrained, queue, command, if_true,
        Bool.false_eq_true, if_false]
      rw [step_tick_of_not_due config running waiting (rests waiting) nothing.1 nothing.2,
        Task.drive, if_pos running]
    rw [taken]
    constructor
    · exact shadows.phase.trans phase
    · exact shadows.draining
    · rw [shadows.queue, queue, List.filter_cons_of_neg (by simp [tick])]
    · nofun
    · intro s' driving
      cases driving
      exact ⟨running, rests⟩
  · cases early

theorem Shadows.onTurn (shadows : t.Shadows d) (input : Session.Input)
    (other : t.takesEarlyTick = false) :
    (t.onTurn config input).Shadows (d.onTurn config input) := by
  unfold Task.onTurn
  rw [shadows.phase, shadows.draining]
  cases phase : t.phase with
  | tlsHandshake => exact shadows
  | preamble => exact shadows
  | ended outcome => exact shadows
  | driving s =>
      rcases shadows.driving s phase with ⟨running, rests⟩
      have steps : ∀ (input : Session.Input), (s.step config input).running = true →
          (s.step config input).point = .select → AtRest (s.step config input) :=
        fun input => atRest_step rests
      have drained : { t with draining := false }.Shadows { d with draining := false } :=
        { shadows with draining := rfl }
      dsimp only
      by_cases waiting : s.point = .select
      · rw [if_pos waiting, if_pos waiting]
        by_cases draining : t.draining = true
        · rw [if_pos draining, if_pos draining]
          exact drained.drive (steps _)
        rw [if_neg draining, if_neg draining]
        cases queue : t.queue with
        | nil =>
            have empty : d.queue = [] := by rw [shadows.queue, queue]; rfl
            rw [empty]
            dsimp only
            split_ifs
            · exact shadows
            · exact shadows.drive (steps _)
        | cons next rest =>
            have counts : next.isEarlyTick = false := by
              simpa [takesEarlyTick, phase, queue, waiting, draining] using other
            have same : d.queue = next :: rest.filter fun queued => !queued.isEarlyTick := by
              rw [shadows.queue, queue, List.filter_cons_of_pos (by simp [counts])]
            rw [same]
            have popped : Shadows ⟨.driving s, rest, t.draining⟩
                ⟨.driving s, rest.filter fun queued => !queued.isEarlyTick, t.draining⟩ := by
              constructor
              · rfl
              · rfl
              · rfl
              · nofun
              · intro s' driving
                cases driving
                exact ⟨running, rests⟩
            exact popped.drive (steps _)
      · rw [if_neg waiting, if_neg waiting]
        exact shadows.drive (steps _)

theorem shadows_new : Task.new.Shadows Task.new := by
  constructor
  · rfl
  · rfl
  · rfl
  · intro handshake queued member
    cases member
  · intro s driving
    cases driving

/-- A step passes over early ticks, and takes all other inputs as the other task does. -/
theorem Shadows.step (shadows : t.Shadows d) (config : Config) {input : Task.Input}
    (undisturbed : t.Undisturbed input) (counts : t.passesOver input = false) :
    (t.step config input).Shadows (d.step config input) := by
  cases input with
  | tick =>
      have same : d.waits = t.waits := by rw [Task.waits, shadows.phase, Task.waits]
      have late : t.waits = false := counts
      unfold Task.step
      rw [same]
      exact shadows.trySend (undisturbed.2 late) (by rw [late]; rfl)
  | send command => exact shadows.trySend undisturbed.not_crowded rfl
  | drain => exact { shadows with draining := rfl }
  | handshake result => exact shadows.onHandshake result
  | preamble accepted env => exact shadows.onPreamble accepted env
  | turn input => exact shadows.onTurn input counts

theorem Shadows.step_of_passesOver (shadows : t.Shadows d) (config : Config)
    {input : Task.Input} (undisturbed : t.Undisturbed input)
    (passes : t.passesOver input = true) : (t.step config input).Shadows d := by
  cases input with
  | tick =>
      have early : t.waits = true := passes
      exact shadows.early undisturbed.1 (by rw [early]; rfl)
  | turn input => exact shadows.onTurn_early input passes (undisturbed passes)
  | _ => cases passes

end Shadows

end Task

/-! ## Runs of the task -/

/-- The inputs of a run without the ticks of its waits, and without the turns that take
them. -/
def withoutEarlyTicks (config : Config) (inputs : List Task.Input) : List Task.Input :=
  erase (Task.step config) Task.passesOver Task.new inputs

/-- A live task refuses a Disconnect only when its channel is full of other commands than
ticks. -/
def RefusesFairly (t : Task) (input : Task.Input) : Prop :=
  ∀ reason, input = .send (.disconnect reason) → t.live = true → t.room = false →
    ∀ queued ∈ t.queue, queued.command ≠ .periodicTick

theorem Task.Undisturbed.refusesFairly {t : Task} {input : Task.Input}
    (undisturbed : t.Undisturbed input) : RefusesFairly t input := by
  rintro reason rfl live full queued member tick
  have length : controlChannelDepth ≤ t.queue.length := by
    simpa [Task.room, live] using full
  exact undisturbed ⟨live, length, queued, member, tick⟩

/-! ### Commands that come in one wait -/

def Task.Input.isCommand : Task.Input → Bool
  | .tick | .send _ => true
  | _ => false

/-- Count the commands that come until the task has taken all that are on its channel. -/
def backlog (config : Config) (count : Nat) (visit : Task × Task.Input) : Nat :=
  if (visit.1.step config visit.2).queue = [] then 0
  else if visit.2.isCommand then count + 1
  else count

/-- The commands that have come since the channel was last empty. -/
def backlogAfter (config : Config) (inputs : List Task.Input) : Nat :=
  (visits (Task.step config) Task.new inputs).foldl (backlog config) 0

section Backlog

variable {config : Config} {t : Task}

theorem Task.length_queue_trySend_le (t : Task) (queued : Queued) :
    (t.trySend queued).queue.length ≤ t.queue.length + 1 := by
  unfold trySend
  split_ifs
  · exact Nat.le_of_eq List.length_append
  · exact Nat.le_succ _

/-- Only a command makes the channel longer. -/
theorem Task.length_queue_step_le (config : Config) (t : Task) {input : Task.Input}
    (other : input.isCommand = false) : (t.step config input).queue.length ≤ t.queue.length := by
  cases input with
  | tick | send => cases other
  | drain => exact Nat.le_refl _
  | handshake result =>
      change (t.onHandshake result).queue.length ≤ t.queue.length
      unfold onHandshake
      split
      · split_ifs
        · exact Nat.le_refl _
        · exact Nat.le_refl _
        · split <;> exact Nat.le_refl _
      · exact Nat.le_refl _
  | preamble accepted env =>
      change (t.onPreamble config accepted env).queue.length ≤ t.queue.length
      unfold onPreamble
      split
      · split_ifs <;> exact Nat.le_refl _
      · exact Nat.le_refl _
  | turn input =>
      rcases t with ⟨phase, queue, draining⟩
      change (onTurn config ⟨phase, queue, draining⟩ input).queue.length ≤ queue.length
      unfold onTurn
      cases phase with
      | driving s =>
          cases queue with
          | nil =>
              dsimp only
              split_ifs <;> exact Nat.le_refl _
          | cons next rest =>
              dsimp only
              split_ifs
              · exact Nat.le_refl _
              · exact Nat.le_succ rest.length
              · exact Nat.le_refl _
      | tlsHandshake | preamble | ended => exact Nat.le_refl _

theorem length_queue_step_le_backlog (count : Nat) (t : Task) (input : Task.Input)
    (counted : t.queue.length ≤ count) :
    (t.step config input).queue.length ≤ backlog config count (t, input) := by
  unfold backlog
  split_ifs with empty command
  · rw [empty]
    exact Nat.le_refl _
  · refine le_trans ?_ (Nat.succ_le_succ counted)
    cases input with
    | tick | send => exact t.length_queue_trySend_le _
    | _ => cases command
  · exact (t.length_queue_step_le config (Bool.eq_false_iff.mpr command)).trans counted

/-- In every run no more is on the channel than has come since it was last empty. -/
theorem length_queue_le_backlogAfter (config : Config) (inputs : List Task.Input) :
    (taskAfter config inputs).queue.length ≤ backlogAfter config inputs := by
  have keeps : ∀ (history : List (Task × Task.Input)) (t : Task) (input : Task.Input),
      t.queue.length ≤ history.foldl (backlog config) 0 →
        (t.step config input).queue.length ≤
          (history ++ [(t, input)]).foldl (backlog config) 0 := by
    intro history t input counted
    rw [List.foldl_concat]
    exact length_queue_step_le_backlog _ t input counted
  have initially : Task.new.queue.length ≤ ([] : List (Task × Task.Input)).foldl
      (backlog config) 0 := Nat.le_refl 0
  exact visits_finalState_induction keeps initially inputs

theorem room_of_backlogAfter_lt {inputs : List Task.Input}
    (few : backlogAfter config inputs < controlChannelDepth)
    (live : (taskAfter config inputs).live = true) : (taskAfter config inputs).room = true := by
  have short := (length_queue_le_backlogAfter config inputs).trans_lt few
  rw [Task.room, live, Bool.true_and]
  exact decide_eq_true short

end Backlog

/-- Undisturbed runs that differ only in the ticks of their waits end in the same phase, and
refuse a Disconnect only when the channel is full of other commands.  No command is refused
before four have come since the channel was last empty. -/
theorem phase_eq_of_undisturbed {config : Config} {inputs inputs' : List Task.Input}
    (same : withoutEarlyTicks config inputs = withoutEarlyTicks config inputs')
    (undisturbed : ∀ visit ∈ visits (Task.step config) Task.new inputs,
      visit.1.Undisturbed visit.2)
    (undisturbed' : ∀ visit ∈ visits (Task.step config) Task.new inputs',
      visit.1.Undisturbed visit.2) :
    (taskAfter config inputs).phase = (taskAfter config inputs').phase ∧
      (∀ visit ∈ visits (Task.step config) Task.new inputs, RefusesFairly visit.1 visit.2) ∧
      ∀ before command after, inputs = before ++ .send command :: after →
        backlogAfter config before < controlChannelDepth →
        (taskAfter config before).live = true → (taskAfter config before).room = true := by
  refine ⟨?_, ?_, fun before command after _ few live => room_of_backlogAfter_lt few live⟩
  · have passes : ∀ t d input, Task.Shadows t d → t.Undisturbed input →
        t.passesOver input = true → (t.step config input).Shadows d :=
      fun t d input shadows quiet early => shadows.step_of_passesOver config quiet early
    have follows : ∀ t d input, Task.Shadows t d → t.Undisturbed input →
        t.passesOver input = false → (t.step config input).Shadows (d.step config input) :=
      fun t d input shadows quiet counts => shadows.step config quiet counts
    have observes : ∀ t d, Task.Shadows t d → t.phase = d.phase :=
      fun t d shadows => shadows.phase.symm
    exact observe_eq_of_erase_eq passes follows observes Task.shadows_new same undisturbed
      undisturbed'
  · intro visit member
    exact (undisturbed visit member).refusesFairly

/-- A Disconnect ends a session that has just begun. -/
def disconnectRun : List Task.Input :=
  [.handshake (some true), .preamble true obligingEnv, .send (.disconnect .adminRequested),
    .turn ⟨.packet, obligingEnv⟩]

/-- The same with a tick during the preamble, which the task takes first. -/
def tickedDisconnectRun : List Task.Input :=
  [.handshake (some true), .tick, .preamble true obligingEnv,
    .send (.disconnect .adminRequested), .turn ⟨.packet, obligingEnv⟩,
    .turn ⟨.packet, obligingEnv⟩]

theorem phase_eq_tickedDisconnectRun :
    withoutEarlyTicks kernelConfig tickedDisconnectRun =
        withoutEarlyTicks kernelConfig disconnectRun ∧
      (taskAfter kernelConfig tickedDisconnectRun).phase =
        (taskAfter kernelConfig disconnectRun).phase ∧
      ∀ visit ∈ visits (Task.step kernelConfig) Task.new tickedDisconnectRun,
        RefusesFairly visit.1 visit.2 := by
  have same : withoutEarlyTicks kernelConfig tickedDisconnectRun =
      withoutEarlyTicks kernelConfig disconnectRun := rfl
  have undisturbed := phase_eq_of_undisturbed same (by decide +kernel) (by decide +kernel)
  exact ⟨same, undisturbed.1, undisturbed.2.1⟩

/-- A tick during the TLS handshake. -/
def handshakeTickRun : List Task.Input :=
  [.tick, .handshake (some true), .preamble true obligingEnv]

/-- The same tick during the preamble. -/
def preambleTickRun : List Task.Input :=
  [.handshake (some true), .tick, .preamble true obligingEnv]

/-- A tick before the end of the TLS handshake ends the task, and one after it does not; four
ticks during the preamble take up the room for a Disconnect. -/
theorem phase_ne_handshakeTickRun :
    withoutEarlyTicks kernelConfig handshakeTickRun =
        withoutEarlyTicks kernelConfig preambleTickRun ∧
      (taskAfter kernelConfig handshakeTickRun).phase = .ended .commanded ∧
      (taskAfter kernelConfig preambleTickRun).phase =
        .driving (start kernelConfig obligingEnv) ∧
      ¬RefusesFairly (taskAfter kernelConfig [.handshake (some true), .tick, .tick, .tick, .tick])
        (.send (.disconnect .adminRequested)) := by
  constructor
  · rfl
  constructor
  · rfl
  constructor
  · have running : (start kernelConfig obligingEnv).running = true := by rw [start_eq]; rfl
    exact Task.phase_drive running
  · intro fair
    exact fair .adminRequested rfl rfl rfl ⟨.periodicTick, true⟩ (by decide) rfl

end SstpServer.Session
