import SstpServer.Session.Work

/-!
# Locals of the loop

The timer slot of the call, the hello bookkeeping, the accounting period and the
deadlines belong to the loop of the task.  Carrying out PPP steps and sending packets
leaves them alone, and a step of the state machine only changes the timer slot.
-/

namespace SstpServer.Session

open SstpServer.Wire
open SstpServer.Sstp
open SstpServer.Ppp

/-- What only the loop itself changes. -/
structure Locals where
  kmodFd : Bool
  lastRx : Nat
  helloEchoPending : Bool
  acctInterimPeriod : Nat
  lastAcctInterim : Nat
  acctCause : SessionEnd
  sessionTimeoutDeadline : Option Nat
  idleTimeout : Option Nat
  idleTimeoutDeadline : Option Nat
  lastActivityOctets : Nat

def locals (s : Session) : Locals where
  kmodFd := s.kmodFd
  lastRx := s.lastRx
  helloEchoPending := s.helloEchoPending
  acctInterimPeriod := s.acctInterimPeriod
  lastAcctInterim := s.lastAcctInterim
  acctCause := s.acctCause
  sessionTimeoutDeadline := s.sessionTimeoutDeadline
  idleTimeout := s.idleTimeout
  idleTimeoutDeadline := s.idleTimeoutDeadline
  lastActivityOctets := s.lastActivityOctets

/-- A handler that leaves the locals of the loop and the timer slot alone. -/
structure SparesLoop (s s' : Session) : Prop where
  locals : s'.locals = s.locals
  sstpTimer : s'.sstpTimer = s.sstpTimer

section SparesLoop

variable {s s' s'' : Session}

theorem SparesLoop.refl (s : Session) : SparesLoop s s :=
  ⟨rfl, rfl⟩

theorem SparesLoop.trans (first : SparesLoop s s') (second : SparesLoop s' s'') :
    SparesLoop s s'' :=
  ⟨second.locals.trans first.locals, second.sstpTimer.trans first.sstpTimer⟩

end SparesLoop

/-! ## Output -/

/-- A handler that only writes: it adds to the log and may end the task. -/
def Outputs (s s' : Session) : Prop :=
  s' = { s with status := s'.status, log := s'.log }

section Outputs

variable {s s' s'' : Session}

theorem Outputs.refl (s : Session) : Outputs s s :=
  rfl

theorem Outputs.trans (first : Outputs s s') (second : Outputs s' s'') : Outputs s s'' := by
  unfold Outputs at *
  rw [second, first]

theorem Outputs.andThen {next : Session → Session} (first : Outputs s s')
    (second : Outputs s' (next s')) : Outputs s (s'.andThen next) := by
  unfold Session.andThen
  by_cases going : s'.running = true
  · rw [if_pos going]
    exact first.trans second
  · rw [if_neg going]
    exact first

/-- Writing leaves everything else alone. -/
theorem Outputs.congr {α : Type} {view : Session → α} (outputs : Outputs s s')
    (blind : ∀ (t : Session) status log, view { t with status, log } = view t) :
    view s' = view s := by
  unfold Outputs at outputs
  rw [outputs]
  exact blind s _ _

theorem Outputs.spares (outputs : Outputs s s') : SparesLoop s s' :=
  ⟨outputs.congr fun _ _ _ => rfl, outputs.congr fun _ _ _ => rfl⟩

end Outputs

theorem outputs_tlsWrite (env : Env) (bytes : Bytes) (s : Session) :
    Outputs s (s.tlsWrite env bytes) := by
  unfold tlsWrite
  dsimp only
  split_ifs
  · rfl
  · rfl

theorem outputs_tlsFlush (env : Env) (s : Session) : Outputs s (s.tlsFlush env) := by
  unfold tlsFlush
  split_ifs
  · exact .refl s
  · rfl

theorem outputs_writeFrame (env : Env) (frame : Bytes) (s : Session) :
    Outputs s (s.writeFrame env frame) := by
  unfold writeFrame
  split
  · exact outputs_tlsWrite env _ s
  · rfl

theorem outputs_writeFrames (env : Env) (frames : List Bytes) (s : Session) :
    Outputs s (s.writeFrames env frames) := by
  have written : Outputs s
      (frames.foldl (fun s frame => s.andThen (writeFrame env frame)) s) := by
    induction frames generalizing s with
    | nil => exact .refl s
    | cons frame rest ih =>
        exact ((Outputs.refl s).andThen (outputs_writeFrame env frame s)).trans (ih _)
  unfold writeFrames
  dsimp only
  split_ifs
  · exact written
  · exact written.andThen (outputs_tlsFlush env _)

theorem outputs_sendPacket (env : Env) (packet : Bytes) (s : Session) :
    Outputs s (s.sendPacket env packet) := by
  unfold sendPacket
  dsimp only
  split_ifs
  · exact .refl s
  · rfl
  · rfl
  · exact (outputs_tlsWrite env packet s).andThen (outputs_tlsFlush env _)

/-! ## PPP steps -/

theorem sparesLoop_submitted (env : Env) (event : PppEvent) (ppp : Ppp) (s : Session) :
    SparesLoop s (s.submitted env event ppp).2 := by
  have submission := submission_submitted env event ppp s
  generalize (s.submitted env event ppp).2 = t at submission ⊢
  cases submission <;> exact ⟨rfl, rfl⟩

theorem sparesLoop_networkUp (config : Config) (env : Env) (addrs : AssignedAddrs)
    (s : Session) : SparesLoop s (s.networkUp config env addrs) := by
  unfold networkUp bringUp startAccounting
  split_ifs
  · exact .refl s
  · split
    · split
      · dsimp only
        split <;> exact ⟨rfl, rfl⟩
      · exact ⟨rfl, rfl⟩
    · exact ⟨rfl, rfl⟩

/-- A relation between the session before and after a handler that holds for every part of
carrying out a PPP step. -/
structure KeptByPpp (config : Config) (env : Env) (R : Session → Session → Prop) : Prop where
  refl : ∀ s, R s s
  trans : ∀ {s s' s''}, R s s' → R s' s'' → R s s''
  stop : ∀ s : Session, R s s.stop
  store : ∀ (s : Session) ppp, R s { s with ppp := some ppp }
  write : ∀ (s : Session) frames, R s (s.writeFrames env frames)
  timers : ∀ (s : Session) step, R s (s.applyPppTimers env step)
  submit : ∀ (s : Session) event ppp, R s (s.submitted env event ppp).2
  networkUp : ∀ (s : Session) addrs, R s (s.networkUp config env addrs)

section KeptByPpp

variable {config : Config} {env : Env} {R : Session → Session → Prop}

theorem KeptByPpp.andThen (kept : KeptByPpp config env R) {next : Session → Session}
    {s s' : Session} (first : R s s') (second : R s' (next s')) : R s (s'.andThen next) := by
  unfold Session.andThen
  split_ifs
  · exact kept.trans first second
  · exact first

theorem KeptByPpp.finish (kept : KeptByPpp config env R) (step : PppStep) (s : Session) :
    R s (if step.finished then s.stop else s) := by
  split_ifs
  · exact kept.stop s
  · exact kept.refl s

theorem KeptByPpp.handlePppStep (kept : KeptByPpp config env R) (fuel : Nat) (step : PppStep)
    (ppp : Ppp) (s : Session) : R s (Session.handlePppStep config env fuel step ppp s) := by
  induction fuel generalizing step ppp s with
  | zero => exact kept.stop s
  | succ fuel ih =>
      apply kept.andThen (kept.trans (kept.store s ppp) (kept.write _ step.frames))
      generalize { s with ppp := some ppp }.writeFrames env step.frames = written
      rcases step.plain_or_credential with plain | ⟨event, used, raised, credential⟩
      · unfold handlePppEvent
        apply kept.trans (kept.timers written step)
        cases raised : step.event with
        | none => exact kept.finish step _
        | some event =>
            cases event with
            | networkUp addrs => exact kept.andThen (kept.networkUp _ addrs) (kept.finish step _)
            | _ => cases plain _ raised
      · rw [handlePppEvent_credential config env _ ppp written raised credential]
        have submitted := kept.submit (written.applyPppTimers env step) event ppp
        exact kept.trans (kept.trans (kept.timers written step) submitted) (ih _ _ _)

end KeptByPpp

theorem sparesLoop_handlePppStep (config : Config) (env : Env) (fuel : Nat) (step : PppStep)
    (ppp : Ppp) (s : Session) : SparesLoop s (handlePppStep config env fuel step ppp s) := by
  have kept : KeptByPpp config env SparesLoop :=
    { refl := .refl
      trans := .trans
      stop := fun _ => ⟨rfl, rfl⟩
      store := fun _ _ => ⟨rfl, rfl⟩
      write := fun s frames => (outputs_writeFrames env frames s).spares
      timers := fun _ _ => ⟨rfl, rfl⟩
      submit := fun s event ppp => sparesLoop_submitted env event ppp s
      networkUp := fun s addrs => sparesLoop_networkUp config env addrs s }
  exact kept.handlePppStep fuel step ppp s

/-! ## Steps of the state machine -/

/-- The timer slot after a step of the state machine. -/
def timerSlot (env : Env) (out : StepOut) (slot : Option (Timer × Nat)) : Option (Timer × Nat) :=
  match out.timerStart with
  | some (which, duration) =>
      if which ≠ .hello then some (which, env.now + seconds duration)
      else if slot.map Prod.fst = out.timerStop then none else slot
  | none => if slot.map Prod.fst = out.timerStop then none else slot

theorem applySstpTimers_eq (env : Env) (out : StepOut) (s : Session) :
    s.applySstpTimers env out = { s with sstpTimer := timerSlot env out s.sstpTimer } := by
  unfold applySstpTimers timerSlot
  cases out.timerStart with
  | none => rfl
  | some start =>
      dsimp only
      split_ifs <;> rfl

/-- A step of the state machine logs what it does, sets the timer and can end the session. -/
theorem applyStep_eq (env : Env) (out : StepOut) (s : Session) :
    ∃ status log sstpTimer, s.applyStep env out = { s with status, log, sstpTimer } := by
  have sent : s.sendPacket env out.send = _ := outputs_sendPacket env out.send s
  unfold applyStep andThen
  rw [sent]
  simp only [applySstpTimers_eq]
  split_ifs <;> exact ⟨_, _, _, rfl⟩

theorem locals_applyStep (env : Env) (out : StepOut) (s : Session) :
    (s.applyStep env out).locals = s.locals := by
  rcases applyStep_eq env out s with ⟨status, log, sstpTimer, applied⟩
  rw [applied]
  rfl

/-- A step that the session survives does not tear it down, and leaves its timers in the
slot. -/
theorem sstpTimer_handleSstpStep {config : Config} {env : Env} {out : StepOut} {s : Session}
    (survives : (s.handleSstpStep config env out).running = true) :
    (s.handleSstpStep config env out).sstpTimer = timerSlot env out s.sstpTimer ∧
      out.terminate = .none := by
  have sent := (outputs_sendPacket env out.send s).spares.sstpTimer
  have applied : (s.applyStep env out).running = true →
      (s.applyStep env out).sstpTimer = timerSlot env out s.sstpTimer ∧
        out.terminate = .none := by
    unfold applyStep andThen
    generalize s.sendPacket env out.send = t at sent ⊢
    simp only [applySstpTimers_eq, sent]
    intro running
    by_cases going : t.running = true
    · simp only [if_pos going] at running ⊢
      by_cases goesOn : out.terminate = .none
      · simp only [if_pos goesOn] at running ⊢
        split_ifs <;> exact ⟨rfl, goesOn⟩
      · simp [if_neg goesOn, Session.running, stop] at running
    · rw [if_neg going] at running
      exact (going running).elim
  unfold handleSstpStep andThen at survives ⊢
  generalize s.applyStep env out = t at applied survives ⊢
  by_cases going : t.running = true
  · rw [if_pos going] at survives ⊢
    rcases applied going with ⟨slot, goesOn⟩
    refine ⟨?_, goesOn⟩
    dsimp only
    split_ifs
    · exact (sparesLoop_handlePppStep config env _ _ _ t).sstpTimer.trans slot
    · exact slot
  · rw [if_neg going] at survives
    exact (going survives).elim

/-! ## Work -/

/-- A relation between the session before and after a handler that holds for every part of the
work of a step. -/
structure KeptByWork (config : Config) (env : Env) (R : Session → Session → Prop) : Prop extends
    KeptByPpp config env R where
  machine : ∀ (s : Session) ssm, R s { s with ssm }
  apply : ∀ (s : Session) out, R s (s.applyStep env out)
  push : ∀ (s : Session) effect, R s (s.push effect)
  writeOne : ∀ (s : Session) frame, R s (s.writeFrame env frame)
  flush : ∀ s : Session, R s (s.tlsFlush env)

theorem KeptByWork.perform {config : Config} {env : Env} {R : Session → Session → Prop}
    (kept : KeptByWork config env R) (work : Work) (s : Session) :
    R s (s.perform config env work) := by
  cases work with
  | nothing => exact kept.refl s
  | sstp call =>
      apply kept.andThen (kept.trans (kept.machine s _) (kept.apply _ _))
      dsimp only
      split_ifs
      · exact kept.handlePppStep _ _ _ _
      · exact kept.refl _
  | ppp step ppp => exact kept.handlePppStep _ step ppp s
  | toTun packet => exact kept.push s _
  | fromTun packet frame =>
      exact kept.andThen (kept.trans (kept.push s _) (kept.writeOne _ frame)) (kept.flush _)

theorem locals_perform (config : Config) (env : Env) (work : Work) (s : Session) :
    (s.perform config env work).locals = s.locals := by
  have kept : KeptByWork config env fun s s' => s'.locals = s.locals :=
    { refl := fun _ => rfl
      trans := fun first second => second.trans first
      stop := fun _ => rfl
      store := fun _ _ => rfl
      write := fun s frames => (outputs_writeFrames env frames s).spares.locals
      timers := fun _ _ => rfl
      submit := fun s event ppp => (sparesLoop_submitted env event ppp s).locals
      networkUp := fun s addrs => (sparesLoop_networkUp config env addrs s).locals
      machine := fun _ _ => rfl
      apply := fun s out => locals_applyStep env out s
      push := fun _ _ => rfl
      writeOne := fun s frame => (outputs_writeFrame env frame s).spares.locals
      flush := fun s => (outputs_tlsFlush env s).spares.locals }
  exact kept.perform work s

end SstpServer.Session
