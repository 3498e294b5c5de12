import SstpServer.Session.Locals

/-!
# Sessions that differ in time

What a session sends, and how it goes on, does not depend on the clock, on the deadlines it
keeps or on the contents of its accounting records.  Two sessions that are alike otherwise
stay so when they do the same work with the same random bytes and the same answers.
-/

namespace SstpServer.Session

open SstpServer.Wire
open SstpServer.Sstp
open SstpServer.Ppp

/-- The environments answer alike, at different times. -/
def Agrees (env env' : Env) : Prop :=
  ∃ now wallClock kmodFdOk stats, env' = { env with now, wallClock, kmodFdOk, stats }

theorem Agrees.refl (env : Env) : Agrees env env :=
  ⟨env.now, env.wallClock, env.kmodFdOk, env.stats, rfl⟩

theorem Agrees.nonce {env env' : Env} (agrees : Agrees env env') : env'.nonce = env.nonce := by
  rcases agrees with ⟨now, wallClock, kmodFdOk, stats, rfl⟩
  rfl

/-- An effect without the contents of an accounting record. -/
def Effect.untimed : Effect → Option Effect
  | .acct _ _ _ _ => none
  | effect => some effect

/-- The sessions differ at most in what depends on time, and in what the loop has read. -/
structure Like (s s' : Session) : Prop where
  status : s'.status = s.status
  ssm : s'.ssm = s.ssm
  ppp : s'.ppp = s.ppp
  kppp : s'.kppp = s.kppp
  pendingUsername : s'.pendingUsername = s.pendingUsername
  pendingHlak : s'.pendingHlak = s.pendingHlak
  acctState : s'.acctState.isSome = s.acctState.isSome
  log : s'.log.map Effect.untimed = s.log.map Effect.untimed

section Like

variable {s s' s'' : Session}

theorem Like.refl (s : Session) : Like s s :=
  ⟨rfl, rfl, rfl, rfl, rfl, rfl, rfl, rfl⟩

theorem Like.symm (like : Like s s') : Like s' s where
  status := like.status.symm
  ssm := like.ssm.symm
  ppp := like.ppp.symm
  kppp := like.kppp.symm
  pendingUsername := like.pendingUsername.symm
  pendingHlak := like.pendingHlak.symm
  acctState := like.acctState.symm
  log := like.log.symm

theorem Like.trans (first : Like s s') (second : Like s' s'') : Like s s'' where
  status := second.status.trans first.status
  ssm := second.ssm.trans first.ssm
  ppp := second.ppp.trans first.ppp
  kppp := second.kppp.trans first.kppp
  pendingUsername := second.pendingUsername.trans first.pendingUsername
  pendingHlak := second.pendingHlak.trans first.pendingHlak
  acctState := second.acctState.trans first.acctState
  log := second.log.trans first.log

theorem Like.running (like : Like s s') : s'.running = s.running := by
  rw [Session.running, like.status, Session.running]

theorem Like.isKernel (like : Like s s') : s'.isKernel = s.isKernel := by
  rw [Session.isKernel, like.kppp, Session.isKernel]

theorem Like.length_log (like : Like s s') : s'.log.length = s.log.length := by
  have lengths := congrArg List.length like.log
  rwa [List.length_map, List.length_map] at lengths

theorem Like.andThen {next next' : Session → Session} (like : Like s s')
    (goesOn : Like (next s) (next' s')) : Like (s.andThen next) (s'.andThen next') := by
  unfold Session.andThen
  rw [like.running]
  split_ifs
  · exact goesOn
  · exact like

theorem Like.stop (like : Like s s') : Like s.stop s'.stop :=
  { like with status := rfl }

theorem Like.push (like : Like s s') (effect effect' : Effect)
    (same : effect'.untimed = effect.untimed) : Like (s.push effect) (s'.push effect') :=
  { like with log := by simp [Session.push, like.log, same] }

/-! ## Output -/

theorem Like.tlsWrite (like : Like s s') (env : Env) (bytes : Bytes) :
    Like (s.tlsWrite env bytes) (s'.tlsWrite env bytes) := by
  have pushed := like.push (.tlsWrite bytes) _ rfl
  unfold Session.tlsWrite
  dsimp only
  rw [pushed.length_log]
  split_ifs
  · exact pushed
  · exact pushed.stop

theorem Like.tlsFlush (like : Like s s') (env : Env) :
    Like (s.tlsFlush env) (s'.tlsFlush env) := by
  unfold Session.tlsFlush
  rw [like.length_log]
  split_ifs
  · exact like
  · exact like.stop

theorem Like.writeFrame (like : Like s s') (env : Env) (frame : Bytes) :
    Like (s.writeFrame env frame) (s'.writeFrame env frame) := by
  unfold Session.writeFrame
  cases writePppAsSstpData frame with
  | some packet => exact like.tlsWrite env packet
  | none => exact { like with status := rfl }

theorem Like.writeFrames (like : Like s s') (env : Env) (frames : List Bytes) :
    Like (s.writeFrames env frames) (s'.writeFrames env frames) := by
  have written : Like (frames.foldl (fun s frame => s.andThen (Session.writeFrame env frame)) s)
      (frames.foldl (fun s frame => s.andThen (Session.writeFrame env frame)) s') := by
    induction frames generalizing s s' with
    | nil => exact like
    | cons frame rest ih => exact ih (like.andThen (like.writeFrame env frame))
  unfold Session.writeFrames
  dsimp only
  split_ifs
  · exact written
  · exact written.andThen (written.tlsFlush env)

theorem Like.sendPacket (like : Like s s') (env : Env) (packet : Bytes) :
    Like (s.sendPacket env packet) (s'.sendPacket env packet) := by
  unfold Session.sendPacket
  rw [like.isKernel]
  dsimp only
  split_ifs
  · exact like
  · exact like.push _ _ rfl
  · exact (like.push _ _ rfl).stop
  · exact (like.tlsWrite env packet).andThen ((like.tlsWrite env packet).tlsFlush env)

/-! ## Steps -/

variable {env env' : Env}

theorem Like.applyStep (like : Like s s') (agrees : Agrees env env') (out : StepOut) :
    Like (s.applyStep env out) (s'.applyStep env' out) := by
  rcases agrees with ⟨now, wallClock, kmodFdOk, stats, rfl⟩
  have sent := like.sendPacket env out.send
  apply sent.andThen
  generalize s.sendPacket env out.send = t at sent ⊢
  generalize Session.sendPacket _ out.send s' = t' at sent ⊢
  have timed : Like (t.applySstpTimers env out)
      (t'.applySstpTimers { env with now, wallClock, kmodFdOk, stats } out) := by
    rw [applySstpTimers_eq, applySstpTimers_eq]
    exact { sent with }
  dsimp only
  generalize Session.applySstpTimers env out t = t at timed ⊢
  generalize Session.applySstpTimers _ out t' = t' at timed ⊢
  have notified : Like
      (if out.notify = some .sstpEstablished then t.push (.established t.ssm.hlak) else t)
      (if out.notify = some .sstpEstablished then t'.push (.established t'.ssm.hlak) else t') := by
    split_ifs
    · exact timed.push _ _ (by rw [timed.ssm])
    · exact timed
  by_cases goesOn : out.terminate = .none
  · simp only [if_pos goesOn]
    exact notified
  · simp only [if_neg goesOn]
    exact notified.stop

theorem Like.submitted (like : Like s s') (agrees : Agrees env env') (event : PppEvent)
    (ppp : Ppp) :
    (s'.submitted env' event ppp).1 = (s.submitted env event ppp).1 ∧
      Like (s.submitted env event ppp).2 (s'.submitted env' event ppp).2 := by
  rcases agrees with ⟨now, wallClock, kmodFdOk, stats, rfl⟩
  have asked := like.push (.radius env.radius) _ rfl
  have credentials : ∀ user,
      Like (s.submitCredentials env user ppp).2
        (s'.submitCredentials { env with now, wallClock, kmodFdOk, stats } user ppp).2 := by
    intro user
    unfold submitCredentials
    dsimp only
    cases env.radius.authOutcome.verdict with
    | accept addrs => exact { asked with pendingUsername := rfl }
    | reject _ => exact asked
  cases event with
  | needPapAuth => exact ⟨rfl, credentials _⟩
  | needChapAuth => exact ⟨rfl, credentials _⟩
  | needMsChapV2Auth =>
      refine ⟨rfl, ?_⟩
      unfold Session.submitted submitMschapv2
      dsimp only
      cases env.radius.msChapOutcome.verdict with
      | accept addrs => exact { asked with pendingUsername := rfl, pendingHlak := rfl }
      | reject _ => exact asked
  | networkUp => exact ⟨rfl, like⟩

theorem Like.startAccounting (like : Like s s') (config : Config) (env env' : Env)
    (kppp : KpppSession) :
    Like (s.startAccounting config env kppp) (s'.startAccounting config env' kppp) := by
  unfold Session.startAccounting
  rw [like.pendingUsername]
  cases s.pendingUsername with
  | none => exact { like with pendingUsername := rfl }
  | some user =>
      cases config.acct with
      | false => exact { like with pendingUsername := rfl }
      | true =>
          have recorded := like.push
            (.acct user ⟨env.wallClock, kppp.peerIp, config.id % 2 ^ 32,
              s.pendingPolicy.bind SessionPolicy.class?⟩ .start {})
            (.acct user ⟨env'.wallClock, kppp.peerIp, config.id % 2 ^ 32,
              s'.pendingPolicy.bind SessionPolicy.class?⟩ .start {}) rfl
          exact { recorded with pendingUsername := rfl, acctState := rfl }

theorem Like.networkUp (like : Like s s') (agrees : Agrees env env') (config : Config)
    (addrs : AssignedAddrs) :
    Like (s.networkUp config env addrs) (s'.networkUp config env' addrs) := by
  rcases agrees with ⟨now, wallClock, kmodFdOk, stats, rfl⟩
  unfold Session.networkUp
  rw [like.kppp]
  split_ifs
  · exact like
  · have same : attachMode config { env with now, wallClock, kmodFdOk, stats } =
        attachMode config env := rfl
    rw [same]
    cases attachMode config env with
    | none => exact like.stop
    | some mode =>
        unfold bringUp
        dsimp only
        cases KpppSession.bringUp mode env.kernelDevice env.tunDevice config.localIp addrs.ip
            addrs.mtu with
        | none => exact like.stop
        | some kppp =>
            have attached := like.push (.dataPath kppp.backend) _ rfl
            apply Like.startAccounting
            exact { attached with kppp := rfl }

theorem Like.finish (like : Like s s') (step : PppStep) :
    Like (if step.finished then s.stop else s) (if step.finished then s'.stop else s') := by
  split_ifs
  · exact like.stop
  · exact like

theorem Like.handlePppStep (like : Like s s') (agrees : Agrees env env') (config : Config)
    (fuel : Nat) (step : PppStep) (ppp : Ppp) :
    Like (Session.handlePppStep config env fuel step ppp s)
      (Session.handlePppStep config env' fuel step ppp s') := by
  induction fuel generalizing step ppp s s' with
  | zero => exact like.stop
  | succ fuel ih =>
      have stored : Like { s with ppp := some ppp } { s' with ppp := some ppp } :=
        { like with ppp := rfl }
      have written : Like ({ s with ppp := some ppp }.writeFrames env step.frames)
          ({ s' with ppp := some ppp }.writeFrames env' step.frames) := by
        rcases agrees with ⟨now, wallClock, kmodFdOk, stats, rfl⟩
        exact stored.writeFrames env step.frames
      apply written.andThen
      have timed : Like
          (({ s with ppp := some ppp }.writeFrames env step.frames).applyPppTimers env step)
          (({ s' with ppp := some ppp }.writeFrames env' step.frames).applyPppTimers env' step) :=
        { written with }
      cases raised : step.event with
      | none =>
          simp only [handlePppEvent, raised]
          exact timed.finish step
      | some event =>
          cases credential : event.credentialMethod with
          | some used =>
              rw [handlePppEvent_credential config env _ ppp _ raised credential,
                handlePppEvent_credential config env' _ ppp _ raised credential]
              rcases timed.submitted agrees event ppp with ⟨same, submitted⟩
              rw [same]
              exact ih submitted _ _
          | none =>
              cases event with
              | networkUp addrs =>
                  simp only [handlePppEvent, raised]
                  exact (timed.networkUp agrees config addrs).andThen
                    ((timed.networkUp agrees config addrs).finish step)
              | _ => cases credential

theorem Like.handleSstpStep (like : Like s s') (agrees : Agrees env env') (config : Config)
    (out : StepOut) :
    Like (s.handleSstpStep config env out) (s'.handleSstpStep config env' out) := by
  have applied := like.applyStep agrees out
  apply applied.andThen
  have challenge : env'.challenge = env.challenge := by
    rcases agrees with ⟨now, wallClock, kmodFdOk, stats, rfl⟩
    rfl
  rw [applied.ppp, challenge]
  dsimp only
  split_ifs
  · exact applied.handlePppStep agrees config _ _ _
  · exact applied

/-- Sessions that are alike stay alike when they do the same work. -/
theorem Like.perform (like : Like s s') (agrees : Agrees env env') (config : Config)
    (work : Work) : Like (s.perform config env work) (s'.perform config env' work) := by
  cases work with
  | nothing => exact like
  | sstp call =>
      unfold Session.perform
      rw [like.ssm]
      apply Like.handleSstpStep _ agrees
      exact { like with ssm := rfl }
  | ppp step ppp => exact like.handlePppStep agrees config _ step ppp
  | toTun packet => exact like.push _ _ rfl
  | fromTun packet frame =>
      rcases agrees with ⟨now, wallClock, kmodFdOk, stats, rfl⟩
      have written := (like.push (.fromTun packet) _ rfl).writeFrame env frame
      exact written.andThen (written.tlsFlush env)

theorem Like.frameWork (like : Like s s') (agrees : Agrees env env') (payload : Bytes) :
    s'.frameWork env' payload = s.frameWork env payload := by
  rcases agrees with ⟨now, wallClock, kmodFdOk, stats, rfl⟩
  unfold Session.frameWork feedWork
  rw [like.ppp, like.kppp]

theorem Like.drainHlak (like : Like s s') : Like s.drainHlak s'.drainHlak := by
  unfold Session.drainHlak
  rw [like.pendingHlak, like.ssm]
  cases s.pendingHlak with
  | none => exact like
  | some hlak => exact { like with ssm := rfl, pendingHlak := rfl }

theorem like_applyPolicy (env : Env) (s : Session) : Like s (s.applyPolicy env) := by
  rw [applyPolicy_eq]
  exact { Like.refl s with }

theorem Like.acctStop (like : Like s s') (config : Config) (env env' : Env) :
    Like (s.acctStop config env) (s'.acctStop config env') := by
  unfold Session.acctStop
  cases first : s.acctState with
  | none =>
      have second : s'.acctState = none :=
        Option.not_isSome_iff_eq_none.mp (by simp [like.acctState, first])
      rw [second]
      exact { like with acctState := rfl }
  | some state =>
      rcases Option.isSome_iff_exists.mp (like.acctState.trans (by rw [first]; rfl))
        with ⟨state', second⟩
      rw [second]
      cases config.acct with
      | false => exact { like with acctState := rfl }
      | true =>
          have recorded := like.push
            (.acct state.username state.session (.stop s.acctCause)
              (sampleAcctCounters env.stats env.now state))
            (.acct state'.username state'.session (.stop s'.acctCause)
              (sampleAcctCounters env'.stats env'.now state')) rfl
          exact { recorded with acctState := rfl }

theorem Like.settle (like : Like s s') (config : Config) (env env' : Env) :
    Like (s.settle config env) (s'.settle config env') := by
  by_cases ended : s.status = .ended
  · rw [Session.settle, if_pos ended, Session.settle, if_pos (like.status.trans ended)]
    exact like.acctStop config env env'
  · have going : ¬s'.status = .ended := fun other => ended (like.status.symm.trans other)
    rw [Session.settle, if_neg ended, Session.settle, if_neg going]
    exact like

end Like

end SstpServer.Session
