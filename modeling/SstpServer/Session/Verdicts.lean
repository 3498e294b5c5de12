import SstpServer.Session.Work

/-!
# Credentials and their verdict

A call of the PPP driver that hands credentials up sends nothing itself.  The session
asks the backend and applies the verdict, and the step of the verdict starts with the
answer to the peer and raises no further event.  So the loop over PPP steps takes at most
two rounds.
-/

namespace SstpServer.Session

open SstpServer.Wire
open SstpServer.Sstp
open SstpServer.Ppp

theorem writeFrames_nil (env : Env) (s : Session) : s.writeFrames env [] = s := by
  simp [writeFrames]

/-- Asking the backend leaves one record. -/
theorem submitted_log (env : Env) {event : PppEvent} {used : AuthMethod} (ppp : Ppp)
    (s : Session) (credential : event.credentialMethod = some used) :
    (s.submitted env event ppp).2.log = s.log ++ [.radius env.radius] := by
  have submission := submission_submitted env event ppp s
  generalize (s.submitted env event ppp).2 = t at submission ⊢
  cases submission with
  | none plain =>
      rw [plain] at credential
      cases credential
  | rejected answer =>
      rw [answer]
      rfl
  | accepted user answer _ =>
      rw [answer]
      rfl

theorem submitted_running (env : Env) (event : PppEvent) (ppp : Ppp) (s : Session) :
    (s.submitted env event ppp).2.running = s.running := by
  have submission := submission_submitted env event ppp s
  generalize (s.submitted env event ppp).2 = t at submission ⊢
  cases submission <;> rfl

/-- The verdict is answered. -/
theorem submitted_startsWithAnswer (env : Env) {event : PppEvent} {used : AuthMethod}
    {ppp : Ppp} {inFlight : InFlightMethod} (s : Session)
    (credential : event.credentialMethod = some used)
    (phase : ppp.phase = .authInFlight inFlight) (method : inFlight.authMethod = used) :
    StartsWithAnswer (s.submitted env event ppp).1.1 := by
  subst method
  cases event with
  | networkUp addrs => cases credential
  | needMsChapV2Auth =>
      exact onMschapResult_startsWithAnswer phase (Option.some.inj credential).symm _ _ _ _
  | needPapAuth =>
      refine onAuthResult_startsWithAnswer phase ?_ _ _
      rw [← Option.some.inj credential]
      simp
  | needChapAuth =>
      refine onAuthResult_startsWithAnswer phase ?_ _ _
      rw [← Option.some.inj credential]
      simp

/-- A call with credentials leads straight to the step of the verdict. -/
theorem handlePppStep_credential (config : Config) (env : Env) (fuel : Nat) {event : PppEvent}
    {used : AuthMethod} (ppp : Ppp) {s : Session} (running : s.running = true)
    (credential : event.credentialMethod = some used) :
    handlePppStep config env (fuel + 1) { event := some event } ppp s =
      handlePppStep config env fuel
        ({ s with ppp := some ppp }.submitted env event ppp).1.1
        ({ s with ppp := some ppp }.submitted env event ppp).1.2
        ({ s with ppp := some ppp }.submitted env event ppp).2 := by
  have stored : { s with ppp := some ppp }.running = true := running
  have timed : { s with ppp := some ppp }.applyPppTimers env { event := some event } =
      { s with ppp := some ppp } := rfl
  rw [handlePppStep, writeFrames_nil, andThen, if_pos stored,
    handlePppEvent_credential config env _ ppp _ rfl credential, timed]

/-- A step without credentials writes its frames and at most brings the data path up. -/
theorem acts_handlePppStep_plain {kind : Effect → Prop} (config : Config) (env : Env)
    (fuel : Nat) {step : PppStep} (ppp : Ppp) {s : Session}
    (device : ∀ effect : Effect, effect.ofDevice → kind effect)
    (written : Acts kind { s with ppp := some ppp }
      ({ s with ppp := some ppp }.writeFrames env step.frames))
    (plain : ∀ event, step.event = some event → event.credentialMethod = none) :
    Acts kind s (handlePppStep config env (fuel + 1) step ppp s) := by
  have stored : Acts kind s { s with ppp := some ppp } :=
    .silent rfl rfl rfl rfl rfl (fun _ => rfl) rfl
  refine (stored.trans written).andThen ?_
  exact (acts_handlePppEvent_plain config env _ ppp (written.ppp rfl) plain).mono device

/-- What a step without credentials does does not depend on the loop. -/
theorem handlePppEvent_congr (config : Config) (env : Env)
    (again again' : PppStep → Ppp → Session → Session) {step : PppStep} (ppp : Ppp)
    (s : Session) (plain : ∀ event, step.event = some event → event.credentialMethod = none) :
    s.handlePppEvent config env again step ppp =
      s.handlePppEvent config env again' step ppp := by
  unfold handlePppEvent
  cases raised : step.event with
  | none => rfl
  | some event =>
      cases event with
      | networkUp addrs => rfl
      | _ => cases plain _ raised

theorem handlePppStep_plain_fuel (config : Config) (env : Env) (fuel fuel' : Nat)
    {step : PppStep} (ppp : Ppp) (s : Session)
    (plain : ∀ event, step.event = some event → event.credentialMethod = none) :
    handlePppStep config env (fuel + 1) step ppp s =
      handlePppStep config env (fuel' + 1) step ppp s := by
  unfold handlePppStep andThen
  rw [handlePppEvent_congr config env _ _ ppp _ plain]

/-- The loop ends after the step of the verdict: further rounds change nothing. -/
theorem handlePppStep_run_fuel (config : Config) (env : Env) (fuel : Nat) (ppp : Ppp)
    (input : Ppp.Input) {s : Session} (running : s.running = true) :
    handlePppStep config env (fuel + pppRounds) (ppp.run input).1 (ppp.run input).2 s =
      handlePppStep config env pppRounds (ppp.run input).1 (ppp.run input).2 s := by
  rcases (ppp.run input).1.plain_or_credential with plain | ⟨event, used, raised, credential⟩
  · exact handlePppStep_plain_fuel config env (fuel + 1) 1 _ s plain
  · obtain ⟨only, inFlight, phase, method⟩ := (ppp.run_move input).credential raised credential
    obtain ⟨frame, rest, -, -, silent⟩ := submitted_startsWithAnswer env
      { s with ppp := some (ppp.run input).2 } credential phase method
    rw [only, pppRounds, ← Nat.add_assoc fuel 1 1,
      handlePppStep_credential config env _ _ running credential,
      handlePppStep_credential config env _ _ running credential]
    refine handlePppStep_plain_fuel config env fuel 0 _ _ fun event raised => ?_
    rw [silent] at raised
    cases raised

end SstpServer.Session
