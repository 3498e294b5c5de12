import SstpServer.Ppp.Authentication
import SstpServer.Session.Driver

/-!
# What a step of the session can do

The handlers of the task are compositions of small updates.  Each of them extends the
log by effects of a known kind, and all but the dispatch itself leave the state machine,
the read buffer and the place in the loop alone.
-/

namespace SstpServer.Session

open SstpServer.Wire
open SstpServer.Sstp
open SstpServer.Ppp
open SstpServer.Transition

/-! ## Growth of the log -/

/-- The log grows by effects of one kind. -/
def Grows (kind : Effect → Prop) (s s' : Session) : Prop :=
  ∃ added, s'.log = s.log ++ added ∧ ∀ effect ∈ added, kind effect

section Grows

variable {kind : Effect → Prop} {s s' s'' : Session}

theorem Grows.of_log_eq (log : s'.log = s.log) : Grows kind s s' :=
  ⟨[], by simp [log], by simp⟩

theorem Grows.trans (first : Grows kind s s') (second : Grows kind s' s'') :
    Grows kind s s'' := by
  obtain ⟨added, logged, allowed⟩ := first
  obtain ⟨more, loggedMore, allowedMore⟩ := second
  refine ⟨added ++ more, by rw [loggedMore, logged, List.append_assoc], ?_⟩
  intro effect member
  rcases List.mem_append.mp member with early | late
  · exact allowed effect early
  · exact allowedMore effect late

theorem Grows.mono {wider : Effect → Prop} (grows : Grows kind s s')
    (weaken : ∀ effect, kind effect → wider effect) : Grows wider s s' := by
  obtain ⟨added, logged, allowed⟩ := grows
  exact ⟨added, logged, fun effect member => weaken effect (allowed effect member)⟩

theorem grows_push {effect : Effect} (allowed : kind effect) (s : Session) :
    Grows kind s (s.push effect) :=
  ⟨[effect], rfl, by simpa using allowed⟩

end Grows

/-! ## Handlers -/

/-- A handler that leaves the state machine, the read buffer and the place in the loop
alone, keeps a data path and a PPP driver it finds, attaches no data path without a PPP
driver, and only adds effects of one kind to the log. -/
structure Acts (kind : Effect → Prop) (s s' : Session) : Prop where
  ssm : s'.ssm = s.ssm
  rxBuf : s'.rxBuf = s.rxBuf
  point : s'.point = s.point
  kmodFd : s'.kmodFd = s.kmodFd
  kppp : s.kppp.isSome → s'.kppp = s.kppp
  ppp : s.ppp.isSome → s'.ppp.isSome
  attached : s'.kppp.isSome → s.kppp.isSome ∨ s'.ppp.isSome
  log : Grows kind s s'

section Acts

variable {kind : Effect → Prop} {s s' s'' : Session}

/-- A handler that adds nothing to the log. -/
theorem Acts.silent (ssm : s'.ssm = s.ssm) (rxBuf : s'.rxBuf = s.rxBuf)
    (point : s'.point = s.point) (kmodFd : s'.kmodFd = s.kmodFd) (kppp : s'.kppp = s.kppp)
    (ppp : s.ppp.isSome → s'.ppp.isSome) (log : s'.log = s.log) : Acts kind s s' :=
  ⟨ssm, rxBuf, point, kmodFd, fun _ => kppp, ppp, fun up => .inl (kppp ▸ up), .of_log_eq log⟩

theorem Acts.refl (kind : Effect → Prop) (s : Session) : Acts kind s s :=
  .silent rfl rfl rfl rfl rfl id rfl

theorem Acts.trans (first : Acts kind s s') (second : Acts kind s' s'') : Acts kind s s'' where
  ssm := second.ssm.trans first.ssm
  rxBuf := second.rxBuf.trans first.rxBuf
  point := second.point.trans first.point
  kmodFd := second.kmodFd.trans first.kmodFd
  kppp up := by rw [second.kppp (by rw [first.kppp up]; exact up), first.kppp up]
  ppp started := second.ppp (first.ppp started)
  attached up := by
    rcases second.attached up with early | started
    · exact (first.attached early).imp_right second.ppp
    · exact .inr started
  log := first.log.trans second.log

theorem Acts.mono {wider : Effect → Prop} (acts : Acts kind s s')
    (weaken : ∀ effect, kind effect → wider effect) : Acts wider s s' :=
  { acts with log := acts.log.mono weaken }

theorem Acts.andThen {next : Session → Session} (first : Acts kind s s')
    (second : Acts kind s' (next s')) : Acts kind s (s'.andThen next) := by
  unfold Session.andThen
  split_ifs
  · exact first.trans second
  · exact first

theorem acts_stop (kind : Effect → Prop) (s : Session) : Acts kind s s.stop :=
  .silent rfl rfl rfl rfl rfl id rfl

theorem acts_push {effect : Effect} (allowed : kind effect) (s : Session) :
    Acts kind s (s.push effect) :=
  { Acts.refl kind s with log := grows_push allowed s }

end Acts

/-- A write through the TLS stream. -/
def Effect.isTlsWrite : Effect → Prop
  | .tlsWrite _ => True
  | _ => False

/-- An answer of the authentication backend. -/
def Effect.isRadius : Effect → Prop
  | .radius _ => True
  | _ => False

/-- What bringing the data path up can add to the log. -/
def Effect.ofDevice : Effect → Prop
  | .dataPath _ | .acct _ _ _ _ => True
  | _ => False

/-- What carrying out a PPP step can add to the log. -/
def Effect.ofPpp (effect : Effect) : Prop :=
  effect.isTlsWrite ∨ effect.isRadius ∨ effect.ofDevice

/-- A control packet for the kernel session. -/
def Effect.isSendControl : Effect → Prop
  | .sendControl _ => True
  | _ => False

/-- The call is established. -/
def Effect.isEstablished : Effect → Prop
  | .established _ => True
  | _ => False

/-- What an SSTP step adds to the log of a session whose control packets go to the kernel
session. -/
def Effect.ofControl (effect : Effect) : Prop :=
  effect.isSendControl ∨ effect.isEstablished

/-- What carrying out an SSTP step can add to the log. -/
def Effect.ofSstp (effect : Effect) : Prop :=
  effect.ofControl ∨ effect.ofPpp

theorem acts_tlsWrite {kind : Effect → Prop} (env : Env) {bytes : Bytes}
    (allowed : kind (.tlsWrite bytes)) (s : Session) : Acts kind s (s.tlsWrite env bytes) := by
  have pushed : Acts kind s (s.push (.tlsWrite bytes)) := acts_push allowed s
  unfold tlsWrite
  simp only
  split_ifs
  · exact pushed
  · exact pushed.trans (acts_stop _ _)

theorem acts_tlsFlush (kind : Effect → Prop) (env : Env) (s : Session) :
    Acts kind s (s.tlsFlush env) := by
  unfold tlsFlush
  split_ifs
  · exact .refl _ _
  · exact acts_stop _ _

/-- The effect writes one of the frames. -/
def Effect.carries (frames : List Bytes) : Effect → Prop
  | .tlsWrite bytes => ∃ frame ∈ frames, writePppAsSstpData frame = some bytes
  | _ => False

theorem Effect.isTlsWrite_of_carries {frames : List Bytes} (effect : Effect)
    (carries : effect.carries frames) : effect.isTlsWrite := by
  cases effect with
  | tlsWrite bytes => trivial
  | _ => exact carries

section Carries

variable {frames : List Bytes}

theorem acts_writeFrame (env : Env) {frame : Bytes} (member : frame ∈ frames) (s : Session) :
    Acts (Effect.carries frames) s (s.writeFrame env frame) := by
  unfold writeFrame
  split
  · rename_i packet written
    have carried : Effect.carries frames (.tlsWrite packet) := ⟨frame, member, written⟩
    exact acts_tlsWrite env carried s
  · exact .silent rfl rfl rfl rfl rfl id rfl

theorem acts_foldl_writeFrame (env : Env) {rest : List Bytes} (within : rest ⊆ frames)
    (s : Session) :
    Acts (Effect.carries frames) s
      (rest.foldl (fun s frame => s.andThen (writeFrame env frame)) s) := by
  induction rest generalizing s with
  | nil => exact .refl _ s
  | cons frame rest ih =>
      have first := (Acts.refl _ s).andThen (acts_writeFrame env (within List.mem_cons_self) s)
      exact first.trans (ih (List.subset_of_cons_subset within) _)

end Carries

theorem acts_writeFrames (env : Env) (frames : List Bytes) (s : Session) :
    Acts (Effect.carries frames) s (s.writeFrames env frames) := by
  have written := acts_foldl_writeFrame env (List.Subset.refl frames) s
  unfold writeFrames
  dsimp only
  split_ifs
  · exact written
  · exact written.andThen (acts_tlsFlush _ env _)

theorem acts_startAccounting (config : Config) (env : Env) (kppp : KpppSession) (s : Session) :
    Acts Effect.ofDevice s (s.startAccounting config env kppp) := by
  unfold startAccounting
  split
  · exact (acts_push trivial s).trans (.silent rfl rfl rfl rfl rfl id rfl)
  · exact .silent rfl rfl rfl rfl rfl id rfl

theorem acts_bringUp (config : Config) (env : Env) (mode : DataPathMode)
    (addrs : AssignedAddrs) {s : Session} (down : s.kppp = none) (started : s.ppp.isSome) :
    Acts Effect.ofDevice s (s.bringUp config env mode addrs) := by
  unfold bringUp
  split
  · rename_i kppp _
    refine .trans ?_ (acts_startAccounting config env kppp _)
    exact ⟨rfl, rfl, rfl, rfl, fun up => by simp [down] at up, id, fun _ => .inr started,
      grows_push trivial s⟩
  · exact acts_stop _ s

theorem acts_networkUp (config : Config) (env : Env) (addrs : AssignedAddrs) {s : Session}
    (started : s.ppp.isSome) : Acts Effect.ofDevice s (s.networkUp config env addrs) := by
  unfold networkUp
  split_ifs with up
  · exact .refl _ s
  · split
    · exact acts_bringUp config env _ addrs (Option.not_isSome_iff_eq_none.mp up) started
    · exact acts_stop _ s

theorem acts_finish (kind : Effect → Prop) (step : PppStep) (s : Session) :
    Acts kind s (if step.finished then s.stop else s) := by
  split_ifs
  · exact acts_stop _ s
  · exact .refl _ s

/-- The verdict on credentials. -/
def submitted (env : Env) (event : PppEvent) (ppp : Ppp) (s : Session) :
    (PppStep × Ppp) × Session :=
  match event with
  | .needPapAuth peerId _ => s.submitCredentials env (fromUtf8Lossy peerId) ppp
  | .needChapAuth username _ _ _ => s.submitCredentials env (fromUtf8Lossy username) ppp
  | .needMsChapV2Auth username _ _ _ _ _ => s.submitMschapv2 env (fromUtf8Lossy username) ppp
  | .networkUp _ => (({}, ppp), s)

/-- What the verdict on credentials does to the session. -/
inductive Submission (env : Env) (event : PppEvent) (s : Session) : Session → Prop
  | none : event.credentialMethod = none → Submission env event s s
  | rejected {message : Bytes} {errorString : Option Bytes} :
      env.radius = .reject message errorString →
        Submission env event s (s.push (.radius (.reject message errorString)))
  | accepted {granted : AuthAccept} {hlak : Option (Block 32)} (user : Bytes) :
      env.radius = .accept granted → hlak = s.pendingHlak ∨ hlak = hlakFromMppe granted →
        Submission env event s
          { (s.push (.radius (.accept granted))).recordAccept user granted.addrs
              granted.policy with
            pendingHlak := hlak }

theorem submission_submitted (env : Env) (event : PppEvent) (ppp : Ppp) (s : Session) :
    Submission env event s (s.submitted env event ppp).2 := by
  have credentials : ∀ user, Submission env event s (s.submitCredentials env user ppp).2 := by
    intro user
    unfold submitCredentials
    cases answer : env.radius with
    | accept granted => exact .accepted user answer (.inl rfl)
    | reject message errorString => exact .rejected answer
  cases event with
  | needPapAuth => exact credentials _
  | needChapAuth => exact credentials _
  | needMsChapV2Auth =>
      unfold submitted submitMschapv2
      cases answer : env.radius with
      | accept granted => exact .accepted _ answer (.inr rfl)
      | reject message errorString => exact .rejected answer
  | networkUp => exact .none rfl

theorem acts_submitted (env : Env) (event : PppEvent) (ppp : Ppp) (s : Session) :
    Acts Effect.isRadius s (s.submitted env event ppp).2 := by
  have submission := submission_submitted env event ppp s
  generalize (s.submitted env event ppp).2 = t at submission ⊢
  cases submission with
  | none => exact .refl _ s
  | rejected answer => exact acts_push trivial s
  | accepted user answer _ =>
      exact (acts_push trivial s).trans (.silent rfl rfl rfl rfl rfl id rfl)

/-- A step with credentials is followed by the step of the verdict. -/
theorem handlePppEvent_credential (config : Config) (env : Env)
    (again : PppStep → Ppp → Session → Session) {step : PppStep} {event : PppEvent}
    {used : AuthMethod} (ppp : Ppp) (s : Session) (raised : step.event = some event)
    (credential : event.credentialMethod = some used) :
    s.handlePppEvent config env again step ppp =
      again ((s.applyPppTimers env step).submitted env event ppp).1.1
        ((s.applyPppTimers env step).submitted env event ppp).1.2
        ((s.applyPppTimers env step).submitted env event ppp).2 := by
  unfold handlePppEvent
  rw [raised]
  cases event with
  | networkUp addrs => cases credential
  | _ => rfl

/-- A step without credentials at most brings the data path up. -/
theorem acts_handlePppEvent_plain (config : Config) (env : Env)
    (again : PppStep → Ppp → Session → Session) {step : PppStep} (ppp : Ppp) {s : Session}
    (started : s.ppp.isSome)
    (plain : ∀ event, step.event = some event → event.credentialMethod = none) :
    Acts Effect.ofDevice s (s.handlePppEvent config env again step ppp) := by
  have timed : Acts Effect.ofDevice s (s.applyPppTimers env step) :=
    .silent rfl rfl rfl rfl rfl id rfl
  unfold handlePppEvent
  refine timed.trans ?_
  cases raised : step.event with
  | none => exact acts_finish _ step _
  | some event =>
      cases event with
      | networkUp addrs =>
          exact (acts_networkUp config env addrs (timed.ppp started)).andThen
            (acts_finish _ step _)
      | _ => cases plain _ raised

theorem acts_handlePppEvent (config : Config) (env : Env)
    {again : PppStep → Ppp → Session → Session}
    (loops : ∀ step ppp s, Acts Effect.ofPpp s (again step ppp s)) (step : PppStep) (ppp : Ppp)
    {s : Session} (started : s.ppp.isSome) :
    Acts Effect.ofPpp s (s.handlePppEvent config env again step ppp) := by
  rcases step.plain_or_credential with plain | ⟨event, used, raised, credential⟩
  · exact (acts_handlePppEvent_plain config env again ppp started plain).mono
      fun _ => .inr ∘ .inr
  · rw [handlePppEvent_credential config env again ppp s raised credential]
    have timed : Acts Effect.ofPpp s (s.applyPppTimers env step) :=
      .silent rfl rfl rfl rfl rfl id rfl
    have submits := acts_submitted env event ppp (s.applyPppTimers env step)
    exact (timed.trans (submits.mono fun _ => .inr ∘ .inl)).trans (loops _ _ _)

theorem acts_handlePppStep (config : Config) (env : Env) (fuel : Nat) (step : PppStep)
    (ppp : Ppp) (s : Session) :
    Acts Effect.ofPpp s (handlePppStep config env fuel step ppp s) := by
  induction fuel generalizing step ppp s with
  | zero => exact acts_stop _ s
  | succ fuel ih =>
      have stored : Acts Effect.ofPpp s { s with ppp := some ppp } :=
        .silent rfl rfl rfl rfl rfl (fun _ => rfl) rfl
      have written := acts_writeFrames env step.frames { s with ppp := some ppp }
      refine (stored.trans (written.mono fun effect carries =>
        .inl (effect.isTlsWrite_of_carries carries))).andThen ?_
      exact acts_handlePppEvent config env ih step ppp (written.ppp rfl)

/-- A control packet goes to the kernel session, or to the TLS stream. -/
theorem acts_sendPacket {kind : Effect → Prop} (env : Env) {packet : Bytes} {s : Session}
    (control : s.isKernel = true → kind (.sendControl (packet.drop sstpHeaderLen)))
    (stream : packet ≠ [] → ¬s.isKernel = true → kind (.tlsWrite packet)) :
    Acts kind s (s.sendPacket env packet) := by
  unfold sendPacket
  dsimp only
  split_ifs with empty kernel
  · exact .refl _ s
  · exact acts_push (control kernel) s
  · exact (acts_push (control kernel) s).trans (acts_stop _ _)
  · exact (acts_tlsWrite env (stream empty kernel) s).andThen (acts_tlsFlush _ env _)

theorem acts_applySstpTimers (kind : Effect → Prop) (env : Env) (out : StepOut) (s : Session) :
    Acts kind s (s.applySstpTimers env out) := by
  unfold applySstpTimers
  simp only
  split
  · split_ifs <;> exact .silent rfl rfl rfl rfl rfl id rfl
  · exact .silent rfl rfl rfl rfl rfl id rfl

theorem acts_applyStep {kind : Effect → Prop} (env : Env) {out : StepOut} {s : Session}
    (sent : Acts kind s (s.sendPacket env out.send))
    (notifies : out.notify = some .sstpEstablished →
      ∀ effect : Effect, effect.isEstablished → kind effect) :
    Acts kind s (s.applyStep env out) := by
  unfold applyStep
  refine sent.andThen ?_
  generalize s.sendPacket env out.send = t
  refine (acts_applySstpTimers _ env out t).trans ?_
  generalize t.applySstpTimers env out = t
  have notified : Acts kind t
      (if out.notify = some .sstpEstablished then t.push (.established t.ssm.hlak) else t) := by
    split_ifs with established
    · exact acts_push (notifies established (.established t.ssm.hlak) trivial) t
    · exact .refl _ t
  refine notified.trans ?_
  simp only
  split_ifs
  all_goals first | exact .refl _ _ | exact acts_stop _ _

theorem acts_handleSstpStep (config : Config) (env : Env) (out : StepOut) (s : Session) :
    Acts Effect.ofSstp s (s.handleSstpStep config env out) := by
  have sent : Acts Effect.ofSstp s (s.sendPacket env out.send) := by
    exact acts_sendPacket env (fun _ => .inl (.inl trivial)) fun _ _ => .inr (.inl trivial)
  unfold handleSstpStep
  refine (acts_applyStep env sent fun _ _ => .inl ∘ .inr).andThen ?_
  split_ifs
  · exact (acts_handlePppStep config env _ _ _ _).mono fun _ => .inr
  · exact .refl _ _

/-- With the kernel session up and PPP started, an SSTP step only goes to the kernel. -/
theorem acts_handleSstpStep_kernel (config : Config) (env : Env) (out : StepOut) {s : Session}
    (kernel : s.isKernel = true) (started : s.ppp.isSome) :
    Acts Effect.ofControl s (s.handleSstpStep config env out) := by
  have sent : Acts Effect.ofControl s (s.sendPacket env out.send) := by
    exact acts_sendPacket env (fun _ => .inl trivial) fun _ stream => (stream kernel).elim
  have applied := acts_applyStep env sent fun _ _ => .inr
  have present : (s.applyStep env out).ppp ≠ none :=
    Option.isSome_iff_ne_none.mp (applied.ppp started)
  unfold handleSstpStep
  refine applied.andThen ?_
  rw [if_neg fun starts => present starts.2]
  exact .refl _ _

theorem acts_feedPpp (config : Config) (env : Env) (payload : Bytes) (s : Session) :
    Acts Effect.ofPpp s (s.feedPpp config env payload) := by
  unfold feedPpp
  split
  · exact .refl _ s
  · exact acts_handlePppStep config env _ _ _ s

end SstpServer.Session
