import SstpServer.Session.Forwarding
import SstpServer.Session.Locals

/-!
# The idle deadline

The deadline of the Idle-Timeout is set when the policy of the Access-Accept is applied.
Only the interim check of accounting looks at the octet counters of the device, and sets the
deadline anew when they have moved.  Traffic that no such check has seen does not keep the
session alive.
-/

namespace SstpServer.Session

open SstpServer.Wire
open SstpServer.Sstp
open SstpServer.Ppp
open SstpServer.Transition

/-! ## Traffic -/

/-- The octet counters of the device over time. -/
structure Traffic where
  rx : Nat → Nat
  tx : Nat → Nat
  rx_mono : Monotone rx
  tx_mono : Monotone tx

namespace Traffic

def total (traffic : Traffic) (time : Nat) : Nat :=
  traffic.rx time + traffic.tx time

theorem total_mono (traffic : Traffic) : Monotone traffic.total :=
  fun _ _ later => Nat.add_le_add (traffic.rx_mono later) (traffic.tx_mono later)

/-- The counters do not change from one time to another. -/
def Quiet (traffic : Traffic) (since now : Nat) : Prop :=
  ∀ time, since ≤ time → time ≤ now →
    traffic.rx time = traffic.rx now ∧ traffic.tx time = traffic.tx now

theorem quiet_of_total_le {traffic : Traffic} {since now : Nat}
    (same : traffic.total now ≤ traffic.total since) : traffic.Quiet since now := by
  intro time after before
  have rx := traffic.rx_mono before
  have tx := traffic.tx_mono before
  have kept : traffic.total now ≤ traffic.total time := same.trans (traffic.total_mono after)
  unfold total at kept
  omega

/-- A sample of the counters, if there is one, shows the traffic. -/
def Shows (traffic : Traffic) (env : Env) : Prop :=
  ∀ stats, env.stats = some stats →
    stats.rxBytes = traffic.rx env.now ∧ stats.txBytes = traffic.tx env.now

/-- Time goes on, and samples show the traffic. -/
def Times (traffic : Traffic) : Nat → List Input → Prop
  | _, [] => True
  | now, input :: rest =>
      now ≤ input.env.now ∧ traffic.Shows input.env ∧ traffic.Times input.env.now rest

end Traffic

/-! ## What the backend grants -/

/-- The backend has granted the policy. -/
def GrantedPolicy (log : List Effect) (policy : SessionPolicy) : Prop :=
  ∃ granted, Effect.radius (.accept granted) ∈ log ∧ granted.policy = policy

/-- What handling packets does to accounting and policy: accounting starts without counters,
and a policy comes from the backend. -/
structure Enrolls (s s' : Session) : Prop where
  acct : ∀ state, s'.acctState = some state → s.acctState = some state ∨ state.lastCounters = {}
  policy : ∀ policy, s'.pendingPolicy = some policy →
    s.pendingPolicy = some policy ∨ GrantedPolicy s'.log policy
  log : s.log ⊆ s'.log

theorem GrantedPolicy.mono {log log' : List Effect} {policy : SessionPolicy}
    (granted : GrantedPolicy log policy) (more : log ⊆ log') : GrantedPolicy log' policy := by
  rcases granted with ⟨accept, member, same⟩
  exact ⟨accept, more member, same⟩

section Enrolls

variable {s s' s'' : Session}

theorem Enrolls.of_eq (acct : s'.acctState = s.acctState)
    (policy : s'.pendingPolicy = s.pendingPolicy) (log : s.log ⊆ s'.log) : Enrolls s s' := by
  constructor
  · intro state opened
    exact .inl (acct ▸ opened)
  · intro policy' pending
    exact .inl (policy ▸ pending)
  · exact log

theorem Enrolls.refl (s : Session) : Enrolls s s :=
  .of_eq rfl rfl (List.Subset.refl _)

theorem Enrolls.trans (first : Enrolls s s') (second : Enrolls s' s'') : Enrolls s s'' := by
  constructor
  · intro state opened
    rcases second.acct state opened with kept | fresh
    · exact first.acct state kept
    · exact .inr fresh
  · intro policy pending
    rcases second.policy policy pending with kept | granted
    · exact (first.policy policy kept).imp_right (·.mono second.log)
    · exact .inr granted
  · exact List.Subset.trans first.log second.log

theorem Enrolls.andThen {next : Session → Session} (first : Enrolls s s')
    (second : Enrolls s' (next s')) : Enrolls s (s'.andThen next) := by
  unfold Session.andThen
  split_ifs
  · exact first.trans second
  · exact first

theorem Outputs.enrolls {kind : Effect → Prop} (outputs : Outputs s s')
    (grows : Grows kind s s') : Enrolls s s' := by
  rcases grows with ⟨added, logged, _⟩
  apply Enrolls.of_eq
  · exact outputs.congr fun _ _ _ => rfl
  · exact outputs.congr fun _ _ _ => rfl
  · rw [logged]
    exact List.subset_append_left _ _

end Enrolls

/-- The policy of an Access-Accept is kept. -/
theorem enrolls_recordAccept (granted : AuthAccept) {s t : Session}
    (acct : t.acctState = s.acctState) (policy : t.pendingPolicy = some granted.policy)
    (log : t.log = s.log ++ [.radius (.accept granted)]) : Enrolls s t := by
  constructor
  · intro state opened
    exact .inl (acct ▸ opened)
  · intro policy' pending
    cases policy.symm.trans pending
    exact .inr ⟨granted, by simp [log], rfl⟩
  · simp [log]

theorem enrolls_submitted (env : Env) (event : PppEvent) (ppp : Ppp) (s : Session) :
    Enrolls s (s.submitted env event ppp).2 := by
  have submission := submission_submitted env event ppp s
  generalize (s.submitted env event ppp).2 = t at submission ⊢
  cases submission with
  | none => exact .refl s
  | rejected answer => exact .of_eq rfl rfl (by simp [push])
  | @accepted granted _ user answer _ => exact enrolls_recordAccept granted rfl rfl rfl

theorem enrolls_networkUp (config : Config) (env : Env) (addrs : AssignedAddrs) (s : Session) :
    Enrolls s (s.networkUp config env addrs) := by
  unfold networkUp
  split_ifs
  · exact .refl s
  · split
    · unfold bringUp
      split
      · unfold startAccounting
        dsimp only
        split
        · constructor
          · rintro _ ⟨⟩
            exact .inr rfl
          · exact fun _ => .inl
          · simp [push]
        · exact .of_eq rfl rfl (by simp [push])
      · exact .of_eq rfl rfl (List.Subset.refl _)
    · exact .of_eq rfl rfl (List.Subset.refl _)

theorem enrolls_applyStep (env : Env) (out : StepOut) (s : Session) :
    Enrolls s (s.applyStep env out) := by
  have acts : Acts (fun _ => True) s (s.sendPacket env out.send) :=
    acts_sendPacket env (fun _ => trivial) fun _ _ => trivial
  have sent := (outputs_sendPacket env out.send s).enrolls acts.log
  unfold applyStep
  apply sent.andThen
  generalize s.sendPacket env out.send = t
  simp only [applySstpTimers_eq]
  split_ifs <;> exact .of_eq rfl rfl (by simp [push, stop])

theorem enrolls_perform (config : Config) (env : Env) (work : Work) (s : Session) :
    Enrolls s (s.perform config env work) := by
  have same : ∀ {s s' : Session}, s'.acctState = s.acctState →
      s'.pendingPolicy = s.pendingPolicy → s'.log = s.log → Enrolls s s' :=
    fun acct policy log => .of_eq acct policy (by rw [log]; exact List.Subset.refl _)
  have kept : KeptByWork config env Enrolls :=
    { refl := .refl
      trans := .trans
      stop := fun _ => same rfl rfl rfl
      store := fun _ _ => same rfl rfl rfl
      write := fun s frames =>
        (outputs_writeFrames env frames s).enrolls (acts_writeFrames env frames s).log
      timers := fun _ _ => same rfl rfl rfl
      submit := fun s event ppp => enrolls_submitted env event ppp s
      networkUp := fun s addrs => enrolls_networkUp config env addrs s
      machine := fun _ _ => same rfl rfl rfl
      apply := fun s out => enrolls_applyStep env out s
      push := fun s effect => .of_eq rfl rfl (List.subset_append_left s.log [effect])
      writeOne := fun s frame =>
        (outputs_writeFrame env frame s).enrolls
          (acts_writeFrame env (List.mem_singleton_self frame) s).log
      flush := fun s =>
        (outputs_tlsFlush env s).enrolls (acts_tlsFlush (fun _ => True) env s).log }
  exact kept.perform work s

/-! ## The deadline -/

/-- The deadline was set one period after a time by which the octets noted last had been
counted, and the period is one that the backend has granted. -/
structure Watches (traffic : Traffic) (now : Nat) (s : Session) : Prop where
  cause : s.acctCause ≠ .idleTimeout
  sampled : ∀ state, s.acctState = some state →
    state.lastCounters.inputOctets + state.lastCounters.outputOctets ≤ traffic.total now
  seen : s.lastActivityOctets ≤ traffic.total now
  armed : ∀ deadline, s.idleTimeoutDeadline = some deadline →
    ∃ period since, s.idleTimeout = some period ∧ deadline = since + seconds period ∧
      s.lastActivityOctets ≤ traffic.total since
  granted : ∀ period, s.idleTimeout = some period →
    ∃ policy, GrantedPolicy s.log policy ∧ policy.idleTimeout = some period
  pending : ∀ policy, s.pendingPolicy = some policy → GrantedPolicy s.log policy

section Watches

variable {traffic : Traffic} {now : Nat} {config : Config} {env : Env} {s s' : Session}

theorem Watches.later (watches : Watches traffic now s) {next : Nat} (later : now ≤ next) :
    Watches traffic next s := by
  have more := traffic.total_mono later
  exact { watches with
    sampled := fun state opened => (watches.sampled state opened).trans more
    seen := watches.seen.trans more }

theorem Watches.enrolls (watches : Watches traffic now s) (locals : s'.locals = s.locals)
    (enrolls : Enrolls s s') : Watches traffic now s' := by
  have cause : s'.acctCause = s.acctCause := congrArg Locals.acctCause locals
  have octets : s'.lastActivityOctets = s.lastActivityOctets :=
    congrArg Locals.lastActivityOctets locals
  have period : s'.idleTimeout = s.idleTimeout := congrArg Locals.idleTimeout locals
  have deadline : s'.idleTimeoutDeadline = s.idleTimeoutDeadline :=
    congrArg Locals.idleTimeoutDeadline locals
  constructor
  · rw [cause]
    exact watches.cause
  · intro state opened
    rcases enrolls.acct state opened with kept | fresh
    · exact watches.sampled state kept
    · rw [fresh]
      exact Nat.zero_le _
  · rw [octets]
    exact watches.seen
  · rw [octets, period, deadline]
    exact watches.armed
  · intro idle set
    rcases watches.granted idle (period ▸ set) with ⟨policy, granted, same⟩
    exact ⟨policy, granted.mono enrolls.log, same⟩
  · intro policy pending
    rcases enrolls.policy policy pending with kept | granted
    · exact (watches.pending policy kept).mono enrolls.log
    · exact granted

/-- The octets of a sample have been counted. -/
theorem sampled_le (shows : traffic.Shows env) {state : AcctState}
    (sampled : state.lastCounters.inputOctets + state.lastCounters.outputOctets ≤
      traffic.total env.now) :
    (sampleAcctCounters env.stats env.now state).inputOctets +
      (sampleAcctCounters env.stats env.now state).outputOctets ≤ traffic.total env.now := by
  unfold sampleAcctCounters
  cases sample : env.stats with
  | none => exact sampled
  | some stats =>
      rcases shows stats sample with ⟨rx, tx⟩
      dsimp only
      rw [rx, tx]
      exact le_refl _

theorem Watches.noteActivity (watches : Watches traffic env.now s) {counters : AcctCounters}
    (counted : counters.inputOctets + counters.outputOctets ≤ traffic.total env.now) :
    Watches traffic env.now (s.noteActivity env counters) := by
  have total : min (counters.inputOctets + counters.outputOctets) (2 ^ 64 - 1) ≤
      traffic.total env.now := (Nat.min_le_left _ _).trans counted
  unfold Session.noteActivity
  dsimp only
  split_ifs with moved
  · refine { watches with seen := total, armed := ?_ }
    intro deadline armed
    dsimp only at armed ⊢
    cases idle : s.idleTimeout with
    | none =>
        rw [idle] at armed
        rcases watches.armed deadline armed with ⟨period, _, set, _⟩
        cases idle.symm.trans set
    | some period =>
        rw [idle] at armed
        exact ⟨period, env.now, rfl, (Option.some.inj armed).symm, total⟩
  · exact watches

theorem Watches.acctInterim (watches : Watches traffic env.now s) (shows : traffic.Shows env) :
    Watches traffic env.now (s.acctInterim config env) := by
  unfold Session.acctInterim
  split_ifs
  · exact watches
  · dsimp only
    split
    · rename_i state opened bridged
      have counted := sampled_le shows (watches.sampled state opened)
      have stamped : Watches traffic env.now { s with lastAcctInterim := env.now } :=
        { watches with }
      have noted := stamped.noteActivity counted
      generalize { s with lastAcctInterim := env.now }.noteActivity env
        (sampleAcctCounters env.stats env.now state) = t at noted ⊢
      have more : t.log ⊆ (t.push (.acct state.username state.session .interimUpdate
          (sampleAcctCounters env.stats env.now state))).log := List.subset_append_left _ _
      refine { noted with sampled := ?_, granted := ?_, pending := ?_ }
      · rintro _ ⟨⟩
        exact counted
      · intro period set
        rcases noted.granted period set with ⟨policy, granted, same⟩
        exact ⟨policy, granted.mono more, same⟩
      · intro policy pending
        exact (noted.pending policy pending).mono more
    · exact { watches with }

theorem Watches.applyPolicy (watches : Watches traffic env.now s) :
    Watches traffic env.now (s.applyPolicy env) := by
  unfold Session.applyPolicy
  split
  · rename_i policy up pending
    have granted := watches.pending policy pending
    cases idle : policy.idleTimeout with
    | none => exact { watches with pending := nofun }
    | some period =>
        refine { watches with armed := ?_, granted := ?_, pending := nofun }
        · rintro _ ⟨⟩
          exact ⟨period, env.now, rfl, rfl, watches.seen⟩
        · rintro _ ⟨⟩
          exact ⟨policy, granted, idle⟩
  · exact watches

theorem Watches.tidied (watches : Watches traffic env.now s) (shows : traffic.Shows env)
    (tidied : Tidied config env s s') : Watches traffic env.now s' := by
  induction tidied with
  | refl => exact watches
  | tail _ last ih =>
      cases last with
      | adjust _ adjusts =>
          rw [adjusts]
          exact { ih with }
      | stop => exact { ih with }
      | drainHlak =>
          rw [drainHlak_eq]
          exact { ih with }
      | poll => exact { ih with }
      | applyPolicy => exact ih.applyPolicy
      | acctInterim => exact ih.acctInterim shows

end Watches

/-! ## Steps -/

/-- The cause of a step is the one noted before its work. -/
theorem acctCause_step (config : Config) {s : Session} (running : s.running = true)
    (input : Input) : (s.step config input).acctCause = s.notedCause input := by
  rcases turn_handle config running input with ⟨t, prepares, tidied⟩
  have settled := tidied.settles.trans (settles_settle config input.env _)
  unfold step
  rw [if_pos running, settled.acctCause,
    show (t.perform config input.env (s.work input)).acctCause = t.acctCause from
      congrArg Locals.acctCause (locals_perform config input.env (s.work input) t)]
  exact prepares.cause

/-- The step is the expiry of the idle deadline. -/
structure FiresIdle (s : Session) (input : Input) : Prop where
  point : s.point = .select
  move : input.move = .event .idleTimeout
  expired : s.enabled input.env .idleTimeout = true

theorem firesIdle_of_notedCause {s : Session} {input : Input} (other : s.acctCause ≠ .idleTimeout)
    (noted : s.notedCause input = .idleTimeout) : FiresIdle s input := by
  unfold notedCause at noted
  split at noted
  · rename_i event point move
    split_ifs at noted with expired
    · cases event with
      | idleTimeout => exact ⟨point, move, expired⟩
      | control command =>
          rcases command with _ | reason | _ | _
          · exact (other noted).elim
          · cases reason <;> cases noted
          · exact (other noted).elim
          · exact (other noted).elim
      | drain => cases noted
      | sessionTimeout => cases noted
      | _ => exact (other noted).elim
    · exact (other noted).elim
  · exact (other noted).elim

/-- The deadline ends the task. -/
theorem FiresIdle.not_running {s : Session} {input : Input} (fires : FiresIdle s input)
    (config : Config) : (s.handle config input).running = false := by
  unfold handle
  rw [fires.point, fires.move]
  dsimp only
  rw [if_pos fires.expired]
  rfl

theorem Watches.step {traffic : Traffic} {now : Nat} {config : Config} {s : Session}
    {input : Input} (watches : s.running = true → Watches traffic now s)
    (later : now ≤ input.env.now) (shows : traffic.Shows input.env)
    (survives : (s.step config input).running = true) :
    Watches traffic input.env.now (s.step config input) := by
  have running := running_of_step survives
  have watched := (watches running).later later
  rcases turn_handle config running input with ⟨t, prepares, tidied⟩
  unfold Session.step at survives ⊢
  rw [if_pos running] at survives ⊢
  have settled := settle_of_running survives
  rw [settled] at survives ⊢
  have prepared : Watches traffic input.env.now t := by
    have cause : t.acctCause ≠ .idleTimeout := by
      rw [prepares.cause]
      intro noted
      have ended := (firesIdle_of_notedCause watched.cause noted).not_running config
      rw [ended] at survives
      cases survives
    rw [prepares.notes] at cause ⊢
    exact { watched with cause }
  have performed := prepared.enrolls (locals_perform config input.env (s.work input) t)
    (enrolls_perform config input.env (s.work input) t)
  exact performed.tidied shows tidied

/-! ## Runs -/

/-- The step ends the session for being idle. -/
structure EndsIdle (config : Config) (s : Session) (input : Input) : Prop where
  running : s.running = true
  ended : (s.step config input).status = .ended
  cause : (s.step config input).acctCause = .idleTimeout

/-- The session is ended for being idle only when the counters have not changed for the
Idle-Timeout that the backend has granted. -/
def EndsQuiet (config : Config) (traffic : Traffic) (s : Session) (input : Input) : Prop :=
  EndsIdle config s input → ∃ policy period, GrantedPolicy s.log policy ∧
    policy.idleTimeout = some period ∧ s.idleTimeout = some period ∧
    traffic.Quiet (input.env.now - seconds period) input.env.now

/-- When the idle deadline expires, no octets have been counted beyond those noted last. -/
def SeesTraffic (traffic : Traffic) (s : Session) (input : Input) : Prop :=
  s.running = true → FiresIdle s input → traffic.total input.env.now = s.lastActivityOctets

theorem Watches.endsQuiet {traffic : Traffic} {now : Nat} {config : Config} {s : Session}
    {input : Input} (watches : s.running = true → Watches traffic now s)
    (sees : SeesTraffic traffic s input) : EndsQuiet config traffic s input := by
  rintro ⟨running, _, cause⟩
  have watched := watches running
  rw [acctCause_step config running] at cause
  have fires := firesIdle_of_notedCause watched.cause cause
  have expired := fires.expired
  cases armed : s.idleTimeoutDeadline with
  | none => simp [enabled, armed] at expired
  | some deadline =>
      have expired : deadline ≤ input.env.now := by simpa [enabled, armed] using expired
      rcases watched.armed deadline armed with ⟨period, since, idle, rfl, noted⟩
      rcases watched.granted period idle with ⟨policy, granted, same⟩
      refine ⟨policy, period, granted, same, idle, Traffic.quiet_of_total_le ?_⟩
      calc
        traffic.total input.env.now = s.lastActivityOctets := sees running fires
        _ ≤ traffic.total since := noted
        _ ≤ traffic.total (input.env.now - seconds period) :=
          traffic.total_mono (Nat.le_sub_of_add_le expired)

theorem watches_start (traffic : Traffic) (config : Config) (env : Env) :
    Watches traffic env.now (start config env) := by
  rw [start_eq]
  exact ⟨nofun, nofun, Nat.zero_le _, nofun, nofun, nofun⟩

/-- In every run, with or without accounting and whatever the interim period, an expired idle
deadline whose session has seen all the traffic ends a session that was idle. -/
theorem endsQuiet_of_mem_visits (config : Config) (env : Env) (traffic : Traffic)
    (inputs : List Input) (times : traffic.Times env.now inputs) :
    ∀ visit ∈ visits (step config) (start config env) inputs,
      SeesTraffic traffic visit.1 visit.2 → EndsQuiet config traffic visit.1 visit.2 := by
  have initially : (start config env).running = true → Watches traffic env.now (start config env) :=
    fun _ => watches_start traffic config env
  generalize start config env = s at initially ⊢
  generalize env.now = now at times initially
  induction inputs generalizing s now with
  | nil =>
      intro visit member
      cases member
  | cons input rest ih =>
      rcases times with ⟨later, shows, times⟩
      intro visit member
      rcases List.mem_cons.mp member with rfl | member
      · exact Watches.endsQuiet initially
      · exact ih _ _ times (Watches.step initially later shows) visit member

/-! ## Traffic between two checks -/

/-- An environment whose backend grants an Idle-Timeout of one minute. -/
def idleEnv (traffic : Traffic) (now : Nat) : Env :=
  { obligingEnv with
    now
    radius := .accept
      { addrs := ⟨Block.zero 4, none, none, none, none, none⟩
        policy := { idleTimeout := some 60 }
        mschap2Success := none
        mppeSendKey := []
        mppeRecvKey := [] }
    stats := some ⟨traffic.rx now, traffic.tx now, 0, 0⟩ }

/-- A call whose device comes up at once. -/
def deviceRun (traffic : Traffic) : List Input :=
  readRun (idleEnv traffic 0) networkStream 7

/-- The idle deadline, one minute later. -/
def idleMinute (traffic : Traffic) : Input :=
  ⟨.event .idleTimeout, idleEnv traffic 60000⟩

theorem shows_idleEnv (traffic : Traffic) (now : Nat) : traffic.Shows (idleEnv traffic now) := by
  rintro stats ⟨⟩
  exact ⟨rfl, rfl⟩

theorem times_idleMinute (traffic : Traffic) :
    traffic.Times (idleEnv traffic 0).now (deviceRun traffic ++ [idleMinute traffic]) := by
  have shows := shows_idleEnv traffic
  have waited : 0 ≤ 60000 := by decide
  exact ⟨le_rfl, shows 0, le_rfl, shows 0, le_rfl, shows 0, le_rfl, shows 0, le_rfl, shows 0,
    le_rfl, shows 0, le_rfl, shows 0, le_rfl, shows 0, waited, shows 60000, trivial⟩

/-- No traffic at all. -/
def silentTraffic : Traffic where
  rx _ := 0
  tx _ := 0
  rx_mono _ _ _ := le_rfl
  tx_mono _ _ _ := le_rfl

theorem visited_idleMinute (traffic : Traffic) :
    (sessionAfter tunConfig (idleEnv traffic 0) (deviceRun traffic), idleMinute traffic) ∈
      visits (step tunConfig) (start tunConfig (idleEnv traffic 0))
        (deviceRun traffic ++ [idleMinute traffic]) :=
  mem_visits_concat ..

/-- Without traffic the deadline ends an idle session. -/
theorem endsQuiet_silentTraffic :
    EndsIdle tunConfig (sessionAfter tunConfig (idleEnv silentTraffic 0) (deviceRun silentTraffic))
        (idleMinute silentTraffic) ∧
      EndsQuiet tunConfig silentTraffic
        (sessionAfter tunConfig (idleEnv silentTraffic 0) (deviceRun silentTraffic))
        (idleMinute silentTraffic) := by
  have sees : SeesTraffic silentTraffic
      (sessionAfter tunConfig (idleEnv silentTraffic 0) (deviceRun silentTraffic))
      (idleMinute silentTraffic) := fun _ _ => by decide +kernel
  constructor
  · constructor <;> decide +kernel
  · have visited := visited_idleMinute silentTraffic
    have times := times_idleMinute silentTraffic
    generalize sessionAfter tunConfig (idleEnv silentTraffic 0) (deviceRun silentTraffic) = s
      at visited sees ⊢
    exact endsQuiet_of_mem_visits tunConfig (idleEnv silentTraffic 0) silentTraffic _ times
      (s, idleMinute silentTraffic) visited sees

/-- A thousand octets after half a minute. -/
def burstTraffic : Traffic where
  rx time := if time < 30000 then 0 else 1000
  tx _ := 0
  rx_mono earlier later before := by
    dsimp only
    split_ifs <;> omega
  tx_mono _ _ _ := le_rfl

theorem not_endsQuiet {config : Config} {traffic : Traffic} {s : Session} {input : Input}
    {period : Nat} (ends : EndsIdle config s input) (idle : s.idleTimeout = some period)
    (busy : traffic.rx (input.env.now - seconds period) ≠ traffic.rx input.env.now) :
    ¬EndsQuiet config traffic s input := by
  intro quiet
  rcases quiet ends with ⟨_, period', _, _, idle', unchanged⟩
  cases idle.symm.trans idle'
  exact busy (unchanged _ le_rfl (Nat.sub_le _ _)).1

/-- Without accounting, traffic in the middle of the minute does not keep the session. -/
theorem not_endsQuiet_burstTraffic :
    burstTraffic.Times (idleEnv burstTraffic 0).now
        (deviceRun burstTraffic ++ [idleMinute burstTraffic]) ∧
      ¬∀ visit ∈ visits (step tunConfig) (start tunConfig (idleEnv burstTraffic 0))
          (deviceRun burstTraffic ++ [idleMinute burstTraffic]),
        EndsQuiet tunConfig burstTraffic visit.1 visit.2 := by
  refine ⟨times_idleMinute burstTraffic, fun quiet => ?_⟩
  have last := quiet _ (visited_idleMinute burstTraffic)
  apply not_endsQuiet _ _ _ last
  · exact 60
  · constructor <;> decide +kernel
  · decide +kernel
  · decide +kernel

end SstpServer.Session
