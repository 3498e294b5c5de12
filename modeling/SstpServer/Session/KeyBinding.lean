import SstpServer.Session.Forwarding
import SstpServer.Session.Verdicts
import SstpServer.Sstp.Admission

/-!
# Binding of the call to the inner authentication

The Compound MAC of a Call-Connected is checked under the HLAK that the state machine
holds at that moment.  The keys of an Access-Accept reach it only when the loop starts
over, and nothing orders the Call-Connected after them.  This module says which runs
admit every call under the keys of the authentication that was accepted.
-/

namespace SstpServer.Session

open SstpServer.Wire
open SstpServer.Sstp
open SstpServer.Ppp
open SstpServer.Transition

/-! ## What the log says about keys -/

/-- The Access-Accept of an effect. -/
def Effect.accepted? : Effect → Option AuthAccept
  | .radius (.accept granted) => some granted
  | _ => none

/-- The HLAK under which an effect reports the call as established. -/
def Effect.admittedUnder? : Effect → Option (Block 32)
  | .established hlak => some hlak
  | _ => none

/-- The last Access-Accept so far. -/
def lastAccept (log : List Effect) : Option AuthAccept :=
  (log.filterMap Effect.accepted?).getLast?

/-- The HLAK under which the last Call-Connected was admitted. -/
def admittedUnder (log : List Effect) : Option (Block 32) :=
  (log.filterMap Effect.admittedUnder?).getLast?

/-- While the call is connected and the last Access-Accept has keys, the MAC was checked
under the HLAK of these keys. -/
def BoundToAuth (s : Session) : Prop :=
  s.ssm.state = .serverCallConnected → ∀ granted hlak, lastAccept s.log = some granted →
    hlakFromMppe granted = some hlak → admittedUnder s.log = some hlak

/-- The effect tells about keys. -/
def Effect.isKeyed (effect : Effect) : Prop :=
  effect.isRadius ∨ effect.isEstablished

theorem Grows.keys {s s' : Session} (grows : Grows (fun effect => ¬effect.isKeyed) s s') :
    lastAccept s'.log = lastAccept s.log ∧ admittedUnder s'.log = admittedUnder s.log := by
  obtain ⟨more, logged, unkeyed⟩ := grows
  have noAccept : more.filterMap Effect.accepted? = [] := by
    rw [List.filterMap_eq_nil_iff]
    intro effect member
    have other := unkeyed effect member
    cases effect <;> simp_all [Effect.isKeyed, Effect.isRadius, Effect.accepted?]
  have noHlak : more.filterMap Effect.admittedUnder? = [] := by
    rw [List.filterMap_eq_nil_iff]
    intro effect member
    have other := unkeyed effect member
    cases effect <;> simp_all [Effect.isKeyed, Effect.isEstablished, Effect.admittedUnder?]
  simp [lastAccept, admittedUnder, logged, noAccept, noHlak]

theorem admittedUnder_append_established (log : List Effect) (hlak : Block 32) :
    admittedUnder (log ++ [.established hlak]) = some hlak := by
  simp [admittedUnder, Effect.admittedUnder?]

theorem lastAccept_append_established (log : List Effect) (hlak : Block 32) :
    lastAccept (log ++ [.established hlak]) = lastAccept log := by
  simp [lastAccept, Effect.accepted?]

theorem admittedUnder_append_radius (log : List Effect) (answer : RadiusAnswer) :
    admittedUnder (log ++ [.radius answer]) = admittedUnder log := by
  simp [admittedUnder, Effect.admittedUnder?]

theorem lastAccept_append_accept (log : List Effect) (granted : AuthAccept) :
    lastAccept (log ++ [.radius (.accept granted)]) = some granted := by
  simp [lastAccept, Effect.accepted?]

theorem lastAccept_append_reject (log : List Effect) (message : Bytes)
    (errorString : Option Bytes) :
    lastAccept (log ++ [.radius (.reject message errorString)]) = lastAccept log := by
  simp [lastAccept, Effect.accepted?]

/-! ## Handlers -/

theorem Effect.not_isKeyed_of_isTlsWrite (effect : Effect) (write : effect.isTlsWrite) :
    ¬effect.isKeyed := by
  cases effect <;> simp_all [Effect.isTlsWrite, Effect.isKeyed, Effect.isRadius,
    Effect.isEstablished]

theorem Effect.not_isKeyed_of_carries {frames : List Bytes} (effect : Effect)
    (carries : effect.carries frames) : ¬effect.isKeyed :=
  effect.not_isKeyed_of_isTlsWrite (effect.isTlsWrite_of_carries carries)

theorem Effect.not_isKeyed_of_ofDevice (effect : Effect) (ofDevice : effect.ofDevice) :
    ¬effect.isKeyed := by
  cases effect <;> simp_all [Effect.ofDevice, Effect.isKeyed, Effect.isRadius,
    Effect.isEstablished]

theorem Effect.not_isKeyed_of_isSendControl (effect : Effect) (send : effect.isSendControl) :
    ¬effect.isKeyed := by
  cases effect <;> simp_all [Effect.isSendControl, Effect.isKeyed, Effect.isRadius,
    Effect.isEstablished]

/-- A PPP step without credentials leaves no key. -/
theorem acts_handlePppStep_unkeyed (config : Config) (env : Env) (fuel : Nat) {step : PppStep}
    (ppp : Ppp) (s : Session)
    (plain : ∀ event, step.event = some event → event.credentialMethod = none) :
    Acts (fun effect => ¬effect.isKeyed) s
      (handlePppStep config env (fuel + 1) step ppp s) := by
  refine acts_handlePppStep_plain config env fuel ppp Effect.not_isKeyed_of_ofDevice ?_ plain
  exact (acts_writeFrames env step.frames _).mono Effect.not_isKeyed_of_carries

/-- An SSTP step that does not establish the call leaves no key. -/
theorem acts_handleSstpStep_unkeyed (config : Config) (env : Env) {out : StepOut} (s : Session)
    (other : out.notify ≠ some .sstpEstablished) :
    Acts (fun effect => ¬effect.isKeyed) s (s.handleSstpStep config env out) := by
  have sent : Acts (fun effect => ¬effect.isKeyed) s (s.sendPacket env out.send) := by
    exact acts_sendPacket env (fun _ => Effect.not_isKeyed_of_isSendControl _ trivial)
      fun _ _ => Effect.not_isKeyed_of_isTlsWrite _ trivial
  unfold handleSstpStep
  refine (acts_applyStep env sent fun established => (other established).elim).andThen ?_
  have silent := openPpp_event (Ppp.new config.localIp config.authMethod) (env.challenge 0)
  generalize (Ppp.new config.localIp config.authMethod).openPpp (env.challenge 0) = opened
    at silent ⊢
  obtain ⟨step, ppp⟩ := opened
  split_ifs
  · exact acts_handlePppStep_unkeyed config env 1 ppp _ fun event raised => by
      rw [silent] at raised
      cases raised
  · exact .refl _ _

theorem applySstpTimers_log (env : Env) (out : StepOut) (s : Session) :
    (s.applySstpTimers env out).log = s.log := by
  unfold applySstpTimers
  simp only
  split
  · split_ifs <;> rfl
  · rfl

/-- An admitted Call-Connected records the HLAK of the machine and sends nothing. -/
theorem handleSstpStep_advanceToConnected_log (config : Config) (env : Env)
    (ssm : StateMachine) {s : Session} (running : s.running = true) :
    (s.handleSstpStep config env ssm.advanceToConnected.1).log =
      s.log ++ [.established s.ssm.hlak] := by
  have applied : (s.applyStep env ssm.advanceToConnected.1).log =
      s.log ++ [.established s.ssm.hlak] := by
    have machine := (acts_applySstpTimers (fun _ => True) env ssm.advanceToConnected.1 s).ssm
    have log := applySstpTimers_log env ssm.advanceToConnected.1 s
    have sent : s.sendPacket env ssm.advanceToConnected.1.send = s := rfl
    rw [applyStep, sent, andThen, if_pos running]
    simp only [StateMachine.advanceToConnected, if_true, push] at machine log ⊢
    rw [machine, log]
  have other : ssm.advanceToConnected.1.notify ≠ some .startPpp := by
    simp [StateMachine.advanceToConnected]
  unfold handleSstpStep andThen
  simp only [other, false_and, if_false]
  split_ifs <;> exact applied

/-! ## Steps -/

/-- The step hands a Call-Connected over, with its packet under a zeroed MAC. -/
inductive HandsCallConnected (s : Session) (input : Input) : CryptoBinding → Bytes → Prop where
  | read (binding : CryptoBinding) (point : s.point = .reading) (move : input.move = .packet)
      (carries : Carries s.rxBuf (.callConnected binding)) :
      HandsCallConnected s input binding (zeroedMac s.rxBuf)
  | kernel (binding : CryptoBinding) (payload : Bytes) (rest : List KmodEvent)
      (point : s.point = .events (.controlPacket (.ok (some payload)) :: rest))
      (move : input.move = .kmodEvent)
      (parsed : parseControlPayload payload = .ok (.callConnected binding))
      (sized : payload.length + sstpHeaderLen = callConnectedLen) :
      HandsCallConnected s input binding (zeroedMac (kernelPacket payload))

theorem messageCall_eq_callConnected {buf : Bytes} {message : ControlMessage} {nonce : Block 32}
    {binding : CryptoBinding} {packet : Bytes}
    (same : messageCall buf message nonce = .callConnected binding packet) :
    message = .callConnected binding ∧ packet = zeroedMac buf := by
  cases message <;> cases same
  exact ⟨rfl, rfl⟩

theorem messageCall_hasPacket (buf : Bytes) (message : ControlMessage) (nonce : Block 32) :
    (messageCall buf message nonce).hasPacket := by
  cases message <;> trivial

theorem work_eq_callConnected_iff {s : Session} {input : Input} {binding : CryptoBinding}
    {packet : Bytes} :
    s.work input = .sstp (.callConnected binding packet) ↔
      s.running = true ∧ HandsCallConnected s input binding packet := by
  constructor
  · intro works
    refine ⟨running_of_work works (by simp), ?_⟩
    generalize same : StateMachine.Call.callConnected binding packet = call at works
    cases assigned_of_work works with
    | disconnect => cases same
    | hello _ _ _ checked =>
        subst same
        unfold helloWork at checked
        split_ifs at checked <;> cases checked
    | sstpTimer => cases same
    | message message point move carries =>
        obtain ⟨rfl, rfl⟩ := messageCall_eq_callConnected same.symm
        exact .read binding point move carries
    | kernelBinding _ payload rest point move parsed sized =>
        cases same
        exact .kernel binding payload rest point move parsed sized
    | kernelMessage => cases same
  · rintro ⟨running, handed⟩
    rw [work, if_pos running]
    cases handed with
    | read point move carries =>
        obtain ⟨packet, used, parsed, decoded⟩ := carries
        rw [point, move]
        simp only [packetWork, parsed, decoded, messageCall]
    | kernel payload rest point move parsed sized =>
        simp only [point, move, kmodWork, kernelControlWork, parsed, sized, ne_eq,
          not_true_eq_false, if_false]

theorem work_eq_sstp_hasPacket {s : Session} {input : Input} {call : StateMachine.Call}
    (works : s.work input = .sstp call) : call.hasPacket := by
  cases assigned_of_work works with
  | hello _ _ _ checked =>
      unfold helloWork at checked
      split_ifs at checked <;> cases checked <;> trivial
  | message message => exact messageCall_hasPacket _ message _
  | kernelMessage message other =>
      cases message with
      | callConnected binding => exact other binding rfl
      | _ => trivial
  | _ => trivial

/-- The step hands credentials of the peer to the backend. -/
def HandsCredentials (s : Session) (input : Input) : Prop :=
  ∃ ppp call event used, s.ppp = some ppp ∧ HandsToPpp s input call ∧
    (ppp.respond ⟨call, input.env.challenge 0⟩).event = some event ∧
      event.credentialMethod = some used

/-- The keys in a log are those of another. -/
def SameKeys (s s' : Session) : Prop :=
  lastAccept s'.log = lastAccept s.log ∧ admittedUnder s'.log = admittedUnder s.log

theorem SameKeys.trans {s s' s'' : Session} (first : SameKeys s s') (second : SameKeys s' s'') :
    SameKeys s s'' :=
  ⟨second.1.trans first.1, second.2.trans first.2⟩

theorem Readies.sameKeys {s t : Session} (ready : Readies s t) : SameKeys s t := by
  unfold SameKeys
  rw [ready.log]
  exact ⟨rfl, rfl⟩

theorem Settles.sameKeys {s s' : Session} (settled : Settles s s') : SameKeys s s' := by
  refine Grows.keys (settled.log.mono fun effect isAcct => ?_)
  cases effect <;> simp_all [Effect.isAcct, Effect.isKeyed, Effect.isRadius, Effect.isEstablished]

/-- An admitted Call-Connected connects the call under the HLAK of the machine. -/
theorem step_of_admits (config : Config) {s : Session} {input : Input}
    {binding : CryptoBinding} {packet : Bytes} (running : s.running = true)
    (handed : HandsCallConnected s input binding packet)
    (admits : Admits config.crypto s.ssm binding packet) :
    (s.step config input).ssm.state = .serverCallConnected ∧
      lastAccept (s.step config input).log = lastAccept s.log ∧
      admittedUnder (s.step config input).log = some s.ssm.hlak := by
  obtain ⟨t, ready, settled⟩ := does_step config s input
  rw [work_eq_callConnected_iff.mpr ⟨running, handed⟩] at settled
  have ran : t.ssm.run config.crypto (.callConnected binding packet) =
      s.ssm.advanceToConnected := by
    rw [ready.ssm]
    exact StateMachine.run_of_admits admits
  simp only [perform, ran] at settled
  have alive : { t with ssm := s.ssm.advanceToConnected.2 }.running = true := by
    simpa [Session.running, ready.status] using running
  have logged := handleSstpStep_advanceToConnected_log config input.env s.ssm alive
  have acts := acts_handleSstpStep config input.env s.ssm.advanceToConnected.1
    { t with ssm := s.ssm.advanceToConnected.2 }
  have keys := settled.sameKeys
  unfold SameKeys at keys
  rw [logged, ready.log] at keys
  refine ⟨?_, ?_, ?_⟩
  · rw [settled.state, acts.ssm]
    rfl
  · rw [keys.1]
    exact lastAccept_append_established _ _
  · rw [keys.2]
    exact admittedUnder_append_established _ _

theorem keys_handlePppStep_credential (config : Config) (env : Env) {event : PppEvent}
    {used : AuthMethod} {ppp : Ppp} {inFlight : InFlightMethod} {s : Session}
    (running : s.running = true) (credential : event.credentialMethod = some used)
    (phase : ppp.phase = .authInFlight inFlight) (method : inFlight.authMethod = used) :
    lastAccept (handlePppStep config env pppRounds { event := some event } ppp s).log =
        lastAccept (s.log ++ [.radius env.radius]) ∧
      admittedUnder (handlePppStep config env pppRounds { event := some event } ppp s).log =
        admittedUnder s.log := by
  rw [pppRounds, handlePppStep_credential config env 1 ppp running credential]
  obtain ⟨frame, rest, -, -, silent⟩ :=
    submitted_startsWithAnswer env { s with ppp := some ppp } credential phase method
  have logged := submitted_log env ppp { s with ppp := some ppp } credential
  generalize { s with ppp := some ppp }.submitted env event ppp = result at silent logged ⊢
  have plain : ∀ event, result.1.1.event = some event → event.credentialMethod = none := by
    intro event raised
    rw [silent] at raised
    cases raised
  have keys := (acts_handlePppStep_unkeyed config env 0 result.1.2 result.2 plain).log.keys
  rw [logged, admittedUnder_append_radius] at keys
  exact keys

/-- Credentials of the peer change the last Access-Accept, and nothing else. -/
theorem step_of_handsCredentials (config : Config) {s : Session} {input : Input}
    (running : s.running = true) (handed : HandsCredentials s input) :
    (s.step config input).ssm.state = s.ssm.state ∧
      lastAccept (s.step config input).log =
        lastAccept (s.log ++ [.radius input.env.radius]) ∧
      admittedUnder (s.step config input).log = admittedUnder s.log := by
  obtain ⟨ppp, call, event, used, driver, received, raised, credential⟩ := handed
  have move := ppp.run_move ⟨call, input.env.challenge 0⟩
  rw [respond] at raised
  cases ran : ppp.run ⟨call, input.env.challenge 0⟩ with
  | mk step ppp' =>
      rw [ran] at move raised
      obtain ⟨rfl, inFlight, phase, method⟩ := move.credential raised credential
      obtain ⟨t, ready, settled⟩ := does_step config s input
      rw [work_eq_ppp_iff.mpr ⟨running, ppp, call, driver, received, ran⟩, perform] at settled
      have alive : t.running = true := by simpa [Session.running, ready.status] using running
      have keys := keys_handlePppStep_credential config input.env alive credential phase method
      have handled := acts_handlePppStep config input.env pppRounds { event := some event } ppp' t
      have kept := settled.sameKeys
      rw [ready.log] at keys
      refine ⟨?_, kept.1.trans keys.1, kept.2.trans keys.2⟩
      rw [settled.state, handled.ssm, ready.ssm]

/-- All other work leaves the keys alone and does not connect the call. -/
theorem perform_of_other (config : Config) {s t : Session} {input : Input}
    (ready : Readies s t)
    (refused : ∀ binding packet, s.running = true → HandsCallConnected s input binding packet →
      ¬Admits config.crypto s.ssm binding packet)
    (silent : s.running = true → ¬HandsCredentials s input) :
    ((t.perform config input.env (s.work input)).ssm.state = .serverCallConnected →
        s.ssm.state = .serverCallConnected) ∧
      SameKeys t (t.perform config input.env (s.work input)) := by
  cases works : s.work input with
  | nothing =>
      rw [← ready.ssm]
      exact ⟨id, rfl, rfl⟩
  | sstp call =>
      have quiet : (s.ssm.run config.crypto call).1.notify ≠ some .sstpEstablished ∧
          ((s.ssm.run config.crypto call).2.state = .serverCallConnected →
            s.ssm.state = .serverCallConnected) := by
        refine StateMachine.run_of_not_admits (work_eq_sstp_hasPacket works) ?_
        rintro binding packet rfl
        obtain ⟨running, handed⟩ := work_eq_callConnected_iff.mp works
        exact refused binding packet running handed
      have handled := acts_handleSstpStep_unkeyed config input.env
        { t with ssm := (s.ssm.run config.crypto call).2 } quiet.1
      simp only [perform, ready.ssm]
      refine ⟨fun connected => ?_, handled.log.keys⟩
      rw [handled.ssm] at connected
      exact quiet.2 connected
  | ppp step ppp' =>
      obtain ⟨running, ppp, call, driver, received, ran⟩ := work_eq_ppp_iff.mp works
      have plain : ∀ event, step.event = some event → event.credentialMethod = none := by
        refine step.plain_or_credential.resolve_right ?_
        rintro ⟨event, used, raised, credential⟩
        refine silent running ⟨ppp, call, event, used, driver, received, ?_, credential⟩
        rw [respond, ran]
        exact raised
      have handled := acts_handlePppStep_unkeyed config input.env 1 ppp' t plain
      rw [← ready.ssm]
      exact ⟨(congrArg StateMachine.state handled.ssm).symm.trans, handled.log.keys⟩
  | toTun packet =>
      rw [← ready.ssm]
      have unkeyed : ¬(Effect.toTun packet).isKeyed := by simp [Effect.isKeyed, Effect.isRadius,
        Effect.isEstablished]
      exact ⟨id, (grows_push unkeyed t).keys⟩
  | fromTun packet frame =>
      rw [← ready.ssm]
      have unkeyed : ¬(Effect.fromTun packet).isKeyed := by simp [Effect.isKeyed,
        Effect.isRadius, Effect.isEstablished]
      have pushed : Acts (fun effect => ¬effect.isKeyed) t (t.push (.fromTun packet)) :=
        acts_push unkeyed t
      have written := (acts_writeFrame input.env (List.mem_singleton_self frame)
        (t.push (.fromTun packet))).mono Effect.not_isKeyed_of_carries
      have handled := pushed.trans (written.andThen (acts_tlsFlush _ input.env _))
      exact ⟨(congrArg StateMachine.state handled.ssm).symm.trans, handled.log.keys⟩

/-- Every other step leaves the keys alone and does not connect the call. -/
theorem step_of_other (config : Config) {s : Session} {input : Input}
    (refused : ∀ binding packet, s.running = true → HandsCallConnected s input binding packet →
      ¬Admits config.crypto s.ssm binding packet)
    (silent : s.running = true → ¬HandsCredentials s input) :
    ((s.step config input).ssm.state = .serverCallConnected →
        s.ssm.state = .serverCallConnected) ∧
      SameKeys s (s.step config input) := by
  obtain ⟨t, ready, settled⟩ := does_step config s input
  obtain ⟨state, keys⟩ := perform_of_other config ready refused silent
  refine ⟨fun connected => state ?_, ready.sameKeys.trans (keys.trans settled.sameKeys)⟩
  rw [← settled.state]
  exact connected

/-- The step hands a Call-Connected over whose MAC is that of its packet under the HLAK. -/
def ChecksMac (config : Config) (hlak : Block 32) (s : Session) (input : Input) : Prop :=
  ∃ binding packet protocol, HandsCallConnected s input binding packet ∧
    binding.hashProtocol = protocol.asU8 ∧
      config.crypto.compoundMac hlak packet protocol =
        binding.compoundMacBlock.toList.take protocol.hashLen

/-- A step only records an HLAK under which it has checked a MAC. -/
theorem checksMac_of_step (config : Config) {s : Session} {input : Input} {hlak : Block 32}
    (under : admittedUnder (s.step config input).log = some hlak) :
    admittedUnder s.log = some hlak ∨ ChecksMac config hlak s input := by
  by_cases admission : ∃ binding packet, s.running = true ∧
      HandsCallConnected s input binding packet ∧ Admits config.crypto s.ssm binding packet
  · obtain ⟨binding, packet, running, handed, admits⟩ := admission
    obtain ⟨-, -, recorded⟩ := step_of_admits config running handed admits
    obtain ⟨protocol, hashProtocol, mac⟩ := StateMachine.mac_of_admits admits
    cases under.symm.trans recorded
    exact .inr ⟨binding, packet, protocol, handed, hashProtocol, mac⟩
  · left
    by_cases credentials : s.running = true ∧ HandsCredentials s input
    · obtain ⟨-, -, kept⟩ := step_of_handsCredentials config credentials.1 credentials.2
      exact kept.symm.trans under
    · have keys := (step_of_other config
        (fun binding packet running handed admits =>
          admission ⟨binding, packet, running, handed, admits⟩)
        (fun running handed => credentials ⟨running, handed⟩)).2
      exact keys.2.symm.trans under

theorem admittedUnder_start (config : Config) (env : Env) :
    admittedUnder (start config env).log = none := by
  rw [start_eq]
  rfl

/-- The HLAK in the log of a run is one under which the run has checked a MAC. -/
theorem checksMac_of_admittedUnder {config : Config} {env : Env} {inputs : List Input}
    {hlak : Block 32}
    (under : admittedUnder (sessionAfter config env inputs).log = some hlak) :
    ∃ visit ∈ visits (step config) (start config env) inputs,
      ChecksMac config hlak visit.1 visit.2 := by
  induction inputs using List.reverseRecOn with
  | nil =>
      cases (admittedUnder_start config env).symm.trans under
  | append_singleton before input ih =>
      rw [sessionAfter, finalState_append] at under
      rw [visits_append]
      rcases checksMac_of_step config under with earlier | now
      · obtain ⟨visit, visited, checks⟩ := ih earlier
        exact ⟨visit, List.mem_append_left _ visited, checks⟩
      · exact ⟨_, List.mem_append_right _ (List.mem_singleton_self _), now⟩

/-! ## Runs -/

/-- The machine holds the HLAK of the last Access-Accept, if that has keys. -/
def HlakCurrent (s : Session) : Prop :=
  ∀ granted hlak, lastAccept s.log = some granted → hlakFromMppe granted = some hlak →
    s.ssm.hlak = hlak

/-- The step neither admits a Call-Connected under another HLAK than that of the last
Access-Accept, nor brings a connected call an Access-Accept with another HLAK. -/
structure KeepsBinding (config : Config) (s : Session) (input : Input) : Prop where
  admitted : ∀ binding packet, s.running = true → HandsCallConnected s input binding packet →
    Admits config.crypto s.ssm binding packet → HlakCurrent s
  accepted : s.running = true → s.ssm.state = .serverCallConnected → HandsCredentials s input →
    ∀ granted hlak, input.env.radius = .accept granted → hlakFromMppe granted = some hlak →
      admittedUnder s.log = some hlak

theorem boundToAuth_step_iff (config : Config) {s : Session} (input : Input)
    (bound : BoundToAuth s) :
    BoundToAuth (s.step config input) ↔ KeepsBinding config s input := by
  by_cases admission : ∃ binding packet, s.running = true ∧
      HandsCallConnected s input binding packet ∧ Admits config.crypto s.ssm binding packet
  · obtain ⟨binding, packet, running, handed, admits⟩ := admission
    obtain ⟨connects, sameAccept, under⟩ := step_of_admits config running handed admits
    constructor
    · intro boundAfter
      refine ⟨fun _ _ _ _ _ granted hlak last keyed => ?_, fun _ connected => ?_⟩
      · have checked := boundAfter connects granted hlak (sameAccept.trans last) keyed
        exact Option.some.inj (under.symm.trans checked)
      · cases admits.pending.symm.trans connected
    · intro keeps _ granted hlak last keyed
      rw [under, keeps.admitted binding packet running handed admits granted hlak
        (sameAccept.symm.trans last) keyed]
  · by_cases credentials : s.running = true ∧ HandsCredentials s input
    · obtain ⟨running, handed⟩ := credentials
      obtain ⟨state, lastAfter, under⟩ := step_of_handsCredentials config running handed
      constructor
      · intro boundAfter
        refine ⟨fun binding packet alive called admits =>
          (admission ⟨binding, packet, alive, called, admits⟩).elim, ?_⟩
        intro _ connected _ granted hlak answer keyed
        rw [← under]
        refine boundAfter (state.trans connected) granted hlak ?_ keyed
        rw [lastAfter, answer, lastAccept_append_accept]
      · intro keeps connected granted hlak last keyed
        rw [lastAfter] at last
        rw [state] at connected
        rw [under]
        cases answer : input.env.radius with
        | accept other =>
            rw [answer, lastAccept_append_accept] at last
            cases last
            exact keeps.accepted running connected handed granted hlak answer keyed
        | reject message errorString =>
            rw [answer, lastAccept_append_reject] at last
            exact bound connected granted hlak last keyed
    · obtain ⟨state, keys⟩ := step_of_other config
        (fun binding packet running handed admits =>
          admission ⟨binding, packet, running, handed, admits⟩)
        (fun running handed => credentials ⟨running, handed⟩)
      refine iff_of_true (fun connected granted hlak last keyed => ?_)
        ⟨fun binding packet running handed admits =>
          (admission ⟨binding, packet, running, handed, admits⟩).elim,
          fun running _ handed => (credentials ⟨running, handed⟩).elim⟩
      rw [keys.2]
      exact bound (state connected) granted hlak (keys.1.symm.trans last) keyed

theorem start_state (config : Config) (env : Env) :
    (start config env).ssm.state = .serverConnectRequestPending := by
  rw [start_eq]
  rfl

/-- A run binds every connected call to the accepted authentication, in every state it
passes through, exactly when none of its steps breaks the binding. -/
theorem forall_boundToAuth_iff (config : Config) (env : Env) (inputs : List Input) :
    (∀ s ∈ states (step config) (start config env) inputs, BoundToAuth s) ↔
      ∀ visit ∈ visits (step config) (start config env) inputs,
        KeepsBinding config visit.1 visit.2 := by
  have initially : BoundToAuth (start config env) := by
    intro connected
    rw [start_state] at connected
    cases connected
  have exactStep : ∀ s input, True → BoundToAuth s →
      (BoundToAuth (step config s input) ↔ KeepsBinding config s input) :=
    fun _ input _ bound => boundToAuth_step_iff config input bound
  exact forall_states_iff_forall_visits (fun _ _ _ => trivial) trivial initially exactStep inputs

/-! ## A Call-Connected before the authentication -/

/-- Keyed functions that hand their key on, so that every HLAK has its own MAC. -/
def keyCrypto : Crypto where
  hmacSha1 key _ := Block.ofBytes 20 key
  hmacSha256 key _ := Block.ofBytes 32 key
  prfPlusSha1Cmk hlak _ := Block.ofBytes 20 hlak.toList
  prfPlusSha256Cmk hlak _ := hlak

/-- A server that asks for MS-CHAPv2. -/
def mschapConfig : Config :=
  { tunConfig with crypto := keyCrypto, authMethod := .msChapV2 }

/-- An MS-CHAPv2 Response to the first challenge. -/
def peerMschapResponse : Ppp.Input :=
  ⟨.frame ([0xFF, 0x03, 0xC2, 0x23, 0x02, 0x00, 0x00, 0x37, 0x31] ++
    List.replicate 49 0x00 ++ [0x75]), Block.zero 16⟩

/-- A call that is connected under the zero HLAK before the peer authenticates. -/
def earlyConnectStream : Bytes :=
  peerCallConnectRequest ++ peerData peerConfigureAck ++ peerData peerConfigureRequest ++
    zeroCallConnected ++ peerData peerMschapResponse

theorem checksMac_earlyConnectStream :
    ∃ visit ∈ visits (step mschapConfig) (start mschapConfig obligingEnv)
        (readRun obligingEnv earlyConnectStream 5),
      ChecksMac mschapConfig (Block.zero 32) visit.1 visit.2 :=
  checksMac_of_admittedUnder (by decide +kernel)

theorem not_forall_boundToAuth {config : Config} {env : Env} {inputs : List Input}
    {granted : AuthAccept} {hlak : Block 32}
    (connected : (sessionAfter config env inputs).ssm.state = .serverCallConnected)
    (last : lastAccept (sessionAfter config env inputs).log = some granted)
    (keyed : hlakFromMppe granted = some hlak)
    (other : admittedUnder (sessionAfter config env inputs).log ≠ some hlak) :
    ¬∀ s ∈ states (step config) (start config env) inputs, BoundToAuth s := by
  intro bound
  have reached : sessionAfter config env inputs ∈
      states (step config) (start config env) inputs :=
    mem_states_iff.mpr ⟨inputs, [], by simp, rfl⟩
  exact other (bound _ reached connected granted hlak last keyed)

/-- The Access-Accept comes with keys, but the call was admitted under the zero HLAK. -/
theorem not_boundToAuth_earlyConnectStream :
    ¬∀ s ∈ states (step mschapConfig) (start mschapConfig obligingEnv)
        (readRun obligingEnv earlyConnectStream 5), BoundToAuth s := by
  have keyed : hlakFromMppe
      ⟨⟨Block.zero 4, none, none, none, none, none⟩, {}, none, List.replicate 16 1,
        List.replicate 16 1⟩ = some (Block.ofBytes 32 (List.replicate 32 1)) := by
    decide
  refine not_forall_boundToAuth ?_ ?_ keyed ?_
  · decide +kernel
  · decide +kernel
  · decide +kernel

end SstpServer.Session
