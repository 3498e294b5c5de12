import SstpServer.Session.Forwarding
import SstpServer.Session.Verdicts

/-!
# Writers of the TLS stream

Once the kernel session is up it owns the TLS socket, and control packets go through it.
The PPP driver still answers what is left in the read buffer, and its restart timer still
runs.  This module says exactly when a step of such a session writes through the TLS
stream.
-/

namespace SstpServer.Session

open SstpServer.Wire
open SstpServer.Sstp
open SstpServer.Ppp
open SstpServer.Transition

/-! ## Writing frames -/

/-- The log of `s'` has a TLS write that the log of `s` does not have. -/
def Writes (s s' : Session) : Prop :=
  ∃ effect ∈ added s s', effect.isTlsWrite

theorem added_trans {kind kind' : Effect → Prop} {s s' s'' : Session}
    (first : Grows kind s s') (second : Grows kind' s' s'') :
    added s s'' = added s s' ++ added s' s'' := by
  rw [added, second.log_eq, first.log_eq, List.append_assoc, List.drop_left]

theorem Writes.before {kind kind' : Effect → Prop} {s s' s'' : Session}
    (first : Grows kind s s') (second : Grows kind' s' s'') (writes : Writes s s') :
    Writes s s'' := by
  obtain ⟨effect, member, write⟩ := writes
  refine ⟨effect, ?_, write⟩
  rw [added_trans first second]
  exact List.mem_append_left _ member

theorem Writes.after {kind kind' : Effect → Prop} {s s' s'' : Session}
    (first : Grows kind s s') (second : Grows kind' s' s'') (writes : Writes s' s'') :
    Writes s s'' := by
  obtain ⟨effect, member, write⟩ := writes
  refine ⟨effect, ?_, write⟩
  rw [added_trans first second]
  exact List.mem_append_right _ member

theorem not_writes_of_grows {kind : Effect → Prop} {s s' : Session} (grows : Grows kind s s')
    (other : ∀ effect, kind effect → ¬effect.isTlsWrite) : ¬Writes s s' := by
  rintro ⟨effect, member, write⟩
  exact other effect (grows.of_mem_added member) write

theorem Effect.not_isTlsWrite_of_ofDevice (effect : Effect) (ofDevice : effect.ofDevice) :
    ¬effect.isTlsWrite := by
  cases effect <;> simp_all [Effect.ofDevice, Effect.isTlsWrite]

theorem writes_tlsWrite (env : Env) (bytes : Bytes) (s : Session) :
    Writes s (s.tlsWrite env bytes) := by
  refine ⟨.tlsWrite bytes, ?_, trivial⟩
  unfold tlsWrite
  simp only
  split_ifs <;> simp [added, push, stop]

theorem foldl_writeFrame_of_not_running (env : Env) (frames : List Bytes) {s : Session}
    (halted : s.running = false) :
    frames.foldl (fun s frame => s.andThen (writeFrame env frame)) s = s := by
  induction frames with
  | nil => rfl
  | cons frame rest ih =>
      rw [List.foldl_cons, andThen, halted]
      exact ih

/-- A first frame that fits is written. -/
theorem writes_writeFrames (env : Env) {frame : Bytes} (rest : List Bytes) {s : Session}
    (running : s.running = true) (fits : frame.length ≤ maxPppFrameLen) :
    Writes s (s.writeFrames env (frame :: rest)) := by
  obtain ⟨packet, written, -⟩ := writePppAsSstpData_of_le fits
  have first : s.andThen (writeFrame env frame) = s.tlsWrite env packet := by
    rw [andThen, if_pos running, writeFrame, written]
  have write := writes_tlsWrite env packet s
  have grows : Grows Effect.isTlsWrite s (s.tlsWrite env packet) := (acts_tlsWrite env trivial s).log
  have more := ((acts_foldl_writeFrame env (List.Subset.refl rest) (s.tlsWrite env packet)).andThen
    (acts_tlsFlush _ env _)).log
  unfold writeFrames
  simp only [List.foldl_cons, reduceCtorEq, if_false, first]
  exact write.before grows more

/-- A first frame that does not fit aborts the process. -/
theorem writeFrames_of_lt (env : Env) {frame : Bytes} (rest : List Bytes) {s : Session}
    (running : s.running = true) (long : maxPppFrameLen < frame.length) :
    s.writeFrames env (frame :: rest) = { s with status := .aborted } := by
  have first : s.andThen (writeFrame env frame) = { s with status := .aborted } := by
    rw [andThen, if_pos running, writeFrame, writePppAsSstpData_eq_none_iff.mpr long]
  unfold writeFrames
  simp only [List.foldl_cons, reduceCtorEq, if_false, first]
  rw [foldl_writeFrame_of_not_running env rest rfl]
  rfl

/-! ## Writing PPP steps -/

/-- A PPP step makes the session write: its first frame fits a data packet, or it has no
frame and hands credentials up, whose verdict is answered. -/
def Speaks (step : PppStep) : Prop :=
  match step.frames with
  | [] => ∃ event used, step.event = some event ∧ event.credentialMethod = some used
  | frame :: _ => frame.length ≤ maxPppFrameLen

theorem writes_handlePppStep (config : Config) (env : Env) (fuel : Nat) {step : PppStep}
    {frame : Bytes} {rest : List Bytes} (ppp : Ppp) {s : Session}
    (frames : step.frames = frame :: rest) (running : s.running = true)
    (fits : frame.length ≤ maxPppFrameLen) :
    Writes s (handlePppStep config env (fuel + 1) step ppp s) := by
  have stored : { s with ppp := some ppp }.running = true := running
  have written := acts_writeFrames env (frame :: rest) { s with ppp := some ppp }
  have write : Writes s ({ s with ppp := some ppp }.writeFrames env (frame :: rest)) :=
    writes_writeFrames env rest stored fits
  have grows : Grows (Effect.carries (frame :: rest)) s
      ({ s with ppp := some ppp }.writeFrames env (frame :: rest)) := written.log
  unfold handlePppStep
  rw [frames]
  refine write.before grows ((Acts.refl Effect.ofPpp _).andThen ?_).log
  exact acts_handlePppEvent config env (acts_handlePppStep config env fuel) step ppp
    (written.ppp rfl)

theorem not_writes_handlePppStep_of_lt (config : Config) (env : Env) (fuel : Nat)
    {step : PppStep} {frame : Bytes} {rest : List Bytes} (ppp : Ppp) {s : Session}
    (frames : step.frames = frame :: rest) (running : s.running = true)
    (long : maxPppFrameLen < frame.length) :
    ¬Writes s (handlePppStep config env (fuel + 1) step ppp s) := by
  have stored : { s with ppp := some ppp }.running = true := running
  unfold handlePppStep
  rw [frames, writeFrames_of_lt env rest stored long]
  simp [andThen, Session.running, Writes, added]

theorem not_writes_handlePppStep_of_plain (config : Config) (env : Env) (fuel : Nat)
    {step : PppStep} (ppp : Ppp) {s : Session} (frames : step.frames = [])
    (plain : ∀ event, step.event = some event → event.credentialMethod = none) :
    ¬Writes s (handlePppStep config env (fuel + 1) step ppp s) := by
  have written : Acts Effect.ofDevice { s with ppp := some ppp }
      ({ s with ppp := some ppp }.writeFrames env step.frames) := by
    rw [frames, writeFrames_nil]
    exact .refl _ _
  have handled := acts_handlePppStep_plain config env fuel ppp (fun _ => id) written plain
  exact not_writes_of_grows handled.log Effect.not_isTlsWrite_of_ofDevice

/-- Carrying out a call of the driver writes exactly when its step speaks. -/
theorem writes_handlePppStep_run_iff (config : Config) (env : Env) (ppp : Ppp)
    (input : Ppp.Input) {s : Session} (running : s.running = true) :
    Writes s (handlePppStep config env pppRounds (ppp.run input).1 (ppp.run input).2 s) ↔
      Speaks (ppp.run input).1 := by
  unfold Speaks
  cases frames : (ppp.run input).1.frames with
  | cons frame rest =>
      dsimp only
      constructor
      · intro writes
        by_contra long
        exact not_writes_handlePppStep_of_lt config env 1 _ frames running
          (not_le.mp long) writes
      · exact writes_handlePppStep config env 1 _ frames running
  | nil =>
      dsimp only
      constructor
      · intro writes
        refine (ppp.run input).1.plain_or_credential.resolve_left fun plain => ?_
        exact not_writes_handlePppStep_of_plain config env 1 _ frames plain writes
      · rintro ⟨event, used, raised, credential⟩
        obtain ⟨only, inFlight, phase, method⟩ :=
          (ppp.run_move input).credential raised credential
        obtain ⟨frame, rest, answers, answer, -⟩ := submitted_startsWithAnswer env
          { s with ppp := some (ppp.run input).2 } credential phase method
        rw [only, pppRounds, handlePppStep_credential config env 1 _ running credential]
        have asked : Grows Effect.isRadius s
            ({ s with ppp := some (ppp.run input).2 }.submitted env event (ppp.run input).2).2 :=
          (acts_submitted env event _ _).log
        refine Writes.after asked (acts_handlePppStep config env _ _ _ _).log ?_
        refine writes_handlePppStep config env 0 _ answers ?_
          (answer.length_le.trans (by decide))
        rw [submitted_running]
        exact running

/-! ## Steps of a session with the kernel session up -/

/-- A data path comes with a PPP driver. -/
def Attached (s : Session) : Prop :=
  s.kppp.isSome → s.ppp.isSome

theorem Acts.keeps_attached {kind : Effect → Prop} {s s' : Session} (acts : Acts kind s s')
    (attached : Attached s) : Attached s' := by
  intro up
  rcases acts.attached up with early | started
  · exact acts.ppp (attached early)
  · exact started

theorem Attached.settles {s s' : Session} (attached : Attached s) (settled : Settles s s') :
    Attached s' := by
  intro up
  rw [settled.kppp] at up
  rw [settled.ppp]
  exact attached up

theorem Attached.perform {s : Session} (attached : Attached s) (config : Config) (env : Env)
    (work : Work) : Attached (s.perform config env work) := by
  have called : Attached { s with ssm := work.machine config.crypto s.ssm } := attached
  exact (acts_perform config env work s).keeps_attached called

theorem Attached.step {s : Session} (attached : Attached s) (config : Config) (input : Input) :
    Attached (s.step config input) := by
  obtain ⟨t, ready, settled⟩ := does_step config s input
  have readied : Attached t := by
    intro up
    rw [ready.kppp] at up
    rw [ready.ppp]
    exact attached up
  exact (readied.perform config input.env (s.work input)).settles settled

theorem attached_start (config : Config) (env : Env) : Attached (start config env) := by
  rw [start_eq]
  exact nofun

/-- The step hands the PPP driver something it answers. -/
def SpeaksPpp (s : Session) (input : Input) : Prop :=
  ∃ ppp call, s.ppp = some ppp ∧ HandsToPpp s input call ∧
    Speaks (ppp.respond ⟨call, input.env.challenge 0⟩)

theorem not_passesIp_work_of_isKernel {s : Session} {input : Input}
    (kernel : s.isKernel = true) : ¬(s.work input).passesIp := by
  intro passes
  cases up : s.kppp with
  | none => simp [isKernel, up] at kernel
  | some kppp =>
      have backend : kppp.backend = .kernel := by
        simpa [isKernel, up, KpppSession.isKernel] using kernel
      rcases (work_passesIp_iff.mp passes).2 with ⟨_, _, device, frame, holds⟩ | ⟨_, tun, _⟩
      · cases Option.some.inj (holds.device.symm.trans up)
        have other := holds.tun
        simp [KpppSession.isKernel, backend] at other
      · simp [isTun, up, KpppSession.isTun, backend] at tun

theorem Effect.not_isTlsWrite_of_isAcct (effect : Effect) (isAcct : effect.isAcct) :
    ¬effect.isTlsWrite := by
  cases effect <;> simp_all [Effect.isAcct, Effect.isTlsWrite]

theorem Effect.not_isTlsWrite_of_ofControl (effect : Effect) (ofControl : effect.ofControl) :
    ¬effect.isTlsWrite := by
  cases effect <;> simp_all [Effect.ofControl, Effect.isSendControl, Effect.isEstablished,
    Effect.isTlsWrite]

/-- With the kernel session up, only work for the PPP driver writes. -/
theorem writes_perform_iff (config : Config) {s t : Session} (input : Input)
    (ready : Readies s t) (kernel : s.isKernel = true) (started : s.ppp.isSome) :
    Writes t (t.perform config input.env (s.work input)) ↔
      s.running = true ∧ SpeaksPpp s input := by
  have notPpp : (∀ step ppp, s.work input ≠ .ppp step ppp) →
      ¬(s.running = true ∧ SpeaksPpp s input) := by
    rintro other ⟨running, ppp, call, driver, handed, _⟩
    exact other _ _ (work_eq_ppp_iff.mpr ⟨running, ppp, call, driver, handed, rfl⟩)
  have noIp : ¬(s.work input).passesIp := not_passesIp_work_of_isKernel kernel
  cases works : s.work input with
  | nothing =>
      refine iff_of_false ?_ (notPpp fun _ _ => by simp [works])
      simp [Writes, added, perform]
  | sstp call =>
      refine iff_of_false ?_ (notPpp fun _ _ => by simp [works])
      have onKernel : { t with ssm := (t.ssm.run config.crypto call).2 }.isKernel = true := by
        simpa [isKernel, ready.kppp] using kernel
      have handled := acts_handleSstpStep_kernel config input.env
        (t.ssm.run config.crypto call).1 onKernel (by simpa [ready.ppp] using started)
      exact not_writes_of_grows handled.log Effect.not_isTlsWrite_of_ofControl
  | ppp step ppp' =>
      obtain ⟨running, ppp, call, driver, handed, ran⟩ := work_eq_ppp_iff.mp works
      have alive : t.running = true := by simpa [Session.running, ready.status] using running
      have speaks := writes_handlePppStep_run_iff config input.env ppp
        ⟨call, input.env.challenge 0⟩ alive
      rw [ran] at speaks
      refine speaks.trans ⟨fun spoken => ?_, ?_⟩
      · refine ⟨running, ppp, call, driver, handed, ?_⟩
        rw [respond, ran]
        exact spoken
      · rintro ⟨_, other, otherCall, otherDriver, otherHanded, spoken⟩
        have same : s.work input = .ppp _ _ :=
          work_eq_ppp_iff.mpr ⟨running, other, otherCall, otherDriver, otherHanded, rfl⟩
        rw [works] at same
        cases same
        exact spoken
  | toTun packet => exact (noIp (by rw [works]; trivial)).elim
  | fromTun packet frame => exact (noIp (by rw [works]; trivial)).elim

theorem exists_emitted_isTlsWrite_iff (config : Config) {s : Session} (input : Input)
    (kernel : s.isKernel = true) (started : s.ppp.isSome) :
    (∃ effect ∈ emitted config s input, effect.isTlsWrite) ↔
      s.running = true ∧ SpeaksPpp s input := by
  obtain ⟨t, records, ready, isAcct, emittedEq⟩ := emitted_eq config s input
  rw [← writes_perform_iff config input ready kernel started, emittedEq]
  constructor
  · rintro ⟨effect, member, write⟩
    rcases List.mem_append.mp member with ofWork | record
    · exact ⟨effect, ofWork, write⟩
    · exact (effect.not_isTlsWrite_of_isAcct (isAcct effect record) write).elim
  · rintro ⟨effect, member, write⟩
    exact ⟨effect, List.mem_append_left _ member, write⟩

/-- With the kernel session up, the step leaves the TLS stream alone. -/
def SparesTlsStream (config : Config) (s : Session) (input : Input) : Prop :=
  s.isKernel = true → ∀ effect ∈ emitted config s input, ¬effect.isTlsWrite

/-- A run leaves the TLS stream to the kernel session exactly when none of its steps hands
the PPP driver something to answer once the kernel session is up. -/
theorem forall_sparesTlsStream_iff (config : Config) (env : Env) (inputs : List Input) :
    (∀ visit ∈ visits (step config) (start config env) inputs,
        SparesTlsStream config visit.1 visit.2) ↔
      ∀ visit ∈ visits (step config) (start config env) inputs,
        ¬(visit.1.running = true ∧ visit.1.isKernel = true ∧ SpeaksPpp visit.1 visit.2) := by
  have keeps : ∀ s input, Attached s → Attached (step config s input) :=
    fun s input attached => attached.step config input
  have agree : ∀ s input, Attached s → (SparesTlsStream config s input ↔
      ¬(s.running = true ∧ s.isKernel = true ∧ SpeaksPpp s input)) := by
    intro s input attached
    have started : s.isKernel = true → s.ppp.isSome := by
      intro kernel
      apply attached
      cases up : s.kppp with
      | none => simp [isKernel, up] at kernel
      | some kppp => rfl
    constructor
    · rintro spares ⟨running, kernel, speaks⟩
      obtain ⟨effect, member, write⟩ :=
        (exists_emitted_isTlsWrite_iff config input kernel (started kernel)).mpr
          ⟨running, speaks⟩
      exact spares kernel effect member write
    · intro silent kernel effect member write
      obtain ⟨running, speaks⟩ :=
        (exists_emitted_isTlsWrite_iff config input kernel (started kernel)).mp
          ⟨effect, member, write⟩
      exact silent ⟨running, kernel, speaks⟩
  exact forall_visits_congr keeps (attached_start config env) agree inputs

/-! ## A leftover packet -/

/-- A server with the kernel data path that asks for PAP. -/
def kernelConfig : Config :=
  { tunConfig with dataPath := .kernel }

/-- An LCP Echo-Request behind the packet that brings the kernel session up. -/
def peerEcho : Ppp.Input :=
  ⟨.frame (peerEchoRequest [0, 0, 0, 0]), Block.zero 16⟩

theorem not_forall_sparesTlsStream {config : Config} {env : Env} {before : List Input}
    {input : Input} {effect : Effect} (write : effect.isTlsWrite)
    (kernel : (sessionAfter config env before).isKernel = true)
    (sent : effect ∈ emitted config (sessionAfter config env before) input) :
    ¬∀ visit ∈ visits (step config) (start config env) (before ++ [input]),
      SparesTlsStream config visit.1 visit.2 := by
  intro spares
  exact spares _ (mem_visits_concat ..) kernel effect sent write

/-- The Echo-Request is answered through the TLS stream, although the kernel session is
up. -/
theorem not_sparesTlsStream_peerEcho :
    ¬∀ visit ∈ visits (step kernelConfig) (start kernelConfig obligingEnv)
        (readRun obligingEnv (networkStream ++ peerData peerEcho) 6 ++
          [⟨.packet, obligingEnv⟩]),
      SparesTlsStream kernelConfig visit.1 visit.2 := by
  have write : (Effect.tlsWrite [0x10, 0x00, 0x00, 0x10, 0xFF, 0x03, 0xC0, 0x21, 0x0A, 0x00,
      0x00, 0x08, 0x00, 0x00, 0x00, 0x00]).isTlsWrite := trivial
  apply not_forall_sparesTlsStream write
  · decide +kernel
  · decide +kernel

end SstpServer.Session
