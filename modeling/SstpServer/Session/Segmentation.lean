import SstpServer.Session.KeyBinding
import SstpServer.Session.Replay

/-!
# Segmentation of the inbound stream

A packet has the same effect whichever read completes it, with one exception: the HLAK of an
Access-Accept reaches the state machine at the head of the loop, after all packets of the
read.  A stream may therefore be split anywhere exactly when none of its packets can come
with the credentials that bring an HLAK.
-/

namespace SstpServer.Session

open SstpServer.Wire
open SstpServer.Sstp
open SstpServer.Ppp
open SstpServer.Iteration

open Reading

/-! ## Reading byte by byte -/

namespace Reading

variable {config : Config} {envs oracle : Nat → Env} {r : Reading} {q : Replay}

/-- A turn that waits is never late. -/
theorem prompt_workOff_of_wait (onTun : OnTun r.session) (prompt : r.Prompt)
    (running : r.session.running = true) (reading : r.session.point = .reading)
    (waiting : verdict r.session.rxBuf = .wait) (fuel : Nat) :
    (r.workOff config envs fuel).Prompt := by
  cases fuel with
  | zero => exact prompt
  | succ fuel =>
      have stepped : (r.packet config envs).session = r.session.afterWait (envs r.handled) :=
        step_of_wait config _ running reading onTun waiting
      rw [workOff_succ running reading, workOff_of_idle]
      · exact prompt_take_iff.mpr ⟨prompt, fun late => late.2.2.2.1 waiting⟩
      · intro _
        rw [stepped]
        exact (afterWait_waits _ _).1

/-- A buffer that holds no more than one packet keeps no HLAK back from the next. -/
theorem prompt_workOff_of_single (tun : config.dataPath = .tun) (onTun : OnTun r.session)
    (prompt : r.Prompt) (running : r.session.running = true)
    (reading : r.session.point = .reading) (unheld : r.session.pendingHlak = none)
    (single : ∀ size, taskFraming.head r.session.rxBuf = .frame size →
      size = r.session.rxBuf.length) (fuel : Nat) : (r.workOff config envs fuel).Prompt := by
  cases fuel with
  | zero => exact prompt
  | succ fuel =>
      have still : (r.packet config envs).Prompt :=
        prompt_take_iff.mpr ⟨prompt, fun late => late.2.2.2.2 unheld⟩
      cases head : taskFraming.head r.session.rxBuf with
      | wait =>
          exact prompt_workOff_of_wait onTun prompt running reading
            (taskHead_eq_wait_iff.mp head) (fuel + 1)
      | bad =>
          have stopped : (r.packet config envs).session.running = false :=
            running_step_of_bad config _ running reading head
          rw [workOff_succ running reading, workOff_of_idle]
          · exact still
          · intro going
            rw [stopped] at going
            cases going
      | frame size =>
          rcases stays_of_frame tun (envs r.handled) running reading head onTun with
            ⟨tunned, point, taken⟩
          rw [workOff_succ running reading]
          by_cases going : (r.packet config envs).session.running = true
          · have emptied : (r.packet config envs).session.rxBuf = [] :=
              (taken going).trans (List.drop_eq_nil_iff.mpr (single size head).ge)
            apply prompt_workOff_of_wait tunned still going point
            rw [emptied]
            rfl
          · rw [workOff_of_idle fun running => (going running).elim]
            exact still

theorem CaughtUp.prompt_read {stream : Bytes} (caught : r.CaughtUp q (taskFraming.rest stream))
    (tun : config.dataPath = .tun) (prompt : r.Prompt) (byte : UInt8) :
    (r.read config envs [byte]).Prompt := by
  have still : (r.take config ⟨.event (.read (.ok [byte])), envs r.handled⟩).Prompt :=
    prompt_take_iff.mpr ⟨prompt, not_late_read _ _ _⟩
  by_cases running : r.session.running = true
  · rcases caught.waits running with ⟨selecting, left, unheld⟩
    have stepped : (r.take config ⟨.event (.read (.ok [byte])), envs r.handled⟩).session =
        r.session.afterRead (envs r.handled) [byte] :=
      step_of_read config _ running selecting caught.onTun ⟨by nofun, by simp [chunkLen]⟩
    apply prompt_workOff_of_single tun _ still
    · rw [stepped]
      exact running
    · rw [stepped]
      rfl
    · rw [stepped]
      exact unheld
    · rw [stepped]
      change ∀ size, taskFraming.head (r.session.rxBuf ++ [byte]) = .frame size →
        size = (r.session.rxBuf ++ [byte]).length
      rw [left]
      intro size head
      exact taskFraming.size_of_append_singleton (taskFraming.head_rest_ne_frame stream) head
    · rw [stepped]
      exact ⟨caught.onTun.isKernel, caught.onTun.kmodFd⟩
  · rw [read_of_stopped (Bool.eq_false_iff.mpr running)]
    exact still

end Reading

theorem splits_bytes (stream : Bytes) : Splits stream (stream.map fun byte => [byte]) := by
  constructor
  · rw [← List.flatMap_def]
    exact List.flatMap_singleton' stream
  · intro chunk member
    rcases List.mem_map.mp member with ⟨byte, -, rfl⟩
    exact ⟨by nofun, by simp [chunkLen]⟩

/-- A session that reads its stream byte by byte is never late. -/
theorem prompt_bytes {config : Config} (tun : config.dataPath = .tun) (envs : Nat → Env)
    (stream : Bytes) : (readAll config envs (stream.map fun byte => [byte])).Prompt := by
  induction stream using List.reverseRecOn with
  | nil => exact fun visit member => (List.not_mem_nil member).elim
  | append_singleton before byte ih =>
      have splits := splits_bytes before
      have tracks := tracks_readAll tun (fun n => Agrees.refl (envs n)) splits.sized
      rcases tracks with ⟨-, caught⟩ | ⟨late, -⟩
      · rw [List.map_append, readAll, List.foldl_append]
        exact caught.prompt_read tun ih byte
      · exact (late ih).elim

/-! ## Answers without keys -/

/-- The answer brings no HLAK. -/
def Keyless (env : Env) : Prop :=
  env.radius.msChapOutcome.hlak = none

theorem Agrees.keyless {env env' : Env} (agrees : Agrees env env') (keyless : Keyless env') :
    Keyless env := by
  rcases agrees with ⟨now, wallClock, kmodFdOk, stats, rfl⟩
  exact keyless

theorem pendingHlak_submitted {env : Env} (keyless : Keyless env) (event : PppEvent) (ppp : Ppp)
    {s : Session} (unheld : s.pendingHlak = none) :
    (s.submitted env event ppp).2.pendingHlak = none := by
  have submission := submission_submitted env event ppp s
  generalize (s.submitted env event ppp).2 = t at submission ⊢
  cases submission with
  | none => exact unheld
  | rejected answer => exact unheld
  | accepted user answer held =>
      rw [Keyless, answer] at keyless
      rcases held with before | now
      · exact before.trans unheld
      · exact now.trans keyless

theorem pendingHlak_networkUp (config : Config) (env : Env) (addrs : AssignedAddrs)
    (s : Session) : (s.networkUp config env addrs).pendingHlak = s.pendingHlak := by
  unfold networkUp bringUp startAccounting
  split_ifs
  · rfl
  · split
    · split
      · dsimp only
        split <;> rfl
      · rfl
    · rfl

theorem pendingHlak_applyStep (env : Env) (out : StepOut) (s : Session) :
    (s.applyStep env out).pendingHlak = s.pendingHlak := by
  rcases applyStep_eq env out s with ⟨status, log, sstpTimer, applied⟩
  rw [applied]

theorem pendingHlak_perform (config : Config) {env : Env} (keyless : Keyless env) (work : Work)
    {s : Session} (unheld : s.pendingHlak = none) :
    (s.perform config env work).pendingHlak = none := by
  have kept : KeptByWork config env fun s s' => s.pendingHlak = none → s'.pendingHlak = none :=
    { refl := fun _ => id
      trans := fun first second => second ∘ first
      stop := fun _ => id
      store := fun _ _ => id
      write := fun s frames => ((outputs_writeFrames env frames s).congr fun _ _ _ => rfl).trans
      timers := fun _ _ => id
      submit := fun _ event ppp => pendingHlak_submitted keyless event ppp
      networkUp := fun s addrs => (pendingHlak_networkUp config env addrs s).trans
      machine := fun _ _ => id
      apply := fun s out => (pendingHlak_applyStep env out s).trans
      push := fun _ _ => id
      writeOne := fun s frame => ((outputs_writeFrame env frame s).congr fun _ _ _ => rfl).trans
      flush := fun s => ((outputs_tlsFlush env s).congr fun _ _ _ => rfl).trans }
  exact kept.perform work s unheld

/-- Without keys no HLAK is ever captured. -/
theorem pendingHlak_step (config : Config) {s : Session} {input : Input}
    (keyless : Keyless input.env) (unheld : s.pendingHlak = none) :
    (s.step config input).pendingHlak = none := by
  unfold step
  split_ifs with running
  · rcases turn_handle config running input with ⟨t, prepares, tidied⟩
    have prepared : t.pendingHlak = none := by
      rw [prepares.notes]
      exact unheld
    have performed := pendingHlak_perform config keyless (s.work input) prepared
    exact (tidied.settles.trans (settles_settle config input.env _)).pendingHlak performed
  · exact unheld

namespace Reading

variable {config : Config} {envs : Nat → Env} {r : Reading}

/-- The session never held an HLAK. -/
def Unheld (r : Reading) : Prop :=
  r.session.pendingHlak = none ∧ ∀ visit ∈ r.history, visit.1.pendingHlak = none

theorem Unheld.take (unheld : r.Unheld) {input : Input} (keyless : Keyless input.env) :
    (r.take config input).Unheld := by
  constructor
  · exact pendingHlak_step config keyless unheld.1
  · intro visit member
    rcases List.mem_append.mp member with earlier | last
    · exact unheld.2 visit earlier
    · rw [List.mem_singleton.mp last]
      exact unheld.1

theorem Unheld.workOff (keyless : ∀ n, Keyless (envs n)) (fuel : Nat) (unheld : r.Unheld) :
    (r.workOff config envs fuel).Unheld := by
  induction fuel generalizing r with
  | zero => exact unheld
  | succ fuel ih =>
      rw [Reading.workOff]
      split_ifs
      · exact ih (unheld.take (keyless _))
      · exact unheld

theorem unheld_readAll (keyless : ∀ n, Keyless (envs n)) (chunks : List Bytes) :
    (readAll config envs chunks).Unheld := by
  induction chunks using List.reverseRecOn with
  | nil =>
      constructor
      · rw [readAll, List.foldl_nil, start_eq]
        rfl
      · intro visit member
        cases member
  | append_singleton before chunk ih =>
      rw [readAll, List.foldl_append]
      exact (ih.take (keyless _)).workOff keyless _

end Reading

/-! ## Streams that may be split anywhere -/

/-- The packet that an effect sends to the peer. -/
def Effect.sent? : Effect → Option Bytes
  | .tlsWrite packet => some packet
  | .sendControl body => some body
  | _ => none

/-- The packets sent to the peer. -/
def sentPackets (log : List Effect) : List Bytes :=
  log.filterMap Effect.sent?

theorem Like.sentPackets {s s' : Session} (like : Like s s') :
    Session.sentPackets s'.log = Session.sentPackets s.log := by
  have mapped : ∀ log : List Effect, Session.sentPackets log =
      (log.map Effect.untimed).filterMap fun effect => effect.bind Effect.sent? := by
    intro log
    rw [List.filterMap_map]
    apply List.filterMap_congr
    intro effect _
    cases effect <;> rfl
  rw [mapped, mapped, like.log]

/-- Two sessions that read the stream with the same answers make the same calls to the state
machine and send the same packets, however the stream is split. -/
def SplitsFreely (config : Config) (oracle : Nat → Env) (stream : Bytes) : Prop :=
  ∀ envs envs' chunks chunks', (∀ n, Agrees (envs n) (oracle n)) →
    (∀ n, Agrees (envs' n) (oracle n)) → Splits stream chunks → Splits stream chunks' →
      (readAll config envs chunks).calls = (readAll config envs' chunks').calls ∧
        sentPackets (readAll config envs chunks).session.log =
          sentPackets (readAll config envs' chunks').session.log

/-- However the stream is split, no packet meets a session that holds an HLAK back. -/
def NeverLate (config : Config) (oracle : Nat → Env) (stream : Bytes) : Prop :=
  ∀ envs chunks, (∀ n, Agrees (envs n) (oracle n)) → Splits stream chunks →
    ∀ visit ∈ (readAll config envs chunks).history, ¬Late visit.1 visit.2

theorem neverLate_of_keyless (config : Config) {oracle : Nat → Env}
    (keyless : ∀ n, Keyless (oracle n)) (stream : Bytes) : NeverLate config oracle stream := by
  intro envs chunks agree _ visit member late
  have unheld : (readAll config envs chunks).Unheld :=
    unheld_readAll (fun n => (agree n).keyless (keyless n)) chunks
  exact late.2.2.2.2 (unheld.2 visit member)

/-- On a TUN server a stream may be split anywhere exactly when none of its packets can meet
an HLAK that is held back. -/
theorem splitsFreely_iff {config : Config} (tun : config.dataPath = .tun) (oracle : Nat → Env)
    (stream : Bytes) : SplitsFreely config oracle stream ↔ NeverLate config oracle stream := by
  constructor
  · intro free envs chunks agree splits
    by_contra late
    have bytes := splits_bytes stream
    have tracks := tracks_readAll tun agree splits.sized
    have tracksBytes := tracks_readAll tun agree bytes.sized
    rw [splits.flatten] at tracks
    rw [bytes.flatten] at tracksBytes
    rcases tracks with ⟨prompt, -⟩ | ⟨-, diverges⟩
    · exact late prompt
    · rcases tracksBytes with ⟨-, caught⟩ | ⟨lateBytes, -⟩
      · exact diverges.calls_ne
          ((free envs envs _ _ agree agree splits bytes).1.trans caught.calls.symm)
      · exact lateBytes (prompt_bytes tun envs stream)
  · intro prompt envs envs' chunks chunks' agree agree' splits splits'
    have caught : ∀ envs chunks, (∀ n, Agrees (envs n) (oracle n)) → Splits stream chunks →
        (readAll config envs chunks).CaughtUp (replay config oracle stream)
          (taskFraming.rest stream) := by
      intro envs chunks agree splits
      have tracks := tracks_readAll tun agree splits.sized
      rw [splits.flatten] at tracks
      rcases tracks with ⟨-, caught⟩ | ⟨late, -⟩
      · exact caught
      · exact (late (prompt envs chunks agree splits)).elim
    have first := caught envs chunks agree splits
    have second := caught envs' chunks' agree' splits'
    exact ⟨first.calls.symm.trans second.calls,
      first.like.sentPackets.symm.trans second.like.sentPackets⟩

/-- An environment whose Access-Accept comes without keys. -/
def keylessEnv : Env :=
  { obligingEnv with
    radius := .accept ⟨⟨Block.zero 4, none, none, none, none, none⟩, {}, none, [], []⟩ }

/-- Without keys the stream of a whole call may be split anywhere. -/
theorem splitsFreely_networkStream :
    tunConfig.dataPath = .tun ∧ SplitsFreely tunConfig (fun _ => keylessEnv) networkStream := by
  have keyless : Nat → Keyless keylessEnv := fun _ => rfl
  exact ⟨rfl, (splitsFreely_iff rfl _ _).mpr (neverLate_of_keyless tunConfig keyless _)⟩

/-- A call up to the accepted MS-CHAPv2 response. -/
def authenticatedStream : Bytes :=
  peerCallConnectRequest ++ peerData peerConfigureAck ++ peerData peerConfigureRequest ++
    peerData peerMschapResponse

/-- A stream that two ways of splitting it tell apart. -/
theorem not_splitsFreely {config : Config} {oracle : Nat → Env} {stream : Bytes}
    {chunks chunks' : List Bytes} (splits : Splits stream chunks) (splits' : Splits stream chunks')
    (apart : sentPackets (readAll config oracle chunks).session.log ≠
      sentPackets (readAll config oracle chunks').session.log) :
    ¬SplitsFreely config oracle stream := by
  intro free
  have agree : ∀ n, Agrees (oracle n) (oracle n) := fun n => .refl (oracle n)
  exact apart (free oracle oracle chunks chunks' agree agree splits splits').2

/-- A Call-Connected under the zero HLAK is admitted when it comes with the MS-CHAPv2
response, and aborts the call when it comes after it. -/
theorem not_splitsFreely_authenticatedStream :
    ¬SplitsFreely mschapConfig (fun _ => obligingEnv) (authenticatedStream ++ zeroCallConnected) := by
  have whole : Splits (authenticatedStream ++ zeroCallConnected)
      [authenticatedStream ++ zeroCallConnected] := by
    constructor
    · decide +kernel
    · decide +kernel
  have halved : Splits (authenticatedStream ++ zeroCallConnected)
      [authenticatedStream, zeroCallConnected] := by
    constructor
    · decide +kernel
    · decide +kernel
  apply not_splitsFreely whole halved
  decide +kernel

end SstpServer.Session
