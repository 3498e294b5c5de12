import SstpServer.Session.Lockstep
import SstpServer.Session.Reassembly

/-!
# Turns of the packet loop

A turn of the packet loop does the work of one packet, ends the session, or waits for more
bytes.  What a whole packet does depends on its own bytes and not on what follows it in the
read buffer.
-/

namespace SstpServer.Session

open SstpServer.Wire
open SstpServer.Sstp
open SstpServer.Ppp
open SstpServer.Iteration

/-! ## Packets of a TUN server -/

/-- The kernel module has no part in the session. -/
structure OnTun (s : Session) : Prop where
  isKernel : s.isKernel = false
  kmodFd : s.kmodFd = false

/-- The packet loop stays where it is, and the session stays on its TUN device. -/
structure Stays (s s' : Session) : Prop where
  rxBuf : s'.rxBuf = s.rxBuf
  point : s'.point = s.point
  onTun : OnTun s → OnTun s'

section Stays

variable {s s' s'' : Session}

theorem Stays.refl (s : Session) : Stays s s :=
  ⟨rfl, rfl, id⟩

theorem Stays.trans (first : Stays s s') (second : Stays s' s'') : Stays s s'' :=
  ⟨second.rxBuf.trans first.rxBuf, second.point.trans first.point,
    fun tun => second.onTun (first.onTun tun)⟩

theorem Stays.of_kppp (rxBuf : s'.rxBuf = s.rxBuf) (point : s'.point = s.point)
    (kppp : s'.kppp = s.kppp) (kmodFd : s'.kmodFd = s.kmodFd) : Stays s s' := by
  refine ⟨rxBuf, point, fun tun => ⟨?_, kmodFd.trans tun.kmodFd⟩⟩
  rw [isKernel, kppp]
  exact tun.isKernel

theorem Outputs.stays (outputs : Outputs s s') : Stays s s' :=
  .of_kppp (outputs.congr fun _ _ _ => rfl) (outputs.congr fun _ _ _ => rfl)
    (outputs.congr fun _ _ _ => rfl) (outputs.congr fun _ _ _ => rfl)

end Stays

theorem stays_submitted (env : Env) (event : PppEvent) (ppp : Ppp) (s : Session) :
    Stays s (s.submitted env event ppp).2 := by
  have submission := submission_submitted env event ppp s
  generalize (s.submitted env event ppp).2 = t at submission ⊢
  cases submission <;> exact .of_kppp rfl rfl rfl rfl

theorem stays_applyStep (env : Env) (out : StepOut) (s : Session) :
    Stays s (s.applyStep env out) := by
  rcases applyStep_eq env out s with ⟨status, log, sstpTimer, applied⟩
  rw [applied]
  exact .of_kppp rfl rfl rfl rfl

theorem stays_networkUp {config : Config} (tun : config.dataPath = .tun) (env : Env)
    (addrs : AssignedAddrs) (s : Session) : Stays s (s.networkUp config env addrs) := by
  have mode : attachMode config env = some .tun := by
    simp [attachMode, effectiveDataPath, tun]
  unfold networkUp
  rw [mode]
  dsimp only
  split_ifs
  · exact .refl s
  · unfold bringUp KpppSession.bringUp startAccounting
    cases env.tunDevice with
    | none => exact .of_kppp rfl rfl rfl rfl
    | some device =>
        dsimp only [Option.map_some]
        split <;> exact ⟨rfl, rfl, fun onTun => ⟨rfl, onTun.kmodFd⟩⟩

theorem stays_perform {config : Config} (tun : config.dataPath = .tun) (env : Env) (work : Work)
    (s : Session) : Stays s (s.perform config env work) := by
  have kept : KeptByWork config env Stays :=
    { refl := .refl
      trans := .trans
      stop := fun _ => .of_kppp rfl rfl rfl rfl
      store := fun _ _ => .of_kppp rfl rfl rfl rfl
      write := fun s frames => (outputs_writeFrames env frames s).stays
      timers := fun _ _ => .of_kppp rfl rfl rfl rfl
      submit := fun s event ppp => stays_submitted env event ppp s
      networkUp := fun s addrs => stays_networkUp tun env addrs s
      machine := fun _ _ => .of_kppp rfl rfl rfl rfl
      apply := fun s out => stays_applyStep env out s
      push := fun _ _ => .of_kppp rfl rfl rfl rfl
      writeOne := fun s frame => (outputs_writeFrame env frame s).stays
      flush := fun s => (outputs_tlsFlush env s).stays }
  exact kept.perform work s

/-! ## Turns of the packet loop -/

theorem packetWork_eq_verdict (env : Env) (s : Session) :
    s.packetWork env =
      match verdict s.rxBuf with
      | .data payload _ => s.frameWork env payload
      | .control message _ => .sstp (messageCall s.rxBuf message env.nonce)
      | _ => .nothing := by
  unfold packetWork verdict
  cases Packet.parse s.rxBuf with
  | error error => cases error <;> rfl
  | ok parsed =>
      rcases parsed with ⟨packet, used⟩
      cases packet with
      | data payload => rfl
      | control packet =>
          dsimp only
          cases parseControl packet <;> rfl

section Turns

variable {config : Config} {env env' : Env} {s s' : Session} {used : Nat}

/-- A turn that finds a whole packet does its work and takes it off the buffer. -/
theorem step_of_frame (config : Config) (env : Env) (running : s.running = true)
    (reading : s.point = .reading) (head : taskFraming.head s.rxBuf = .frame used) :
    s.step config ⟨.packet, env⟩ =
      ((s.perform config env (s.packetWork env)).andThen fun t =>
        { t with rxBuf := t.rxBuf.drop used }).settle config env := by
  rw [step_of_reading config running reading rfl, onPacket_eq_verdict, packetWork_eq_verdict]
  rcases taskHead_eq_frame_iff.mp head with ⟨payload, taken⟩ | ⟨message, taken⟩
  · have routed : s.onData config env payload =
        s.perform config env (s.frameWork env payload) := by
      rw [onData, handleSstpStep_onDataPacket config env s.ssm running, andThen, if_pos running,
        routeFrame_eq_perform]
    simp only [taken, routed]
  · have dispatched : s.onControl config env message =
        s.perform config env (.sstp (messageCall s.rxBuf message env.nonce)) := by
      simp only [onControl, dispatchControl_eq_run]
      rfl
    simp only [taken, dispatched]

theorem running_settle_stop (config : Config) (env : Env) (s : Session) :
    (s.stop.settle config env).running = false := by
  rw [settle_eq]
  rfl

theorem stays_settle (config : Config) (env : Env) (s : Session) :
    Stays s (s.settle config env) := by
  rw [settle_eq]
  exact .of_kppp rfl rfl rfl rfl

theorem step_of_bad (config : Config) (env : Env) (running : s.running = true)
    (reading : s.point = .reading) (bad : taskFraming.head s.rxBuf = .bad) :
    s.step config ⟨.packet, env⟩ = s.stop.settle config env := by
  rw [step_of_reading config running reading rfl, onPacket_eq_verdict, taskHead_eq_bad_iff.mp bad]

theorem running_step_of_bad (config : Config) (env : Env) (running : s.running = true)
    (reading : s.point = .reading) (bad : taskFraming.head s.rxBuf = .bad) :
    (s.step config ⟨.packet, env⟩).running = false := by
  rw [step_of_bad config env running reading bad]
  exact running_settle_stop config env s

/-- A session with a chunk to work off. -/
def afterRead (env : Env) (chunk : Bytes) (s : Session) : Session :=
  { s.received env with rxBuf := s.rxBuf ++ chunk, point := .reading }

theorem step_of_read (config : Config) (env : Env) (running : s.running = true)
    (waiting : s.point = .select) (tun : OnTun s) {chunk : Bytes}
    (sized : chunk ≠ [] ∧ chunk.length ≤ chunkLen) :
    s.step config ⟨.event (.read (.ok chunk)), env⟩ = s.afterRead env chunk := by
  have armed : s.enabled env (.read (.ok chunk)) = true := by
    simp [enabled, tun.kmodFd, sized.2]
  have going : s.status = .running := by simpa [Session.running] using running
  unfold step handle
  rw [if_pos running, waiting]
  simp only [armed, if_true, onEvent, if_neg sized.1]
  simp [andThen, Session.running, received, settle, going, afterRead]

/-- A session on a TUN device that has passed the head of the loop. -/
def afterWait (env : Env) (s : Session) : Session :=
  { s with point := .select }.drainHlak.applyPolicy env

theorem afterWait_stays (env : Env) (s : Session) :
    (s.afterWait env).rxBuf = s.rxBuf ∧ (s.afterWait env).status = s.status ∧
      (s.afterWait env).kppp = s.kppp ∧ (s.afterWait env).kmodFd = s.kmodFd := by
  rw [afterWait, applyPolicy_eq, drainHlak_eq]
  exact ⟨rfl, rfl, rfl, rfl⟩

theorem afterWait_waits (env : Env) (s : Session) :
    (s.afterWait env).point = .select ∧ (s.afterWait env).pendingHlak = none := by
  rw [afterWait, applyPolicy_eq, drainHlak_eq]
  exact ⟨rfl, rfl⟩

theorem like_afterWait (env : Env) (s : Session) : Like s.drainHlak (s.afterWait env) := by
  have moved : Like s { s with point := .select } := { Like.refl s with }
  exact moved.drainHlak.trans (like_applyPolicy env _)

theorem onTun_afterWait (env : Env) (tun : OnTun s) : OnTun (s.afterWait env) := by
  rcases afterWait_stays env s with ⟨-, -, kppp, kmodFd⟩
  constructor
  · rw [isKernel, kppp]
    exact tun.isKernel
  · exact kmodFd.trans tun.kmodFd

/-- The head of the loop polls nothing for a session on a TUN device. -/
theorem loopHead_of_onTun (env : Env) (running : s.running = true) (tun : OnTun s) :
    s.loopHead env = s.drainHlak.applyPolicy env := by
  have same : s.drainHlak.isKernel = s.isKernel ∧ s.drainHlak.running = s.running := by
    rw [drainHlak_eq]
    exact ⟨rfl, rfl⟩
  have unpolled : s.drainHlak.pollKernel env = s.drainHlak := by
    simp [pollKernel, same.1, tun.isKernel]
  rw [loopHead, unpolled, andThen, same.2, if_pos running]

theorem step_of_wait (config : Config) (env : Env) (running : s.running = true)
    (reading : s.point = .reading) (tun : OnTun s) (waiting : verdict s.rxBuf = .wait) :
    s.step config ⟨.packet, env⟩ = s.afterWait env := by
  have alive : ({ s with point := .select } : Session).running = true := running
  have status := (afterWait_stays env s).2.1
  have going : ¬(s.afterWait env).status = .ended := by
    intro ended
    simp [Session.running, ← status, ended] at running
  rw [step_of_reading config running reading rfl, onPacket_eq_verdict, waiting]
  dsimp only
  rw [loopHead_of_onTun env alive ⟨tun.isKernel, tun.kmodFd⟩]
  exact if_neg going

/-- A turn that a session survives takes the packet off the buffer. -/
theorem stays_of_frame (tun : config.dataPath = .tun) (env : Env) (running : s.running = true)
    (reading : s.point = .reading) (head : taskFraming.head s.rxBuf = .frame used)
    (onTun : OnTun s) :
    OnTun (s.step config ⟨.packet, env⟩) ∧ (s.step config ⟨.packet, env⟩).point = .reading ∧
      ((s.step config ⟨.packet, env⟩).running = true →
        (s.step config ⟨.packet, env⟩).rxBuf = s.rxBuf.drop used) := by
  have performed := stays_perform tun env (s.packetWork env) s
  have settled := stays_settle config env
  rw [step_of_frame config env running reading head]
  generalize s.perform config env (s.packetWork env) = t at performed ⊢
  by_cases going : t.running = true
  · rw [andThen, if_pos going]
    rcases settled { t with rxBuf := t.rxBuf.drop used } with ⟨rxBuf, point, onTun'⟩
    refine ⟨onTun' ?_, ?_, ?_⟩
    · exact ⟨(performed.onTun onTun).isKernel, (performed.onTun onTun).kmodFd⟩
    · exact point.trans (performed.point.trans reading)
    · intro _
      rw [rxBuf, ← performed.rxBuf]
  · rw [andThen, if_neg going]
    refine ⟨(settled t).onTun (performed.onTun onTun),
      (settled t).point.trans (performed.point.trans reading), ?_⟩
    intro survives
    rw [settle_of_running survives] at survives
    exact (going survives).elim

theorem carries_of_verdict {buf : Bytes} {message : ControlMessage}
    (taken : verdict buf = .control message used) : Carries buf message := by
  unfold verdict at taken
  cases parsed : Packet.parse buf with
  | error error =>
      rw [parsed] at taken
      cases error <;> cases taken
  | ok result =>
      rcases result with ⟨packet, size⟩
      rw [parsed] at taken
      cases packet with
      | data payload => cases taken
      | control packet =>
          dsimp only at taken
          cases decoded : parseControl packet with
          | error error => simp [decoded] at taken
          | ok found =>
              rw [decoded] at taken
              cases taken
              exact ⟨packet, used, parsed, decoded⟩

theorem parse_of_taskHead {buf : Bytes} (head : taskHead buf = .frame used) :
    ∃ packet, Packet.parse buf = .ok (packet, used) := by
  have framed := framed_of_taskHead head
  rw [Packet.parse_of_framed framed]
  cases body : Packet.ofBody (buf.getD 1 0) (slice buf sstpHeaderLen used) with
  | ok packet => exact ⟨packet, rfl⟩
  | error error =>
      exfalso
      have parsed : Packet.parse buf = .error error := by
        rw [Packet.parse_of_framed framed, body]
        rfl
      rw [taskHead, verdict, parsed] at head
      cases error <;> cases head

/-- A Call-Connected is verified on its own bytes. -/
theorem messageCall_take {buf : Bytes} {message : ControlMessage} (nonce : Block 32)
    (taken : verdict buf = .control message used) :
    messageCall (buf.take used) message nonce = messageCall buf message nonce := by
  cases message with
  | callConnected binding =>
      have framed := framed_of_verdict (.inr ⟨_, taken⟩)
      have carries : Carries (buf.take used) (.callConnected binding) := by
        rw [← verdict_take_of_framed framed] at taken
        exact carries_of_verdict taken
      have complete := (carries_callConnected_iff.mp carries).1.complete
      rw [List.length_take] at complete
      have covered : 80 ≤ used :=
        le_trans (by decide) (complete.trans (Nat.min_le_left used buf.length))
      rw [messageCall, zeroedMac, slice_take buf covered]
      rfl
  | _ => rfl

/-- The work for a packet does not depend on what follows it in the buffer. -/
theorem Like.packetWork (like : Like s s') (agrees : Agrees env env')
    (head : taskFraming.head s.rxBuf = .frame used) (alone : s'.rxBuf = s.rxBuf.take used) :
    s'.packetWork env' = s.packetWork env := by
  have same := verdict_take_of_framed (framed_of_taskHead head)
  rw [packetWork_eq_verdict, packetWork_eq_verdict, alone, same, agrees.nonce]
  rcases taskHead_eq_frame_iff.mp head with ⟨payload, taken⟩ | ⟨message, taken⟩
  · simp only [taken]
    exact like.frameWork agrees payload
  · simp only [taken, messageCall_take env.nonce taken]

theorem Like.step_of_frame (like : Like s s') (agrees : Agrees env env') (config : Config)
    (running : s.running = true) (reading : s.point = .reading) (reading' : s'.point = .reading)
    (head : taskFraming.head s.rxBuf = .frame used) (alone : s'.rxBuf = s.rxBuf.take used) :
    Like (s.step config ⟨.packet, env⟩) (s'.step config ⟨.packet, env'⟩) := by
  have head' : taskFraming.head s'.rxBuf = .frame used := by
    rw [alone]
    exact taskFraming.frame_take head
  have running' : s'.running = true := like.running.trans running
  rw [Session.step_of_frame config env running reading head,
    Session.step_of_frame config env' running' reading' head',
    like.packetWork agrees head alone]
  apply Like.settle
  have performed := like.perform agrees config (s.packetWork env)
  exact performed.andThen { performed with }

end Turns

/-! ## Calls of the state machine -/

/-- The calls that hand a captured HLAK to the state machine. -/
def heldCalls (s : Session) : List StateMachine.Call :=
  s.pendingHlak.toList.map fun hlak => .innerAuthCompleted (some hlak)

/-- The calls that reading from the TLS stream and working off the read buffer make to the
state machine. -/
def fedCalls (s : Session) (input : Input) : List StateMachine.Call :=
  match s.running, s.point, input.move with
  | true, .reading, .packet =>
      match verdict s.rxBuf with
      | .wait => s.heldCalls
      | .stop => []
      | .data _ _ => [.dataPacket]
      | .control message _ => [messageCall s.rxBuf message input.env.nonce]
  | _, _, _ => []

theorem fedCalls_of_reading {s : Session} {input : Input} (running : s.running = true)
    (reading : s.point = .reading) (move : input.move = .packet) :
    s.fedCalls input =
      match verdict s.rxBuf with
      | .wait => s.heldCalls
      | .stop => []
      | .data _ _ => [.dataPacket]
      | .control message _ => [messageCall s.rxBuf message input.env.nonce] := by
  unfold fedCalls
  rw [running, reading, move]

theorem ssm_andThen {next : Session → Session} (kept : ∀ t : Session, (next t).ssm = t.ssm)
    (s : Session) : (s.andThen next).ssm = s.ssm := by
  unfold andThen
  split_ifs
  · exact kept s
  · rfl

theorem ssm_perform (config : Config) (env : Env) (work : Work) (s : Session) :
    (s.perform config env work).ssm =
      match work with
      | .sstp call => StateMachine.step config.crypto s.ssm call
      | _ => s.ssm := by
  rw [(acts_perform config env work s).ssm]
  cases work <;> rfl

theorem ssm_loopHead (crypto : Crypto) (env : Env) (s : Session) :
    (s.loopHead env).ssm = s.heldCalls.foldl (StateMachine.step crypto) s.ssm := by
  have drained : s.drainHlak.ssm = s.heldCalls.foldl (StateMachine.step crypto) s.ssm := by
    unfold drainHlak heldCalls
    cases s.pendingHlak <;> rfl
  have polled : ∀ t : Session, (t.pollKernel env).ssm = t.ssm := by
    intro t
    rw [pollKernel_eq]
  have applied : ∀ t : Session, (t.applyPolicy env).ssm = t.ssm := by
    intro t
    rw [applyPolicy_eq]
  rw [loopHead, ssm_andThen applied, polled, drained]

/-- The packet loop changes the state machine by these calls alone. -/
theorem ssm_step_of_reading (config : Config) {s : Session} {input : Input}
    (running : s.running = true) (reading : s.point = .reading) (move : input.move = .packet) :
    (s.step config input).ssm =
      (s.fedCalls input).foldl (StateMachine.step config.crypto) s.ssm := by
  have settled : ∀ t : Session, (t.settle config input.env).ssm = t.ssm := by
    intro t
    rw [settle_eq]
  have performed : ∀ used, taskFraming.head s.rxBuf = .frame used →
      (s.step config ⟨.packet, input.env⟩).ssm =
        (s.perform config input.env (s.packetWork input.env)).ssm := by
    intro used head
    rw [step_of_frame config input.env running reading head, settled]
    apply ssm_andThen
    intro t
    rfl
  rcases input with ⟨_, env⟩
  cases move
  rw [fedCalls_of_reading running reading rfl]
  cases taken : verdict s.rxBuf with
  | wait =>
      rw [step_of_reading config running reading rfl, settled, onPacket_eq_verdict, taken]
      exact ssm_loopHead config.crypto env { s with point := .select }
  | stop =>
      rw [step_of_bad config env running reading (taskHead_eq_bad_iff.mpr taken), settled]
      rfl
  | data payload used =>
      rw [performed used (taskHead_eq_frame_iff.mpr (.inl ⟨payload, taken⟩)),
        packetWork_eq_verdict, taken, ssm_perform]
      dsimp only
      split
      · rename_i call work
        exact (frameWork_ne_sstp env payload s call work).elim
      · rfl
  | control message used =>
      rw [performed used (taskHead_eq_frame_iff.mpr (.inr ⟨message, taken⟩)),
        packetWork_eq_verdict, taken, ssm_perform]
      rfl

/-- A session with a whole packet to read. -/
def unread : Session :=
  { start tunConfig obligingEnv with point := .reading, rxBuf := peerCallConnectRequest }

theorem ssm_step_unread :
    (unread.step tunConfig ⟨.packet, obligingEnv⟩).ssm =
      (unread.fedCalls ⟨.packet, obligingEnv⟩).foldl (StateMachine.step tunConfig.crypto)
        unread.ssm :=
  ssm_step_of_reading tunConfig rfl rfl rfl

end SstpServer.Session
