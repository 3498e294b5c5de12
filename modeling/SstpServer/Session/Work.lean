import Mathlib.Logic.Relation
import SstpServer.Session.Calls

/-!
# The work of a step

A step of the session hands one call to the state machine, or carries out one step of
the PPP driver, or passes one packet to or from the device, or does none of these.
Which of them it is follows from the session before the step and the input.
Everything a step changes besides is bookkeeping.
-/

namespace SstpServer.Session

open SstpServer.Wire
open SstpServer.Sstp
open SstpServer.Ppp

/-- What a step does. -/
inductive Work where
  | nothing
  | sstp (call : StateMachine.Call)
  | ppp (step : PppStep) (ppp : Ppp)
  | toTun (packet : Bytes)
  | fromTun (packet frame : Bytes)

/-- Feed a frame to the PPP driver, if there is one. -/
def feedWork (env : Env) (payload : Bytes) (s : Session) : Work :=
  match s.ppp with
  | none => .nothing
  | some ppp =>
      .ppp (ppp.onFrame payload (env.challenge 0)).1 (ppp.onFrame payload (env.challenge 0)).2

/-- The work for a data packet. -/
def frameWork (env : Env) (payload : Bytes) (s : Session) : Work :=
  match decodeFrame payload with
  | .error _ => s.feedWork env payload
  | .ok frame =>
      match npFilterDecide (s.kppp.any fun kppp => !kppp.isKernel)
          (s.kppp.elim 0 KpppSession.mtu) frame.protocol frame.info.length with
      | .forward => .toTun frame.info
      | .dropPreIpcp | .dropMruExceeded => .nothing
      | .notNetworkLayer => s.feedWork env payload

/-- The call for a control message at the head of the read buffer. -/
def messageCall (buf : Bytes) (message : ControlMessage) (nonce : Block 32) :
    StateMachine.Call :=
  match message with
  | .callConnected binding => .callConnected binding (zeroedMac buf)
  | other => .message other nonce

/-- The work for the packet at the head of the read buffer. -/
def packetWork (env : Env) (s : Session) : Work :=
  match Packet.parse s.rxBuf with
  | .error _ => .nothing
  | .ok (.data payload, _) => s.frameWork env payload
  | .ok (.control packet, _) =>
      match parseControl packet with
      | .error _ => .nothing
      | .ok message => .sstp (messageCall s.rxBuf message env.nonce)

/-- The packet whose control payload the kernel module hands up. -/
def kernelPacket (payload : Bytes) : Bytes :=
  writeHeader true callConnectedLen ++ payload

/-- The work for a control payload from the kernel module. -/
def kernelControlWork (env : Env) (payload : Bytes) : Work :=
  match parseControlPayload payload with
  | .error _ => .nothing
  | .ok (.callConnected binding) =>
      if payload.length + sstpHeaderLen ≠ callConnectedLen then .nothing
      else .sstp (.callConnected binding (zeroedMac (kernelPacket payload)))
  | .ok message => .sstp (.message message env.nonce)

/-- The work for the next kernel event. -/
def kmodWork (env : Env) (s : Session) : Work :=
  match s.point with
  | .events (.controlPacket (.ok (some payload)) :: _) => kernelControlWork env payload
  | _ => .nothing

/-- The work of the periodic hello check. -/
def helloWork (env : Env) (s : Session) : Work :=
  if s.ssm.state ≠ .serverCallConnected then .nothing
  else if s.helloEchoPending ∧
      seconds (timerValHello + timerValHello) ≤ env.now - s.lastRx then
    .sstp .helloTimeout
  else if ¬s.helloEchoPending ∧ seconds timerValHello ≤ env.now - s.lastRx then
    .sstp (.timer .hello)
  else .nothing

/-- The work for an event of the waiting task. -/
def eventWork (env : Env) (s : Session) : Event → Work
  | .drain | .control (some (.disconnect _)) => .sstp .higherLayerDisconnect
  | .control (some .periodicTick) => s.helloWork env
  | .sstpTimer =>
      match s.sstpTimer with
      | none => .nothing
      | some (which, _) => .sstp (.timer which)
  | .pppTimer =>
      match s.pppTimer, s.ppp with
      | some (owner, _), some ppp =>
          .ppp (ppp.onTimer owner (env.challenge 0)).1 (ppp.onTimer owner (env.challenge 0)).2
      | _, _ => .nothing
  | .kpppRead (.ok packet) =>
      match readFrame packet with
      | none => .nothing
      | some frame => .fromTun packet frame
  | _ => .nothing

/-- The work of a step. -/
def work (s : Session) (input : Input) : Work :=
  if s.running then
    match s.point, input.move with
    | .select, .event event =>
        if s.enabled input.env event then s.eventWork input.env event else .nothing
    | .reading, .packet => s.packetWork input.env
    | .events _, .kmodEvent => s.kmodWork input.env
    | _, _ => .nothing
  else .nothing

/-- Carry out the work of a step. -/
def perform (config : Config) (env : Env) (work : Work) (s : Session) : Session :=
  match work with
  | .nothing => s
  | .sstp call =>
      { s with ssm := (s.ssm.run config.crypto call).2 }.handleSstpStep config env
        (s.ssm.run config.crypto call).1
  | .ppp step ppp => handlePppStep config env pppRounds step ppp s
  | .toTun packet => s.push (.toTun packet)
  | .fromTun packet frame =>
      ((s.push (.fromTun packet)).writeFrame env frame).andThen (tlsFlush env)

/-! ## Bookkeeping -/

/-- The cause that the task notes before it handles an event. -/
def eventCause (s : Session) : Event → SessionEnd
  | .drain => .nasReboot
  | .control (some (.disconnect reason)) => .ofReason reason
  | .sessionTimeout => .sessionTimeout
  | .idleTimeout => .idleTimeout
  | _ => s.acctCause

/-- The cause that the task notes before the work of a step. -/
def notedCause (s : Session) (input : Input) : SessionEnd :=
  match s.point, input.move with
  | .select, .event event =>
      if s.enabled input.env event then s.eventCause event else s.acctCause
  | _, _ => s.acctCause

/-- Bookkeeping before the work, up to the timer slot of the call: the task notes why it
ends, that it has sent an echo, that a restart timer has fired, and which kernel event it has
come to. -/
def Notes (s t : Session) : Prop :=
  t = { s with
    point := t.point
    pppTimer := t.pppTimer
    helloEchoPending := t.helloEchoPending
    acctCause := t.acctCause }

/-- Work that is not for a timer of the slot. -/
def Work.Unprompted : Work → Prop
  | .sstp call => call.isOutside
  | _ => True

/-- Bookkeeping before the work.  A timer of the call that has fired leaves its slot. -/
structure Prepares (work : Work) (cause : SessionEnd) (s t : Session) : Prop where
  notes : Notes { s with sstpTimer := t.sstpTimer } t
  fired : work.Unprompted ∧ t.sstpTimer = s.sstpTimer ∨
    t.sstpTimer = none ∧ ∃ which deadline, s.sstpTimer = some (which, deadline) ∧
      work = .sstp (.timer which)
  cause : t.acctCause = cause

/-- The task has got bytes or taken a packet off them, or goes to another place in the
loop. -/
def Adjusts (s t : Session) : Prop :=
  t = { s with
    point := t.point
    rxBuf := t.rxBuf
    lastRx := t.lastRx
    helloEchoPending := t.helloEchoPending }

/-- Bookkeeping after the work. -/
inductive Tidies (config : Config) (env : Env) : Session → Session → Prop where
  | adjust (s t : Session) (adjusts : Adjusts s t) : Tidies config env s t
  | stop (s : Session) : Tidies config env s s.stop
  | drainHlak (s : Session) : Tidies config env s s.drainHlak
  | poll (s : Session) : Tidies config env s { s with kmodFd := true }
  | applyPolicy (s : Session) : Tidies config env s (s.applyPolicy env)
  | acctInterim (s : Session) : Tidies config env s (s.acctInterim config env)

/-- All bookkeeping after the work. -/
abbrev Tidied (config : Config) (env : Env) : Session → Session → Prop :=
  Relation.ReflTransGen (Tidies config env)

section Tidied

variable {config : Config} {env : Env} {s t s' : Session}

theorem Tidied.of_adjusts (adjusts : Adjusts s t) : Tidied config env s t :=
  .single (.adjust s t adjusts)

theorem tidied_stop (s : Session) : Tidied config env s s.stop :=
  .single (.stop s)

theorem Tidied.andThen {next : Session → Session} (first : Tidied config env s s')
    (second : ∀ t : Session, Tidied config env t (next t)) :
    Tidied config env s (s'.andThen next) := by
  unfold Session.andThen
  split_ifs
  · exact first.trans (second s')
  · exact first

theorem tidied_loopHead (s : Session) : Tidied config env s (s.loopHead env) := by
  have polled : ∀ t : Session, Tidied config env t (t.pollKernel env) := by
    intro t
    unfold pollKernel
    split_ifs
    · exact .single (.poll t)
    · exact tidied_stop t
    · exact .refl
  have drained : Tidied config env s s.drainHlak := .single (.drainHlak s)
  exact Tidied.andThen (drained.trans (polled _)) fun t => .single (.applyPolicy t)

end Tidied

/-- A handler does some work, with bookkeeping around it. -/
def Turn (config : Config) (env : Env) (work : Work) (cause : SessionEnd) (s s' : Session) :
    Prop :=
  ∃ t, Prepares work cause s t ∧ Tidied config env (t.perform config env work) s'

section Turn

variable {config : Config} {env : Env} {work : Work} {cause : SessionEnd}
variable {s t s' s'' : Session}

theorem Prepares.of_notes (unprompted : work.Unprompted) (notes : Notes s t)
    (noted : t.acctCause = cause) : Prepares work cause s t := by
  have slot : t.sstpTimer = s.sstpTimer := by
    rw [notes]
  constructor
  · rw [slot]
    exact notes
  · exact .inl ⟨unprompted, slot⟩
  · exact noted

theorem Prepares.refl (unprompted : work.Unprompted) (s : Session) :
    Prepares work s.acctCause s s :=
  .of_notes unprompted rfl rfl

theorem Turn.of_perform (prepares : Prepares work cause s t)
    (performed : s' = t.perform config env work) : Turn config env work cause s s' :=
  ⟨t, prepares, performed ▸ .refl⟩

theorem Turn.nothing (tidied : Tidied config env s s') :
    Turn config env .nothing s.acctCause s s' :=
  ⟨s, .refl (by trivial) s, tidied⟩

theorem Turn.trans (turn : Turn config env work cause s s') (tidied : Tidied config env s' s'') :
    Turn config env work cause s s'' := by
  rcases turn with ⟨t, prepares, first⟩
  exact ⟨t, prepares, first.trans tidied⟩

theorem Turn.andThen {next : Session → Session} (turn : Turn config env work cause s s')
    (tidies : ∀ t : Session, Tidied config env t (next t)) :
    Turn config env work cause s (s'.andThen next) :=
  turn.trans (Tidied.andThen .refl tidies)

end Turn

/-- A data packet has no step of its own for the session: the hello timer it restarts
has no slot. -/
theorem handleSstpStep_onDataPacket (config : Config) (env : Env) (ssm : StateMachine)
    {s : Session} (running : s.running = true) :
    s.handleSstpStep config env ssm.onDataPacket = s := by
  have kept : (if s.sstpTimer = none then none else s.sstpTimer) = s.sstpTimer := by
    cases s.sstpTimer <;> simp
  have timers : s.applySstpTimers env ssm.onDataPacket = s := by
    unfold applySstpTimers StateMachine.onDataPacket
    by_cases connected : ssm.state = .serverCallConnected <;> simp [connected, kept]
  have quiet : ssm.onDataPacket.send = [] ∧ ssm.onDataPacket.notify = none ∧
      ssm.onDataPacket.terminate = .none := by
    unfold StateMachine.onDataPacket
    split_ifs <;> simp
  have applied : s.applyStep env ssm.onDataPacket = s := by
    simp [applyStep, sendPacket, andThen, running, quiet, timers]
  simp [handleSstpStep, applied, andThen, quiet]

/-! ## The work of the handlers -/

theorem feedPpp_eq_perform (config : Config) (env : Env) (payload : Bytes) (s : Session) :
    s.feedPpp config env payload = s.perform config env (s.feedWork env payload) := by
  unfold feedPpp feedWork
  cases s.ppp <;> rfl

theorem routeFrame_eq_perform (config : Config) (env : Env) (payload : Bytes) (s : Session) :
    s.routeFrame config env payload = s.perform config env (s.frameWork env payload) := by
  unfold routeFrame frameWork
  cases decodeFrame payload with
  | error _ => exact feedPpp_eq_perform config env payload s
  | ok frame =>
      dsimp only
      cases npFilterDecide (s.kppp.any fun kppp => !kppp.isKernel)
          (s.kppp.elim 0 KpppSession.mtu) frame.protocol frame.info.length with
      | forward => rfl
      | dropPreIpcp => rfl
      | dropMruExceeded => rfl
      | notNetworkLayer => exact feedPpp_eq_perform config env payload s

/-- A frame is never a call of the state machine. -/
theorem frameWork_ne_sstp (env : Env) (payload : Bytes) (s : Session)
    (call : StateMachine.Call) : s.frameWork env payload ≠ .sstp call := by
  have fed : s.feedWork env payload ≠ .sstp call := by
    unfold feedWork
    cases s.ppp <;> simp
  unfold frameWork
  split
  · exact fed
  · split
    · simp
    · simp
    · simp
    · exact fed

theorem unprompted_frameWork (env : Env) (payload : Bytes) (s : Session) :
    (s.frameWork env payload).Unprompted := by
  cases works : s.frameWork env payload with
  | sstp call => exact (frameWork_ne_sstp env payload s call works).elim
  | _ => trivial

theorem dispatchControl_eq_run (crypto : Crypto) (ssm : StateMachine)
    (message : ControlMessage) (buf : Bytes) (nonce : Block 32) :
    dispatchControl crypto ssm message buf nonce =
      ssm.run crypto (messageCall buf message nonce) := by
  cases message <;> rfl

theorem turn_onControl (config : Config) (env : Env) (message : ControlMessage)
    (s : Session) :
    Turn config env (.sstp (messageCall s.rxBuf message env.nonce)) s.acctCause s
      (s.onControl config env message) := by
  have unprompted : (Work.sstp (messageCall s.rxBuf message env.nonce)).Unprompted := by
    cases message <;> trivial
  apply Turn.of_perform (.refl unprompted s)
  simp only [onControl, dispatchControl_eq_run]
  rfl

theorem turn_onPacket (config : Config) (env : Env) {s : Session}
    (running : s.running = true) :
    Turn config env (s.packetWork env) s.acctCause s (s.onPacket config env) := by
  have consumed : ∀ (used : Nat) (t : Session),
      Tidied config env t { t with rxBuf := t.rxBuf.drop used } :=
    fun _ _ => .of_adjusts rfl
  have waiting : Tidied config env s { s with point := .select } := .of_adjusts rfl
  unfold onPacket packetWork
  cases Packet.parse s.rxBuf with
  | error error =>
      cases error
      case truncated => exact .nothing (waiting.trans (tidied_loopHead _))
      case lengthMismatch => exact .nothing (waiting.trans (tidied_loopHead _))
      all_goals exact .nothing (tidied_stop s)
  | ok parsed =>
      obtain ⟨packet, used⟩ := parsed
      cases packet with
      | data payload =>
          simp only [onData, handleSstpStep_onDataPacket config env s.ssm running]
          rw [show s.andThen (routeFrame config env payload) =
            s.routeFrame config env payload by simp [andThen, running]]
          have routed : Turn config env (s.frameWork env payload) s.acctCause s
              (s.routeFrame config env payload) :=
            .of_perform (.refl (unprompted_frameWork env payload s) s)
              (routeFrame_eq_perform config env payload s)
          exact routed.andThen (consumed used)
      | control packet =>
          dsimp only
          cases parseControl packet with
          | error _ => exact .nothing (tidied_stop s)
          | ok message => exact (turn_onControl config env message s).andThen (consumed used)

theorem turn_onKernelControl (config : Config) (env : Env) (payload : Bytes) {s t : Session}
    (prepares : ∀ work : Work, work.Unprompted → Prepares work s.acctCause s t)
    (adjusts : Adjusts s t) :
    Turn config env (kernelControlWork env payload) s.acctCause s
      (t.onKernelControl config env payload) := by
  have same : Tidied config env s t := .of_adjusts adjusts
  unfold onKernelControl kernelControlWork
  cases parseControlPayload payload with
  | error _ => exact .nothing (same.trans (tidied_stop t))
  | ok message =>
      cases message
      case callConnected binding =>
        dsimp only
        split_ifs
        · exact .nothing (same.trans (tidied_stop t))
        · exact .of_perform (prepares _ trivial) rfl
      all_goals exact .of_perform (prepares _ trivial) rfl

theorem turn_onKmodEvent (config : Config) (env : Env) (s : Session) :
    Turn config env (s.kmodWork env) s.acctCause s (s.onKmodEvent config env) := by
  unfold onKmodEvent kmodWork
  cases point : s.point with
  | select => exact .nothing .refl
  | reading => exact .nothing .refl
  | events pending =>
      cases pending with
      | nil =>
          have waiting : Tidied config env s { s with point := .select } := .of_adjusts rfl
          exact .nothing (waiting.trans (tidied_loopHead _))
      | cons event rest =>
          have next : Tidied config env s { s with point := .events rest } := .of_adjusts rfl
          have stopped := next.trans (tidied_stop _)
          rcases event with (_ | _ | payload) | _
          case controlPacket.ok.some =>
            exact turn_onKernelControl config env payload
              (fun _ unprompted => .of_notes unprompted rfl rfl) rfl
          case controlPacket.ok.none => exact .nothing next
          case unknown => exact .nothing next
          all_goals exact .nothing stopped

theorem turn_helloCheck (config : Config) (env : Env) (s : Session) :
    Turn config env (s.helloWork env) s.acctCause s (s.helloCheck config env) := by
  unfold helloCheck helloWork
  simp only
  split_ifs
  · exact .nothing .refl
  · exact .of_perform (.refl (by trivial) s) rfl
  · have noted : Prepares (.sstp (.timer .hello)) s.acctCause s
        { s with helloEchoPending := true } := .of_notes rfl rfl rfl
    exact .of_perform noted rfl
  · exact .nothing .refl

theorem turn_onPppTimer (config : Config) (env : Env) (s : Session) :
    Turn config env (s.eventWork env .pppTimer) s.acctCause s (s.onPppTimer config env) := by
  have noted : ∀ work : Work, work.Unprompted →
      Prepares work s.acctCause s { s with pppTimer := none } :=
    fun _ unprompted => .of_notes unprompted rfl rfl
  unfold onPppTimer eventWork
  generalize { s with pppTimer := none } = fired at noted ⊢
  cases s.pppTimer with
  | none => exact ⟨fired, noted _ trivial, .refl⟩
  | some timer =>
      cases s.ppp with
      | none => exact ⟨fired, noted _ trivial, .refl⟩
      | some ppp => exact .of_perform (noted _ trivial) rfl

theorem turn_onSstpTimer (config : Config) (env : Env) (s : Session) :
    Turn config env (s.eventWork env .sstpTimer) s.acctCause s (s.onSstpTimer config env) := by
  unfold onSstpTimer eventWork
  cases slot : s.sstpTimer with
  | none => exact .nothing .refl
  | some timer =>
      have fired : Prepares (.sstp (.timer timer.1)) s.acctCause s { s with sstpTimer := none } :=
        ⟨rfl, .inr ⟨rfl, timer.1, timer.2, slot, rfl⟩, rfl⟩
      exact .of_perform fired rfl

theorem turn_onTunPacket (config : Config) (env : Env) (packet : Bytes) (s : Session) :
    Turn config env (s.eventWork env (.kpppRead (.ok packet))) s.acctCause s
      (s.onTunPacket env packet) := by
  unfold onTunPacket eventWork
  split_ifs with empty
  · subst empty
    exact .nothing (tidied_stop s)
  · dsimp only
    cases readFrame packet with
    | none => exact .nothing .refl
    | some frame => exact .of_perform (.refl (by trivial) s) rfl

theorem turn_disconnect (config : Config) (env : Env) (cause : SessionEnd) (s : Session) :
    Turn config env (.sstp .higherLayerDisconnect) cause s (s.disconnect config env cause) := by
  have noted : Prepares (.sstp .higherLayerDisconnect) cause s { s with acctCause := cause } :=
    .of_notes trivial rfl rfl
  exact .of_perform noted rfl

theorem turn_timeout (config : Config) (env : Env) (cause : SessionEnd) (s : Session) :
    Turn config env .nothing cause s { s with acctCause := cause }.stop := by
  have noted : Prepares .nothing cause s { s with acctCause := cause } := .of_notes trivial rfl rfl
  exact ⟨_, noted, tidied_stop _⟩

theorem turn_onEvent (config : Config) (env : Env) (event : Event) (s : Session) :
    Turn config env (s.eventWork env event) (s.eventCause event) s
      (s.onEvent config env event) := by
  have got : ∀ t : Session, Adjusts s t → Turn config env .nothing s.acctCause s t :=
    fun t adjusts => .nothing (.of_adjusts adjusts)
  cases event with
  | drain => exact turn_disconnect config env .nasReboot s
  | control command =>
      rcases command with _ | reason | requestPeer | _
      · exact .nothing (tidied_stop s)
      · exact turn_disconnect config env (.ofReason reason) s
      · exact .nothing .refl
      · exact (turn_helloCheck config env s).andThen fun t => .single (.acctInterim t)
  | sessionTimeout => exact turn_timeout config env .sessionTimeout s
  | idleTimeout => exact turn_timeout config env .idleTimeout s
  | sstpTimer => exact turn_onSstpTimer config env s
  | pppTimer => exact turn_onPppTimer config env s
  | kpppRead result =>
      cases result with
      | error _ => exact .nothing .refl
      | ok packet => exact turn_onTunPacket config env packet s
  | kmodEvents result =>
      cases result with
      | error _ => exact (got (s.received env) rfl).trans (tidied_stop _)
      | ok events => exact got _ rfl
  | read result =>
      cases result with
      | error _ => exact .nothing (tidied_stop s)
      | ok chunk =>
          unfold onEvent eventWork
          dsimp only
          split_ifs
          · exact .nothing (tidied_stop s)
          · exact got _ rfl

/-- What a step does before the last accounting record is its work and bookkeeping. -/
theorem turn_handle (config : Config) {s : Session} (running : s.running = true) (input : Input) :
    Turn config input.env (s.work input) (s.notedCause input) s (s.handle config input) := by
  unfold work handle notedCause
  rw [if_pos running]
  cases point : s.point with
  | select =>
      cases input.move with
      | event event =>
          dsimp only
          split_ifs
          · refine (turn_onEvent config input.env event s).andThen fun t => ?_
            split_ifs
            · exact tidied_loopHead t
            · exact .refl
          · exact .nothing .refl
      | packet => exact .nothing .refl
      | kmodEvent => exact .nothing .refl
  | reading =>
      cases input.move with
      | event event => exact .nothing .refl
      | packet => exact turn_onPacket config input.env running
      | kmodEvent => exact .nothing .refl
  | events pending =>
      cases input.move with
      | event event => exact .nothing .refl
      | packet => exact .nothing .refl
      | kmodEvent => exact turn_onKmodEvent config input.env s

/-! ## What bookkeeping leaves alone -/

/-- Bookkeeping before the work. -/
structure Readies (s t : Session) : Prop where
  status : t.status = s.status
  ssm : t.ssm = s.ssm
  ppp : t.ppp = s.ppp
  kppp : t.kppp = s.kppp
  log : t.log = s.log

theorem Prepares.readies {work : Work} {cause : SessionEnd} {s t : Session}
    (prepares : Prepares work cause s t) : Readies s t := by
  rw [prepares.notes]
  exact ⟨rfl, rfl, rfl, rfl, rfl⟩

/-- An accounting record. -/
def Effect.isAcct : Effect → Prop
  | .acct _ _ _ _ => True
  | _ => False

/-- Bookkeeping after the work.  It does not bring a task back, does not give up the channel
of a kernel device and captures no HLAK. -/
structure Settles (t s' : Session) : Prop where
  running : s'.running = true → t.running = true
  state : s'.ssm.state = t.ssm.state
  sstpTimer : s'.sstpTimer = t.sstpTimer
  ppp : s'.ppp = t.ppp
  kppp : s'.kppp = t.kppp
  kmodFd : t.kmodFd = true → s'.kmodFd = true
  pendingHlak : t.pendingHlak = none → s'.pendingHlak = none
  acctCause : s'.acctCause = t.acctCause
  log : Grows Effect.isAcct t s'

section Settles

variable {config : Config} {env : Env} {s s' s'' : Session}

theorem Settles.refl (s : Session) : Settles s s :=
  ⟨id, rfl, rfl, rfl, rfl, id, id, rfl, .of_log_eq rfl⟩

theorem Settles.trans (first : Settles s s') (second : Settles s' s'') : Settles s s'' where
  running survives := first.running (second.running survives)
  state := second.state.trans first.state
  sstpTimer := second.sstpTimer.trans first.sstpTimer
  ppp := second.ppp.trans first.ppp
  kppp := second.kppp.trans first.kppp
  kmodFd polled := second.kmodFd (first.kmodFd polled)
  pendingHlak unheld := second.pendingHlak (first.pendingHlak unheld)
  acctCause := second.acctCause.trans first.acctCause
  log := first.log.trans second.log

theorem grows_acctInterim (config : Config) (env : Env) (s : Session) :
    Grows Effect.isAcct s (s.acctInterim config env) := by
  unfold acctInterim
  split_ifs
  · exact .of_log_eq rfl
  · dsimp only
    split
    · rw [noteActivity_eq]
      exact ⟨[_], rfl, by simp [Effect.isAcct]⟩
    · exact .of_log_eq rfl

theorem grows_settle (config : Config) (env : Env) (s : Session) :
    Grows Effect.isAcct s (s.settle config env) := by
  unfold settle acctStop
  split_ifs
  · split
    · exact ⟨[_], rfl, by simp [Effect.isAcct]⟩
    · exact .of_log_eq rfl
  · exact .of_log_eq rfl

theorem Tidies.settles (tidies : Tidies config env s s') : Settles s s' := by
  cases tidies with
  | adjust _ adjusts =>
      rw [adjusts]
      exact { Settles.refl s with log := .of_log_eq rfl }
  | stop => exact { Settles.refl s with running := nofun, log := .of_log_eq rfl }
  | drainHlak =>
      -- A captured HLAK changes the binding of the state machine, not its state.
      have state : s.drainHlak.ssm.state = s.ssm.state := by
        unfold Session.drainHlak
        split <;> rfl
      rw [drainHlak_eq]
      exact { Settles.refl s with state, pendingHlak := fun _ => rfl, log := .of_log_eq rfl }
  | poll => exact { Settles.refl s with kmodFd := fun _ => rfl, log := .of_log_eq rfl }
  | applyPolicy =>
      rw [applyPolicy_eq]
      exact { Settles.refl s with log := .of_log_eq rfl }
  | acctInterim =>
      have log := grows_acctInterim config env s
      rw [acctInterim_eq] at log ⊢
      exact { Settles.refl s with log }

theorem Tidied.settles (tidied : Tidied config env s s') : Settles s s' := by
  induction tidied with
  | refl => exact .refl s
  | tail _ last ih => exact ih.trans last.settles

theorem settles_settle (config : Config) (env : Env) (s : Session) :
    Settles s (s.settle config env) := by
  have log := grows_settle config env s
  rw [settle_eq] at log ⊢
  exact { Settles.refl s with log }

/-- A task that goes on has not returned. -/
theorem settle_of_running (running : (s.settle config env).running = true) :
    s.settle config env = s := by
  unfold settle acctStop at *
  split_ifs at running ⊢ with ended
  · split at running <;> simp [Session.running, push, ended] at running
  · rfl

end Settles

/-- A handler does some work, with bookkeeping around it. -/
def Does (config : Config) (env : Env) (work : Work) (s s' : Session) : Prop :=
  ∃ t, Readies s t ∧ Settles (t.perform config env work) s'

/-- A step is its work and bookkeeping. -/
theorem does_step (config : Config) (s : Session) (input : Input) :
    Does config input.env (s.work input) s (s.step config input) := by
  unfold step
  by_cases running : s.running = true
  · rw [if_pos running]
    rcases turn_handle config running input with ⟨t, prepares, tidied⟩
    exact ⟨t, prepares.readies, tidied.settles.trans (settles_settle config input.env _)⟩
  · rw [if_neg running, work, if_neg running]
    exact ⟨s, ⟨rfl, rfl, rfl, rfl, rfl⟩, .refl s⟩

theorem running_of_step {config : Config} {s : Session} {input : Input}
    (survives : (s.step config input).running = true) : s.running = true := by
  by_contra stopped
  rw [step, if_neg stopped] at survives
  exact stopped survives

/-! ## Calls of the PPP driver -/

/-- A decodable frame with a network-layer protocol. -/
def IsNetworkFrame (payload : Bytes) : Prop :=
  ∃ frame, decodeFrame payload = .ok frame ∧
    ∃ id, ProtocolId.fromU16 frame.protocol = some id ∧ id.isNetworkLayer = true

/-- What a step has for the PPP driver: a frame at the head of the read buffer that is
not for the network layer, or an expired restart timer. -/
inductive HandsToPpp (s : Session) (input : Input) : Ppp.Call → Prop where
  | frame (payload : Bytes) (used : Nat) (point : s.point = .reading)
      (move : input.move = .packet) (parsed : Packet.parse s.rxBuf = .ok (.data payload, used))
      (control : ¬IsNetworkFrame payload) : HandsToPpp s input (.frame payload)
  | timer (owner : TimerOwner) (deadline : Nat) (point : s.point = .select)
      (move : input.move = .event .pppTimer) (armed : s.pppTimer = some (owner, deadline))
      (expired : deadline ≤ input.env.now) : HandsToPpp s input (.timer owner)

/-- The next packet of the read buffer carries IP that the device can take. -/
structure HoldsIp (s : Session) (kppp : KpppSession) (frame : PppFrame) : Prop where
  device : s.kppp = some kppp
  tun : kppp.isKernel = false
  data : ∃ payload used, Packet.parse s.rxBuf = .ok (.data payload, used) ∧
    decodeFrame payload = .ok frame
  network : ∃ id, ProtocolId.fromU16 frame.protocol = some id ∧ id.isNetworkLayer = true
  fits : frame.info.length ≤ kppp.mtu

/-! ## Where the work comes from -/

/-- The work that a step can have, and what it comes from. -/
inductive Assigned (s : Session) (input : Input) : Work → Prop where
  | nothing : Assigned s input .nothing
  | disconnect : Assigned s input (.sstp .higherLayerDisconnect)
  | hello (call : StateMachine.Call) (point : s.point = .select)
      (tick : input.move = .event (.control (some .periodicTick)))
      (checked : s.helloWork input.env = .sstp call) : Assigned s input (.sstp call)
  | sstpTimer (which : Timer) (deadline : Nat) (armed : s.sstpTimer = some (which, deadline)) :
      Assigned s input (.sstp (.timer which))
  | message (message : ControlMessage) (point : s.point = .reading) (move : input.move = .packet)
      (carries : Carries s.rxBuf message) :
      Assigned s input (.sstp (messageCall s.rxBuf message input.env.nonce))
  | kernelBinding (binding : CryptoBinding) (payload : Bytes) (rest : List KmodEvent)
      (point : s.point = .events (.controlPacket (.ok (some payload)) :: rest))
      (move : input.move = .kmodEvent)
      (parsed : parseControlPayload payload = .ok (.callConnected binding))
      (sized : payload.length + sstpHeaderLen = callConnectedLen) :
      Assigned s input (.sstp (.callConnected binding (zeroedMac (kernelPacket payload))))
  | kernelMessage (message : ControlMessage)
      (other : ∀ binding, message ≠ .callConnected binding) :
      Assigned s input (.sstp (.message message input.env.nonce))
  | ppp (ppp : Ppp) (call : Ppp.Call) (driver : s.ppp = some ppp)
      (handed : HandsToPpp s input call) :
      Assigned s input (.ppp (ppp.run ⟨call, input.env.challenge 0⟩).1
        (ppp.run ⟨call, input.env.challenge 0⟩).2)
  | toTun (kppp : KpppSession) (frame : PppFrame) (point : s.point = .reading)
      (move : input.move = .packet) (holds : HoldsIp s kppp frame) :
      Assigned s input (.toTun frame.info)
  | fromTun (packet frame : Bytes) (point : s.point = .select) (tun : s.isTun = true)
      (move : input.move = .event (.kpppRead (.ok packet)))
      (sized : packet.length ≤ tunPacketLen) (read : readFrame packet = some frame) :
      Assigned s input (.fromTun packet frame)

theorem npFilterDecide_kppp_eq_forward_iff {kppp : Option KpppSession} {protocol infoLen : Nat} :
    npFilterDecide (kppp.any fun kppp => !kppp.isKernel) (kppp.elim 0 KpppSession.mtu) protocol
        infoLen = .forward ↔
      ∃ device, kppp = some device ∧ device.isKernel = false ∧
        (∃ id, ProtocolId.fromU16 protocol = some id ∧ id.isNetworkLayer = true) ∧
        infoLen ≤ device.mtu := by
  rw [npFilterDecide_eq_forward_iff]
  cases kppp with
  | none => simp
  | some device =>
      simp only [Option.any_some, Bool.not_eq_true', Option.elim_some, Option.some.injEq,
        exists_eq_left']
      tauto

/-- Frames that are not for the network layer go to the PPP driver. -/
theorem frameWork_of_control {payload : Bytes} (control : ¬IsNetworkFrame payload) (env : Env)
    (s : Session) : s.frameWork env payload = s.feedWork env payload := by
  unfold frameWork
  cases decoded : decodeFrame payload with
  | error _ => rfl
  | ok frame =>
      have other : ∀ ready mtu, npFilterDecide ready mtu frame.protocol frame.info.length =
          .notNetworkLayer := fun _ _ => npFilterDecide_eq_notNetworkLayer_iff.mpr
        fun network => control ⟨frame, decoded, network⟩
      simp only [other]

theorem assigned_frameWork {s : Session} {input : Input} {payload : Bytes} {used : Nat}
    (point : s.point = .reading) (move : input.move = .packet)
    (parsed : Packet.parse s.rxBuf = .ok (.data payload, used)) :
    Assigned s input (s.frameWork input.env payload) := by
  by_cases control : IsNetworkFrame payload
  · obtain ⟨frame, decoded, network⟩ := control
    simp only [frameWork, decoded]
    split
    · rename_i forwards
      obtain ⟨kppp, device, tun, -, fits⟩ := npFilterDecide_kppp_eq_forward_iff.mp forwards
      exact .toTun kppp frame point move
        ⟨device, tun, ⟨payload, used, parsed, decoded⟩, network, fits⟩
    · exact .nothing
    · exact .nothing
    · rename_i other
      exact (npFilterDecide_eq_notNetworkLayer_iff.mp other network).elim
  · rw [frameWork_of_control control, feedWork]
    cases driver : s.ppp with
    | none => exact .nothing
    | some ppp => exact .ppp ppp _ driver (.frame payload used point move parsed control)

theorem assigned_packetWork {s : Session} {input : Input} (point : s.point = .reading)
    (move : input.move = .packet) : Assigned s input (s.packetWork input.env) := by
  unfold packetWork
  split
  · exact .nothing
  · rename_i parsed
    exact assigned_frameWork point move parsed
  · rename_i packet used parsed
    split
    · exact .nothing
    · rename_i message decoded
      exact .message message point move ⟨packet, used, parsed, decoded⟩

theorem assigned_eventWork {s : Session} {input : Input} {event : Event}
    (point : s.point = .select) (move : input.move = .event event)
    (armed : s.enabled input.env event = true) :
    Assigned s input (s.eventWork input.env event) := by
  unfold eventWork
  split
  · exact .disconnect
  · exact .disconnect
  · cases checked : s.helloWork input.env with
    | nothing => exact .nothing
    | sstp call => exact .hello call point move checked
    | _ => unfold helloWork at checked; split_ifs at checked
  · split
    · exact .nothing
    · rename_i which deadline slot
      exact .sstpTimer which deadline slot
  · split
    · rename_i owner deadline ppp slot driver
      have expired : deadline ≤ input.env.now := by simpa [enabled, slot] using armed
      exact .ppp ppp _ driver (.timer owner deadline point move slot expired)
    · exact .nothing
  · rename_i packet
    split
    · exact .nothing
    · rename_i frame read
      simp only [enabled, Bool.and_eq_true, decide_eq_true_eq] at armed
      exact .fromTun packet frame point armed.1 move armed.2 read
  · exact .nothing

theorem assigned_kmodWork {s : Session} {input : Input} (move : input.move = .kmodEvent) :
    Assigned s input (s.kmodWork input.env) := by
  unfold kmodWork
  split
  · rename_i payload rest point
    unfold kernelControlWork
    split
    · exact .nothing
    · rename_i binding parsed
      split_ifs with sized
      · exact .nothing
      · exact .kernelBinding binding payload rest point move parsed (not_not.mp sized)
    · rename_i message other _
      exact .kernelMessage message other
  · exact .nothing

theorem assigned_of_work {s : Session} {input : Input} {work : Work}
    (works : s.work input = work) : Assigned s input work := by
  subst works
  unfold Session.work
  split_ifs
  · split
    · rename_i event point move
      split_ifs with armed
      · exact assigned_eventWork point move armed
      · exact .nothing
    · rename_i point move
      exact assigned_packetWork point move
    · rename_i move
      exact assigned_kmodWork move
    · exact .nothing
  · exact .nothing

/-- Only a running task has work. -/
theorem running_of_work {s : Session} {input : Input} {work : Work} (works : s.work input = work)
    (busy : work ≠ .nothing) : s.running = true := by
  by_contra stopped
  rw [Session.work, if_neg stopped] at works
  exact busy works.symm

/-- The steps that carry out a PPP step, and the call it comes from. -/
theorem work_eq_ppp_iff {s : Session} {input : Input} {step : PppStep} {ppp' : Ppp} :
    s.work input = .ppp step ppp' ↔
      s.running = true ∧ ∃ ppp call, s.ppp = some ppp ∧ HandsToPpp s input call ∧
        ppp.run ⟨call, input.env.challenge 0⟩ = (step, ppp') := by
  constructor
  · intro works
    refine ⟨running_of_work works (by simp), ?_⟩
    cases assigned_of_work works with
    | ppp ppp call driver handed => exact ⟨ppp, call, driver, handed, rfl⟩
  · rintro ⟨running, ppp, call, driver, handed, ran⟩
    have stepped := (Prod.ext_iff.mp ran).1
    have stored := (Prod.ext_iff.mp ran).2
    unfold work
    rw [if_pos running]
    cases handed with
    | frame payload used point move parsed control =>
        rw [point, move]
        simp only [packetWork, parsed, frameWork_of_control control, feedWork, driver]
        exact congrArg₂ Work.ppp stepped stored
    | timer owner deadline point move armed expired =>
        rw [point, move]
        dsimp only
        rw [if_pos (by simpa [enabled, armed] using expired)]
        simp only [eventWork, armed, driver]
        exact congrArg₂ Work.ppp stepped stored

/-! ## The effects of a step -/

/-- What `s'` has in its log beyond the log of `s`. -/
def added (s s' : Session) : List Effect :=
  s'.log.drop s.log.length

/-- The effects of a step. -/
def emitted (config : Config) (s : Session) (input : Input) : List Effect :=
  added s (s.step config input)

theorem Grows.log_eq {kind : Effect → Prop} {s s' : Session} (grows : Grows kind s s') :
    s'.log = s.log ++ added s s' := by
  obtain ⟨more, logged, -⟩ := grows
  rw [added, logged, List.drop_left]

theorem Grows.of_mem_added {kind : Effect → Prop} {s s' : Session} (grows : Grows kind s s')
    {effect : Effect} (member : effect ∈ added s s') : kind effect := by
  obtain ⟨more, logged, allowed⟩ := grows
  rw [added, logged, List.drop_left] at member
  exact allowed effect member

/-- The state machine after some work. -/
def Work.machine (crypto : Crypto) (ssm : StateMachine) : Work → StateMachine
  | .sstp call => (ssm.run crypto call).2
  | _ => ssm

theorem acts_perform (config : Config) (env : Env) (work : Work) (s : Session) :
    Acts (fun _ => True) { s with ssm := work.machine config.crypto s.ssm }
      (s.perform config env work) := by
  have any : ∀ {kind : Effect → Prop} (effect : Effect), kind effect → True :=
    fun _ _ => trivial
  cases work with
  | nothing => exact .refl _ s
  | sstp call => exact (acts_handleSstpStep config env _ _).mono any
  | ppp step ppp => exact (acts_handlePppStep config env _ step ppp s).mono any
  | toTun packet => exact acts_push trivial s
  | fromTun packet frame =>
      have written := (acts_writeFrame env (List.mem_singleton_self frame)
        (s.push (.fromTun packet))).andThen (acts_tlsFlush _ env _)
      exact (acts_push trivial s).trans (written.mono any)

theorem grows_perform (config : Config) (env : Env) (work : Work) (s : Session) :
    Grows (fun _ => True) s (s.perform config env work) :=
  (acts_perform config env work s).log

/-- A data path stays as it is. -/
theorem kppp_step (config : Config) {s : Session} (input : Input) (up : s.kppp.isSome) :
    (s.step config input).kppp = s.kppp := by
  obtain ⟨t, ready, settled⟩ := does_step config s input
  rw [← ready.kppp] at up ⊢
  rw [settled.kppp]
  exact (acts_perform config input.env _ t).kppp up

/-- Accounting records apart, the effects of a step are those of its work. -/
theorem emitted_eq (config : Config) (s : Session) (input : Input) :
    ∃ t records, Readies s t ∧ (∀ effect ∈ records, effect.isAcct) ∧
      emitted config s input =
        added t (t.perform config input.env (s.work input)) ++ records := by
  obtain ⟨t, ready, settled⟩ := does_step config s input
  refine ⟨t, _, ready, fun effect member => settled.log.of_mem_added member, ?_⟩
  have performed := (grows_perform config input.env (s.work input) t).log_eq
  rw [emitted, added, settled.log.log_eq, performed, ready.log, List.append_assoc,
    List.drop_left]

end SstpServer.Session
