import SstpServer.Session.Book
import SstpServer.Session.Handover
import SstpServer.Session.PacketTurns
import SstpServer.Session.TimerSlot

/-!
# The hello check

The task keeps the time of the last read and whether it has sent an Echo-Request since.  A tick
sends the Echo-Request after one silent hello interval and gives the peer up after the second.
Time and flag are reset on another path than the one that looks at them, so this module compares
them with what an observer of the run notes: when the last bytes came, and how many Echo-Requests
went out since.
-/

namespace SstpServer.Sstp

open SstpServer.Wire

/-- The Echo-Request of the hello check. -/
def echoRequest : Bytes :=
  encodeEmptyControl .echoRequest

namespace StateMachine

/-- Only the hello timer makes the machine send an Echo-Request. -/
theorem run_send_ne_echoRequest (crypto : Crypto) (ssm : StateMachine) {call : Call}
    (other : call ≠ .timer .hello) : (ssm.run crypto call).1.send ≠ echoRequest := by
  have sends := sends_run crypto ssm call
  generalize (ssm.run crypto call).1.send = packet at sends ⊢
  -- The sixth byte of a control packet is the low byte of its message type.
  suffices packet.getD 5 0 ≠ 8 by
    rintro rfl
    exact this rfl
  cases sends with
  | nothing => exact (by decide : (0 : UInt8) ≠ 8)
  | callConnectAck nonce => exact (by decide : (2 : UInt8) ≠ 8)
  | callConnectNak => exact (by decide : (3 : UInt8) ≠ 8)
  | callAbort statusInfo => cases statusInfo <;> exact (by decide : (5 : UInt8) ≠ 8)
  | callDisconnect => exact (by decide : (6 : UInt8) ≠ 8)
  | callDisconnectAck => exact (by decide : (7 : UInt8) ≠ 8)
  | echoResponse => exact (by decide : (9 : UInt8) ≠ 8)
  | echoRequest hello => exact (other hello).elim

end StateMachine

end SstpServer.Sstp

namespace SstpServer.Session

open SstpServer.Wire
open SstpServer.Sstp
open SstpServer.Ppp
open SstpServer.Transition

/-! ## The checks of a tick -/

/-- The step is a tick that finds a connected call silent for one hello interval, with no
Echo-Request sent since. -/
structure EchoDue (s : Session) (input : Input) : Prop where
  running : s.running = true
  point : s.point = .select
  tick : input.move = .event (.control (some .periodicTick))
  connected : s.ssm.state = .serverCallConnected
  fresh : s.helloEchoPending = false
  silent : seconds timerValHello ≤ input.env.now - s.lastRx

/-- The step is a tick that finds a connected call silent for two hello intervals, with an
Echo-Request sent since. -/
structure GivesUp (s : Session) (input : Input) : Prop where
  running : s.running = true
  point : s.point = .select
  tick : input.move = .event (.control (some .periodicTick))
  connected : s.ssm.state = .serverCallConnected
  asked : s.helloEchoPending = true
  silent : seconds (timerValHello + timerValHello) ≤ input.env.now - s.lastRx

theorem messageCall_not_hello (buf : Bytes) (message : ControlMessage) (nonce : Block 32) :
    ¬(messageCall buf message nonce = .helloTimeout ∨
      messageCall buf message nonce = .timer .hello) := by
  cases message <;> simp [messageCall]

/-- The calls of the hello check come from a tick, unless the slot holds the hello timer. -/
theorem helloWork_of_work {s : Session} {input : Input} {call : StateMachine.Call}
    (hello : call = .helloTimeout ∨ call = .timer .hello)
    (slot : s.sstpTimer.map Prod.fst ≠ some .hello) (works : s.work input = .sstp call) :
    s.running = true ∧ s.point = .select ∧
      input.move = .event (.control (some .periodicTick)) ∧
        s.helloWork input.env = .sstp call := by
  cases assigned_of_work works with
  | hello _ point tick checked =>
      exact ⟨running_of_work works (by simp), point, tick, checked⟩
  | sstpTimer which deadline armed =>
      rcases hello with impossible | same
      · cases impossible
      · cases same
        exact (slot (by rw [armed]; rfl)).elim
  | message message => exact (messageCall_not_hello _ message _ hello).elim
  | _ => rcases hello with impossible | impossible <;> cases impossible

theorem work_tick {s : Session} {input : Input} (running : s.running = true)
    (point : s.point = .select) (tick : input.move = .event (.control (some .periodicTick))) :
    s.work input = s.helloWork input.env := by
  have armed : s.enabled input.env (.control (some .periodicTick)) = true := rfl
  unfold work
  rw [if_pos running, point, tick]
  exact if_pos armed

theorem givesUp_iff_work {s : Session} {input : Input}
    (slot : s.sstpTimer.map Prod.fst ≠ some .hello) :
    GivesUp s input ↔ s.work input = .sstp .helloTimeout := by
  constructor
  · intro gives
    rw [work_tick gives.running gives.point gives.tick, helloWork,
      if_neg (not_not.mpr gives.connected), if_pos ⟨gives.asked, gives.silent⟩]
  · intro works
    rcases helloWork_of_work (.inl rfl) slot works with ⟨running, point, tick, checked⟩
    unfold helloWork at checked
    split_ifs at checked with other silent fresh
    · exact ⟨running, point, tick, not_not.mp other, silent.1, silent.2⟩
    · cases checked

theorem echoDue_iff_work {s : Session} {input : Input}
    (slot : s.sstpTimer.map Prod.fst ≠ some .hello) :
    EchoDue s input ↔ s.work input = .sstp (.timer .hello) := by
  constructor
  · intro due
    have fresh : ¬s.helloEchoPending = true := Bool.eq_false_iff.mp due.fresh
    rw [work_tick due.running due.point due.tick, helloWork, if_neg (not_not.mpr due.connected),
      if_neg fun asked => fresh asked.1, if_pos ⟨fresh, due.silent⟩]
  · intro works
    rcases helloWork_of_work (.inr rfl) slot works with ⟨running, point, tick, checked⟩
    unfold helloWork at checked
    split_ifs at checked with other silent fresh
    · cases checked
    · exact ⟨running, point, tick, not_not.mp other, Bool.eq_false_iff.mpr fresh.1, fresh.2⟩

/-! ## The Echo-Requests of a step -/

/-- Work that is not for the hello timer sends no Echo-Request. -/
theorem echoRequest_not_mem_added (config : Config) (env : Env) {work : Work}
    (other : work ≠ .sstp (.timer .hello)) (s : Session) :
    .tlsWrite echoRequest ∉ added s (s.perform config env work) := by
  intro member
  rcases (grows_perform_ofWork config env work s).of_mem_added member with sent | ⟨frame, written⟩
  · cases work with
    | sstp call =>
        exact StateMachine.run_send_ne_echoRequest config.crypto s.ssm
          (fun same => other (congrArg Work.sstp same)) sent.symm
    | _ => cases sent
  · simp only [writePppAsSstpData] at written
    split_ifs at written
    cases written

theorem log_sendPacket_tls (env : Env) {packet : Bytes} {s : Session} (filled : packet ≠ [])
    (tun : s.isKernel = false) : (s.sendPacket env packet).log = s.log ++ [.tlsWrite packet] := by
  have written : (s.tlsWrite env packet).log = s.log ++ [.tlsWrite packet] := by
    unfold tlsWrite
    dsimp only
    split_ifs <;> rfl
  unfold sendPacket andThen tlsFlush
  rw [if_neg filled, if_neg (Bool.eq_false_iff.mp tun)]
  split_ifs
  · exact written
  · exact written
  · exact written

/-- Without a notification, a step of the machine logs what it sends. -/
theorem log_handleSstpStep_quiet (config : Config) (env : Env) {out : StepOut} (s : Session)
    (quiet : out.notify = none) :
    (s.handleSstpStep config env out).log = (s.sendPacket env out.send).log := by
  have applied : (s.applyStep env out).log = (s.sendPacket env out.send).log := by
    unfold applyStep andThen
    simp only [applySstpTimers_eq, quiet, reduceCtorEq, if_false]
    split_ifs <;> rfl
  unfold handleSstpStep andThen
  simp only [quiet, reduceCtorEq, false_and, if_false, ite_self]
  exact applied

/-- The hello timer of a connected call sends one Echo-Request, through the TLS stream. -/
theorem added_hello (config : Config) (env : Env) {s : Session}
    (tun : s.isKernel = false) (connected : s.ssm.state = .serverCallConnected) :
    added s (s.perform config env (.sstp (.timer .hello))) = [.tlsWrite echoRequest] := by
  let out : StepOut := { send := echoRequest, timerStart := some (.hello, timerValHello) }
  have ran : s.ssm.run config.crypto (.timer .hello) = (out, s.ssm) :=
    if_neg (not_not.mpr connected)
  have performed : s.perform config env (.sstp (.timer .hello)) =
      s.handleSstpStep config env out := by
    change { s with ssm := (s.ssm.run config.crypto (.timer .hello)).2 }.handleSstpStep config env
      (s.ssm.run config.crypto (.timer .hello)).1 = _
    rw [ran]
  have filled : echoRequest ≠ [] := nofun
  rw [added, performed, log_handleSstpStep_quiet config env s rfl,
    log_sendPacket_tls env filled tun, List.drop_left]

/-- A session on a TUN device sends an Echo-Request when one is due, and no other. -/
theorem count_echoRequest (config : Config) {s : Session} (input : Input)
    (tun : s.isKernel = false) (slot : s.running = true → s.sstpTimer.map Prod.fst ≠ some .hello) :
    (EchoDue s input → (emitted config s input).count (.tlsWrite echoRequest) = 1) ∧
      (¬EchoDue s input → (emitted config s input).count (.tlsWrite echoRequest) = 0) := by
  rcases emitted_eq config s input with ⟨t, records, ready, isAcct, emittedEq⟩
  have ofRecords : records.count (.tlsWrite echoRequest) = 0 :=
    List.count_eq_zero.mpr fun member => isAcct _ member
  rw [emittedEq, List.count_append, ofRecords, Nat.add_zero]
  constructor
  · intro due
    have works := (echoDue_iff_work (slot due.running)).mp due
    have device : t.isKernel = false := by rw [isKernel, ready.kppp]; exact tun
    rw [works, added_hello config input.env device (by rw [ready.ssm]; exact due.connected)]
    exact List.count_singleton_self
  · intro notDue
    have other : s.work input ≠ .sstp (.timer .hello) := by
      intro works
      exact notDue ((echoDue_iff_work (slot (running_of_work works (by simp)))).mpr works)
    exact List.count_eq_zero.mpr (echoRequest_not_mem_added config input.env other t)

/-! ## The locals of the hello check -/

/-- What the hello check looks at: the time of the last read, and whether an Echo-Request went out
since. -/
def helloState (s : Session) : Nat × Bool :=
  (s.lastRx, s.helloEchoPending)

theorem helloState_of_locals {s s' : Session} (same : s'.locals = s.locals) :
    s'.helloState = s.helloState :=
  congrArg (fun locals : Locals => (locals.lastRx, locals.helloEchoPending)) same

theorem locals_handleSstpStep (config : Config) (env : Env) (out : StepOut) (s : Session) :
    (s.handleSstpStep config env out).locals = s.locals := by
  have applied := locals_applyStep env out s
  unfold handleSstpStep andThen
  generalize s.applyStep env out = t at applied ⊢
  dsimp only
  split_ifs
  · exact (sparesLoop_handlePppStep config env _ _ _ t).locals.trans applied
  · exact applied
  · exact applied

theorem helloState_andThen {next : Session → Session} {s : Session} {state : Nat × Bool}
    (first : s.helloState = state)
    (second : ∀ t : Session, (next t).helloState = t.helloState) :
    (s.andThen next).helloState = state := by
  unfold andThen
  split_ifs
  · exact (second s).trans first
  · exact first

theorem helloState_handleSstpStep (config : Config) (env : Env) (out : StepOut) (s : Session) :
    (s.handleSstpStep config env out).helloState = s.helloState :=
  helloState_of_locals (locals_handleSstpStep config env out s)

theorem helloState_loopHead (env : Env) (s : Session) :
    (s.loopHead env).helloState = s.helloState := by
  rw [loopHead_eq]
  rfl

theorem helloState_acctInterim (config : Config) (env : Env) (s : Session) :
    (s.acctInterim config env).helloState = s.helloState := by
  rw [acctInterim_eq]
  rfl

theorem helloState_settle (config : Config) (env : Env) (s : Session) :
    (s.settle config env).helloState = s.helloState := by
  rw [settle_eq]
  rfl

theorem helloState_onPacket (config : Config) (env : Env) (s : Session) :
    (s.onPacket config env).helloState = s.helloState := by
  have consumed : ∀ (used : Nat) (t : Session),
      { t with rxBuf := t.rxBuf.drop used }.helloState = t.helloState := fun _ _ => rfl
  have waits : ({ s with point := .select }.loopHead env).helloState = s.helloState :=
    helloState_loopHead env { s with point := .select }
  unfold onPacket
  cases Packet.parse s.rxBuf with
  | error error =>
      cases error
      case truncated => exact waits
      case lengthMismatch => exact waits
      all_goals rfl
  | ok parsed =>
      rcases parsed with ⟨packet, used⟩
      cases packet with
      | data payload =>
          have stepped : (s.handleSstpStep config env s.ssm.onDataPacket).helloState =
              s.helloState := helloState_handleSstpStep config env _ s
          refine helloState_andThen (helloState_andThen stepped fun t => ?_) (consumed used)
          rw [routeFrame_eq_perform]
          exact helloState_of_locals (locals_perform config env _ t)
      | control packet =>
          dsimp only
          cases parseControl packet with
          | error _ => rfl
          | ok message =>
              refine helloState_andThen ?_ (consumed used)
              exact helloState_handleSstpStep config env _ _

theorem helloState_onKmodEvent (config : Config) (env : Env) (s : Session) :
    (s.onKmodEvent config env).helloState = s.helloState := by
  unfold onKmodEvent onKernelControl
  split
  · dsimp only
    split
    · split
      · rfl
      · split_ifs
        · rfl
        · exact helloState_handleSstpStep config env _ _
      · exact helloState_handleSstpStep config env _ _
    all_goals rfl
  · exact helloState_loopHead env { s with point := .select }
  · rfl

theorem helloState_helloCheck_of_not_due (config : Config) {s : Session} {input : Input}
    (running : s.running = true) (point : s.point = .select)
    (tick : input.move = .event (.control (some .periodicTick))) (notDue : ¬EchoDue s input) :
    (s.helloCheck config input.env).helloState = s.helloState := by
  unfold helloCheck
  dsimp only
  split_ifs with other silent fresh
  · rfl
  · exact helloState_handleSstpStep config input.env _ _
  · exact (notDue ⟨running, point, tick, not_not.mp other, Bool.eq_false_iff.mpr fresh.1,
      fresh.2⟩).elim
  · rfl

theorem helloState_helloCheck_of_due (config : Config) {s : Session} {input : Input}
    (due : EchoDue s input) : (s.helloCheck config input.env).helloState = (s.lastRx, true) := by
  have fresh : ¬s.helloEchoPending = true := Bool.eq_false_iff.mp due.fresh
  unfold helloCheck
  dsimp only
  rw [if_neg (not_not.mpr due.connected), if_neg fun asked => fresh asked.1,
    if_pos ⟨fresh, due.silent⟩]
  exact helloState_handleSstpStep config input.env _ _

/-- Events that bring no bytes, ticks apart, leave the locals of the hello check alone. -/
theorem helloState_onEvent (config : Config) {env : Env} {event : Event} {s : Session}
    (tun : s.kmodFd = false) (armed : s.enabled env event = true) (empty : event.chunk = [])
    (other : event ≠ .control (some .periodicTick)) :
    (s.onEvent config env event).helloState = s.helloState := by
  have disconnects : ∀ cause, (s.disconnect config env cause).helloState = s.helloState :=
    fun cause => helloState_handleSstpStep config env _ _
  unfold onEvent
  cases event with
  | read result =>
      cases result with
      | error _ => rfl
      | ok chunk =>
          have nothing : chunk = [] := empty
          dsimp only
          rw [if_pos nothing]
          rfl
  | kmodEvents result =>
      rw [enabled, tun] at armed
      cases armed
  | drain => exact disconnects _
  | control command =>
      rcases command with _ | reason | requestPeer | _
      · rfl
      · exact disconnects _
      · rfl
      · exact (other rfl).elim
  | sstpTimer =>
      unfold onSstpTimer
      dsimp only
      split
      · rfl
      · exact helloState_handleSstpStep config env _ _
  | pppTimer =>
      unfold onPppTimer
      dsimp only
      split
      · exact helloState_of_locals (sparesLoop_handlePppStep config env _ _ _ _).locals
      · rfl
  | kpppRead result =>
      cases result with
      | error _ => rfl
      | ok packet =>
          unfold onTunPacket
          dsimp only
          split_ifs
          · rfl
          · split
            · rfl
            · rename_i frame _
              have outputs := (outputs_writeFrame env frame (s.push (.fromTun packet))).andThen
                (outputs_tlsFlush env _)
              exact helloState_of_locals outputs.spares.locals
  | sessionTimeout => rfl
  | idleTimeout => rfl

/-- What a step does to the locals of the hello check. -/
inductive HelloMove (s : Session) (input : Input) : Nat × Bool → Prop where
  | read (bytes : bytesRead s input ≠ []) : HelloMove s input (input.env.now, false)
  | echo (due : EchoDue s input) : HelloMove s input (s.lastRx, true)
  | other (silent : bytesRead s input = []) (notDue : ¬EchoDue s input) :
      HelloMove s input s.helloState

theorem helloMove_event (config : Config) {s : Session} {input : Input} {event : Event}
    (running : s.running = true) (tun : s.kmodFd = false) (point : s.point = .select)
    (move : input.move = .event event) (armed : s.enabled input.env event = true) :
    HelloMove s input (s.onEvent config input.env event).helloState := by
  have brings : bytesRead s input = event.chunk := by
    simp only [bytesRead, running, point, move, armed, if_true]
  by_cases tick : event = .control (some .periodicTick)
  · subst tick
    have interim := helloState_acctInterim config input.env
    by_cases due : EchoDue s input
    · have asked := helloState_andThen (helloState_helloCheck_of_due config due) interim
      rw [onEvent, asked]
      exact .echo due
    · have same := helloState_andThen
        (helloState_helloCheck_of_not_due config running point move due) interim
      rw [onEvent, same]
      exact .other brings due
  · have notDue : ¬EchoDue s input := by
      intro due
      exact tick (Move.event.inj (move.symm.trans due.tick))
    by_cases empty : event.chunk = []
    · rw [helloState_onEvent config tun armed empty tick]
      exact .other (brings.trans empty) notDue
    · -- The only event with bytes is a read of some.
      unfold Event.chunk at empty
      split at empty
      · rename_i chunk
        have reads : (s.onEvent config input.env (.read (.ok chunk))).helloState =
            (input.env.now, false) := by
          rw [onEvent, if_neg empty]
          rfl
        rw [reads]
        exact .read (brings ▸ empty)
      · exact (empty rfl).elim

theorem helloMove_step (config : Config) {s : Session} (input : Input)
    (running : s.running = true) (tun : s.kmodFd = false) :
    HelloMove s input (s.step config input).helloState := by
  have idle : ¬(s.point = .select ∧ ∃ event, input.move = .event event ∧
      s.enabled input.env event = true) → HelloMove s input s.helloState := by
    intro away
    refine .other ?_ fun due => away ⟨due.point, _, due.tick, rfl⟩
    unfold bytesRead
    split
    · rename_i event _ point move
      split_ifs with armed
      · exact (away ⟨point, event, move, armed⟩).elim
      · rfl
    · rfl
  rw [step, if_pos running, helloState_settle]
  unfold handle
  split
  · rename_i event point move
    split_ifs with armed
    · have headed := helloMove_event config running tun point move armed
      have same : ((s.onEvent config input.env event).andThen fun s =>
          if s.point = .select then s.loopHead input.env else s).helloState =
            (s.onEvent config input.env event).helloState := by
        refine helloState_andThen rfl fun t => ?_
        split_ifs
        · exact helloState_loopHead input.env t
        · rfl
      rw [same]
      exact headed
    · apply idle
      rintro ⟨-, other, same, enabled⟩
      rw [move] at same
      cases same
      exact armed enabled
  · rename_i point move
    rw [helloState_onPacket]
    apply idle
    rintro ⟨select, -⟩
    rw [point] at select
    cases select
  · rename_i point move
    rw [helloState_onKmodEvent]
    apply idle
    rintro ⟨select, -⟩
    rw [point] at select
    cases select
  · rename_i away _ _
    apply idle
    rintro ⟨select, event, move, -⟩
    exact away event select move

/-! ## Runs -/

/-- What an observer of a run notes: when the last bytes were read, and how many Echo-Requests went
out since. -/
structure Silence where
  since : Nat
  echoes : Nat
  deriving DecidableEq, Repr

/-- Note one step. -/
def Silence.note (config : Config) (silence : Silence) (visit : Session × Input) : Silence :=
  if bytesRead visit.1 visit.2 ≠ [] then ⟨visit.2.env.now, 0⟩
  else
    { silence with
      echoes := silence.echoes +
        (emitted config visit.1 visit.2).count (.tlsWrite echoRequest) }

/-- What the observer has noted after a run; before the first read the time is that of the
start. -/
def silenceAfter (config : Config) (env : Env) (inputs : List Input) : Silence :=
  (visits (step config) (start config env) inputs).foldl (Silence.note config) ⟨env.now, 0⟩

theorem silenceAfter_append (config : Config) (env : Env) (inputs : List Input) (input : Input) :
    silenceAfter config env (inputs ++ [input]) =
      (silenceAfter config env inputs).note config (sessionAfter config env inputs, input) := by
  rw [silenceAfter, visits_append, List.foldl_append]
  rfl

/-- Once the channel of the kernel device is polled, it stays so. -/
theorem kmodFd_step (config : Config) {s : Session} (input : Input) (polled : s.kmodFd = true) :
    (s.step config input).kmodFd = true := by
  unfold step
  split_ifs with running
  · rcases turn_handle config running input with ⟨t, prepares, tidied⟩
    have noted : t.kmodFd = true := by
      rw [prepares.notes]
      exact polled
    have performed : (t.perform config input.env (s.work input)).kmodFd = true :=
      (congrArg Locals.kmodFd (locals_perform config input.env _ t)).trans noted
    exact (tidied.settles.trans (settles_settle config input.env _)).kmodFd performed
  · exact polled

/-- A kernel device is never given back for another one. -/
theorem isKernel_step (config : Config) {s : Session} (input : Input)
    (kernel : s.isKernel = true) : (s.step config input).isKernel = true := by
  have up : s.kppp.isSome := by
    cases device : s.kppp with
    | none => simp [isKernel, device] at kernel
    | some kppp => rfl
  rw [isKernel, kppp_step config input up]
  exact kernel

/-- A session that is on its TUN device after a step was there before it. -/
theorem onTun_of_step {config : Config} {s : Session} {input : Input}
    (onTun : OnTun (s.step config input)) : OnTun s := by
  constructor
  · apply Bool.eq_false_of_not_eq_true
    intro kernel
    have kept := isKernel_step config input kernel
    rw [onTun.isKernel] at kept
    cases kept
  · apply Bool.eq_false_of_not_eq_true
    intro polled
    have kept := kmodFd_step config input polled
    rw [onTun.kmodFd] at kept
    cases kept

/-- The locals of a running task agree with what the observer has noted. -/
structure Attends (silence : Silence) (s : Session) : Prop where
  since : s.running = true → silence.since = s.lastRx
  echoes : s.running = true → silence.echoes = s.helloEchoPending.toNat
  atMost : silence.echoes ≤ 1

theorem Attends.step {config : Config} {silence : Silence} {s : Session} (input : Input)
    (attends : Attends silence s) (onTun : OnTun s)
    (slot : s.running = true → s.sstpTimer.map Prod.fst ≠ some .hello) :
    Attends (silence.note config (s, input)) (s.step config input) := by
  have counted := count_echoRequest config input onTun.isKernel slot
  by_cases running : s.running = true
  · have moved := helloMove_step config input running onTun.kmodFd
    generalize after : (s.step config input).helloState = state at moved
    have lastRx : (s.step config input).lastRx = state.1 := congrArg Prod.fst after
    have asked : (s.step config input).helloEchoPending = state.2 := congrArg Prod.snd after
    cases moved with
    | read bytes =>
        have noted : silence.note config (s, input) = ⟨input.env.now, 0⟩ := if_pos bytes
        rw [noted]
        exact ⟨fun _ => lastRx.symm, fun _ => by rw [asked]; rfl, Nat.zero_le 1⟩
    | echo due =>
        have silent : bytesRead s input = [] := by
          simp only [bytesRead, due.running, due.point, due.tick, Event.chunk, ite_self]
        have noted : silence.note config (s, input) = ⟨silence.since, silence.echoes + 1⟩ := by
          rw [Silence.note, if_neg (not_not.mpr silent), counted.1 due]
        have none : silence.echoes = 0 := by rw [attends.echoes running, due.fresh]; rfl
        rw [noted, none]
        exact ⟨fun _ => (attends.since running).trans lastRx.symm, fun _ => by rw [asked]; rfl,
          le_rfl⟩
    | other silent notDue =>
        have noted : silence.note config (s, input) = silence := by
          rw [Silence.note, if_neg (not_not.mpr silent), counted.2 notDue]
          rfl
        rw [noted]
        exact ⟨fun _ => (attends.since running).trans lastRx.symm,
          fun _ => by rw [asked]; exact attends.echoes running, attends.atMost⟩
  · have stopped : s.step config input = s := if_neg running
    have silent : bytesRead s input = [] := by
      rw [bytesRead, Bool.eq_false_iff.mpr running]
    have noted : silence.note config (s, input) = silence := by
      rw [Silence.note, if_neg (not_not.mpr silent), counted.2 fun due => running due.running]
      rfl
    rw [noted, stopped]
    exact attends

theorem slot_sessionAfter (config : Config) (env : Env) (inputs : List Input)
    (running : (sessionAfter config env inputs).running = true) :
    (sessionAfter config env inputs).sstpTimer.map Prod.fst ≠ some .hello :=
  (timerAgrees_of_mem_states config env inputs _
    (mem_states_iff.mpr ⟨inputs, [], (List.append_nil _).symm, rfl⟩) running).hello

theorem attends_sessionAfter (config : Config) (env : Env) (inputs : List Input)
    (onTun : OnTun (sessionAfter config env inputs)) :
    Attends (silenceAfter config env inputs) (sessionAfter config env inputs) := by
  induction inputs using List.reverseRecOn with
  | nil => exact ⟨fun _ => rfl, fun _ => rfl, Nat.zero_le 1⟩
  | append_singleton inputs input ih =>
      have stepped : sessionAfter config env (inputs ++ [input]) =
          (sessionAfter config env inputs).step config input := finalState_append _ _ _ _
      rw [stepped] at onTun ⊢
      have before := onTun_of_step onTun
      rw [silenceAfter_append]
      exact (ih before).step input before (slot_sessionAfter config env inputs)

/-- On a TUN device, in every run: the peer is given up only after an Echo-Request that followed the
last read, two hello intervals after that read; and between two reads at most one Echo-Request goes
out, one hello interval after the first of them at the earliest. -/
theorem keepalive_of_onTun (config : Config) (env : Env) (inputs : List Input)
    (onTun : OnTun (sessionAfter config env inputs)) (input : Input) :
    let s := sessionAfter config env inputs
    let silence := silenceAfter config env inputs
    (s.work input = .sstp .helloTimeout →
        silence.echoes = 1 ∧
          silence.since + seconds (timerValHello + timerValHello) ≤ input.env.now) ∧
      silence.echoes + (emitted config s input).count (.tlsWrite echoRequest) ≤ 1 ∧
      (.tlsWrite echoRequest ∈ emitted config s input →
        silence.since + seconds timerValHello ≤ input.env.now) := by
  intro s silence
  have attends : Attends silence s := attends_sessionAfter config env inputs onTun
  have slot := slot_sessionAfter config env inputs
  have counted := count_echoRequest config input onTun.isKernel slot
  refine ⟨fun works => ?_, ?_, fun sent => ?_⟩
  · have running : s.running = true := running_of_work works (by simp)
    have gives : GivesUp s input := (givesUp_iff_work (slot running)).mpr works
    have elapsed := gives.silent
    constructor
    · rw [attends.echoes running, gives.asked]
      rfl
    · rw [attends.since running]
      unfold seconds timerValHello at elapsed ⊢
      omega
  · by_cases due : EchoDue s input
    · rw [counted.1 due, attends.echoes due.running, due.fresh]
      exact le_rfl
    · rw [counted.2 due]
      exact attends.atMost
  · by_cases due : EchoDue s input
    · have elapsed := due.silent
      rw [attends.since due.running]
      unfold seconds timerValHello at elapsed ⊢
      omega
    · exact (List.count_eq_zero.mp (counted.2 due) sent).elim

/-- A tick at a given time. -/
def tickAt (now : Nat) : Input :=
  ⟨.event (.control (some .periodicTick)), { obligingEnv with now }⟩

/-- A peer that connects and is not heard of again, up to the tick after one hello interval. -/
def silentPeerRun : List Input :=
  readRun obligingEnv (networkStream ++ zeroCallConnected) 8 ++ [tickAt 60000]

theorem keepalive_silentPeerRun :
    let s := sessionAfter tunConfig obligingEnv silentPeerRun
    OnTun s ∧ s.work (tickAt 120000) = .sstp .helloTimeout ∧
      (silenceAfter tunConfig obligingEnv silentPeerRun).echoes = 1 := by
  intro s
  have onTun : OnTun s := ⟨by decide +kernel, by decide +kernel⟩
  have running : s.running = true := by decide +kernel
  have gives : GivesUp s (tickAt 120000) :=
    ⟨running, by decide +kernel, rfl, by decide +kernel, by decide +kernel, by decide +kernel⟩
  have works : s.work (tickAt 120000) = .sstp .helloTimeout :=
    (givesUp_iff_work (slot_sessionAfter tunConfig obligingEnv silentPeerRun running)).mp gives
  exact ⟨onTun, works, ((keepalive_of_onTun tunConfig obligingEnv silentPeerRun onTun
    (tickAt 120000)).1 works).1⟩

end SstpServer.Session
