import SstpServer.Session.Forwarding
import SstpServer.Session.Locals

/-!
# The timer slot of the call

The session has one slot for the timers of the state machine.  Each step of the machine
may start a timer, which replaces the one in the slot, or stop one by name.  Taken
together these requests keep exactly the timer in the slot that the state waits for.
-/

namespace SstpServer.Sstp

/-- The timer a state waits for. -/
def State.timer : State → Option Timer
  | .serverConnectRequestPending | .serverCallConnectedPending => some .negotiation
  | .callAbortPending => some .abortT1
  | .callAbortTimeoutPending => some .abortT2
  | .callDisconnectAckPending => some .disconnectT1
  | .callDisconnectTimeoutPending => some .disconnectT2
  | .serverCallConnected | .serverCallDisconnected => none

/-- The timer in the slot after a step. -/
def StepOut.slotTimer (out : StepOut) (armed : Option Timer) : Option Timer :=
  match out.timerStart with
  | some (which, _) =>
      if which ≠ .hello then some which else if armed = out.timerStop then none else armed
  | none => if armed = out.timerStop then none else armed

namespace StateMachine

/-- The slot suits the state. -/
def SlotSuits (armed : Option Timer) (ssm : StateMachine) : Prop :=
  ssm.state ≠ .serverCallDisconnected ∧ armed = ssm.state.timer

/-- The step leaves a slot that suits the state, unless it tears the connection down. -/
def KeepsSlot (armed : Option Timer) (result : StepOut × StateMachine) : Prop :=
  result.1.terminate = .none → SlotSuits (result.1.slotTimer armed) result.2

theorem keepsSlot_startAbort (armed : Option Timer) (ssm : StateMachine) (reason : AbortReason) :
    KeepsSlot armed (ssm.startAbort reason) :=
  fun _ => ⟨nofun, rfl⟩

theorem keepsSlot_silent {armed : Option Timer} {ssm : StateMachine}
    (suits : SlotSuits armed ssm) : KeepsSlot armed ({}, ssm) := by
  intro _
  refine ⟨suits.1, ?_⟩
  rw [← suits.2]
  cases armed <;> rfl

theorem keepsSlot_applyBinding (crypto : Crypto) {armed : Option Timer} {ssm : StateMachine}
    (binding : CryptoBinding) (packet : Wire.Bytes)
    (pending : ssm.state = .serverCallConnectedPending) (suits : SlotSuits armed ssm) :
    KeepsSlot armed (applyBinding crypto ssm binding packet) := by
  have negotiating : armed = some .negotiation := by rw [suits.2, pending]; rfl
  unfold applyBinding
  cases ssm.binding with
  | none => exact keepsSlot_startAbort _ _ _
  | some exchange =>
      dsimp only
      cases verify crypto binding exchange packet with
      | ok =>
          rw [negotiating]
          exact fun _ => ⟨nofun, rfl⟩
      | attribNotSupportedInMsg => exact keepsSlot_startAbort _ _ _
      | valueNotSupported => exact keepsSlot_startAbort _ _ _

theorem keepsSlot_onMessage (crypto : Crypto) {armed : Option Timer} {ssm : StateMachine}
    (message : ControlMessage) (nonce : Wire.Block 32) (suits : SlotSuits armed ssm) :
    KeepsSlot armed (onMessage crypto ssm message nonce) := by
  have silent := keepsSlot_silent suits
  cases message with
  | callConnectRequest protocolId =>
      simp only [onMessage, onCallConnectRequest]
      split_ifs with draining other unsupported
      · exact silent
      · exact keepsSlot_startAbort _ _ _
      · intro _
        exact ⟨suits.1, (silent rfl).2⟩
      · intro _
        have requested := not_not.mp other
        have negotiating : armed = some .negotiation := by rw [suits.2, requested]; rfl
        exact ⟨(by intro gone; cases gone), by rw [negotiating]; rfl⟩
  | callConnected binding =>
      simp only [onMessage, onCallConnectedStructural]
      split_ifs with draining other
      · exact silent
      · exact keepsSlot_startAbort _ _ _
      · exact keepsSlot_applyBinding crypto binding _ (not_not.mp other) suits
  | callDisconnect =>
      simp only [onMessage, onCallDisconnect]
      split
      case h_1 | h_2 | h_3 => exact silent
      all_goals exact fun _ => ⟨(by intro gone; cases gone), rfl⟩
  | callDisconnectAck =>
      simp only [onMessage, onCallDisconnectAck]
      split
      · intro kept
        cases kept
      case h_5 => exact keepsSlot_startAbort _ _ _
      all_goals exact silent
  | callAbort =>
      simp only [onMessage, onCallAbort]
      split
      case h_2 | h_3 => exact silent
      all_goals exact fun _ => ⟨(by intro gone; cases gone), rfl⟩
  | echoRequest =>
      simp only [onMessage, onEchoRequest]
      split
      · exact fun _ => ⟨suits.1, (silent rfl).2⟩
      case h_6 => exact keepsSlot_startAbort _ _ _
      all_goals exact silent
  | echoResponse =>
      simp only [onMessage, onEchoResponse]
      split
      · exact fun _ => ⟨suits.1, (silent rfl).2⟩
      case h_6 => exact keepsSlot_startAbort _ _ _
      all_goals exact silent
  | other packet => exact keepsSlot_startAbort _ _ _

theorem keepsSlot_run (crypto : Crypto) {armed : Option Timer} {ssm : StateMachine} {call : Call}
    (outside : call.isOutside) (suits : SlotSuits armed ssm) :
    KeepsSlot armed (ssm.run crypto call) := by
  have silent := keepsSlot_silent suits
  cases call with
  | httpsAccepted => exact outside.elim
  | message message nonce => exact keepsSlot_onMessage crypto message nonce suits
  | callConnected binding packet =>
      simp only [run, verifyCallConnected]
      split_ifs with other
      · exact keepsSlot_startAbort _ _ _
      · exact keepsSlot_applyBinding crypto binding packet (not_not.mp other) suits
  | dataPacket =>
      simp only [run, onDataPacket]
      split_ifs
      · exact fun _ => ⟨suits.1, (silent rfl).2⟩
      · exact silent
  | innerAuthCompleted hlak => exact silent
  | higherLayerDisconnect => exact fun _ => ⟨(by intro gone; cases gone), rfl⟩
  | helloTimeout =>
      intro kept
      cases kept
  | timer timer =>
      cases outside
      simp only [run, onTimer, onHelloExpired]
      split_ifs
      · exact silent
      · exact fun _ => ⟨suits.1, (silent rfl).2⟩

/-- The timer a state waits for leads on from an empty slot. -/
theorem keepsSlot_onTimer {ssm : StateMachine} {timer : Timer}
    (awaited : ssm.state.timer = some timer) : KeepsSlot none (ssm.onTimer timer) := by
  cases timer with
  | negotiation => exact keepsSlot_startAbort _ _ _
  | hello => cases state : ssm.state <;> simp [state, State.timer] at awaited
  | abortT1 => exact fun _ => ⟨nofun, rfl⟩
  | abortT2 => exact nofun
  | disconnectT1 => exact nofun
  | disconnectT2 => exact nofun

end StateMachine

end SstpServer.Sstp

namespace SstpServer.Session

open SstpServer.Wire
open SstpServer.Sstp
open SstpServer.Ppp
open SstpServer.Transition

/-! ## The slot of the session -/

/-- The timer in the slot is the one that the state waits for. -/
def TimerSuits (s : Session) : Prop :=
  StateMachine.SlotSuits (s.sstpTimer.map Prod.fst) s.ssm

/-- A handler after which the slot suits the state, if the session goes on. -/
def KeepsTimer (s s' : Session) : Prop :=
  TimerSuits s → s'.running = true → TimerSuits s'

section KeepsTimer

variable {s s' : Session}

theorem KeepsTimer.of_eq (state : s'.ssm.state = s.ssm.state) (timer : s'.sstpTimer = s.sstpTimer) :
    KeepsTimer s s' := by
  intro suits _
  unfold TimerSuits StateMachine.SlotSuits at suits ⊢
  rw [state, timer]
  exact suits

end KeepsTimer

theorem map_timerSlot (env : Env) (out : StepOut) (slot : Option (Timer × Nat)) :
    (timerSlot env out slot).map Prod.fst = out.slotTimer (slot.map Prod.fst) := by
  unfold timerSlot StepOut.slotTimer
  cases out.timerStart with
  | none =>
      dsimp only
      split_ifs <;> rfl
  | some start =>
      dsimp only
      split_ifs <;> rfl

theorem timerSuits_handleSstpStep {config : Config} {env : Env} {out : StepOut} {s : Session}
    (keeps : StateMachine.KeepsSlot (s.sstpTimer.map Prod.fst) (out, s.ssm))
    (survives : (s.handleSstpStep config env out).running = true) :
    TimerSuits (s.handleSstpStep config env out) := by
  rcases sstpTimer_handleSstpStep survives with ⟨slot, goesOn⟩
  unfold TimerSuits
  rw [slot, map_timerSlot, (acts_handleSstpStep config env out s).ssm]
  exact keeps goesOn

/-- Calls that do not come from the slot. -/
theorem keepsTimer_call (config : Config) (env : Env) (call : StateMachine.Call) {s t : Session}
    (outside : call.isOutside) (machine : t.ssm = (s.ssm.run config.crypto call).2)
    (slot : t.sstpTimer = s.sstpTimer) :
    KeepsTimer s (t.handleSstpStep config env (s.ssm.run config.crypto call).1) := by
  intro suits survives
  apply timerSuits_handleSstpStep _ survives
  rw [slot, machine]
  exact StateMachine.keepsSlot_run config.crypto outside suits

theorem keepsTimer_handlePppStep (config : Config) (env : Env) (fuel : Nat) (step : PppStep)
    (ppp : Ppp) {s t : Session} (machine : t.ssm = s.ssm) (slot : t.sstpTimer = s.sstpTimer) :
    KeepsTimer s (handlePppStep config env fuel step ppp t) := by
  apply KeepsTimer.of_eq
  · rw [(acts_handlePppStep config env fuel step ppp t).ssm, machine]
  · exact (sparesLoop_handlePppStep config env fuel step ppp t).sstpTimer.trans slot

/-! ## Work -/

theorem keepsTimer_perform (config : Config) (env : Env) {work : Work}
    (unprompted : work.Unprompted) (s : Session) : KeepsTimer s (s.perform config env work) := by
  cases work with
  | nothing => exact .of_eq rfl rfl
  | sstp call => exact keepsTimer_call config env call unprompted rfl rfl
  | ppp step ppp => exact keepsTimer_handlePppStep config env _ _ _ rfl rfl
  | toTun packet => exact .of_eq rfl rfl
  | fromTun packet frame =>
      have written := acts_perform config env (.fromTun packet frame) s
      have outputs := (outputs_writeFrame env frame (s.push (.fromTun packet))).andThen
        (outputs_tlsFlush env _)
      exact .of_eq (congrArg StateMachine.state written.ssm) outputs.spares.sstpTimer

theorem keepsTimer_turn {config : Config} {env : Env} {work : Work} {cause : SessionEnd}
    {s s' : Session} (turn : Turn config env work cause s s') : KeepsTimer s s' := by
  rcases turn with ⟨t, prepares, tidied⟩
  intro suits survives
  apply KeepsTimer.of_eq tidied.settles.state tidied.settles.sstpTimer _ survives
  have performed := tidied.settles.running survives
  rcases prepares.fired with ⟨unprompted, slot⟩ | ⟨empty, which, deadline, slot, rfl⟩
  · apply keepsTimer_perform config env unprompted t _ performed
    unfold TimerSuits
    rw [prepares.readies.ssm, slot]
    exact suits
  · -- The timer that fires is the one that the state waits for.
    apply timerSuits_handleSstpStep _ performed
    have awaited : t.ssm.state.timer = some which := by
      rw [prepares.readies.ssm, ← suits.2, slot]
      rfl
    rw [empty]
    exact StateMachine.keepsSlot_onTimer awaited

/-! ## Runs -/

/-- While the task runs, the slot suits the state. -/
def TimerSuitsRunning (s : Session) : Prop :=
  s.running = true → TimerSuits s

theorem timerSuitsRunning_settle (config : Config) (env : Env) {s : Session}
    (suits : TimerSuitsRunning s) : TimerSuitsRunning (s.settle config env) := by
  intro running
  have settled := settle_of_running running
  rw [settled] at running ⊢
  exact suits running

theorem timerSuitsRunning_step (config : Config) (s : Session) (input : Input)
    (suits : TimerSuitsRunning s) : TimerSuitsRunning (s.step config input) := by
  unfold step
  by_cases running : s.running = true
  · rw [if_pos running]
    apply timerSuitsRunning_settle
    exact keepsTimer_turn (turn_handle config running input) (suits running)
  · rw [if_neg running]
    exact suits

/-- Each timer is in the slot exactly in the states that wait for it, and the timer that
fires is the one that the state waits for. -/
structure TimerAgrees (s : Session) : Prop where
  negotiation : s.sstpTimer.map Prod.fst = some .negotiation ↔
    s.ssm.state = .serverConnectRequestPending ∨ s.ssm.state = .serverCallConnectedPending
  abortT1 : s.sstpTimer.map Prod.fst = some .abortT1 ↔ s.ssm.state = .callAbortPending
  abortT2 : s.sstpTimer.map Prod.fst = some .abortT2 ↔ s.ssm.state = .callAbortTimeoutPending
  disconnectT1 : s.sstpTimer.map Prod.fst = some .disconnectT1 ↔
    s.ssm.state = .callDisconnectAckPending
  disconnectT2 : s.sstpTimer.map Prod.fst = some .disconnectT2 ↔
    s.ssm.state = .callDisconnectTimeoutPending
  empty : s.sstpTimer = none ↔ s.ssm.state = .serverCallConnected
  hello : s.sstpTimer.map Prod.fst ≠ some .hello
  fired (env : Env) (which : Timer) :
    s.work ⟨.event .sstpTimer, env⟩ = .sstp (.timer which) → s.ssm.state.timer = some which

/-- The states that wait for each timer. -/
theorem State.timer_iff (state : State) :
    (state.timer = some .negotiation ↔
        state = .serverConnectRequestPending ∨ state = .serverCallConnectedPending) ∧
      (state.timer = some .abortT1 ↔ state = .callAbortPending) ∧
      (state.timer = some .abortT2 ↔ state = .callAbortTimeoutPending) ∧
      (state.timer = some .disconnectT1 ↔ state = .callDisconnectAckPending) ∧
      (state.timer = some .disconnectT2 ↔ state = .callDisconnectTimeoutPending) ∧
      (state.timer = none ↔ state = .serverCallConnected ∨ state = .serverCallDisconnected) ∧
      state.timer ≠ some .hello := by
  cases state <;> decide

theorem TimerSuits.agrees {s : Session} (suits : TimerSuits s) : TimerAgrees s := by
  rcases suits with ⟨connecting, armed⟩
  have empty : s.sstpTimer = none ↔ s.ssm.state.timer = none := by
    rw [← armed, Option.map_eq_none_iff]
  have fired : ∀ env which, s.work ⟨.event .sstpTimer, env⟩ = .sstp (.timer which) →
      s.ssm.state.timer = some which := by
    intro env which works
    generalize same : StateMachine.Call.timer which = call at works
    cases assigned_of_work works with
    | sstpTimer _ deadline slot =>
        cases same
        rw [← armed, slot]
        rfl
    | hello _ _ tick => cases tick
    | message _ _ move => cases move
    | _ => cases same
  rcases State.timer_iff s.ssm.state with
    ⟨negotiation, abortT1, abortT2, disconnectT1, disconnectT2, quiet, hello⟩
  rw [← armed] at negotiation abortT1 abortT2 disconnectT1 disconnectT2 hello
  rw [or_iff_left connecting] at quiet
  exact ⟨negotiation, abortT1, abortT2, disconnectT1, disconnectT2, empty.trans quiet, hello, fired⟩

/-- In every state of every run the timer slot agrees with the state of the call. -/
theorem timerAgrees_of_mem_states (config : Config) (env : Env) (inputs : List Input)
    (s : Session) (reached : s ∈ states (step config) (start config env) inputs)
    (running : s.running = true) : TimerAgrees s := by
  rcases mem_states_iff.mp reached with ⟨before, after, -, rfl⟩
  have initially : TimerSuitsRunning (start config env) := by
    intro _
    rw [start_eq]
    exact ⟨nofun, rfl⟩
  exact (finalState_invariant (timerSuitsRunning_step config) initially before running).agrees

/-- While PPP has come up and the call waits for Call-Connected, the negotiation timer runs. -/
theorem timerAgrees_networkStream :
    let s := sessionAfter tunConfig obligingEnv (readRun obligingEnv networkStream 6)
    s.running = true ∧ s.ssm.state = .serverCallConnectedPending ∧ TimerAgrees s := by
  intro s
  have now : s.running = true ∧ s.ssm.state = .serverCallConnectedPending := by decide +kernel
  have reached : s ∈ states (step tunConfig) (start tunConfig obligingEnv)
      (readRun obligingEnv networkStream 6) :=
    mem_states_iff.mpr ⟨_, [], (List.append_nil _).symm, rfl⟩
  exact ⟨now.1, now.2, timerAgrees_of_mem_states _ _ _ _ reached now.1⟩

end SstpServer.Session
