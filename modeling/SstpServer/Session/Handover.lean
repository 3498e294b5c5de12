import SstpServer.Kmod.Demux
import SstpServer.Session.SingleWriter

/-!
# Handing the stream over to the kernel

Until the kernel session is up, the task reads the stream of the peer and works off its
packets; from then on the kernel module reads what follows.  Nothing of the stream gets
lost between the two exactly when the reads of the task end with the packet that brings
the kernel session up.
-/

namespace SstpServer.Session

open SstpServer.Wire
open SstpServer.Sstp
open SstpServer.Ppp
open SstpServer.Kmod
open SstpServer.Iteration
open SstpServer.Transition

/-! ## The stream and its packets -/

/-- The bytes an event brings. -/
def Event.chunk : Event → Bytes
  | .read (.ok chunk) => chunk
  | _ => []

/-- The bytes a step reads from the TLS stream. -/
def bytesRead (s : Session) (input : Input) : Bytes :=
  match s.running, s.point, input.move with
  | true, .select, .event event => if s.enabled input.env event then event.chunk else []
  | _, _, _ => []

/-- The packet of the read buffer that a step handles. -/
def packetHandled (s : Session) (input : Input) : Option Bytes :=
  match s.running, s.point, input.move, Packet.parse s.rxBuf with
  | true, .reading, .packet, .ok (_, used) => some (s.rxBuf.take used)
  | _, _, _, _ => none

/-- The bytes read from the TLS stream in a run. -/
def streamRead (config : Config) (env : Env) (inputs : List Input) : Bytes :=
  (visits (step config) (start config env) inputs).flatMap fun visit =>
    bytesRead visit.1 visit.2

/-- The packets handled in a run. -/
def packetsHandled (config : Config) (env : Env) (inputs : List Input) : List Bytes :=
  (visits (step config) (start config env) inputs).filterMap fun visit =>
    packetHandled visit.1 visit.2

theorem streamRead_append_cons (config : Config) (env : Env) (before : List Input) (input : Input)
    (after : List Input) :
    streamRead config env (before ++ input :: after) =
      streamRead config env before ++ (bytesRead (sessionAfter config env before) input ++
        (visits (step config) ((sessionAfter config env before).step config input) after).flatMap
          fun visit => bytesRead visit.1 visit.2) := by
  rw [streamRead, visits_append, visits_cons, List.flatMap_append, List.flatMap_cons]
  rfl

theorem packetsHandled_append_cons (config : Config) (env : Env) (before : List Input)
    (input : Input) (after : List Input) :
    packetsHandled config env (before ++ input :: after) =
      packetsHandled config env before ++
        ((packetHandled (sessionAfter config env before) input).toList ++
          (visits (step config) ((sessionAfter config env before).step config input)
            after).filterMap fun visit => packetHandled visit.1 visit.2) := by
  rw [packetsHandled, visits_append, visits_cons, List.filterMap_append, List.filterMap_cons]
  cases handled : packetHandled (sessionAfter config env before) input <;>
    simp only [sessionAfter] at handled <;> rw [handled] <;> rfl

theorem whole_of_packetHandled {s : Session} {input : Input} {packet : Bytes}
    (handled : packetHandled s input = some packet) :
    sstpFraming.Whole packet ∧ s.rxBuf = packet ++ s.rxBuf.drop packet.length := by
  unfold packetHandled at handled
  split at handled
  · rename_i used _ _ _ parsed
    have head := head_of_parse parsed
    cases handled
    have sized : (s.rxBuf.take used).length = used := by
      rw [List.length_take, Nat.min_eq_left (sstpFraming.complete head)]
    refine ⟨sstpFraming.whole_take head, ?_⟩
    rw [sized, List.take_append_drop]
  · cases handled

theorem reading_of_packetHandled {s : Session} {input : Input} {packet : Bytes}
    (handled : packetHandled s input = some packet) :
    s.running = true ∧ s.point = .reading := by
  unfold packetHandled at handled
  split at handled
  · rename_i running reading _ _
    exact ⟨running, reading⟩
  · cases handled

/-! ## A turn of the loop -/

theorem andThen_rxBuf {next : Session → Session} {s s' : Session} (kept : s'.rxBuf = s.rxBuf)
    (keeps : ∀ t : Session, (next t).rxBuf = t.rxBuf) : (s'.andThen next).rxBuf = s.rxBuf := by
  unfold andThen
  split_ifs
  · exact (keeps s').trans kept
  · exact kept

theorem loopHead_rxBuf (env : Env) (s : Session) : (s.loopHead env).rxBuf = s.rxBuf := by
  rw [loopHead_eq]

/-- The head of the loop has nothing left to do: it polls a kernel session, the state machine
has the HLAK, and the policy of a session with a data path is applied. -/
structure AtRest (s : Session) : Prop where
  pendingHlak : s.pendingHlak = none
  polls : s.isKernel = true → s.kmodFd = true
  pendingPolicy : s.kppp.isSome → s.pendingPolicy = none

theorem atRest_loopHead {env : Env} {s : Session} (running : (s.loopHead env).running = true) :
    AtRest (s.loopHead env) := by
  have drained : s.drainHlak.pendingHlak = none := by
    rw [drainHlak_eq]
  have polled : ∀ t : Session, (t.pollKernel env).pendingHlak = t.pendingHlak ∧
      ((t.pollKernel env).running = true → (t.pollKernel env).isKernel = true →
        (t.pollKernel env).kmodFd = true) := by
    intro t
    unfold pollKernel
    split_ifs with fresh
    · exact ⟨rfl, fun _ _ => rfl⟩
    · exact ⟨rfl, nofun⟩
    · refine ⟨rfl, fun _ isKernel => ?_⟩
      by_contra idle
      exact fresh ⟨idle, isKernel⟩
  have applied : ∀ t : Session, (t.applyPolicy env).pendingHlak = t.pendingHlak ∧
      (t.applyPolicy env).isKernel = t.isKernel ∧ (t.applyPolicy env).kmodFd = t.kmodFd ∧
      ((t.applyPolicy env).kppp.isSome → (t.applyPolicy env).pendingPolicy = none) := by
    intro t
    unfold applyPolicy
    cases up : t.kppp with
    | none => exact ⟨rfl, rfl, rfl, by simp [up]⟩
    | some kppp =>
        cases policy : t.pendingPolicy with
        | none => exact ⟨rfl, rfl, rfl, fun _ => policy⟩
        | some policy => exact ⟨rfl, by simp [isKernel, up], rfl, fun _ => rfl⟩
  unfold loopHead andThen at *
  split_ifs at * with going
  · rcases applied (s.drainHlak.pollKernel env) with ⟨hlak, kernel, fd, policy⟩
    constructor
    · rw [hlak, (polled _).1, drained]
    · rw [kernel, fd]
      exact (polled _).2 going
    · exact policy
  · exact (going running).elim

theorem loopHead_of_atRest {s : Session} (rests : AtRest s) (env : Env) : s.loopHead env = s := by
  have drained : s.drainHlak = s := by
    rw [drainHlak, rests.pendingHlak]
  have polled : s.pollKernel env = s := by
    rw [pollKernel, if_neg]
    rintro ⟨unpolled, kernel⟩
    exact unpolled (rests.polls kernel)
  have applied : s.applyPolicy env = s := by
    unfold applyPolicy
    split
    · rename_i up policy
      rw [rests.pendingPolicy (by rw [up]; rfl)] at policy
      cases policy
    · rfl
  rw [loopHead, drained, polled, andThen, applied, ite_self]

theorem acctInterim_rxBuf (config : Config) (env : Env) (s : Session) :
    (s.acctInterim config env).rxBuf = s.rxBuf := by
  rw [acctInterim_eq]

theorem helloCheck_rxBuf (config : Config) (env : Env) (s : Session) :
    (s.helloCheck config env).rxBuf = s.rxBuf := by
  unfold helloCheck
  dsimp only
  split_ifs
  · rfl
  · exact (acts_handleSstpStep config env _ _).rxBuf
  · exact (acts_handleSstpStep config env _ _).rxBuf
  · rfl

theorem onSstpTimer_rxBuf (config : Config) (env : Env) (s : Session) :
    (s.onSstpTimer config env).rxBuf = s.rxBuf := by
  unfold onSstpTimer
  split
  · rfl
  · exact (acts_handleSstpStep config env _ _).rxBuf

theorem onPppTimer_rxBuf (config : Config) (env : Env) (s : Session) :
    (s.onPppTimer config env).rxBuf = s.rxBuf := by
  unfold onPppTimer
  split
  · exact (acts_handlePppStep config env _ _ _ _).rxBuf
  · rfl

theorem onTunPacket_rxBuf (env : Env) (packet : Bytes) (s : Session) :
    (s.onTunPacket env packet).rxBuf = s.rxBuf := by
  unfold onTunPacket
  split_ifs
  · rfl
  · split
    · rfl
    · exact ((acts_writeFrame env (List.mem_singleton_self _) _).andThen (acts_tlsFlush _ env _)).rxBuf

/-- Only a read adds to the read buffer. -/
theorem onEvent_rxBuf (config : Config) (env : Env) (event : Event) (s : Session) :
    (s.onEvent config env event).rxBuf = s.rxBuf ++ event.chunk := by
  have disconnects : ∀ cause, (s.disconnect config env cause).rxBuf = s.rxBuf :=
    fun cause => (acts_handleSstpStep config env _ _).rxBuf
  unfold onEvent
  cases event with
  | read result =>
      cases result with
      | error _ => exact (List.append_nil _).symm
      | ok chunk =>
          dsimp only [Event.chunk]
          split_ifs with empty
          · rw [empty, List.append_nil]
            rfl
          · rfl
  | drain => simpa [Event.chunk] using disconnects _
  | control command =>
      rcases command with _ | reason | requestPeer | _
      · exact (List.append_nil _).symm
      · simpa [Event.chunk] using disconnects _
      · exact (List.append_nil _).symm
      · simpa [Event.chunk] using
          andThen_rxBuf (helloCheck_rxBuf config env s) (acctInterim_rxBuf config env)
  | sstpTimer => simpa [Event.chunk] using onSstpTimer_rxBuf config env s
  | pppTimer => simpa [Event.chunk] using onPppTimer_rxBuf config env s
  | kpppRead result =>
      cases result with
      | error _ => exact (List.append_nil _).symm
      | ok packet => simpa [Event.chunk] using onTunPacket_rxBuf env packet s
  | kmodEvents result => cases result <;> exact (List.append_nil _).symm
  | sessionTimeout => exact (List.append_nil _).symm
  | idleTimeout => exact (List.append_nil _).symm

/-- A step that leaves the task running moves bytes from the stream to the read buffer
and packets out of it, and waits only when the head of the loop is done. -/
structure Turns (s : Session) (input : Input) (s' : Session) : Prop where
  rxBuf : s.rxBuf ++ bytesRead s input = (packetHandled s input).getD [] ++ s'.rxBuf
  rests : s' = s ∨ (s'.point = .select → AtRest s')

theorem Turns.refl {s : Session} {input : Input} (unread : bytesRead s input = [])
    (unhandled : packetHandled s input = none) : Turns s input s :=
  ⟨by rw [unread, unhandled]; exact List.append_nil _, .inl rfl⟩

theorem Turns.loopHead {s t : Session} {input : Input} {env : Env} (kept : t.rxBuf = s.rxBuf)
    (unread : bytesRead s input = []) (unhandled : packetHandled s input = none)
    (running : (t.loopHead env).running = true) : Turns s input (t.loopHead env) := by
  refine ⟨?_, .inr fun _ => atRest_loopHead running⟩
  rw [unread, unhandled, loopHead_rxBuf, kept]
  exact List.append_nil _

/-- The packet is taken off the read buffer once it has been dealt with. -/
theorem Turns.consume {s t : Session} {input : Input} {used : Nat} (kept : t.rxBuf = s.rxBuf)
    (point : t.point = .reading) (unread : bytesRead s input = [])
    (handled : packetHandled s input = some (s.rxBuf.take used))
    (running : (t.andThen fun t => { t with rxBuf := t.rxBuf.drop used }).running = true) :
    Turns s input (t.andThen fun t => { t with rxBuf := t.rxBuf.drop used }) := by
  unfold andThen at running ⊢
  split_ifs at running ⊢ with going
  · refine ⟨?_, .inr fun waiting => ?_⟩
    · simp only [unread, handled, kept, List.append_nil, Option.getD_some, List.take_append_drop]
    · exact absurd (point.symm.trans waiting) nofun
  · exact (going running).elim

theorem acts_onData (config : Config) (env : Env) (payload : Bytes) (s : Session) :
    Acts (fun _ => True) s (s.onData config env payload) := by
  have any : ∀ {kind : Effect → Prop} (effect : Effect), kind effect → True :=
    fun _ _ => trivial
  refine ((acts_handleSstpStep config env _ s).mono any).andThen ?_
  have fed := fun t : Session => (acts_feedPpp config env payload t).mono any
  unfold routeFrame
  split
  · exact fed _
  · dsimp only
    split
    · exact acts_push trivial _
    · exact .refl _ _
    · exact .refl _ _
    · exact fed _

theorem turns_onPacket {config : Config} {s : Session} {input : Input}
    (reading : s.point = .reading) (running : s.running = true) (move : input.move = .packet)
    (survives : (s.onPacket config input.env).running = true) :
    Turns s input (s.onPacket config input.env) := by
  have unread : bytesRead s input = [] := by simp [bytesRead, reading]
  unfold onPacket at survives ⊢
  cases parsed : Packet.parse s.rxBuf with
  | error error =>
      have unhandled : packetHandled s input = none := by simp [packetHandled, parsed]
      rw [parsed] at survives
      cases error
      case truncated => exact .loopHead rfl unread unhandled survives
      case lengthMismatch => exact .loopHead rfl unread unhandled survives
      all_goals simp [Session.running, stop] at survives
  | ok result =>
      obtain ⟨packet, used⟩ := result
      have handled : packetHandled s input = some (s.rxBuf.take used) := by
        simp [packetHandled, running, reading, move, parsed]
      rw [parsed] at survives
      cases packet with
      | data payload =>
          have acts := acts_onData config input.env payload s
          exact .consume acts.rxBuf (acts.point.trans reading) unread handled survives
      | control packet =>
          dsimp only at survives ⊢
          cases message : parseControl packet with
          | error _ => simp [message, Session.running, stop] at survives
          | ok message' =>
              rw [message] at survives
              have acts := acts_handleSstpStep config input.env
                (dispatchControl config.crypto s.ssm message' s.rxBuf input.env.nonce).1
                { s with
                  ssm := (dispatchControl config.crypto s.ssm message' s.rxBuf
                    input.env.nonce).2 }
              exact .consume acts.rxBuf (acts.point.trans reading) unread handled survives

theorem keeps_onKernelControl (config : Config) (env : Env) (payload : Bytes) (s : Session) :
    (s.onKernelControl config env payload).rxBuf = s.rxBuf ∧
      (s.onKernelControl config env payload).point = s.point := by
  have handled : ∀ (out : StepOut) (ssm : StateMachine),
      ({ s with ssm }.handleSstpStep config env out).rxBuf = s.rxBuf ∧
        ({ s with ssm }.handleSstpStep config env out).point = s.point := by
    intro out ssm
    have acts := acts_handleSstpStep config env out { s with ssm }
    exact ⟨acts.rxBuf, acts.point⟩
  unfold onKernelControl
  split
  · exact ⟨rfl, rfl⟩
  · split_ifs
    · exact ⟨rfl, rfl⟩
    · exact handled _ _
  · exact handled _ _

theorem keeps_onKmodEvent (config : Config) (env : Env) {s : Session} {event : KmodEvent}
    {rest : List KmodEvent} (point : s.point = .events (event :: rest)) :
    (s.onKmodEvent config env).rxBuf = s.rxBuf ∧
      (s.onKmodEvent config env).point = .events rest := by
  unfold onKmodEvent
  rw [point]
  rcases event with (_ | _ | payload) | _
  case controlPacket.ok.some => exact keeps_onKernelControl config env payload _
  all_goals exact ⟨rfl, rfl⟩

theorem turns_onKmodEvent {config : Config} {s : Session} {input : Input}
    {pending : List KmodEvent} (point : s.point = .events pending)
    (survives : (s.onKmodEvent config input.env).running = true) :
    Turns s input (s.onKmodEvent config input.env) := by
  have unread : bytesRead s input = [] := by simp [bytesRead, point]
  have unhandled : packetHandled s input = none := by simp [packetHandled, point]
  cases pending with
  | nil =>
      unfold onKmodEvent at survives ⊢
      rw [point] at survives ⊢
      exact .loopHead rfl unread unhandled survives
  | cons event rest =>
      obtain ⟨kept, moved⟩ := keeps_onKmodEvent config input.env point
      refine ⟨?_, .inr fun waiting => absurd (moved.symm.trans waiting) nofun⟩
      rw [unread, unhandled, kept]
      exact List.append_nil _

theorem turns_onEvent {config : Config} {s : Session} {input : Input} {event : Event}
    (waiting : s.point = .select) (running : s.running = true)
    (move : input.move = .event event) (armed : s.enabled input.env event = true)
    (survives : ((s.onEvent config input.env event).andThen fun s =>
      if s.point = .select then s.loopHead input.env else s).running = true) :
    Turns s input ((s.onEvent config input.env event).andThen fun s =>
      if s.point = .select then s.loopHead input.env else s) := by
  have read : bytesRead s input = event.chunk := by
    simp [bytesRead, running, waiting, move, armed]
  have unhandled : packetHandled s input = none := by simp [packetHandled, waiting]
  have added := onEvent_rxBuf config input.env event s
  unfold andThen at survives ⊢
  dsimp only at survives ⊢
  split_ifs at survives ⊢ with going again
  · refine ⟨?_, .inr fun _ => atRest_loopHead survives⟩
    rw [read, unhandled, loopHead_rxBuf, added]
    rfl
  · refine ⟨?_, .inr fun idle => (again idle).elim⟩
    rw [read, unhandled, added]
    rfl
  · exact (going survives).elim

theorem turns_step {config : Config} {s : Session} {input : Input}
    (survives : (s.step config input).running = true) : Turns s input (s.step config input) := by
  by_cases running : s.running = true
  · have handled : s.step config input = s.handle config input := by
      unfold step at survives ⊢
      rw [if_pos running] at survives ⊢
      exact settle_of_running survives
    rw [handled] at survives ⊢
    unfold handle at survives ⊢
    cases point : s.point with
    | select =>
        have unhandled : packetHandled s input = none := by simp [packetHandled, point]
        cases move : input.move with
        | event event =>
            simp only [point, move] at survives ⊢
            split_ifs at survives ⊢ with armed
            · exact turns_onEvent point running move armed survives
            · exact .refl (by simp [bytesRead, running, point, move, armed]) unhandled
        | packet => exact .refl (by simp [bytesRead, move]) unhandled
        | kmodEvent => exact .refl (by simp [bytesRead, move]) unhandled
    | reading =>
        have unread : bytesRead s input = [] := by simp [bytesRead, point]
        cases move : input.move with
        | event event => exact .refl unread (by simp [packetHandled, move])
        | packet =>
            simp only [point, move] at survives ⊢
            exact turns_onPacket point running move survives
        | kmodEvent => exact .refl unread (by simp [packetHandled, move])
    | events pending =>
        have unread : bytesRead s input = [] := by simp [bytesRead, point]
        have unhandled : packetHandled s input = none := by simp [packetHandled, point]
        cases move : input.move with
        | event event => exact .refl unread unhandled
        | packet => exact .refl unread unhandled
        | kmodEvent =>
            simp only [point, move] at survives ⊢
            exact turns_onKmodEvent point survives
  · have stopped : s.step config input = s := by rw [step, if_neg running]
    rw [stopped] at survives
    exact (running survives).elim

/-! ## No byte is lost before the hand-over -/

/-- What has been read is what has been handled, and the read buffer. -/
def Conserves (history : List (Session × Input)) (s : Session) : Prop :=
  s.running = true →
    (history.flatMap fun visit => bytesRead visit.1 visit.2) =
      (history.filterMap fun visit => packetHandled visit.1 visit.2).flatten ++ s.rxBuf

theorem Conserves.step {history : List (Session × Input)} {s : Session}
    (conserves : Conserves history s) (config : Config) (input : Input) :
    Conserves (history ++ [(s, input)]) (s.step config input) := by
  intro survives
  have listed : ([(s, input)].filterMap fun visit => packetHandled visit.1 visit.2).flatten =
      (packetHandled s input).getD [] := by
    cases handled : packetHandled s input <;> simp [handled]
  have read : ([(s, input)].flatMap fun visit => bytesRead visit.1 visit.2) =
      bytesRead s input := by simp
  rw [List.flatMap_append, conserves (running_of_step survives), List.filterMap_append,
    List.flatten_append, listed, read, List.append_assoc, List.append_assoc,
    (turns_step survives).rxBuf]

theorem start_rxBuf (config : Config) (env : Env) : (start config env).rxBuf = [] := by
  rw [start_eq]
  rfl

theorem streamRead_eq {config : Config} {env : Env} {inputs : List Input}
    (running : (sessionAfter config env inputs).running = true) :
    streamRead config env inputs =
      (packetsHandled config env inputs).flatten ++ (sessionAfter config env inputs).rxBuf := by
  have keeps : ∀ history s input, Conserves history s →
      Conserves (history ++ [(s, input)]) (Session.step config s input) :=
    fun _ _ input conserves => conserves.step config input
  have initially : Conserves [] (start config env) := by
    intro _
    rw [start_rxBuf]
    rfl
  have conserved : Conserves _ _ := visits_finalState_induction keeps initially inputs
  exact conserved running

theorem whole_of_mem_packetsHandled {config : Config} {env : Env} {inputs : List Input}
    {packet : Bytes} (member : packet ∈ packetsHandled config env inputs) :
    sstpFraming.Whole packet := by
  obtain ⟨visit, -, handled⟩ := List.mem_filterMap.mp member
  exact (whole_of_packetHandled handled).1

/-! ## After the hand-over -/

/-- The kernel module reads the stream, and the task has none of it left. -/
structure TakenOver (s : Session) : Prop where
  kernel : s.isKernel = true
  drained : s.rxBuf = []
  polls : s.point = .select → s.kmodFd = true

theorem TakenOver.bytesRead {s : Session} (taken : s.running = true → TakenOver s)
    (input : Input) : bytesRead s input = [] := by
  unfold Session.bytesRead
  split
  · rename_i event running waiting move
    have polls := (taken running).polls waiting
    split_ifs with armed
    · cases event with
      | read result => cases result <;> simp [enabled, polls] at armed
      | _ => rfl
    · rfl
  · rfl

theorem TakenOver.packetHandled {s : Session} (taken : s.running = true → TakenOver s)
    (input : Input) : packetHandled s input = none := by
  unfold Session.packetHandled
  split
  · rename_i running _ _ parsed
    rw [(taken running).drained] at parsed
    cases parsed
  · rfl

theorem TakenOver.step {s : Session} (taken : s.running = true → TakenOver s) (config : Config)
    (input : Input) (survives : (s.step config input).running = true) :
    TakenOver (s.step config input) := by
  have before := taken (running_of_step survives)
  have turned := turns_step survives
  have up : s.kppp.isSome := by
    have kernel := before.kernel
    cases path : s.kppp with
    | none => simp [isKernel, path] at kernel
    | some kppp => rfl
  have kernel : (s.step config input).isKernel = true := by
    rw [isKernel, kppp_step config input up]
    exact before.kernel
  refine ⟨kernel, ?_, fun waiting => ?_⟩
  · have moved := turned.rxBuf
    rw [before.drained, bytesRead taken, packetHandled taken] at moved
    exact moved.symm
  · rcases turned.rests with same | rests
    · rw [same] at waiting ⊢
      exact before.polls waiting
    · exact (rests waiting).polls kernel

/-- After the hand-over the task neither reads from the stream nor handles packets of it. -/
theorem TakenOver.run {s : Session} (taken : s.running = true → TakenOver s) (config : Config)
    (inputs : List Input) :
    ((visits (Session.step config) s inputs).flatMap fun visit =>
        Session.bytesRead visit.1 visit.2) = [] ∧
      ((visits (Session.step config) s inputs).filterMap fun visit =>
        Session.packetHandled visit.1 visit.2) = [] := by
  have keeps : ∀ (s : Session) (input : Input), (s.running = true → TakenOver s) →
      ((s.step config input).running = true → TakenOver (s.step config input)) :=
    fun s input taken => TakenOver.step taken config input
  constructor
  · refine List.flatMap_eq_nil_iff.mpr fun visit visited => ?_
    have reached : visit.1.running = true → TakenOver visit.1 :=
      invariant_of_mem_visits keeps taken visited
    exact bytesRead reached visit.2
  · refine List.filterMap_eq_nil_iff.mpr fun visit visited => ?_
    have reached : visit.1.running = true → TakenOver visit.1 :=
      invariant_of_mem_visits keeps taken visited
    exact packetHandled reached visit.2

/-! ## The hand-over -/

/-- The step handles a packet of the read buffer and brings the kernel session up. -/
structure Attaches (config : Config) (s : Session) (input : Input) (packet : Bytes) : Prop where
  handles : packetHandled s input = some packet
  fresh : s.isKernel = false
  kernel : (s.step config input).isKernel = true

/-- The read buffer holds nothing behind the packet, and however the run goes on, the
packets that the task handles and those that the kernel module cuts from what it receives
are together the packets of the stream. -/
structure HandsOver (config : Config) (env : Env) (before : List Input) (input : Input)
    (packet : Bytes) : Prop where
  drained : (sessionAfter config env before).rxBuf.drop packet.length = []
  resumes : ∀ after chunks,
    (packetsHandled config env (before ++ input :: after)).map RxFrame.ofPacket ++
        (RxSession.receive chunks).frames =
      (sstpFraming.frames (streamRead config env (before ++ input :: after) ++
        chunks.flatten)).map RxFrame.ofPacket

/-- The bytes read so far are whole packets, all but the last of them handled. -/
def ReadsEndWithPacket (config : Config) (env : Env) (before : List Input) : Prop :=
  sstpFraming.rest (streamRead config env before) = [] ∧
    (sstpFraming.frames (streamRead config env before)).length =
      (packetsHandled config env before).length + 1

section Attach

variable {config : Config} {env : Env} {before : List Input} {input : Input} {packet : Bytes}

/-- The stream so far is the handled packets, the packet at hand and what is behind it. -/
theorem streamRead_of_attaches
    (attaches : Attaches config (sessionAfter config env before) input packet) :
    streamRead config env before =
      (packetsHandled config env before ++ [packet]).flatten ++
        (sessionAfter config env before).rxBuf.drop packet.length := by
  have split := (whole_of_packetHandled attaches.handles).2
  rw [streamRead_eq (reading_of_packetHandled attaches.handles).1, List.flatten_append,
    List.flatten_singleton, List.append_assoc, ← split]

theorem whole_of_attaches
    (attaches : Attaches config (sessionAfter config env before) input packet) :
    ∀ other ∈ packetsHandled config env before ++ [packet], sstpFraming.Whole other := by
  intro other member
  rcases List.mem_append.mp member with earlier | last
  · exact whole_of_mem_packetsHandled earlier
  · rw [List.mem_singleton.mp last]
    exact (whole_of_packetHandled attaches.handles).1

theorem readsEndWithPacket_iff
    (attaches : Attaches config (sessionAfter config env before) input packet) :
    ReadsEndWithPacket config env before ↔
      (sessionAfter config env before).rxBuf.drop packet.length = [] := by
  have whole := whole_of_attaches attaches
  unfold ReadsEndWithPacket
  rw [streamRead_of_attaches attaches, sstpFraming.rest_flatten_append whole,
    sstpFraming.frames_flatten_append whole]
  generalize (sessionAfter config env before).rxBuf.drop packet.length = behind
  constructor
  · rintro ⟨noRest, counted⟩
    have noFrames : sstpFraming.frames behind = [] := by
      simpa using counted
    have all := sstpFraming.flatten_frames_append_rest behind
    rw [noRest, noFrames] at all
    exact all.symm
  · rintro rfl
    simp

theorem takenOver_of_attaches
    (attaches : Attaches config (sessionAfter config env before) input packet)
    (drained : (sessionAfter config env before).rxBuf.drop packet.length = [])
    (survives : ((sessionAfter config env before).step config input).running = true) :
    TakenOver ((sessionAfter config env before).step config input) := by
  have split := (whole_of_packetHandled attaches.handles).2
  have unread : bytesRead (sessionAfter config env before) input = [] := by
    simp [bytesRead, (reading_of_packetHandled attaches.handles).2]
  have turned := turns_step survives
  refine ⟨attaches.kernel, ?_, fun waiting => ?_⟩
  · have moved := turned.rxBuf
    rw [split, drained, unread, attaches.handles] at moved
    simpa using moved
  · rcases turned.rests with same | rests
    · have kernel := attaches.kernel
      rw [same, attaches.fresh] at kernel
      cases kernel
    · exact (rests waiting).polls attaches.kernel

/-- Once the task has nothing left, the stream goes on in the kernel module. -/
theorem resumes_of_drained
    (attaches : Attaches config (sessionAfter config env before) input packet)
    (drained : (sessionAfter config env before).rxBuf.drop packet.length = [])
    (after : List Input) :
    packetsHandled config env (before ++ input :: after) =
        packetsHandled config env before ++ [packet] ∧
      streamRead config env (before ++ input :: after) =
        (packetsHandled config env before ++ [packet]).flatten := by
  have unread : bytesRead (sessionAfter config env before) input = [] := by
    simp [bytesRead, (reading_of_packetHandled attaches.handles).2]
  have later := TakenOver.run (takenOver_of_attaches attaches drained) config after
  have stream := streamRead_of_attaches attaches
  rw [drained, List.append_nil] at stream
  constructor
  · rw [packetsHandled_append_cons, attaches.handles, later.2]
    rfl
  · rw [streamRead_append_cons, unread, later.1, stream]
    exact List.append_nil _

/-- The stream is handed over without loss exactly when the bytes read before it end with
the packet that brings the kernel session up. -/
theorem handsOver_iff
    (attaches : Attaches config (sessionAfter config env before) input packet) :
    HandsOver config env before input packet ↔ ReadsEndWithPacket config env before := by
  rw [readsEndWithPacket_iff attaches]
  constructor
  · exact HandsOver.drained
  · intro drained
    refine ⟨drained, fun after chunks => ?_⟩
    obtain ⟨handled, stream⟩ := resumes_of_drained attaches drained after
    rw [handled, stream, sstpFraming.frames_flatten_append (whole_of_attaches attaches),
      (RxSession.cuts_receive chunks).frames, ← List.map_append]

end Attach

/-- A call with PAP that is read up to the packet that brings the kernel session up. -/
def attachRun (chunk : Bytes) : List Input :=
  readRun obligingEnv chunk 5

instance (config : Config) (s : Session) (input : Input) (packet : Bytes) :
    Decidable (Attaches config s input packet) :=
  decidable_of_iff
    (packetHandled s input = some packet ∧ s.isKernel = false ∧
      (s.step config input).isKernel = true)
    ⟨fun ⟨handles, fresh, kernel⟩ => ⟨handles, fresh, kernel⟩,
      fun ⟨handles, fresh, kernel⟩ => ⟨handles, fresh, kernel⟩⟩

instance (config : Config) (env : Env) (before : List Input) :
    Decidable (ReadsEndWithPacket config env before) :=
  inferInstanceAs (Decidable (_ ∧ _))

/-- A read that ends with the last IPCP packet hands the stream over. -/
theorem handsOver_networkStream :
    Attaches kernelConfig (sessionAfter kernelConfig obligingEnv (attachRun networkStream))
        ⟨.packet, obligingEnv⟩ (peerData peerIpcpRequest) ∧
      HandsOver kernelConfig obligingEnv (attachRun networkStream) ⟨.packet, obligingEnv⟩
        (peerData peerIpcpRequest) := by
  have attaches : Attaches kernelConfig
      (sessionAfter kernelConfig obligingEnv (attachRun networkStream))
      ⟨.packet, obligingEnv⟩ (peerData peerIpcpRequest) := by decide +kernel
  exact ⟨attaches, (handsOver_iff attaches).mpr (by decide +kernel)⟩

/-- A read that goes on with the header of an IP packet. -/
def splitStream : Bytes :=
  networkStream ++ (peerData peerIpPacket).take sstpHeaderLen

/-- The header stays behind in the task, and the kernel module takes the rest of the
packet for a broken header. -/
theorem not_handsOver_splitStream :
    Attaches kernelConfig (sessionAfter kernelConfig obligingEnv (attachRun splitStream))
        ⟨.packet, obligingEnv⟩ (peerData peerIpcpRequest) ∧
      ¬HandsOver kernelConfig obligingEnv (attachRun splitStream) ⟨.packet, obligingEnv⟩
        (peerData peerIpcpRequest) ∧
      (RxSession.receive [(peerData peerIpPacket).drop sstpHeaderLen]).frames = [] ∧
      (RxSession.receive [(peerData peerIpPacket).drop sstpHeaderLen]).events =
        [.protocolError 0xFF] := by
  have left : (sessionAfter kernelConfig obligingEnv (attachRun splitStream)).rxBuf.drop
      (peerData peerIpcpRequest).length ≠ [] := by decide +kernel
  refine ⟨by decide +kernel, fun handsOver => left handsOver.drained, ?_, ?_⟩
  · decide +kernel
  · decide +kernel

end SstpServer.Session
