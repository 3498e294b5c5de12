import SstpServer.Session.PacketTurns

/-!
# Reading a stream and replaying it

A session reads a stream in chunks and works off the packets that each of them completes.
A replay of the stream meets the same packets one by one.  The session keeps up with the
replay until a packet meets an HLAK that has not reached the state machine.
-/

namespace SstpServer.Session

open SstpServer.Wire
open SstpServer.Sstp
open SstpServer.Ppp
open SstpServer.Iteration

/-! ## Reading a stream -/

/-- A session that reads a stream, and the steps it has taken. -/
structure Reading where
  session : Session
  history : List (Session × Input)

namespace Reading

def take (config : Config) (r : Reading) (input : Input) : Reading where
  session := r.session.step config input
  history := r.history ++ [(r.session, input)]

/-- The calls made to the state machine. -/
def calls (r : Reading) : List StateMachine.Call :=
  r.history.flatMap fun visit => visit.1.fedCalls visit.2

/-- The number of packets that were handled. -/
def handled (r : Reading) : Nat :=
  (r.history.filterMap fun visit => packetHandled visit.1 visit.2).length

/-- A turn of the packet loop.  The environment answers by the number of the packet. -/
def packet (config : Config) (envs : Nat → Env) (r : Reading) : Reading :=
  r.take config ⟨.packet, envs r.handled⟩

/-- Work off the read buffer, in at most `fuel` turns. -/
def workOff (config : Config) (envs : Nat → Env) : Nat → Reading → Reading
  | 0, r => r
  | fuel + 1, r =>
      if r.session.running ∧ r.session.point = .reading then
        workOff config envs fuel (r.packet config envs)
      else r

/-- Read a chunk and work off the read buffer. -/
def read (config : Config) (envs : Nat → Env) (r : Reading) (chunk : Bytes) : Reading :=
  let r := r.take config ⟨.event (.read (.ok chunk)), envs r.handled⟩
  r.workOff config envs (r.session.rxBuf.length + 1)

end Reading

/-- A new session reads a stream in chunks. -/
def readAll (config : Config) (envs : Nat → Env) (chunks : List Bytes) : Reading :=
  chunks.foldl (Reading.read config envs) ⟨start config (envs 0), []⟩

/-- A way of splitting the stream into reads. -/
structure Splits (stream : Bytes) (chunks : List Bytes) : Prop where
  flatten : chunks.flatten = stream
  sized : ∀ chunk ∈ chunks, chunk ≠ [] ∧ chunk.length ≤ chunkLen

/-! ## Replaying a stream -/

/-- A session that meets the packets of a stream one by one, and hands a captured HLAK on
before it meets the next. -/
structure Replay where
  session : Session
  handled : Nat
  calls : List StateMachine.Call

/-- The calls for a captured HLAK of a session that goes on. -/
def waitingCalls (s : Session) : List StateMachine.Call :=
  if s.running then s.heldCalls else []

namespace Replay

/-- Meet a packet that is alone in the read buffer. -/
def meet (config : Config) (oracle : Nat → Env) (q : Replay) (packet : Bytes) : Replay :=
  if q.session.running then
    let s := { q.session with rxBuf := packet, point := .reading }
    let input : Input := ⟨.packet, oracle q.handled⟩
    let next := s.step config input
    { session := next.andThen drainHlak
      handled := q.handled + 1
      calls := q.calls ++ s.fedCalls input ++ next.waitingCalls }
  else q

/-- Meet bytes that no packet can start with. -/
def halt (config : Config) (oracle : Nat → Env) (q : Replay) : Replay :=
  if q.session.running then
    { q with session := q.session.stop.settle config (oracle q.handled) }
  else q

/-- Meet what a buffer holds. -/
def through (config : Config) (oracle : Nat → Env) (q : Replay) (buf : Bytes) : Replay :=
  let q := (taskFraming.frames buf).foldl (meet config oracle) q
  if taskFraming.head (taskFraming.rest buf) = .bad then q.halt config oracle else q

end Replay

/-- A new session meets a stream. -/
def replay (config : Config) (oracle : Nat → Env) (stream : Bytes) : Replay :=
  Replay.through config oracle ⟨start config (oracle 0), 0, []⟩ stream

/-! ### Replays -/

section Replay

variable {config : Config} {oracle : Nat → Env} {q : Replay}

theorem Replay.meet_of_stopped (stopped : q.session.running = false) (packet : Bytes) :
    q.meet config oracle packet = q := by
  rw [meet, stopped]
  rfl

theorem Replay.halt_of_stopped (stopped : q.session.running = false) :
    q.halt config oracle = q := by
  rw [halt, stopped]
  rfl

theorem Replay.through_of_frame {buf : Bytes} {size : Nat}
    (head : taskFraming.head buf = .frame size) :
    q.through config oracle buf =
      (q.meet config oracle (buf.take size)).through config oracle (buf.drop size) := by
  rw [through, taskFraming.frames_of_frame head, taskFraming.rest_of_frame head, List.foldl_cons]
  rfl

theorem Replay.through_of_ne_frame {buf : Bytes}
    (other : ∀ size, taskFraming.head buf ≠ .frame size) :
    q.through config oracle buf =
      if taskFraming.head buf = .bad then q.halt config oracle else q := by
  rw [through, taskFraming.frames_of_ne_frame other, taskFraming.rest_of_ne_frame other]
  rfl

theorem Replay.through_of_stopped (stopped : q.session.running = false) (buf : Bytes) :
    q.through config oracle buf = q := by
  induction buf using taskFraming.induction with
  | stop buf other =>
      rw [through_of_ne_frame other, halt_of_stopped stopped, ite_self]
  | more buf size head ih => rw [through_of_frame head, meet_of_stopped stopped, ih]

/-- What follows bytes that no packet can start with is not met. -/
theorem Replay.through_append_of_bad {buf : Bytes}
    (bad : taskFraming.head (taskFraming.rest buf) = .bad) (more : Bytes) :
    q.through config oracle (buf ++ more) = q.through config oracle buf := by
  rcases taskFraming.frames_append_of_bad bad more with ⟨frames, broken⟩
  rw [through, through, frames, broken, bad]

/-- A stream is met in parts, each together with what the one before it has left. -/
theorem Replay.through_append {buf : Bytes}
    (sound : taskFraming.head (taskFraming.rest buf) ≠ .bad) (more : Bytes) :
    q.through config oracle (buf ++ more) =
      (q.through config oracle buf).through config oracle (taskFraming.rest buf ++ more) := by
  induction buf using taskFraming.induction generalizing q with
  | stop buf other =>
      rw [taskFraming.rest_of_ne_frame other] at sound ⊢
      rw [through_of_ne_frame other, if_neg sound]
  | more buf size head ih =>
      rw [taskFraming.rest_of_frame head] at sound ⊢
      rw [through_of_frame (taskFraming.frame_append head more), through_of_frame head,
        List.take_append_of_le_length (taskFraming.complete head),
        List.drop_append_of_le_length (taskFraming.complete head), ih sound]

theorem Replay.running_through_of_bad {buf : Bytes}
    (bad : taskFraming.head (taskFraming.rest buf) = .bad) :
    (q.through config oracle buf).session.running = false := by
  rw [through, if_pos bad]
  generalize (taskFraming.frames buf).foldl (meet config oracle) q = met
  unfold halt
  split_ifs with going
  · exact running_settle_stop config _ _
  · exact Bool.eq_false_iff.mpr going

/-- A replay only adds calls. -/
theorem Replay.calls_through (q : Replay) (buf : Bytes) :
    q.calls <+: (q.through config oracle buf).calls := by
  have met : ∀ (q : Replay) packet, q.calls <+: (q.meet config oracle packet).calls := by
    intro q packet
    unfold meet
    split_ifs
    · dsimp only
      rw [List.append_assoc]
      exact List.prefix_append _ _
    · exact List.prefix_rfl
  have halted : ∀ q : Replay, q.calls <+: (q.halt config oracle).calls := by
    intro q
    unfold halt
    split_ifs <;> exact List.prefix_rfl
  induction buf using taskFraming.induction generalizing q with
  | stop buf other =>
      rw [through_of_ne_frame other]
      split_ifs
      · exact halted q
      · exact List.prefix_rfl
  | more buf size head ih =>
      rw [through_of_frame head]
      exact (met q _).trans (ih _)

end Replay

theorem replay_append_of_stopped {config : Config} {oracle : Nat → Env} {stream : Bytes}
    (stopped : (replay config oracle stream).session.running = false) (more : Bytes) :
    replay config oracle (stream ++ more) = replay config oracle stream := by
  by_cases bad : taskFraming.head (taskFraming.rest stream) = .bad
  · exact Replay.through_append_of_bad bad more
  · rw [replay, Replay.through_append bad]
    exact Replay.through_of_stopped stopped _

theorem calls_replay_append (config : Config) (oracle : Nat → Env) (stream more : Bytes) :
    (replay config oracle stream).calls <+: (replay config oracle (stream ++ more)).calls := by
  by_cases bad : taskFraming.head (taskFraming.rest stream) = .bad
  · have same : replay config oracle (stream ++ more) = replay config oracle stream :=
      Replay.through_append_of_bad bad more
    exact same ▸ List.prefix_rfl
  · rw [replay, replay, Replay.through_append bad]
    exact Replay.calls_through _ _

/-! ### Readings that follow the replay -/

section Held

variable {s s' : Session}

theorem drained_of_none (unheld : s.pendingHlak = none) : s.andThen drainHlak = s := by
  unfold andThen drainHlak
  rw [unheld]
  exact ite_self s

theorem waitingCalls_of_none (unheld : s.pendingHlak = none) : s.waitingCalls = [] := by
  unfold waitingCalls heldCalls
  rw [unheld]
  exact ite_self []

theorem waitingCalls_of_stopped (stopped : s.running = false) : s.waitingCalls = [] := by
  rw [waitingCalls, stopped]
  rfl

theorem Like.drained (like : Like s s') :
    Like (s.andThen Session.drainHlak) (s'.andThen Session.drainHlak) :=
  like.andThen like.drainHlak

theorem Like.waitingCalls (like : Like s s') : s'.waitingCalls = s.waitingCalls := by
  unfold Session.waitingCalls heldCalls
  rw [like.running, like.pendingHlak]

end Held

theorem fedCalls_of_stopped {s : Session} (stopped : s.running = false) (input : Input) :
    s.fedCalls input = [] := by
  rw [fedCalls, stopped]

/-- A packet leads to the same call whatever follows it in the buffer. -/
theorem Like.fedCalls {s s' : Session} {env env' : Env} {used : Nat} (like : Like s s')
    (agrees : Agrees env env') (running : s.running = true) (reading : s.point = .reading)
    (reading' : s'.point = .reading) (head : taskFraming.head s.rxBuf = .frame used)
    (alone : s'.rxBuf = s.rxBuf.take used) :
    s'.fedCalls ⟨.packet, env'⟩ = s.fedCalls ⟨.packet, env⟩ := by
  have same := verdict_take_of_framed (framed_of_taskHead head)
  rw [fedCalls_of_reading running reading rfl,
    fedCalls_of_reading (like.running.trans running) reading' rfl, alone, same]
  rcases taskHead_eq_frame_iff.mp head with ⟨payload, taken⟩ | ⟨message, taken⟩
  · simp only [taken]
  · simp only [taken, agrees.nonce, messageCall_take env.nonce taken]

namespace Reading

variable {config : Config} {envs oracle : Nat → Env} {r : Reading} {q : Replay}

theorem calls_take (config : Config) (r : Reading) (input : Input) :
    (r.take config input).calls = r.calls ++ r.session.fedCalls input := by
  simp [calls, take]

theorem session_take_of_stopped (stopped : r.session.running = false) (config : Config)
    (input : Input) : (r.take config input).session = r.session := by
  rw [take, step, stopped]
  rfl

theorem handled_take (config : Config) (r : Reading) (input : Input) :
    (r.take config input).handled =
      r.handled + (packetHandled r.session input).toList.length := by
  unfold handled take
  rw [List.filterMap_append, List.length_append]
  cases handled : packetHandled r.session input <;> simp [handled]

/-- The reading session is where the replay is, up to an HLAK that it still holds back. -/
structure Follows (r : Reading) (q : Replay) : Prop where
  like : Like (r.session.andThen drainHlak) q.session
  calls : q.calls = r.calls ++ r.session.waitingCalls
  handled : r.session.running = true → q.handled = r.handled

theorem Follows.running (follows : r.Follows q) : q.session.running = r.session.running := by
  rw [follows.like.running, andThen, drainHlak_eq]
  split_ifs <;> rfl

theorem Follows.like_of_none (follows : r.Follows q) (unheld : r.session.pendingHlak = none) :
    Like r.session q.session := by
  have like := follows.like
  rwa [drained_of_none unheld] at like

theorem Follows.calls_of_none (follows : r.Follows q) (unheld : r.session.pendingHlak = none) :
    q.calls = r.calls := by
  rw [follows.calls, waitingCalls_of_none unheld, List.append_nil]

/-- A session that has ended does nothing more. -/
theorem Follows.take_of_stopped (follows : r.Follows q) (stopped : r.session.running = false)
    (input : Input) : (r.take config input).Follows q := by
  have same := session_take_of_stopped stopped config input
  constructor
  · rw [same]
    exact follows.like
  · rw [same, calls_take, fedCalls_of_stopped stopped, List.append_nil]
    exact follows.calls
  · intro running
    rw [same, stopped] at running
    cases running

/-- Reading a chunk makes no call. -/
theorem Follows.take_read (follows : r.Follows q) (running : r.session.running = true)
    (waiting : r.session.point = .select) (unheld : r.session.pendingHlak = none)
    (tun : OnTun r.session) {chunk : Bytes} (sized : chunk ≠ [] ∧ chunk.length ≤ chunkLen)
    (env : Env) : (r.take config ⟨.event (.read (.ok chunk)), env⟩).Follows q := by
  have read : (r.take config ⟨.event (.read (.ok chunk)), env⟩).session =
      r.session.afterRead env chunk :=
    step_of_read config env running waiting tun sized
  have unheld' : (r.session.afterRead env chunk).pendingHlak = none := unheld
  have uncalled : r.session.fedCalls ⟨.event (.read (.ok chunk)), env⟩ = [] := by
    rw [fedCalls, running, waiting]
  have unhandled : packetHandled r.session ⟨.event (.read (.ok chunk)), env⟩ = none := by
    rw [packetHandled, running, waiting]
  constructor
  · rw [read, drained_of_none unheld']
    exact { follows.like_of_none unheld with }
  · rw [read, waitingCalls_of_none unheld', calls_take, uncalled, List.append_nil, List.append_nil]
    exact follows.calls_of_none unheld
  · intro _
    rw [handled_take, unhandled]
    exact follows.handled running

/-- A packet that meets no HLAK has the effect it has in the replay. -/
theorem Follows.packet_of_frame (follows : r.Follows q)
    (agree : ∀ n, Agrees (envs n) (oracle n)) (running : r.session.running = true)
    (reading : r.session.point = .reading) (unheld : r.session.pendingHlak = none) {used : Nat}
    (head : taskFraming.head r.session.rxBuf = .frame used) :
    (r.packet config envs).Follows
      (q.meet config oracle (r.session.rxBuf.take used)) := by
  have like := follows.like_of_none unheld
  have count := follows.handled running
  have alone : Like r.session
      { q.session with rxBuf := r.session.rxBuf.take used, point := .reading } := { like with }
  have agrees : Agrees (envs r.handled) (oracle q.handled) := count.symm ▸ agree r.handled
  have stepped := alone.step_of_frame agrees config running reading rfl head rfl
  rw [Replay.meet, if_pos (like.running.trans running)]
  constructor
  · exact stepped.drained
  · dsimp only
    rw [follows.calls_of_none unheld, packet, calls_take,
      alone.fedCalls agrees running reading rfl head rfl, stepped.waitingCalls]
    rfl
  · intro _
    have taken : (packetHandled r.session ⟨.packet, envs r.handled⟩).toList.length = 1 := by
      rcases parse_of_taskHead head with ⟨packet, parsed⟩
      rw [packetHandled, running, reading, parsed]
      rfl
    rw [packet, handled_take, taken, ← count]

/-- Bytes that no packet can start with end the session. -/
theorem Follows.packet_of_bad (follows : r.Follows q) (running : r.session.running = true)
    (reading : r.session.point = .reading) (unheld : r.session.pendingHlak = none)
    (bad : taskFraming.head r.session.rxBuf = .bad) :
    (r.packet config envs).Follows (q.halt config oracle) ∧
      (r.packet config envs).session.running = false := by
  have like := follows.like_of_none unheld
  have stepped : (r.packet config envs).session =
      r.session.stop.settle config (envs r.handled) :=
    step_of_bad config (envs r.handled) running reading bad
  have stopped : (r.packet config envs).session.running = false :=
    running_step_of_bad config _ running reading bad
  have uncalled : r.session.fedCalls ⟨.packet, envs r.handled⟩ = [] := by
    rw [fedCalls_of_reading running reading rfl, taskHead_eq_bad_iff.mp bad]
  refine ⟨⟨?_, ?_, ?_⟩, stopped⟩
  · rw [andThen, if_neg (Bool.eq_false_iff.mp stopped), stepped, Replay.halt,
      if_pos (like.running.trans running)]
    exact like.stop.settle config _ _
  · rw [waitingCalls_of_stopped stopped, List.append_nil, packet, calls_take, uncalled,
      List.append_nil, Replay.halt, if_pos (like.running.trans running)]
    exact follows.calls_of_none unheld
  · intro going
    rw [stopped] at going
    cases going

/-- At the head of the loop the session catches up with the replay. -/
theorem Follows.packet_of_wait (follows : r.Follows q) (running : r.session.running = true)
    (reading : r.session.point = .reading) (tun : OnTun r.session)
    (waiting : verdict r.session.rxBuf = .wait) :
    (r.packet config envs).Follows q := by
  have stepped : (r.packet config envs).session = r.session.afterWait (envs r.handled) :=
    step_of_wait config (envs r.handled) running reading tun waiting
  have unheld := (afterWait_waits (envs r.handled) r.session).2
  have called : r.session.fedCalls ⟨.packet, envs r.handled⟩ = r.session.waitingCalls := by
    rw [fedCalls_of_reading running reading rfl, waiting, waitingCalls, if_pos running]
  have unhandled : packetHandled r.session ⟨.packet, envs r.handled⟩ = none := by
    rcases verdict_eq_wait_iff.mp waiting with parsed | ⟨_, _, parsed⟩
    · rw [packetHandled, running, reading, parsed]
    · rw [packetHandled, running, reading, parsed]
  constructor
  · rw [stepped, drained_of_none unheld]
    have like := follows.like
    rw [andThen, if_pos running] at like
    exact (like_afterWait (envs r.handled) r.session).symm.trans like
  · rw [stepped, waitingCalls_of_none unheld, List.append_nil, packet, calls_take, called]
    exact follows.calls
  · intro _
    rw [packet, handled_take, unhandled]
    exact follows.handled running

/-! ### Packets that meet an HLAK -/

/-- A turn of the packet loop that finds a packet, or the end of the stream, while the session
holds an HLAK back. -/
def Late (s : Session) (input : Input) : Prop :=
  s.running = true ∧ s.point = .reading ∧ input.move = .packet ∧ verdict s.rxBuf ≠ .wait ∧
    s.pendingHlak ≠ none

/-- No turn so far was late. -/
def Prompt (r : Reading) : Prop :=
  ∀ visit ∈ r.history, ¬Late visit.1 visit.2

theorem prompt_take_iff {input : Input} :
    (r.take config input).Prompt ↔ r.Prompt ∧ ¬Late r.session input := by
  simp [Prompt, take, or_imp, forall_and]

/-- The replay has handed an HLAK on where the session has ended or made another call. -/
def Diverges (r : Reading) (q : Replay) : Prop :=
  ∃ before hlak, before ++ [.innerAuthCompleted (some hlak)] <+: q.calls ∧
    (r.session.running = false ∧ r.calls = before ∨
      ∃ call, call ≠ .innerAuthCompleted (some hlak) ∧ before ++ [call] <+: r.calls)

theorem Diverges.calls_ne (diverges : r.Diverges q) : r.calls ≠ q.calls := by
  rcases diverges with ⟨before, hlak, ⟨later, met⟩, ⟨-, ended⟩ | ⟨call, other, ⟨further, made⟩⟩⟩
  · intro same
    rw [ended, ← met, List.append_assoc] at same
    have nothing := List.append_cancel_left ((List.append_nil before).trans same)
    cases nothing
  · intro same
    rw [← made, ← met, List.append_assoc, List.append_assoc] at same
    exact other (List.cons.inj (List.append_cancel_left same)).1

theorem Diverges.take (diverges : r.Diverges q) (input : Input) :
    (r.take config input).Diverges q := by
  rcases diverges with ⟨before, hlak, met, ⟨stopped, ended⟩ | ⟨call, other, made⟩⟩
  · refine ⟨before, hlak, met, .inl ⟨?_, ?_⟩⟩
    · rw [session_take_of_stopped stopped, stopped]
    · rw [calls_take, fedCalls_of_stopped stopped, List.append_nil, ended]
  · refine ⟨before, hlak, met, .inr ⟨call, other, made.trans ?_⟩⟩
    rw [calls_take]
    exact List.prefix_append _ _

theorem Diverges.mono {q' : Replay} (diverges : r.Diverges q) (more : q.calls <+: q'.calls) :
    r.Diverges q' := by
  rcases diverges with ⟨before, hlak, met, parted⟩
  exact ⟨before, hlak, met.trans more, parted⟩

/-- After a late turn the session and the replay have parted. -/
theorem Follows.diverges_of_late (follows : r.Follows q)
    (late : Late r.session ⟨.packet, envs r.handled⟩) : (r.packet config envs).Diverges q := by
  rcases late with ⟨running, reading, -, decided, held⟩
  rcases Option.ne_none_iff_exists'.mp held with ⟨hlak, held⟩
  have met : q.calls = r.calls ++ [.innerAuthCompleted (some hlak)] := by
    rw [follows.calls, waitingCalls, if_pos running, heldCalls, held]
    rfl
  refine ⟨r.calls, hlak, met ▸ List.prefix_rfl, ?_⟩
  rw [packet, calls_take, fedCalls_of_reading running reading rfl]
  cases taken : verdict r.session.rxBuf with
  | wait => exact (decided taken).elim
  | stop =>
      left
      exact ⟨running_step_of_bad config _ running reading (taskHead_eq_bad_iff.mpr taken),
        List.append_nil _⟩
  | data payload used =>
      right
      exact ⟨.dataPacket, nofun, List.prefix_rfl⟩
  | control message used =>
      right
      refine ⟨_, ?_, List.prefix_rfl⟩
      cases message <;> nofun

/-! ### The packet loop and the replay -/

/-- The session has worked its buffer off and waits for more than `rest`, or has ended. -/
structure CaughtUp (r : Reading) (q : Replay) (rest : Bytes) : Prop where
  follows : r.Follows q
  onTun : OnTun r.session
  waits : r.session.running = true →
    r.session.point = .select ∧ r.session.rxBuf = rest ∧ r.session.pendingHlak = none

/-- The session keeps up with the replay unless a packet meets an HLAK. -/
def Tracks (r : Reading) (q : Replay) (rest : Bytes) : Prop :=
  r.Prompt ∧ r.CaughtUp q rest ∨ ¬r.Prompt ∧ r.Diverges q

theorem CaughtUp.calls {rest : Bytes} (caught : r.CaughtUp q rest) : q.calls = r.calls := by
  by_cases running : r.session.running = true
  · exact caught.follows.calls_of_none (caught.waits running).2.2
  · rw [caught.follows.calls, waitingCalls_of_stopped (Bool.eq_false_iff.mpr running),
      List.append_nil]

theorem CaughtUp.like {rest : Bytes} (caught : r.CaughtUp q rest) : Like r.session q.session := by
  by_cases running : r.session.running = true
  · exact caught.follows.like_of_none (caught.waits running).2.2
  · have like := caught.follows.like
    rwa [andThen, if_neg running] at like

theorem workOff_of_idle {fuel : Nat}
    (idle : r.session.running = true → r.session.point = .select) :
    r.workOff config envs fuel = r := by
  cases fuel with
  | zero => rfl
  | succ fuel =>
      rw [workOff, if_neg]
      rintro ⟨running, reading⟩
      rw [idle running] at reading
      cases reading

/-- A session that has caught up waits for the next read. -/
theorem CaughtUp.workOff_eq {rest : Bytes} (caught : r.CaughtUp q rest) (config : Config)
    (envs : Nat → Env) (fuel : Nat) : r.workOff config envs fuel = r :=
  workOff_of_idle fun running => (caught.waits running).1

theorem workOff_succ {fuel : Nat} (running : r.session.running = true)
    (reading : r.session.point = .reading) :
    r.workOff config envs (fuel + 1) = (r.packet config envs).workOff config envs fuel := by
  rw [workOff, if_pos ⟨running, reading⟩]

/-- Once parted, a session and its replay stay so. -/
theorem Diverges.workOff (diverges : r.Diverges q) (late : ¬r.Prompt) (config : Config)
    (envs : Nat → Env) (fuel : Nat) :
    ¬(r.workOff config envs fuel).Prompt ∧ (r.workOff config envs fuel).Diverges q := by
  induction fuel generalizing r with
  | zero => exact ⟨late, diverges⟩
  | succ fuel ih =>
      rw [Reading.workOff]
      split_ifs
      · exact ih (diverges.take _) fun prompt => late (prompt_take_iff.mp prompt).1
      · exact ⟨late, diverges⟩

theorem pendingHlak_of_not_late (prompt : ¬Late r.session ⟨.packet, envs r.handled⟩)
    (running : r.session.running = true) (reading : r.session.point = .reading)
    (decided : taskFraming.head r.session.rxBuf ≠ .wait) : r.session.pendingHlak = none := by
  by_contra held
  exact prompt ⟨running, reading, rfl, mt taskHead_eq_wait_iff.mpr decided, held⟩

theorem tracks_of_late (follows : r.Follows q)
    (late : Late r.session ⟨.packet, envs r.handled⟩) (fuel : Nat) (buf rest : Bytes) :
    ((r.packet config envs).workOff config envs fuel).Tracks (q.through config oracle buf) rest := by
  have unprompt : ¬(r.packet config envs).Prompt := fun all => (prompt_take_iff.mp all).2 late
  have parted : (r.packet config envs).Diverges q := follows.diverges_of_late late
  rcases parted.workOff unprompt config envs fuel with ⟨still, apart⟩
  exact .inr ⟨still, apart.mono (q.calls_through buf)⟩

theorem caughtUp_of_wait (follows : r.Follows q) (onTun : OnTun r.session)
    (running : r.session.running = true) (reading : r.session.point = .reading)
    (waiting : verdict r.session.rxBuf = .wait) :
    (r.packet config envs).CaughtUp q r.session.rxBuf := by
  have stepped : (r.packet config envs).session = r.session.afterWait (envs r.handled) :=
    step_of_wait config _ running reading onTun waiting
  rcases afterWait_waits (envs r.handled) r.session with ⟨selecting, unheld⟩
  constructor
  · exact follows.packet_of_wait running reading onTun waiting
  · rw [stepped]
    exact onTun_afterWait _ onTun
  · intro _
    rw [stepped]
    exact ⟨selecting, (afterWait_stays _ _).1, unheld⟩

theorem caughtUp_of_stopped (follows : r.Follows q) (onTun : OnTun r.session)
    (stopped : r.session.running = false) (rest : Bytes) : r.CaughtUp q rest :=
  ⟨follows, onTun, fun running => by rw [stopped] at running; cases running⟩

/-- The packet loop meets what the buffer holds.  The induction is on the packets of the
buffer; a turn that is late parts the session from the replay for good. -/
theorem tracks_workOff (tun : config.dataPath = .tun) (agree : ∀ n, Agrees (envs n) (oracle n))
    {fuel : Nat} (follows : r.Follows q) (onTun : OnTun r.session) (prompt : r.Prompt)
    (running : r.session.running = true) (reading : r.session.point = .reading)
    (enough : r.session.rxBuf.length < fuel) :
    (r.workOff config envs fuel).Tracks (q.through config oracle r.session.rxBuf)
      (taskFraming.rest r.session.rxBuf) := by
  generalize content : r.session.rxBuf = buf at enough ⊢
  induction buf using taskFraming.induction generalizing r q fuel with
  | stop buf other =>
      rcases Nat.exists_eq_succ_of_ne_zero (Nat.ne_zero_of_lt enough) with ⟨fuel, rfl⟩
      rw [workOff_succ running reading]
      by_cases late : Late r.session ⟨.packet, envs r.handled⟩
      · exact tracks_of_late follows late fuel buf _
      · left
        have still : (r.packet config envs).Prompt := prompt_take_iff.mpr ⟨prompt, late⟩
        rw [Replay.through_of_ne_frame other, taskFraming.rest_of_ne_frame other, ← content]
        rw [← content] at other
        cases head : taskFraming.head r.session.rxBuf with
        | frame size => exact (other size head).elim
        | wait =>
            have caught : (r.packet config envs).CaughtUp q r.session.rxBuf :=
              caughtUp_of_wait follows onTun running reading (taskHead_eq_wait_iff.mp head)
            rw [caught.workOff_eq config envs fuel, if_neg (by nofun)]
            exact ⟨still, caught⟩
        | bad =>
            have unheld := pendingHlak_of_not_late late running reading (by rw [head]; nofun)
            have halted : (r.packet config envs).Follows (q.halt config oracle) ∧
                (r.packet config envs).session.running = false :=
              follows.packet_of_bad running reading unheld head
            have tunned : OnTun (r.packet config envs).session := by
              change OnTun (r.session.step config _)
              rw [step_of_bad config _ running reading head]
              exact (stays_settle config _ _).onTun ⟨onTun.isKernel, onTun.kmodFd⟩
            have caught := caughtUp_of_stopped halted.1 tunned halted.2 r.session.rxBuf
            rw [caught.workOff_eq config envs fuel, if_pos rfl]
            exact ⟨still, caught⟩
  | more buf size head ih =>
      rcases Nat.exists_eq_succ_of_ne_zero (Nat.ne_zero_of_lt enough) with ⟨fuel, rfl⟩
      rw [workOff_succ running reading]
      by_cases late : Late r.session ⟨.packet, envs r.handled⟩
      · exact tracks_of_late follows late fuel buf _
      · have still : (r.packet config envs).Prompt := prompt_take_iff.mpr ⟨prompt, late⟩
        have whole : taskFraming.head r.session.rxBuf = .frame size := content ▸ head
        have unheld := pendingHlak_of_not_late late running reading (by rw [whole]; nofun)
        have met : (r.packet config envs).Follows (q.meet config oracle (buf.take size)) :=
          content ▸ follows.packet_of_frame agree running reading unheld whole
        rcases stays_of_frame tun (envs r.handled) running reading whole onTun with
          ⟨tunned, point, taken⟩
        rw [Replay.through_of_frame head, taskFraming.rest_of_frame head]
        by_cases going : (r.packet config envs).session.running = true
        · have shorter : (buf.drop size).length < fuel := by
            have positive := taskFraming.positive head
            have complete := taskFraming.complete head
            rw [List.length_drop]
            omega
          exact ih met tunned still going point ((taken going).trans (by rw [content])) shorter
        · left
          have stopped := Bool.eq_false_iff.mpr going
          have caught := caughtUp_of_stopped met tunned stopped
            (taskFraming.rest (buf.drop size))
          rw [caught.workOff_eq config envs fuel,
            Replay.through_of_stopped (met.running.trans stopped)]
          exact ⟨still, caught⟩

/-! ### Reads -/

theorem not_late_read (s : Session) (chunk : Bytes) (env : Env) :
    ¬Late s ⟨.event (.read (.ok chunk)), env⟩ := by
  rintro ⟨-, -, move, -⟩
  cases move

/-- A session that has ended takes no further part. -/
theorem read_of_stopped (stopped : r.session.running = false) (chunk : Bytes) :
    r.read config envs chunk = r.take config ⟨.event (.read (.ok chunk)), envs r.handled⟩ := by
  rw [read, workOff, if_neg]
  rw [session_take_of_stopped stopped, stopped]
  nofun

/-- A read is tracked from where the reads before it have ended. -/
theorem Tracks.read (tun : config.dataPath = .tun) (agree : ∀ n, Agrees (envs n) (oracle n))
    {stream chunk : Bytes} (sized : chunk ≠ [] ∧ chunk.length ≤ chunkLen)
    (tracks : r.Tracks (replay config oracle stream) (taskFraming.rest stream)) :
    (r.read config envs chunk).Tracks (replay config oracle (stream ++ chunk))
      (taskFraming.rest (stream ++ chunk)) := by
  rcases tracks with ⟨prompt, caught⟩ | ⟨late, diverges⟩
  · have still : (r.take config ⟨.event (.read (.ok chunk)), envs r.handled⟩).Prompt :=
      prompt_take_iff.mpr ⟨prompt, not_late_read _ _ _⟩
    by_cases running : r.session.running = true
    · rcases caught.waits running with ⟨selecting, left, unheld⟩
      have sound : taskFraming.head (taskFraming.rest stream) ≠ .bad := by
        intro bad
        have stopped := caught.follows.running.symm.trans (Replay.running_through_of_bad bad)
        rw [running] at stopped
        cases stopped
      have stepped : (r.take config ⟨.event (.read (.ok chunk)), envs r.handled⟩).session =
          r.session.afterRead (envs r.handled) chunk :=
        step_of_read config _ running selecting caught.onTun sized
      have content : (r.take config ⟨.event (.read (.ok chunk)), envs r.handled⟩).session.rxBuf =
          taskFraming.rest stream ++ chunk := by
        rw [stepped, ← left]
        rfl
      have follows : (r.take config ⟨.event (.read (.ok chunk)), envs r.handled⟩).Follows
          (replay config oracle stream) :=
        caught.follows.take_read running selecting unheld caught.onTun sized _
      have tracked := tracks_workOff tun agree follows
        (stepped ▸ ⟨caught.onTun.isKernel, caught.onTun.kmodFd⟩) still (stepped ▸ running)
        (stepped ▸ rfl) (Nat.lt_succ_self _)
      rw [content, ← taskFraming.rest_append] at tracked
      rw [Reading.read, replay, Replay.through_append sound, content]
      exact tracked
    · have stopped := Bool.eq_false_iff.mpr running
      left
      rw [read_of_stopped stopped, replay_append_of_stopped (caught.follows.running.trans stopped)]
      have kept := session_take_of_stopped stopped config
        ⟨.event (.read (.ok chunk)), envs r.handled⟩
      exact ⟨still, caughtUp_of_stopped (caught.follows.take_of_stopped stopped _)
        (kept ▸ caught.onTun) (kept ▸ stopped) _⟩
  · right
    have unprompt : ¬(r.take config ⟨.event (.read (.ok chunk)), envs r.handled⟩).Prompt :=
      fun all => late (prompt_take_iff.mp all).1
    rcases (diverges.take _).workOff unprompt config envs _ with ⟨still, apart⟩
    exact ⟨still, apart.mono (calls_replay_append config oracle stream chunk)⟩

end Reading

open Reading

theorem replay_nil (config : Config) (oracle : Nat → Env) :
    replay config oracle [] = ⟨start config (oracle 0), 0, []⟩ := by
  have waiting : taskFraming.head [] ≠ .bad := by decide
  rw [replay, Replay.through, taskFraming.frames_nil, taskFraming.rest_nil, if_neg waiting]
  rfl

theorem caughtUp_start (config : Config) (envs oracle : Nat → Env) :
    Reading.CaughtUp ⟨start config (envs 0), []⟩ ⟨start config (oracle 0), 0, []⟩ [] := by
  have unheld : (start config (envs 0)).pendingHlak = none := by
    rw [start_eq]
    rfl
  have like : Like (start config (envs 0)) (start config (oracle 0)) := by
    rw [start_eq, start_eq]
    exact ⟨rfl, rfl, rfl, rfl, rfl, rfl, rfl, rfl⟩
  constructor
  · constructor
    · rw [drained_of_none unheld]
      exact like
    · rw [waitingCalls_of_none unheld]
      rfl
    · exact fun _ => rfl
  · rw [start_eq]
    exact ⟨rfl, rfl⟩
  · intro _
    rw [start_eq]
    exact ⟨rfl, rfl, rfl⟩

theorem tracks_readAll {config : Config} {envs oracle : Nat → Env}
    (tun : config.dataPath = .tun) (agree : ∀ n, Agrees (envs n) (oracle n)) {chunks : List Bytes}
    (sized : ∀ chunk ∈ chunks, chunk ≠ [] ∧ chunk.length ≤ chunkLen) :
    (readAll config envs chunks).Tracks (replay config oracle chunks.flatten)
      (taskFraming.rest chunks.flatten) := by
  induction chunks using List.reverseRecOn with
  | nil =>
      left
      rw [List.flatten_nil, replay_nil, taskFraming.rest_nil]
      exact ⟨fun visit member => (List.not_mem_nil member).elim, caughtUp_start config envs oracle⟩
  | append_singleton before chunk ih =>
      have sizedBefore := fun other member => sized other (List.mem_append_left _ member)
      have sizedLast := sized chunk (List.mem_append_right _ (List.mem_singleton_self chunk))
      rw [readAll, List.foldl_append, List.flatten_append, List.flatten_singleton]
      exact (ih sizedBefore).read tun agree sizedLast

end SstpServer.Session
