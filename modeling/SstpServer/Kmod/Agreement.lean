import SstpServer.Kmod.Demux
import SstpServer.Sstp.Reassembly

/-!
# The two demultiplexers

The packets of a stream are cut and sorted twice: by the packet loop of the session task,
and by the kernel module together with the part of the task that collects its control
packets.  Both deliver the same packets and stop at the same one, but for control packets
that are too short for a message type: the packet loop waits for the rest of them, the
task stops at those from the kernel, and one without any body is taken for an empty queue.
-/

namespace SstpServer.Kmod

open SstpServer.Wire
open SstpServer.Sstp
open SstpServer.Iteration

/-- What a demultiplexer passes on. -/
inductive Delivery where
  | data (payload : Bytes)
  | control (message : ControlMessage)
  deriving DecidableEq

/-- What a demultiplexer has passed on, and the number of the packet at which it stopped
with a protocol error. -/
structure Outcome where
  deliveries : List Delivery := []
  stoppedAt : Option Nat := none
  deriving DecidableEq

namespace Outcome

/-- A protocol error at the first packet. -/
def stop : Outcome :=
  { stoppedAt := some 0 }

/-- One more packet in front, which is passed over. -/
def skip (outcome : Outcome) : Outcome :=
  { outcome with stoppedAt := outcome.stoppedAt.map (· + 1) }

/-- One more packet in front, which is delivered. -/
def deliver (delivery : Delivery) (outcome : Outcome) : Outcome :=
  { outcome.skip with deliveries := delivery :: outcome.deliveries }

theorem deliver_inj {delivery : Delivery} {first second : Outcome} :
    first.deliver delivery = second.deliver delivery ↔ first = second := by
  rcases first with ⟨deliveries, stoppedAt⟩
  rcases second with ⟨deliveries', stoppedAt'⟩
  cases stoppedAt <;> cases stoppedAt' <;> simp [deliver, skip]

theorem skip_eq_wait_iff {outcome : Outcome} : outcome.skip = {} ↔ outcome = {} := by
  rcases outcome with ⟨deliveries, stoppedAt⟩
  cases stoppedAt <;> simp [skip]

end Outcome

/-! ## The packet loop of the task -/

/-- The delivery of a packet that the loop takes off the read buffer. -/
def packetDelivery (packet : Bytes) : Option Delivery :=
  match verdict packet with
  | .data payload _ => some (.data payload)
  | .control message _ => some (.control message)
  | _ => none

/-- Work off the read buffer.  The result is what the packets deliver, what is left, and
whether the loop stopped. -/
def packetLoop : Nat → Bytes → List Delivery × Bytes × Bool
  | 0, buf => ([], buf, false)
  | fuel + 1, buf =>
      match verdict buf with
      | .wait => ([], buf, false)
      | .stop => ([], buf, true)
      | .data payload used =>
          let (deliveries, rest, stopped) := packetLoop fuel (buf.drop used)
          (.data payload :: deliveries, rest, stopped)
      | .control message used =>
          let (deliveries, rest, stopped) := packetLoop fuel (buf.drop used)
          (.control message :: deliveries, rest, stopped)

/-- The read side of the task. -/
structure TaskRx where
  rxBuf : Bytes := []
  deliveries : List Delivery := []
  stopped : Bool := false
  deriving DecidableEq

namespace TaskRx

/-- One read of the TLS stream. -/
def read (s : TaskRx) (chunk : Bytes) : TaskRx :=
  if s.stopped then s
  else
    let buf := s.rxBuf ++ chunk
    let (deliveries, rest, stopped) := packetLoop buf.length buf
    ⟨rest, s.deliveries ++ deliveries, stopped⟩

def receive (chunks : List Bytes) : TaskRx :=
  chunks.foldl read {}

/-- Every packet taken off the buffer is delivered, so the loop stops at the next one. -/
def outcome (s : TaskRx) : Outcome where
  deliveries := s.deliveries
  stoppedAt := if s.stopped then some s.deliveries.length else none

end TaskRx

/-! ## Control packets from the kernel module -/

/-- What `SSTP_IOC_RECV_CONTROL` returns for a queued payload: its length, where zero
stands for an empty queue. -/
def recvControl (payload : Bytes) : Option Bytes :=
  if payload = [] then none else some payload

/-- The packets of the kernel module, up to the first control packet that the task cannot
parse. -/
def handleFrames (last : Outcome) : List RxFrame → Outcome
  | [] => last
  | .data payload :: rest => (handleFrames last rest).deliver (.data payload)
  | .control payload :: rest =>
      match recvControl payload with
      | none => (handleFrames last rest).skip
      | some received =>
          match parseControlPayload received with
          | .error _ => .stop
          | .ok message => (handleFrames last rest).deliver (.control message)

/-- The kernel path: a broken header behind the packets stops the session. -/
def RxSession.outcome (s : RxSession) : Outcome :=
  handleFrames (if s.closing then .stop else {}) s.frames

/-! ## The packet loop cuts the stream -/

theorem packetDelivery_take {buf : Bytes} {used : Nat} (framed : Packet.Framed buf used) :
    packetDelivery (buf.take used) = packetDelivery buf := by
  rw [packetDelivery, verdict_take_of_framed framed, packetDelivery]

/-- The packet loop cuts the buffer as its framing does. -/
theorem packetLoop_eq {fuel : Nat} {buf : Bytes} (enough : buf.length ≤ fuel) :
    packetLoop fuel buf =
      ((taskFraming.frames buf).filterMap packetDelivery, taskFraming.rest buf,
        decide (taskFraming.head (taskFraming.rest buf) = .bad)) := by
  induction fuel generalizing buf with
  | zero =>
      rcases List.eq_nil_of_length_eq_zero (Nat.le_zero.mp enough) with rfl
      rfl
  | succ fuel ih =>
      have stays : ∀ head, taskHead buf = head → (∀ used, head ≠ .frame used) →
          ((taskFraming.frames buf).filterMap packetDelivery, taskFraming.rest buf,
            decide (taskFraming.head (taskFraming.rest buf) = .bad)) =
              ([], buf, decide (head = .bad)) := by
        rintro _ rfl other
        have unframed : ∀ used, taskFraming.head buf ≠ .frame used := other
        rw [taskFraming.frames_of_ne_frame unframed, taskFraming.rest_of_ne_frame unframed]
        rfl
      have takes : ∀ used delivery, taskHead buf = .frame used →
          packetDelivery buf = some delivery →
          ((taskFraming.frames buf).filterMap packetDelivery, taskFraming.rest buf,
            decide (taskFraming.head (taskFraming.rest buf) = .bad)) =
              (delivery :: (packetLoop fuel (buf.drop used)).1,
                (packetLoop fuel (buf.drop used)).2) := by
        intro used delivery head delivered
        have framed := framed_of_taskHead head
        have shorter : (buf.drop used).length ≤ fuel := by
          have positive := framed.header
          unfold sstpHeaderLen at positive
          rw [List.length_drop]
          omega
        have frame : taskFraming.head buf = .frame used := head
        rw [ih shorter, taskFraming.frames_of_frame frame, taskFraming.rest_of_frame frame,
          List.filterMap_cons_some ((packetDelivery_take framed).trans delivered)]
      unfold packetLoop
      cases judged : verdict buf with
      | wait => rw [stays .wait (by rw [taskHead, judged]) (by intro used frame; cases frame)]; rfl
      | stop => rw [stays .bad (by rw [taskHead, judged]) (by intro used frame; cases frame)]; rfl
      | data payload used =>
          rw [takes used (.data payload) (by rw [taskHead, judged])
            (by rw [packetDelivery, judged])]
      | control message used =>
          rw [takes used (.control message) (by rw [taskHead, judged])
            (by rw [packetDelivery, judged])]

namespace TaskRx

/-- The task has cut the stream so far into packets, and stops where none can follow. -/
structure Reads (stream : Bytes) (s : TaskRx) : Prop where
  deliveries : s.deliveries = (taskFraming.frames stream).filterMap packetDelivery
  rest : s.stopped = false → s.rxBuf = taskFraming.rest stream
  stopped : s.stopped = true ↔ taskFraming.head (taskFraming.rest stream) = .bad

theorem Reads.read {stream : Bytes} {s : TaskRx} (reads : Reads stream s) (chunk : Bytes) :
    Reads (stream ++ chunk) (s.read chunk) := by
  unfold TaskRx.read
  cases stopped : s.stopped with
  | true =>
      rcases taskFraming.frames_append_of_bad (reads.stopped.mp stopped) chunk with ⟨frames, bad⟩
      refine ⟨?_, ?_, ?_⟩
      · rw [frames]
        exact reads.deliveries
      · simp [stopped]
      · simp [stopped, bad]
  | false =>
      have looped := packetLoop_eq (Nat.le_refl (s.rxBuf ++ chunk).length)
      rw [reads.rest stopped, ← taskFraming.rest_append] at looped
      simp only [Bool.false_eq_true, if_false, reads.rest stopped, looped]
      refine ⟨?_, fun _ => rfl, by simp⟩
      rw [taskFraming.frames_append stream chunk, List.filterMap_append, reads.deliveries]

/-- However the stream is split into reads, the task takes the same packets off it. -/
theorem reads_receive (chunks : List Bytes) : Reads chunks.flatten (receive chunks) := by
  induction chunks using List.reverseRecOn with
  | nil => exact ⟨rfl, fun _ => rfl, by decide⟩
  | append_singleton before chunk ih =>
      have next : receive (before ++ [chunk]) = (receive before).read chunk := by
        simp [receive]
      rw [next, List.flatten_append, List.flatten_singleton]
      exact ih.read chunk

end TaskRx

/-! ## The outcomes along the stream -/

/-- The outcome of the packet loop for a stream. -/
def taskOutcome (stream : Bytes) : Outcome where
  deliveries := (taskFraming.frames stream).filterMap packetDelivery
  stoppedAt :=
    if taskFraming.head (taskFraming.rest stream) = .bad then
      some ((taskFraming.frames stream).filterMap packetDelivery).length
    else none

/-- The outcome of the kernel path for a stream. -/
def kernelOutcome (stream : Bytes) : Outcome :=
  handleFrames (if sstpFraming.head (sstpFraming.rest stream) = .bad then .stop else {})
    ((sstpFraming.frames stream).map .ofPacket)

theorem outcome_taskRx (chunks : List Bytes) :
    (TaskRx.receive chunks).outcome = taskOutcome chunks.flatten := by
  have reads := TaskRx.reads_receive chunks
  unfold TaskRx.outcome taskOutcome
  simp only [reads.deliveries, reads.stopped]

theorem outcome_rxSession (chunks : List Bytes) :
    (RxSession.receive chunks).outcome = kernelOutcome chunks.flatten := by
  have cuts := RxSession.cuts_receive chunks
  unfold RxSession.outcome kernelOutcome
  simp only [cuts.frames, cuts.closing]

theorem taskOutcome_of_wait {buf : Bytes} (waits : verdict buf = .wait) : taskOutcome buf = {} := by
  have head : taskFraming.head buf = .wait := by
    show taskHead buf = .wait
    rw [taskHead, waits]
  have other : ∀ size, taskFraming.head buf ≠ .frame size := by simp [head]
  rw [taskOutcome, taskFraming.frames_of_ne_frame other, taskFraming.rest_of_ne_frame other, head]
  rfl

theorem taskOutcome_of_stop {buf : Bytes} (stops : verdict buf = .stop) :
    taskOutcome buf = .stop := by
  have head : taskFraming.head buf = .bad := taskHead_eq_bad_iff.mpr stops
  have other : ∀ size, taskFraming.head buf ≠ .frame size := by simp [head]
  rw [taskOutcome, taskFraming.frames_of_ne_frame other, taskFraming.rest_of_ne_frame other, head]
  rfl

theorem taskOutcome_of_frame {buf : Bytes} {used : Nat} {delivery : Delivery}
    (head : taskHead buf = .frame used) (delivered : packetDelivery buf = some delivery) :
    taskOutcome buf = (taskOutcome (buf.drop used)).deliver delivery := by
  have framed := framed_of_taskHead head
  have frame : taskFraming.head buf = .frame used := head
  have listed := List.filterMap_cons_some (l := taskFraming.frames (buf.drop used))
    ((packetDelivery_take framed).trans delivered)
  unfold taskOutcome Outcome.deliver Outcome.skip
  rw [taskFraming.frames_of_frame frame, taskFraming.rest_of_frame frame, listed]
  split_ifs <;> rfl

theorem kernelOutcome_of_wait {buf : Bytes} (waits : sstpFraming.head buf = .wait) :
    kernelOutcome buf = {} := by
  have other : ∀ size, sstpFraming.head buf ≠ .frame size := by simp [waits]
  rw [kernelOutcome, sstpFraming.frames_of_ne_frame other, sstpFraming.rest_of_ne_frame other,
    waits]
  rfl

theorem kernelOutcome_of_bad {buf : Bytes} (bad : sstpFraming.head buf = .bad) :
    kernelOutcome buf = .stop := by
  have other : ∀ size, sstpFraming.head buf ≠ .frame size := by simp [bad]
  rw [kernelOutcome, sstpFraming.frames_of_ne_frame other, sstpFraming.rest_of_ne_frame other, bad]
  rfl

theorem kernelOutcome_of_frame {buf : Bytes} {size : Nat} (frame : sstpFraming.head buf = .frame size) :
    kernelOutcome buf =
      match RxFrame.ofPacket (buf.take size) with
      | .data payload => (kernelOutcome (buf.drop size)).deliver (.data payload)
      | .control payload =>
          match recvControl payload with
          | none => (kernelOutcome (buf.drop size)).skip
          | some received =>
              match parseControlPayload received with
              | .error _ => .stop
              | .ok message => (kernelOutcome (buf.drop size)).deliver (.control message) := by
  rw [kernelOutcome, sstpFraming.frames_of_frame frame, sstpFraming.rest_of_frame frame,
    List.map_cons]
  cases RxFrame.ofPacket (buf.take size) <;> rfl

theorem taskOutcome_of_packet {buf : Bytes} {size : Nat}
    (frame : sstpFraming.head buf = .frame size) :
    taskOutcome buf =
      match RxFrame.ofPacket (buf.take size) with
      | .data payload => (taskOutcome (buf.drop size)).deliver (.data payload)
      | .control payload =>
          if payload.length < sstpControlExtraLen then {}
          else
            match parseControlPayload payload with
            | .error _ => .stop
            | .ok message => (taskOutcome (buf.drop size)).deliver (.control message) := by
  have framed := head_eq_frame_iff.mp frame
  have judged := verdict_of_framed framed
  have takes : ∀ delivery, taskHead buf = .frame size → packetDelivery buf = some delivery →
      taskOutcome buf = (taskOutcome (buf.drop size)).deliver delivery :=
    fun _ head delivered => taskOutcome_of_frame head delivered
  rw [ofPacket_take framed.header, RxFrame.ofBody]
  unfold bodyVerdict at judged
  rcases Nat.mod_two_eq_zero_or_one (buf.getD 1 0).toNat with even | odd
  · rw [even, if_neg (by decide)] at judged
    rw [if_pos even]
    exact takes _ (by rw [taskHead, judged]) (by rw [packetDelivery, judged])
  · rw [if_pos odd] at judged
    rw [if_neg (by rw [odd]; decide)]
    dsimp only
    split_ifs at judged ⊢
    · exact taskOutcome_of_wait judged
    · cases parsed : parseControlPayload (slice buf sstpHeaderLen size) with
      | error _ =>
          rw [parsed] at judged
          exact taskOutcome_of_stop judged
      | ok message =>
          rw [parsed] at judged
          exact takes _ (by rw [taskHead, judged]) (by rw [packetDelivery, judged])

/-! ## Agreement -/

/-- A control packet without room for a message type. -/
def RxFrame.IsShort : RxFrame → Prop
  | .data _ => False
  | .control payload => payload.length < sstpControlExtraLen

/-- A control packet that the task cannot parse. -/
def RxFrame.IsBroken : RxFrame → Prop
  | .data _ => False
  | .control payload =>
      sstpControlExtraLen ≤ payload.length ∧ ∃ error, parseControlPayload payload = .error error

/-- The packets of a stream on which the two paths agree: up to the first control packet
that the task cannot parse none is too short for a message type, except that the stream
may end in control packets without any body. -/
inductive Agreeable (bad : Prop) : List RxFrame → Prop where
  | nil : Agreeable bad []
  | broken (frame : RxFrame) (rest : List RxFrame) (stops : frame.IsBroken) :
      Agreeable bad (frame :: rest)
  | next (frame : RxFrame) (rest : List RxFrame) (long : ¬frame.IsShort)
      (later : Agreeable bad rest) : Agreeable bad (frame :: rest)
  | trailing (frames : List RxFrame) (empty : ∀ frame ∈ frames, frame = .control [])
      (goesOn : ¬bad) : Agreeable bad frames

section Agreeable

variable {bad : Prop} {frame : RxFrame} {rest : List RxFrame}

theorem agreeable_cons_iff (long : ¬frame.IsShort) (parsed : ¬frame.IsBroken) :
    Agreeable bad (frame :: rest) ↔ Agreeable bad rest := by
  constructor
  · intro agreeable
    cases agreeable with
    | broken _ _ stops => exact (parsed stops).elim
    | next _ _ long later => exact later
    | trailing _ empty =>
        rw [empty frame List.mem_cons_self] at long
        exact (long (by decide : 0 < sstpControlExtraLen)).elim
  · exact .next frame rest long

theorem not_agreeable_of_short (short : frame.IsShort) (filled : frame ≠ .control []) :
    ¬Agreeable bad (frame :: rest) := by
  intro agreeable
  cases agreeable with
  | broken _ _ stops =>
      cases frame with
      | data payload => exact short
      | control payload => exact Nat.not_lt.mpr stops.1 short
  | next _ _ long later => exact long short
  | trailing _ empty => exact filled (empty frame List.mem_cons_self)

theorem agreeable_empty_iff :
    Agreeable bad (.control [] :: rest) ↔ (∀ frame ∈ rest, frame = .control []) ∧ ¬bad := by
  have short : (RxFrame.control []).IsShort := (by decide : 0 < sstpControlExtraLen)
  constructor
  · intro agreeable
    cases agreeable with
    | broken _ _ stops => exact (Nat.not_lt.mpr stops.1 short).elim
    | next _ _ long later => exact (long short).elim
    | trailing _ empty goesOn => exact ⟨fun frame member => empty frame (.tail _ member), goesOn⟩
  · rintro ⟨empty, goesOn⟩
    apply Agreeable.trailing _ _ goesOn
    intro frame member
    rcases List.mem_cons.mp member with rfl | later
    · rfl
    · exact empty frame later

end Agreeable

theorem recvControl_nil : recvControl [] = none :=
  rfl

theorem recvControl_of_ne_nil {payload : Bytes} (filled : payload ≠ []) :
    recvControl payload = some payload :=
  if_neg filled

/-- The kernel path waits without a delivery exactly when it has only seen control packets
without a body. -/
theorem kernelOutcome_eq_wait_iff (stream : Bytes) :
    kernelOutcome stream = {} ↔
      (∀ frame ∈ (sstpFraming.frames stream).map RxFrame.ofPacket, frame = .control []) ∧
        ¬sstpFraming.head (sstpFraming.rest stream) = .bad := by
  induction stream using sstpFraming.induction with
  | stop buf other =>
      rw [sstpFraming.frames_of_ne_frame other, sstpFraming.rest_of_ne_frame other]
      cases head : sstpFraming.head buf with
      | wait => simp [kernelOutcome_of_wait head]
      | bad => simp [kernelOutcome_of_bad head, Outcome.stop]
      | frame size => exact (other size head).elim
  | more buf size frame ih =>
      rw [kernelOutcome_of_frame frame, sstpFraming.frames_of_frame frame,
        sstpFraming.rest_of_frame frame, List.map_cons, List.forall_mem_cons, and_assoc]
      cases RxFrame.ofPacket (buf.take size) with
      | data payload => simp [Outcome.deliver]
      | control payload =>
          dsimp only
          by_cases empty : payload = []
          · rw [empty, recvControl_nil, ← ih]
            simp [Outcome.skip_eq_wait_iff]
          · rw [recvControl_of_ne_nil empty]
            cases parsed : parseControlPayload payload <;>
              simp [Outcome.stop, Outcome.deliver, empty, parsed]

/-- The two paths have the same outcome exactly on the agreeable streams. -/
theorem taskOutcome_eq_kernelOutcome_iff (stream : Bytes) :
    taskOutcome stream = kernelOutcome stream ↔
      Agreeable (sstpFraming.head (sstpFraming.rest stream) = .bad)
        ((sstpFraming.frames stream).map .ofPacket) := by
  induction stream using sstpFraming.induction with
  | stop buf other =>
      rw [sstpFraming.frames_of_ne_frame other]
      have same : taskOutcome buf = kernelOutcome buf := by
        cases head : sstpFraming.head buf with
        | wait => rw [taskOutcome_of_wait (verdict_of_wait head), kernelOutcome_of_wait head]
        | bad => rw [taskOutcome_of_stop (verdict_of_bad head), kernelOutcome_of_bad head]
        | frame size => exact (other size head).elim
      exact ⟨fun _ => .nil, fun _ => same⟩
  | more buf size frame ih =>
      rw [taskOutcome_of_packet frame, kernelOutcome_of_frame frame,
        sstpFraming.frames_of_frame frame, sstpFraming.rest_of_frame frame, List.map_cons]
      cases RxFrame.ofPacket (buf.take size) with
      | data payload =>
          have long : ¬(RxFrame.data payload).IsShort := id
          have sound : ¬(RxFrame.data payload).IsBroken := id
          rw [agreeable_cons_iff long sound, ← ih]
          exact Outcome.deliver_inj
      | control payload =>
          dsimp only
          by_cases short : payload.length < sstpControlExtraLen
          · rw [if_pos short]
            by_cases empty : payload = []
            · rw [empty, recvControl_nil, agreeable_empty_iff, ← kernelOutcome_eq_wait_iff,
                ← Outcome.skip_eq_wait_iff]
              exact eq_comm
            · have parsed : parseControlPayload payload = .error .truncated := by
                rw [parseControlPayload, ControlPacket.parseBody_of_short short]
              rw [recvControl_of_ne_nil empty]
              have isShort : (RxFrame.control payload).IsShort := short
              simp only [parsed]
              constructor
              · nofun
              · intro agreeable
                exact (not_agreeable_of_short isShort (by simpa using empty) agreeable).elim
          · have filled : payload ≠ [] := by
              rintro rfl
              exact short (by decide)
            have long : ¬(RxFrame.control payload).IsShort := short
            rw [if_neg short, recvControl_of_ne_nil filled]
            dsimp only
            cases parsed : parseControlPayload payload with
            | error error =>
                exact ⟨fun _ => .broken _ _ ⟨Nat.le_of_not_lt short, error, parsed⟩, fun _ => rfl⟩
            | ok message =>
                have sound : ¬(RxFrame.control payload).IsBroken := by
                  rintro ⟨-, error, failed⟩
                  cases parsed.symm.trans failed
                rw [agreeable_cons_iff long sound, ← ih]
                exact Outcome.deliver_inj

/-- However a stream is split into reads on either side, the packet loop and the kernel path
deliver the same and stop at the same packet, or both wait, exactly when the stream is
agreeable. -/
theorem outcome_eq_outcome_iff {taskChunks kernelChunks : List Bytes}
    (same : taskChunks.flatten = kernelChunks.flatten) :
    (TaskRx.receive taskChunks).outcome = (RxSession.receive kernelChunks).outcome ↔
      Agreeable (sstpFraming.head (sstpFraming.rest taskChunks.flatten) = .bad)
        ((sstpFraming.frames taskChunks.flatten).map .ofPacket) := by
  rw [outcome_taskRx, outcome_rxSession, ← same]
  exact taskOutcome_eq_kernelOutcome_iff taskChunks.flatten

/-- An Echo-Request, split differently on the two sides. -/
theorem outcome_eq_outcome_echoRequest :
    [[0x10, 0x01, 0x00], [0x08, 0x00, 0x08, 0x00, 0x00]].flatten =
        [encodeEmptyControl .echoRequest].flatten ∧
      (TaskRx.receive [[0x10, 0x01, 0x00], [0x08, 0x00, 0x08, 0x00, 0x00]]).outcome =
        (RxSession.receive [encodeEmptyControl .echoRequest]).outcome := by
  have same : [[0x10, 0x01, 0x00], [0x08, 0x00, 0x08, 0x00, 0x00]].flatten =
      [encodeEmptyControl .echoRequest].flatten := by decide
  have frames : (sstpFraming.frames
      [[0x10, 0x01, 0x00], [0x08, 0x00, 0x08, 0x00, 0x00]].flatten).map RxFrame.ofPacket =
        [.control [0x00, 0x08, 0x00, 0x00]] := by decide +kernel
  refine ⟨same, (outcome_eq_outcome_iff same).mpr ?_⟩
  rw [frames]
  exact .next _ _ (by simp [RxFrame.IsShort, sstpControlExtraLen]) .nil

/-- The packet loop waits for the rest of a control packet of five bytes, and the task stops
at the one the kernel module hands up.  A control packet of four bytes holds up the packet
loop only. -/
theorem outcome_ne_outcome_short :
    (TaskRx.receive [[0x10, 0x01, 0x00, 0x05, 0x00]]).outcome = {} ∧
      (RxSession.receive [[0x10, 0x01, 0x00, 0x05, 0x00]]).outcome = .stop ∧
      (TaskRx.receive [[0x10, 0x01, 0x00, 0x04] ++ encodeEmptyControl .echoRequest]).outcome =
        {} ∧
      (RxSession.receive [[0x10, 0x01, 0x00, 0x04] ++ encodeEmptyControl .echoRequest]).outcome =
        { deliveries := [.control .echoRequest] } := by
  decide +kernel

end SstpServer.Kmod
