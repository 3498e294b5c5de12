import SstpServer.Kmod.Transmit
import SstpServer.Queue.Ring

/-!
# The hand-over of control packets

The receive worker puts control packets into one ring and announces each by an event in
another; the session task reads events and fetches one packet for each announcement.  The
event ring also carries the events that end a session, from three parties: the receive
worker, the transmit worker and a control packet that cannot be sent.
-/

namespace SstpServer.Kmod

open SstpServer.Wire
open SstpServer.Sstp
open SstpServer.Queue
open SstpServer.Transition

/-! ## The rings -/

/-- Slots of the ring for control packets. -/
def sstpCtrlQCap : Nat := 8

/-- Slots of the event ring. -/
def sstpEventQueueCap : Nat := 16

/-- The body of a control packet that the parser has cut from the receive buffer. -/
abbrev ControlBody :=
  { body : Bytes // ∃ buf, .control body ∈ (sstpDemuxParse buf.length buf).1 }

/-- The size of a control packet had to fit into its header. -/
theorem length_le_of_mem_sstpDemuxParse {fuel : Nat} {buf body : Bytes}
    (parsed : .control body ∈ (sstpDemuxParse fuel buf).1) :
    body.length ≤ sstpMaxPacketLen - sstpHeaderLen := by
  induction fuel generalizing buf with
  | zero => cases parsed
  | succ fuel ih =>
      rw [sstpDemuxParse_succ] at parsed
      cases verdict : sstpFraming.head buf with
      | wait | bad =>
          rw [verdict] at parsed
          cases parsed
      | frame size =>
          rw [verdict] at parsed
          rcases List.mem_cons.mp parsed with first | later
          · have fits : size ≤ sstpMaxPacketLen := by
              rw [← (head_eq_frame_iff.mp verdict).length]
              exact Nat.le_of_lt_succ (Nat.mod_lt _ (Nat.succ_pos _))
            have same : body = (buf.take size).drop sstpHeaderLen := by
              unfold RxFrame.ofPacket RxFrame.ofBody at first
              split_ifs at first
              cases first
              rfl
            rw [same, List.length_drop, List.length_take]
            omega
          · exact ih later

theorem ControlBody.length_le (body : ControlBody) :
    body.1.length ≤ sstpMaxPacketLen - sstpHeaderLen := by
  rcases body.2 with ⟨_, parsed⟩
  exact length_le_of_mem_sstpDemuxParse parsed

/-- An event for the session task.  The announcement of a control packet has the packet's
size as its argument; the packet itself is kept here for reference. -/
inductive Event where
  | fatal (event : RxEvent)
  | controlPacket (frame : ControlBody)
  deriving DecidableEq, Repr

namespace Event

def type : Event → Nat
  | .fatal .peerClosed => 1
  | .fatal (.tlsFatalAlert _) => 2
  | .fatal (.tlsRekeyNeeded _) => 3
  | .fatal (.protocolError _) => 4
  | .controlPacket _ => 5

def frame? : Event → Option ControlBody
  | .fatal _ => none
  | .controlPacket frame => some frame

def isFatal : Event → Bool
  | .fatal _ => true
  | .controlPacket _ => false

@[simp]
theorem frame?_fatal (event : RxEvent) : (fatal event).frame? = none :=
  rfl

@[simp]
theorem frame?_controlPacket (frame : ControlBody) : (controlPacket frame).frame? = some frame :=
  rfl

/-- An event is fatal or announces a packet. -/
theorem length_eq_countP_add (events : List Event) :
    events.length = events.countP isFatal + (events.filterMap frame?).length := by
  induction events with
  | nil => rfl
  | cons event rest ih =>
      cases event with
      | fatal event =>
          rw [List.length_cons, ih, List.countP_cons_of_pos rfl, List.filterMap_cons_none rfl]
          omega
      | controlPacket frame =>
          rw [List.length_cons, ih, List.countP_cons_of_neg Bool.false_ne_true,
            List.filterMap_cons_some (frame?_controlPacket frame), List.length_cons]
          rfl

end Event

/-! ## The parties -/

/-- Where a party is that may end the session: it has seen the session open, is about to
report an event, is about to close the session, or has closed it. -/
inductive PartyPc where
  | idle
  | running
  | failing (event : RxEvent)
  | closes
  | stopped
  deriving DecidableEq, Repr

/-- Whether the party has reported its event. -/
def PartyPc.reported : PartyPc → Nat
  | .idle | .running | .failing _ => 0
  | .closes | .stopped => 1

theorem PartyPc.reported_le (pc : PartyPc) : pc.reported ≤ 1 := by
  cases pc <;> simp [reported]

/-- What `SSTP_IOC_RECV_CONTROL` answers: the bytes it copies, none for an empty queue, or
that they do not fit. -/
inductive Received where
  | payload (body : Bytes)
  | emsgsize
  deriving DecidableEq, Repr

/-- The control side of a kernel session.  `queued` is the packet between its enqueueing and
its announcement, `pending` lists the events that the task has read and not handled;
`accepted` lists the packets that were ever enqueued, `calls` the answers that the task got
with the packets they were to be for. -/
structure ControlState where
  ctrlQ : Ring (Option ControlBody) sstpCtrlQCap := .blank ⟨0, by decide⟩ none
  events : Ring Event sstpEventQueueCap := .blank ⟨0, by decide⟩ (.fatal .peerClosed)
  evtDropped : Nat := 0
  closing : Bool := false
  rx : PartyPc := .idle
  queued : Option ControlBody := none
  tx : PartyPc := .idle
  send : PartyPc := .idle
  pending : List Event := []
  left : Bool := false
  accepted : List ControlBody := []
  calls : List (ControlBody × Received) := []

/-- The party that takes a step. -/
inductive Party where
  | rx
  | tx
  | send
  deriving DecidableEq, Repr

/-- A step of one of the parties. -/
inductive ControlMove where
  | start (party : Party)
  | rest (party : Party)
  | fail (party : Party) (event : RxEvent)
  | finish (party : Party)
  | control (body : ControlBody)
  | announce
  | read
  | handle
  | detach
  deriving DecidableEq, Repr

namespace ControlState

def pc (s : ControlState) : Party → PartyPc
  | .rx => s.rx
  | .tx => s.tx
  | .send => s.send

/-- The receive worker announces a packet before it goes on. -/
def Running (s : ControlState) (party : Party) : Prop :=
  s.pc party = .running ∧ (party = .rx → s.queued = none)

instance (s : ControlState) (party : Party) : Decidable (s.Running party) :=
  inferInstanceAs (Decidable (_ ∧ _))

def setPc (party : Party) (pc : PartyPc) (s : ControlState) : ControlState :=
  match party with
  | .rx => { s with rx := pc }
  | .tx => { s with tx := pc }
  | .send => { s with send := pc }

/-- Put an event into the ring.  In a full ring it replaces the newest event of its type, or is
lost. -/
def sstpSessionEmit (event : Event) (s : ControlState) : ControlState :=
  if s.events.Full then
    if ¬s.events.Empty ∧ (s.events.slots s.events.newest).type = event.type then
      { s with events := s.events.setNewest event, evtDropped := s.evtDropped + 1 }
    else { s with evtDropped := s.evtDropped + 1 }
  else { s with events := s.events.push event }

/-- The worker meets a control packet.  It is dropped when the queue is full. -/
def enqueue (body : ControlBody) (s : ControlState) : ControlState :=
  if s.ctrlQ.Full then s
  else
    { s with
      ctrlQ := s.ctrlQ.push (some body)
      queued := some body
      accepted := s.accepted ++ [body] }

/-- The task fetches a control packet into a buffer. -/
def sstpIocRecvControl (bufLen : Nat) (s : ControlState) : Received × ControlState :=
  if s.ctrlQ.Empty then (.payload [], s)
  else
    match s.ctrlQ.front with
    | none => (.payload [], { s with ctrlQ := s.ctrlQ.release none })
    | some skb =>
        if bufLen < skb.1.length then (.emsgsize, { s with ctrlQ := s.ctrlQ.release none })
        else (.payload skb.1, { s with ctrlQ := s.ctrlQ.release none })

/-- The task handles the oldest event that it has read.  It leaves at a fatal one. -/
def handle (s : ControlState) : ControlState :=
  match s.pending with
  | [] => s
  | .fatal _ :: rest => { s with pending := rest, left := true }
  | .controlPacket frame :: rest =>
      let (received, s) := s.sstpIocRecvControl sstpControlMax
      { s with pending := rest, calls := s.calls ++ [(frame, received)] }

/-- A party that fails reports its event and then closes the session. -/
def finish (party : Party) (s : ControlState) : ControlState :=
  match s.pc party with
  | .failing event => (s.sstpSessionEmit (.fatal event)).setPc party .closes
  | .closes => { s with closing := true }.setPc party .stopped
  | .idle | .running | .stopped => s

def step (s : ControlState) (move : ControlMove) : ControlState :=
  match move with
  | .start party =>
      if s.pc party = .idle ∧ s.closing = false then s.setPc party .running else s
  | .rest party =>
      if s.Running party then s.setPc party .idle else s
  | .fail party event =>
      if s.Running party then s.setPc party (.failing event) else s
  | .finish party => s.finish party
  | .control body => if s.Running .rx then s.enqueue body else s
  | .announce =>
      match s.queued with
      | some body => { s.sstpSessionEmit (.controlPacket body) with queued := none }
      | none => s
  | .read =>
      if s.left ∨ s.events.Empty then s
      else { s with pending := s.pending ++ [s.events.front], events := s.events.pop }
  | .handle => if s.left then s else s.handle
  | .detach => { s with closing := true }

/-! ## The hand-over -/

/-- The packets whose calls are still to be made, oldest first. -/
def outstanding (s : ControlState) : List ControlBody :=
  (s.pending ++ s.events.contents).filterMap Event.frame? ++ s.queued.toList

/-- The number of parties that have reported their event. -/
def reports (s : ControlState) : Nat :=
  s.rx.reported + s.tx.reported + s.send.reported

theorem reports_le (s : ControlState) : s.reports ≤ 3 :=
  Nat.add_le_add (Nat.add_le_add s.rx.reported_le s.tx.reported_le) s.send.reported_le

theorem reports_setPc (party : Party) (pc : PartyPc) (s : ControlState) :
    (s.setPc party pc).reports + (s.pc party).reported = s.reports + pc.reported := by
  unfold reports
  cases party <;> simp only [setPc, ControlState.pc] <;> omega

/-- The packets in the queue are those with an outstanding call, every call so far was answered
with its own packet, no event was lost, and few events in the ring are fatal. -/
structure InStep (s : ControlState) : Prop where
  queue : s.ctrlQ.contents = s.outstanding.map some
  order : s.calls.map Prod.fst ++ s.outstanding = s.accepted
  answers : ∀ call ∈ s.calls, call.2 = .payload call.1.1
  kept : s.evtDropped = 0
  fatal : s.events.contents.countP Event.isFatal ≤ s.reports

theorem inStep_initial : InStep {} := by
  refine ⟨?_, ?_, ?_, rfl, ?_⟩
  · simp [outstanding]
  · simp [outstanding]
  · simp
  · simp

/-- Seven packets and an event from each party leave the event ring with room. -/
theorem InStep.not_full {s : ControlState} (inStep : s.InStep) : ¬s.events.Full := by
  have queue := congrArg List.length inStep.queue
  have seven := s.ctrlQ.length_lt
  have events := Event.length_eq_countP_add s.events.contents
  have fatal := inStep.fatal.trans s.reports_le
  rw [Ring.full_iff]
  simp only [outstanding, List.length_map, List.length_append, List.filterMap_append,
    Ring.length_contents] at queue events
  have packets : sstpCtrlQCap = 8 := rfl
  have slots : sstpEventQueueCap = 16 := rfl
  omega

theorem InStep.sstpSessionEmit_eq {s : ControlState} (inStep : s.InStep) (event : Event) :
    s.sstpSessionEmit event = { s with events := s.events.push event } :=
  if_neg inStep.not_full

theorem InStep.announce {s : ControlState} (inStep : s.InStep) {body : ControlBody}
    (queued : s.queued = some body) :
    InStep { s.sstpSessionEmit (.controlPacket body) with queued := none } := by
  rw [inStep.sstpSessionEmit_eq]
  have events := Ring.contents_push inStep.not_full (Event.controlPacket body)
  have same : outstanding { s with events := s.events.push (.controlPacket body), queued := none } =
      s.outstanding := by
    simp [outstanding, events, queued]
  refine ⟨?_, ?_, inStep.answers, inStep.kept, ?_⟩
  · rw [same]
    exact inStep.queue
  · rw [same]
    exact inStep.order
  · show (s.events.push (.controlPacket body)).contents.countP Event.isFatal ≤ s.reports
    rw [events, List.countP_append]
    exact inStep.fatal

theorem InStep.enqueue {s : ControlState} (inStep : s.InStep) (body : ControlBody)
    (announced : s.queued = none) : (s.enqueue body).InStep := by
  unfold ControlState.enqueue
  split_ifs with full
  · exact inStep
  · have longer : outstanding
        { s with
          ctrlQ := s.ctrlQ.push (some body)
          queued := some body
          accepted := s.accepted ++ [body] } = s.outstanding ++ [body] := by
      simp [outstanding, announced]
    refine ⟨?_, ?_, inStep.answers, inStep.kept, inStep.fatal⟩
    · rw [longer, List.map_append, ← inStep.queue]
      exact Ring.contents_push full _
    · rw [longer, ← List.append_assoc]
      exact congrArg (· ++ [body]) inStep.order

theorem InStep.read {s : ControlState} (inStep : s.InStep) (some : ¬s.events.Empty) :
    InStep { s with pending := s.pending ++ [s.events.front], events := s.events.pop } := by
  have events := Ring.contents_eq_cons_pop some
  have same : outstanding
      { s with pending := s.pending ++ [s.events.front], events := s.events.pop } =
        s.outstanding := by
    simp [outstanding, events]
  refine ⟨?_, ?_, inStep.answers, inStep.kept, ?_⟩
  · rw [same]
    exact inStep.queue
  · rw [same]
    exact inStep.order
  · refine le_trans ?_ inStep.fatal
    rw [events]
    exact List.Sublist.countP_le (List.sublist_cons_self _ _)

/-- A call finds the oldest packet of the queue, and its buffer is large enough. -/
theorem sstpIocRecvControl_eq {s : ControlState} {skb : ControlBody}
    {rest : List (Option ControlBody)} (contents : s.ctrlQ.contents = some skb :: rest) :
    s.sstpIocRecvControl sstpControlMax =
        (.payload skb.1, { s with ctrlQ := s.ctrlQ.release none }) ∧
      (s.ctrlQ.release none).contents = rest := by
  have nonempty : ¬s.ctrlQ.Empty := by
    intro empty
    have nothing := Ring.empty_iff.mp empty
    rw [← Ring.length_contents, contents] at nothing
    cases nothing
  have oldest := Ring.contents_eq_cons nonempty none
  rw [contents, List.cons.injEq] at oldest
  have fits : ¬sstpControlMax < skb.1.length :=
    Nat.not_lt_of_le (skb.length_le.trans (by decide))
  constructor
  · unfold sstpIocRecvControl
    rw [if_neg nonempty, ← oldest.1]
    exact if_neg fits
  · exact oldest.2.symm

theorem InStep.handle {s : ControlState} (inStep : s.InStep) : s.handle.InStep := by
  cases pending : s.pending with
  | nil =>
      have rests : s.handle = s := by rw [ControlState.handle, pending]
      rw [rests]
      exact inStep
  | cons event rest =>
      cases event with
      | fatal event =>
          have leaves : s.handle = { s with pending := rest, left := true } := by
            rw [ControlState.handle, pending]
          have same : outstanding { s with pending := rest, left := true } = s.outstanding := by
            simp [outstanding, pending, List.filterMap_cons]
          rw [leaves]
          exact ⟨same ▸ inStep.queue, same ▸ inStep.order, inStep.answers, inStep.kept, inStep.fatal⟩
      | controlPacket frame =>
          have first : s.outstanding = frame :: outstanding { s with pending := rest } := by
            simp [outstanding, pending]
          have contents := inStep.queue
          rw [first, List.map_cons] at contents
          rcases sstpIocRecvControl_eq contents with ⟨call, remaining⟩
          have fetches : s.handle =
              { s with
                ctrlQ := s.ctrlQ.release none
                pending := rest
                calls := s.calls ++ [(frame, .payload frame.1)] } := by
            simp only [ControlState.handle, pending, call]
          rw [fetches]
          refine ⟨remaining, ?_, ?_, inStep.kept, inStep.fatal⟩
          · rw [← inStep.order, first, List.map_append, List.append_assoc]
            rfl
          · intro call member
            rcases List.mem_append.mp member with early | new
            · exact inStep.answers call early
            · rw [List.mem_singleton.mp new]

theorem InStep.setPc {s : ControlState} (inStep : s.InStep) {party : Party} {pc : PartyPc}
    (same : pc.reported = (s.pc party).reported) : (s.setPc party pc).InStep := by
  have reports : s.reports = (s.setPc party pc).reports := by
    have moved := reports_setPc party pc s
    omega
  have fatal := inStep.fatal
  rw [reports] at fatal
  cases party with
  | rx => exact ⟨inStep.queue, inStep.order, inStep.answers, inStep.kept, fatal⟩
  | tx => exact ⟨inStep.queue, inStep.order, inStep.answers, inStep.kept, fatal⟩
  | send => exact ⟨inStep.queue, inStep.order, inStep.answers, inStep.kept, fatal⟩

/-- A party reports its event before it closes the session. -/
theorem InStep.report {s : ControlState} (inStep : s.InStep) {party : Party} {event : RxEvent}
    (failing : s.pc party = .failing event) :
    ((s.sstpSessionEmit (.fatal event)).setPc party .closes).InStep := by
  rw [inStep.sstpSessionEmit_eq]
  have events := Ring.contents_push inStep.not_full (Event.fatal event)
  have same : outstanding { s with events := s.events.push (.fatal event) } = s.outstanding := by
    simp [outstanding, events]
  have fatal : (s.events.push (.fatal event)).contents.countP Event.isFatal ≤ s.reports + 1 := by
    rw [events, List.countP_append]
    exact Nat.add_le_add_right inStep.fatal 1
  have reports : (s.setPc party .closes).reports = s.reports + 1 := by
    have moved := reports_setPc party .closes s
    rw [failing] at moved
    exact moved
  rw [← reports] at fatal
  cases party with
  | rx => exact ⟨same ▸ inStep.queue, same ▸ inStep.order, inStep.answers, inStep.kept, fatal⟩
  | tx => exact ⟨same ▸ inStep.queue, same ▸ inStep.order, inStep.answers, inStep.kept, fatal⟩
  | send => exact ⟨same ▸ inStep.queue, same ▸ inStep.order, inStep.answers, inStep.kept, fatal⟩

theorem InStep.finish {s : ControlState} (inStep : s.InStep) (party : Party) :
    (s.finish party).InStep := by
  unfold ControlState.finish
  cases pc : s.pc party with
  | failing event => exact inStep.report pc
  | closes =>
      have closed : InStep { s with closing := true } :=
        ⟨inStep.queue, inStep.order, inStep.answers, inStep.kept, inStep.fatal⟩
      apply closed.setPc
      show 1 = (s.pc party).reported
      rw [pc]
      rfl
  | idle | running | stopped => exact inStep

theorem InStep.step {s : ControlState} (inStep : s.InStep) (move : ControlMove) :
    (s.step move).InStep := by
  cases move with
  | start party =>
      by_cases starts : s.pc party = .idle ∧ s.closing = false
      · rw [ControlState.step, if_pos starts]
        exact inStep.setPc (by rw [starts.1]; rfl)
      · rw [ControlState.step, if_neg starts]
        exact inStep
  | rest party =>
      by_cases running : s.Running party
      · rw [ControlState.step, if_pos running]
        exact inStep.setPc (by rw [running.1]; rfl)
      · rw [ControlState.step, if_neg running]
        exact inStep
  | fail party event =>
      by_cases running : s.Running party
      · rw [ControlState.step, if_pos running]
        exact inStep.setPc (by rw [running.1]; rfl)
      · rw [ControlState.step, if_neg running]
        exact inStep
  | finish party => exact inStep.finish party
  | control body =>
      by_cases running : s.Running .rx
      · rw [ControlState.step, if_pos running]
        exact inStep.enqueue body (running.2 rfl)
      · rw [ControlState.step, if_neg running]
        exact inStep
  | announce =>
      unfold ControlState.step
      cases queued : s.queued with
      | some body => exact inStep.announce queued
      | none => exact inStep
  | read =>
      by_cases rests : s.left = true ∨ s.events.Empty
      · rw [ControlState.step, if_pos rests]
        exact inStep
      · rw [ControlState.step, if_neg rests]
        exact inStep.read (not_or.mp rests).2
  | handle =>
      rw [ControlState.step]
      split_ifs
      · exact inStep
      · exact inStep.handle
  | detach => exact ⟨inStep.queue, inStep.order, inStep.answers, inStep.kept, inStep.fatal⟩

/-- The control side after some steps. -/
def run (moves : List ControlMove) : ControlState :=
  finalState step {} moves

/-- In every run the queue has as many packets as there are announcements in the ring, read
and not handled, and still to be made; no event is lost; and the packets go, in the order of
their arrival, to the calls for their own announcements. -/
theorem handOver_exact (moves : List ControlMove) :
    (run moves).ctrlQ.contents.length =
        (run moves).events.contents.countP (·.frame?.isSome) +
          (run moves).pending.countP (·.frame?.isSome) + (run moves).queued.toList.length ∧
      (run moves).evtDropped = 0 ∧
        (∀ call ∈ (run moves).calls, call.2 = .payload call.1.1) ∧
          (run moves).calls.map Prod.fst ++ (run moves).outstanding = (run moves).accepted ∧
            (run moves).ctrlQ.contents = (run moves).outstanding.map some := by
  have inStep : (run moves).InStep :=
    finalState_invariant (fun _ move inStep => inStep.step move) inStep_initial moves
  refine ⟨?_, inStep.kept, inStep.answers, inStep.order, inStep.queue⟩
  rw [inStep.queue, List.length_map, outstanding, List.length_append, List.filterMap_append,
    List.length_append, List.length_filterMap_eq_countP, List.length_filterMap_eq_countP]
  omega

end ControlState

end SstpServer.Kmod
