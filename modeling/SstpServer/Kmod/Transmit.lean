import SstpServer.Kmod.Demux
import SstpServer.Transition.Run

/-!
# The transmit path of the kernel module

Frames for the peer come from the PPP channel, from the LCP echo handler of the receive
worker and from the session task.  The first two share a queue that the transmit worker
empties in batches, the task's control packets are written at once.  All three write
their size into a field of twelve bits.
-/

namespace SstpServer.Kmod

open SstpServer.Wire
open SstpServer.Sstp
open SstpServer.Iteration
open SstpServer.Transition

/-! ## Frames -/

/-- Most skbs in the transmit queue. -/
def sstpTxQCap : Nat := 64

/-- Most skbs in one send. -/
def sstpTxBatchMax : Nat := 8

/-- The packet header and the address and control fields in front of an skb. -/
def sstpTxHdrStride : Nat := sstpHeaderLen + 2

/-- Most bytes in one send of several skbs. -/
def sstpTxBatchBytesMax : Nat := 14 * 1024

/-- Size of the buffer for a control packet. -/
def sstpControlMax : Nat := 4096

/-- The header as the module writes it, with four bits of the size's high byte. -/
def txHeader (control : Bool) (frame : Nat) : Bytes :=
  [sstpVersion10, if control then 1 else 0, UInt8.ofNat (frame / 256 % 16), UInt8.ofNat frame]

theorem txHeader_eq (control : Bool) (frame : Nat) :
    txHeader control frame = writeHeader control frame := by
  have high : frame / 256 % 16 = frame % (sstpMaxPacketLen + 1) / 256 := by
    unfold sstpMaxPacketLen
    omega
  have low : UInt8.ofNat frame = UInt8.ofNat (frame % (sstpMaxPacketLen + 1)) := by
    apply UInt8.toNat_inj.mp
    simp only [UInt8.toNat_ofNat', sstpMaxPacketLen]
    omega
  rw [txHeader, writeHeader, toBe16, high, low]

/-- A frame that the module writes: an skb of the PPP channel, or the body of a control
packet. -/
inductive TxFrame where
  | data (skb : Bytes)
  | control (body : Bytes)
  deriving DecidableEq, Repr

namespace TxFrame

/-- What the peer is to find behind the header. -/
def body : TxFrame → Bytes
  | .data skb => [0xFF, 0x03] ++ skb
  | .control body => body

def isControl : TxFrame → Bool
  | .data _ => false
  | .control _ => true

def size (frame : TxFrame) : Nat :=
  sstpHeaderLen + frame.body.length

def encode (frame : TxFrame) : Bytes :=
  txHeader frame.isControl frame.size ++ frame.body

/-- The frame as the receiver of the stream sees it. -/
def received (frame : TxFrame) : RxFrame :=
  if frame.isControl then .control frame.body else .data frame.body

/-- The skb of a frame from the queue. -/
def skb? : TxFrame → Option Bytes
  | .data skb => some skb
  | .control _ => none

@[simp]
theorem length_encode (frame : TxFrame) : frame.encode.length = frame.size := by
  rw [encode, txHeader_eq, List.length_append, length_writeHeader, size]

theorem lengthField_encode (frame : TxFrame) :
    lengthField frame.encode = frame.size % (sstpMaxPacketLen + 1) := by
  rw [encode, txHeader_eq, lengthField_writeHeader]

/-- The header has the size of the frame exactly when the size fits into it. -/
theorem lengthField_encode_eq_iff {frame : TxFrame} :
    lengthField frame.encode = frame.encode.length ↔ frame.size ≤ sstpMaxPacketLen := by
  rw [lengthField_encode, length_encode]
  have bound := Nat.mod_lt frame.size (Nat.succ_pos sstpMaxPacketLen)
  constructor
  · intro same
    rw [← same]
    exact Nat.le_of_lt_succ bound
  · intro fits
    exact Nat.mod_eq_of_lt (Nat.lt_succ_of_le fits)

theorem whole_encode {frame : TxFrame} (fits : frame.size ≤ sstpMaxPacketLen) :
    sstpFraming.Whole frame.encode := by
  have framed : Packet.Framed (writeHeader frame.isControl frame.size ++ frame.body) frame.size :=
    Packet.framed_writeHeader frame.isControl rfl fits
  rw [Framing.Whole, length_encode, head_eq_frame_iff, encode, txHeader_eq]
  exact framed

theorem ofPacket_encode (frame : TxFrame) : RxFrame.ofPacket frame.encode = frame.received := by
  cases frame <;> rfl

end TxFrame

/-! ## Producers and the worker -/

/-- What `kernel_sendmsg` reports: all bytes taken, no room for now, or a short write or an
error. -/
inductive SendResult where
  | sent
  | again
  | failed
  deriving DecidableEq, Repr

/-- The transmit side of a kernel session, with the skbs that were ever queued and the
frames whose send succeeded. -/
structure TxSession where
  txQ : List Bytes := []
  closing : Bool := false
  enqueued : List Bytes := []
  written : List TxFrame := []
  deriving DecidableEq, Repr

/-- The Echo-Reply for an LCP Echo-Request, given without address and control fields. -/
def lcpEchoReply (payload : Bytes) : Option Bytes :=
  match payload with
  | protocolHigh :: protocolLow :: code :: identifier :: high :: low :: _ :: _ :: _ :: _ :: data =>
      if protocolHigh ≠ 0xC0 ∨ protocolLow ≠ 0x21 ∨ code ≠ 9 then none
      else if be16 high low < 8 ∨ payload.length < be16 high low + 2 then none
      else
        some ([0xC0, 0x21, 10, identifier, high, low, 0, 0, 0, 0] ++ data.take (be16 high low - 8))
  | _ => none

/-- Strip the address and control fields, where they are present. -/
def stripAllStations (payload : Bytes) : Bytes :=
  match payload with
  | address :: control :: rest =>
      if address = 0xFF ∧ control = 0x03 then rest else payload
  | _ => payload

/-- Collect skbs from the queue: at most `slots` of them, and only the first may exceed the
byte limit. -/
def takeBatch (slots total : Nat) (queue : List Bytes) : List Bytes × List Bytes :=
  match slots, queue with
  | slots + 1, skb :: rest =>
      let frame := sstpTxHdrStride + skb.length
      if slots + 1 < sstpTxBatchMax ∧ sstpTxBatchBytesMax < total + frame then ([], queue)
      else
        let (batch, left) := takeBatch slots (total + frame) rest
        (skb :: batch, left)
  | _, _ => ([], queue)

namespace TxSession

def enqueue (skb : Bytes) (s : TxSession) : TxSession :=
  { s with txQ := s.txQ ++ [skb], enqueued := s.enqueued ++ [skb] }

/-- The channel hands over an skb.  One that is too long is dropped; on a full queue the
channel keeps it. -/
def startXmit (skb : Bytes) (s : TxSession) : TxSession :=
  if s.closing then s
  else if sstpMaxPacketLen < sstpHeaderLen + 2 + skb.length then s
  else if sstpTxQCap ≤ s.txQ.length then s
  else s.enqueue skb

/-- A data packet arrives.  An Echo-Request is answered here, everything else goes to the
channel. -/
def deliverPpp (payload : Bytes) (s : TxSession) : TxSession :=
  match lcpEchoReply (stripAllStations payload) with
  | none => s
  | some reply =>
      if s.closing then s
      else if sstpTxQCap ≤ s.txQ.length then s
      else s.enqueue reply

/-- The task sends the body of a control packet. -/
def sendControl (body : Bytes) (result : SendResult) (s : TxSession) : TxSession :=
  if s.closing then s
  else if body.length = 0 ∨ sstpControlMax - sstpHeaderLen < body.length then s
  else
    match result with
    | .sent => { s with written := s.written ++ [.control body] }
    | .again => s
    | .failed => { s with closing := true }

/-- One turn of the transmit worker.  A batch for which there is no room goes back to the
head of the queue. -/
def txWorker (result : SendResult) (s : TxSession) : TxSession :=
  if s.closing then s
  else
    match takeBatch sstpTxBatchMax 0 s.txQ with
    | ([], _) => s
    | (batch, left) =>
        match result with
        | .sent => { s with txQ := left, written := s.written ++ batch.map .data }
        | .again => { s with txQ := batch ++ left }
        | .failed => { s with txQ := left, closing := true }

end TxSession

/-- What the transmit side of a session meets. -/
inductive TxInput where
  | startXmit (skb : Bytes)
  | deliverPpp (payload : Bytes)
  | sendControl (body : Bytes) (result : SendResult)
  | txWorker (result : SendResult)
  | close
  deriving DecidableEq, Repr

def TxSession.step (s : TxSession) (input : TxInput) : TxSession :=
  match input with
  | .startXmit skb => s.startXmit skb
  | .deliverPpp payload => s.deliverPpp payload
  | .sendControl body result => s.sendControl body result
  | .txWorker result => s.txWorker result
  | .close => { s with closing := true }

/-- The bytes of the frames that were written. -/
def TxSession.output (s : TxSession) : Bytes :=
  (s.written.map TxFrame.encode).flatten

/-! ## Well-framed output -/

/-- Every frame carries its size, and the stream is cut back into the frames that were
written, whose skbs are the first that were queued. -/
structure WellFramed (s : TxSession) : Prop where
  sized : ∀ frame ∈ s.written,
    lengthField frame.encode = frame.encode.length ∧ frame.encode.length ≤ sstpMaxPacketLen
  reparsed : (sstpFraming.frames s.output).map .ofPacket = s.written.map TxFrame.received
  complete : sstpFraming.rest s.output = []
  ordered : s.written.filterMap TxFrame.skb? <+: s.enqueued

/-- What the module accepts although its frame does not fit: an Echo-Request that it
answers with more than the 4087 bytes of LCP that fit, and a control body of 4092 bytes. -/
def Overflows (s : TxSession) : TxInput → Prop
  | .deliverPpp payload =>
      s.closing = false ∧ s.txQ.length < sstpTxQCap ∧
        (lcpEchoReply (stripAllStations payload)).isSome ∧
          4087 < be16 ((stripAllStations payload).getD 4 0) ((stripAllStations payload).getD 5 0)
  | .sendControl body result => s.closing = false ∧ result = .sent ∧ body.length = 4092
  | _ => False

theorem length_lcpEchoReply {payload reply : Bytes} (answered : lcpEchoReply payload = some reply) :
    reply.length = be16 (payload.getD 4 0) (payload.getD 5 0) + 2 := by
  unfold lcpEchoReply at answered
  split at answered
  · rename_i protocolHigh protocolLow code identifier high low _ _ _ _ data
    split_ifs at answered with other short
    rcases not_or.mp short with ⟨least, present⟩
    cases answered
    simp only [List.length_append, List.length_cons, List.length_nil, List.length_take] at present ⊢
    show _ = be16 high low + 2
    omega
  · cases answered

theorem takeBatch_append (slots total : Nat) (queue : List Bytes) :
    (takeBatch slots total queue).1 ++ (takeBatch slots total queue).2 = queue := by
  induction slots generalizing total queue with
  | zero => rfl
  | succ slots ih =>
      cases queue with
      | nil => rfl
      | cons skb rest =>
          unfold takeBatch
          dsimp only
          split_ifs
          · rfl
          · exact congrArg (skb :: ·) (ih _ rest)

/-- The first skb always goes into the batch. -/
theorem takeBatch_cons (skb : Bytes) (rest : List Bytes) :
    ∃ batch, (takeBatch sstpTxBatchMax 0 (skb :: rest)).1 = skb :: batch :=
  ⟨_, rfl⟩

/-- Frames and skbs fit, and the skbs are written in the order in which they were queued;
only a failed send loses some. -/
structure Fitting (s : TxSession) : Prop where
  written : ∀ frame ∈ s.written, frame.size ≤ sstpMaxPacketLen
  queued : ∀ skb ∈ s.txQ, (TxFrame.data skb).size ≤ sstpMaxPacketLen
  ordered : ∃ lost, s.enqueued = s.written.filterMap TxFrame.skb? ++ lost ++ s.txQ ∧
    (s.closing = false → lost = [])

theorem Fitting.wellFramed {s : TxSession} (fitting : Fitting s) : WellFramed s := by
  have whole : ∀ frame ∈ s.written.map TxFrame.encode, sstpFraming.Whole frame := by
    intro encoded member
    rcases List.mem_map.mp member with ⟨frame, listed, rfl⟩
    exact TxFrame.whole_encode (fitting.written frame listed)
  have frames := sstpFraming.frames_flatten_append whole []
  have rest := sstpFraming.rest_flatten_append whole []
  rw [List.append_nil, Framing.frames_nil, List.append_nil] at frames
  rw [List.append_nil, Framing.rest_nil] at rest
  refine ⟨?_, ?_, rest, ?_⟩
  · intro frame member
    have fits := fitting.written frame member
    exact ⟨TxFrame.lengthField_encode_eq_iff.mpr fits, (TxFrame.length_encode frame).le.trans fits⟩
  · rw [TxSession.output, frames, List.map_map]
    exact List.map_congr_left fun frame _ => frame.ofPacket_encode
  · rcases fitting.ordered with ⟨lost, queue, -⟩
    rw [queue, List.append_assoc]
    exact List.prefix_append _ _

theorem Fitting.enqueue {s : TxSession} (fitting : Fitting s) {skb : Bytes}
    (fits : (TxFrame.data skb).size ≤ sstpMaxPacketLen) : Fitting (s.enqueue skb) := by
  refine ⟨fitting.written, ?_, ?_⟩
  · intro other member
    rcases List.mem_append.mp member with early | new
    · exact fitting.queued other early
    · rw [List.mem_singleton.mp new]
      exact fits
  · rcases fitting.ordered with ⟨lost, queue, kept⟩
    refine ⟨lost, ?_, kept⟩
    show s.enqueued ++ [skb] = _
    rw [queue]
    exact List.append_assoc _ _ _

theorem Fitting.close {s : TxSession} (fitting : Fitting s) :
    Fitting { s with closing := true } := by
  rcases fitting.ordered with ⟨lost, queue, -⟩
  exact ⟨fitting.written, fitting.queued, lost, queue, nofun⟩

theorem Fitting.sendControl {s : TxSession} (fitting : Fitting s) {body : Bytes}
    {result : SendResult} (fits : ¬Overflows s (.sendControl body result)) :
    Fitting (s.sendControl body result) := by
  unfold TxSession.sendControl
  split_ifs with closing refused
  · exact fitting
  · exact fitting
  · cases result with
    | sent =>
        have bounded : (TxFrame.control body).size ≤ sstpMaxPacketLen := by
          have other : body.length ≠ 4092 := fun size => fits ⟨by simpa using closing, rfl, size⟩
          simp only [sstpControlMax, sstpHeaderLen, not_or] at refused
          simp only [TxFrame.size, TxFrame.body, sstpHeaderLen, sstpMaxPacketLen]
          omega
        refine ⟨?_, fitting.queued, ?_⟩
        · intro frame member
          rcases List.mem_append.mp member with early | new
          · exact fitting.written frame early
          · rw [List.mem_singleton.mp new]
            exact bounded
        · rcases fitting.ordered with ⟨lost, queue, kept⟩
          have none : [TxFrame.control body].filterMap TxFrame.skb? = [] := rfl
          refine ⟨lost, ?_, kept⟩
          rw [List.filterMap_append, none, List.append_nil]
          exact queue
    | again => exact fitting
    | failed => exact fitting.close

theorem Fitting.txWorker {s : TxSession} (fitting : Fitting s) (result : SendResult) :
    Fitting (s.txWorker result) := by
  have parted := takeBatch_append sstpTxBatchMax 0 s.txQ
  rcases fitting.ordered with ⟨lost, queue, kept⟩
  unfold TxSession.txWorker
  cases closing : s.closing with
  | true => exact fitting
  | false =>
      rcases kept closing with rfl
      simp only [Bool.false_eq_true, if_false]
      generalize takeBatch sstpTxBatchMax 0 s.txQ = parts at parted
      rcases parts with ⟨_ | ⟨skb, batch⟩, left⟩
      · exact fitting
      · dsimp only at parted ⊢
        have fits : ∀ other ∈ skb :: batch ++ left,
            (TxFrame.data other).size ≤ sstpMaxPacketLen := by
          rw [parted]
          exact fitting.queued
        have remaining : ∀ other ∈ left, (TxFrame.data other).size ≤ sstpMaxPacketLen :=
          fun other member => fits other (List.mem_append_right _ member)
        have skbs : ((skb :: batch).map TxFrame.data).filterMap TxFrame.skb? = skb :: batch := by
          rw [List.filterMap_map]
          exact List.filterMap_some
        cases result with
        | sent =>
            refine ⟨?_, remaining, [], ?_, fun _ => rfl⟩
            · intro frame member
              rcases List.mem_append.mp member with early | new
              · exact fitting.written frame early
              · rcases List.mem_map.mp new with ⟨other, listed, rfl⟩
                exact fits other (List.mem_append_left _ listed)
            · rw [List.filterMap_append, skbs, List.append_nil, List.append_assoc, parted, queue,
                List.append_nil]
        | again =>
            refine ⟨fitting.written, fits, [], ?_, fun _ => rfl⟩
            rw [parted]
            exact queue
        | failed =>
            refine ⟨fitting.written, remaining, skb :: batch, ?_, nofun⟩
            rw [List.append_assoc, parted, queue, List.append_nil]

theorem Fitting.step {s : TxSession} (fitting : Fitting s) {input : TxInput}
    (fits : ¬Overflows s input) : Fitting (s.step input) := by
  cases input with
  | startXmit skb =>
      unfold TxSession.step TxSession.startXmit
      dsimp only
      split_ifs with closing long full
      · exact fitting
      · exact fitting
      · exact fitting
      · apply fitting.enqueue
        simp only [TxFrame.size, TxFrame.body, List.length_append, List.length_cons,
          List.length_nil]
        omega
  | deliverPpp payload =>
      unfold TxSession.step TxSession.deliverPpp
      dsimp only
      cases answered : lcpEchoReply (stripAllStations payload) with
      | none => exact fitting
      | some reply =>
          dsimp only
          split_ifs with closing full
          · exact fitting
          · exact fitting
          · apply fitting.enqueue
            have sized := length_lcpEchoReply answered
            have short : ¬4087 < be16 ((stripAllStations payload).getD 4 0)
                ((stripAllStations payload).getD 5 0) := fun long =>
              fits ⟨by simpa using closing, Nat.lt_of_not_le full, by rw [answered]; rfl, long⟩
            simp only [TxFrame.size, TxFrame.body, List.length_append, List.length_cons,
              List.length_nil, sstpHeaderLen, sstpMaxPacketLen]
            omega
  | sendControl body result => exact fitting.sendControl fits
  | txWorker result => exact fitting.txWorker result
  | close => exact fitting.close

/-! ## Runs -/

/-- Turns of the worker that all succeed write the whole queue. -/
theorem written_drained (count : Nat) {s : TxSession} (opened : s.closing = false)
    (enough : s.txQ.length ≤ count) :
    (finalState TxSession.step s (List.replicate count (.txWorker .sent))).written =
      s.written ++ s.txQ.map .data := by
  induction count generalizing s with
  | zero =>
      rw [List.eq_nil_of_length_eq_zero (Nat.le_zero.mp enough)]
      exact (List.append_nil _).symm
  | succ count ih =>
      rw [List.replicate_succ, finalState_cons]
      cases queue : s.txQ with
      | nil =>
          have idle : s.step (.txWorker .sent) = s := by
            simp [TxSession.step, TxSession.txWorker, opened, queue, takeBatch]
          have empty : s.txQ.length ≤ count := by simp [queue]
          rw [idle, ih opened empty, queue]
      | cons skb rest =>
          have parted := takeBatch_append sstpTxBatchMax 0 (skb :: rest)
          rcases takeBatch_cons skb rest with ⟨batch, first⟩
          have sent : s.step (.txWorker .sent) =
              { s with
                txQ := (takeBatch sstpTxBatchMax 0 (skb :: rest)).2
                written := s.written ++
                  (takeBatch sstpTxBatchMax 0 (skb :: rest)).1.map .data } := by
            unfold TxSession.step TxSession.txWorker
            simp only [opened, Bool.false_eq_true, if_false, queue]
            generalize takeBatch sstpTxBatchMax 0 (skb :: rest) = parts at first
            rcases parts with ⟨taken, left⟩
            dsimp only at first
            rw [first]
          have shorter : (takeBatch sstpTxBatchMax 0 (skb :: rest)).2.length ≤ count := by
            have lengths := congrArg List.length parted
            rw [first] at lengths
            rw [queue] at enough
            simp only [List.length_append, List.length_cons] at lengths enough
            omega
          have stays : (s.step (.txWorker .sent)).closing = false := by
            rw [sent]
            exact opened
          have fewer : (s.step (.txWorker .sent)).txQ.length ≤ count := by
            rw [sent]
            exact shorter
          rw [ih stays fewer, sent]
          dsimp only
          rw [List.append_assoc, ← List.map_append, parted]

theorem fitting_run {inputs : List TxInput}
    (fits : ∀ visit ∈ visits TxSession.step {} inputs, ¬Overflows visit.1 visit.2) :
    Fitting (finalState TxSession.step {} inputs) := by
  have initially : Fitting {} := ⟨nofun, nofun, [], rfl, fun _ => rfl⟩
  exact finalState_of_guarded (fun _ _ fitting ok => fitting.step ok) initially fits

/-- A frame that does not fit is written with another size in its header. -/
theorem not_wellFramed_of_mem {s : TxSession} {frame : TxFrame} (member : frame ∈ s.written)
    (long : sstpMaxPacketLen < frame.size) : ¬WellFramed s := by
  intro framed
  have fits := (framed.sized frame member).2
  rw [TxFrame.length_encode] at fits
  exact Nat.not_lt.mpr fits long

/-- What overflows is written sooner or later. -/
theorem exists_not_wellFramed {s : TxSession} {input : TxInput} (overflows : Overflows s input) :
    ∃ results : List SendResult,
      ¬WellFramed (finalState TxSession.step (s.step input) (results.map .txWorker)) := by
  cases input with
  | deliverPpp payload =>
      rcases overflows with ⟨opened, room, answered, long⟩
      rcases Option.isSome_iff_exists.mp answered with ⟨reply, answered⟩
      have queued : s.step (.deliverPpp payload) = s.enqueue reply := by
        unfold TxSession.step TxSession.deliverPpp
        simp only [answered, opened, Bool.false_eq_true, if_false]
        rw [if_neg (Nat.not_le.mpr room)]
      refine ⟨List.replicate (s.enqueue reply).txQ.length .sent, ?_⟩
      rw [queued, List.map_replicate]
      have written := written_drained (s := s.enqueue reply) _ opened (Nat.le_refl _)
      have member : TxFrame.data reply ∈
          (s.enqueue reply).written ++ (s.enqueue reply).txQ.map .data :=
        List.mem_append_right _ (List.mem_map_of_mem (List.mem_append_right _ (.head _)))
      rw [← written] at member
      apply not_wellFramed_of_mem member
      have sized := length_lcpEchoReply answered
      simp only [TxFrame.size, TxFrame.body, List.length_append, List.length_cons,
        List.length_nil, sstpHeaderLen, sstpMaxPacketLen]
      omega
  | sendControl body result =>
      rcases overflows with ⟨opened, rfl, size⟩
      refine ⟨[], ?_⟩
      have written : (s.step (.sendControl body .sent)).written = s.written ++ [.control body] := by
        unfold TxSession.step TxSession.sendControl
        simp only [opened, Bool.false_eq_true, if_false]
        rw [if_neg (by rw [size]; decide)]
      have member : TxFrame.control body ∈ (s.step (.sendControl body .sent)).written := by
        rw [written]
        exact List.mem_append_right _ (.head _)
      apply not_wellFramed_of_mem member
      simp only [TxFrame.size, TxFrame.body, size, sstpHeaderLen, sstpMaxPacketLen]
      decide
  | startXmit skb => exact overflows.elim
  | txWorker result => exact overflows.elim
  | close => exact overflows.elim

/-- At every point of a run, whatever the worker then writes, the output is well framed,
exactly when the run accepts nothing whose frame does not fit. -/
theorem forall_wellFramed_iff (inputs : List TxInput) :
    (∀ before after, inputs = before ++ after → ∀ results : List SendResult,
        WellFramed (finalState TxSession.step {} (before ++ results.map .txWorker))) ↔
      ∀ visit ∈ visits TxSession.step {} inputs, ¬Overflows visit.1 visit.2 := by
  constructor
  · rintro framed ⟨s, input⟩ visited overflows
    rcases mem_visits_iff.mp visited with ⟨before, after, rfl, rfl⟩
    rcases exists_not_wellFramed overflows with ⟨results, broken⟩
    apply broken
    have reached := framed (before ++ [input]) after (by simp) results
    rw [finalState_append, finalState_append] at reached
    exact reached
  · rintro fits before after rfl results
    apply Fitting.wellFramed
    apply fitting_run
    intro visit visited
    rw [visits_append] at visited
    rcases List.mem_append.mp visited with early | turn
    · apply fits visit
      rw [visits_append]
      exact List.mem_append_left _ early
    · rcases mem_visits_iff.mp turn with ⟨done, rest, split, -⟩
      have isTurn : visit.2 ∈ results.map TxInput.txWorker := by
        rw [split]
        exact List.mem_append_right _ (.head _)
      rcases List.mem_map.mp isTurn with ⟨result, -, same⟩
      rw [← same]
      exact id

/-- An LCP Echo-Request without address and control fields that fills a packet. -/
def longEchoRequest : Bytes :=
  [0xC0, 0x21, 9, 0, 0x0F, 0xF9, 0, 0, 0, 0] ++ List.replicate 4081 0

/-- The reply to an Echo-Request that fills a packet gets the Length 1, and a control body of
4092 bytes the Length 0. -/
theorem not_wellFramed_longEchoRequest :
    longEchoRequest.length + sstpHeaderLen ≤ sstpMaxPacketLen ∧
      ¬WellFramed (finalState TxSession.step {} [.deliverPpp longEchoRequest, .txWorker .sent]) ∧
      ((finalState TxSession.step {} [.deliverPpp longEchoRequest, .txWorker .sent]).written.map
        fun frame => (frame.size, lengthField frame.encode)) = [(4097, 1)] ∧
      ¬WellFramed
        (finalState TxSession.step {} [.sendControl (List.replicate 4092 0) .sent]) ∧
      ((finalState TxSession.step {} [.sendControl (List.replicate 4092 0) .sent]).written.map
        fun frame => (frame.size, lengthField frame.encode)) = [(4096, 0)] := by
  have broken : ∀ s : TxSession, ∀ sizes : List (Nat × Nat),
      (s.written.map fun frame => (frame.size, lengthField frame.encode)) = sizes →
      (∃ entry ∈ sizes, sstpMaxPacketLen < entry.1) → ¬WellFramed s := by
    rintro s _ rfl ⟨entry, member, long⟩
    rcases List.mem_map.mp member with ⟨frame, listed, rfl⟩
    exact not_wellFramed_of_mem listed long
  have echo : ((finalState TxSession.step {} [.deliverPpp longEchoRequest, .txWorker .sent]).written.map
      fun frame => (frame.size, lengthField frame.encode)) = [(4097, 1)] := by decide +kernel
  have control : ((finalState TxSession.step {} [.sendControl (List.replicate 4092 0) .sent]).written.map
      fun frame => (frame.size, lengthField frame.encode)) = [(4096, 0)] := by decide +kernel
  exact ⟨by decide +kernel, broken _ _ echo ⟨_, .head _, by decide⟩, echo,
    broken _ _ control ⟨_, .head _, by decide⟩, control⟩

end SstpServer.Kmod
