import SstpServer.Kmod.Demux
import SstpServer.Transition.Run

/-!
# The receive buffer of the kernel module

The worker reads the stream into memory of a fixed size, parses it by offsets and moves what
is left to the front.  A run of the worker ends after a number of reads, and the next one
goes on with the bytes that are left.
-/

namespace SstpServer.Kmod

open SstpServer.Wire
open SstpServer.Sstp
open SstpServer.Iteration
open SstpServer.Transition

/-! ## Memory -/

/-- Copy bytes to an offset of a block. -/
def store {n : Nat} (memory : Block n) (offset : Nat) (bytes : Bytes)
    (room : offset + bytes.length ≤ n) : Block n :=
  ⟨memory.toList.take offset ++ bytes ++ memory.toList.drop (offset + bytes.length), by
    simp only [List.length_append, List.length_take, List.length_drop, List.Vector.toList_length]
    omega⟩

theorem take_toList_store {n : Nat} {memory : Block n} {offset stop : Nat} {bytes : Bytes}
    (room : offset + bytes.length ≤ n) (ends : offset + bytes.length = stop) :
    (store memory offset bytes room).toList.take stop = memory.toList.take offset ++ bytes := by
  apply List.take_left'
  simp only [List.length_append, List.length_take, List.Vector.toList_length]
  omega

/-- The receive buffer, with `rxLen` bytes at the head of its memory. -/
structure RxBuffer where
  memory : Block sstpRxBufCap
  rxLen : Nat
  fits : rxLen ≤ sstpRxBufCap
  deriving DecidableEq

namespace RxBuffer

def free (buffer : RxBuffer) : Nat :=
  sstpRxBufCap - buffer.rxLen

/-- The bytes that count. -/
def bytes (buffer : RxBuffer) : Bytes :=
  buffer.memory.toList.take buffer.rxLen

theorem length_take_free (chunk : Bytes) (buffer : RxBuffer) :
    buffer.rxLen + (chunk.take buffer.free).length ≤ sstpRxBufCap := by
  have fits := buffer.fits
  rw [List.length_take, free]
  omega

/-- Read from the socket, which hands over as much as there is room for. -/
def read (chunk : Bytes) (buffer : RxBuffer) : RxBuffer :=
  { memory :=
      store buffer.memory buffer.rxLen (chunk.take buffer.free) (buffer.length_take_free chunk)
    rxLen := buffer.rxLen + (chunk.take buffer.free).length
    fits := buffer.length_take_free chunk }

theorem length_slice_rxLen (consumed : Nat) (buffer : RxBuffer) :
    0 + (slice buffer.memory.toList consumed buffer.rxLen).length = buffer.rxLen - consumed := by
  have inside : buffer.rxLen ≤ buffer.memory.toList.length := by
    rw [List.Vector.toList_length]
    exact buffer.fits
  rw [Nat.zero_add, length_slice_of_le inside]

theorem length_slice_le (consumed : Nat) (buffer : RxBuffer) :
    0 + (slice buffer.memory.toList consumed buffer.rxLen).length ≤ sstpRxBufCap := by
  rw [length_slice_rxLen]
  exact (Nat.sub_le _ _).trans buffer.fits

/-- Move the bytes behind the consumed ones to the head of the memory. -/
def compact (consumed : Nat) (buffer : RxBuffer) : RxBuffer :=
  { memory :=
      store buffer.memory 0 (slice buffer.memory.toList consumed buffer.rxLen)
        (buffer.length_slice_le consumed)
    rxLen := buffer.rxLen - consumed
    fits := (Nat.sub_le _ _).trans buffer.fits }

/-- Parse the complete packets from an offset on.  The result is their frames, the offset
behind them, and the version byte of a broken header. -/
def demuxFrom (buffer : RxBuffer) : Nat → Nat → List RxFrame × Nat × Option UInt8
  | 0, off => ([], off, none)
  | fuel + 1, off =>
      if buffer.rxLen - off < sstpHeaderLen then ([], off, none)
      else
        let p (i : Nat) := buffer.memory.toList.getD (off + i) 0
        let length := be16 (p 2) (p 3) % (sstpMaxPacketLen + 1)
        if p 0 ≠ sstpVersion10 ∨ length < sstpHeaderLen then ([], off, some (p 0))
        else if buffer.rxLen - off < length then ([], off, none)
        else
          let (frames, consumed, broken) := buffer.demuxFrom fuel (off + length)
          (.ofBody (p 1) (slice buffer.memory.toList (off + sstpHeaderLen) (off + length)) :: frames,
            consumed, broken)

@[simp]
theorem length_bytes (buffer : RxBuffer) : buffer.bytes.length = buffer.rxLen := by
  simp [bytes, buffer.fits]

theorem bytes_read (chunk : Bytes) (buffer : RxBuffer) :
    (buffer.read chunk).bytes = buffer.bytes ++ chunk.take buffer.free :=
  take_toList_store (buffer.length_take_free chunk) rfl

theorem bytes_compact (consumed : Nat) (buffer : RxBuffer) :
    (buffer.compact consumed).bytes = buffer.bytes.drop consumed :=
  take_toList_store (buffer.length_slice_le consumed) (buffer.length_slice_rxLen consumed)

end RxBuffer

/-! ## Parsing by offsets -/

theorem sstpDemuxParse_of_short (fuel : Nat) {buf : Bytes} (short : buf.length < sstpHeaderLen) :
    sstpDemuxParse fuel buf = ([], buf, none) := by
  match fuel, buf, short with
  | 0, _, _ => rfl
  | _ + 1, [], _ | _ + 1, [_], _ | _ + 1, [_, _], _ | _ + 1, [_, _, _], _ => rfl

theorem sstpDemuxParse_of_header (fuel : Nat) {buf : Bytes} (header : sstpHeaderLen ≤ buf.length) :
    sstpDemuxParse (fuel + 1) buf =
      let length := be16 (buf.getD 2 0) (buf.getD 3 0) % (sstpMaxPacketLen + 1)
      if buf.getD 0 0 ≠ sstpVersion10 ∨ length < sstpHeaderLen then ([], buf, some (buf.getD 0 0))
      else if buf.length < length then ([], buf, none)
      else
        let (frames, rest, broken) := sstpDemuxParse fuel (buf.drop length)
        (.ofBody (buf.getD 1 0) (slice buf sstpHeaderLen length) :: frames, rest, broken) := by
  match buf, header with
  | _ :: _ :: _ :: _ :: _, _ => rfl

namespace RxBuffer

/-- Parsing at an offset is parsing what stands behind the offset. -/
theorem sstpDemuxParse_drop (buffer : RxBuffer) (fuel off : Nat) (inside : off ≤ buffer.rxLen) :
    sstpDemuxParse fuel (buffer.bytes.drop off) =
      ((buffer.demuxFrom fuel off).1, buffer.bytes.drop (buffer.demuxFrom fuel off).2.1,
        (buffer.demuxFrom fuel off).2.2) := by
  induction fuel generalizing off with
  | zero => rfl
  | succ fuel ih =>
      have length : (buffer.bytes.drop off).length = buffer.rxLen - off := by simp
      by_cases short : buffer.rxLen - off < sstpHeaderLen
      · rw [sstpDemuxParse_of_short _ (length.trans_lt short), demuxFrom, if_pos short]
      · have read (i : Nat) (small : i < sstpHeaderLen) :
            (buffer.bytes.drop off).getD i 0 = buffer.memory.toList.getD (off + i) 0 :=
          getD_slice _ (by omega)
        have body (size : Nat) (complete : ¬buffer.rxLen - off < size) :
            slice (buffer.bytes.drop off) sstpHeaderLen size =
              slice buffer.memory.toList (off + sstpHeaderLen) (off + size) :=
          slice_slice _ _ _ _ _ (by omega)
        rw [sstpDemuxParse_of_header _ (length.symm ▸ Nat.le_of_not_lt short), demuxFrom,
          if_neg short, read 0 (by decide), read 1 (by decide), read 2 (by decide),
          read 3 (by decide), length]
        dsimp only
        split_ifs with broken incomplete
        · rfl
        · rfl
        · rw [body _ incomplete, List.drop_drop, ih _ (by omega)]

/-- What parsing and compacting leave. -/
theorem bytes_compact_demuxFrom (buffer : RxBuffer) :
    sstpDemuxParse buffer.bytes.length buffer.bytes =
      ((buffer.demuxFrom buffer.rxLen 0).1,
        (buffer.compact (buffer.demuxFrom buffer.rxLen 0).2.1).bytes,
        (buffer.demuxFrom buffer.rxLen 0).2.2) := by
  rw [length_bytes, bytes_compact]
  exact buffer.sstpDemuxParse_drop buffer.rxLen 0 (Nat.zero_le _)

end RxBuffer

/-! ## The worker -/

/-- The error numbers that the worker tells apart. -/
def eagain : Nat := 11

def epipe : Nat := 32

def enobufs : Nat := 105

/-- What a read returns to the worker. -/
inductive RecvCode where
  | received (count : Nat)
  | errno (number : Nat)
  deriving DecidableEq, Repr

/-- Most reads in one run of the worker. -/
def sstpRxLoops : Nat := 64

/-- The receive side with its buffer.  `run` counts the reads of a run in progress,
`overruns` the reads that found the buffer full; `received` is the stream so far. -/
structure RxState where
  buffer : RxBuffer
  closing : Bool := false
  workQueued : Bool := false
  run : Option Nat := none
  received : Bytes := []
  frames : List RxFrame := []
  events : List RxEvent := []
  overruns : Nat := 0
  deriving DecidableEq

/-- What happens to the receive side.  Other parties may close the session. -/
inductive RxMove where
  | dataReady
  | schedule
  | turn (recv : Recv)
  | close
  deriving DecidableEq, Repr

namespace RxState

/-- A new session, whose buffer is not cleared. -/
def attached (memory : Block sstpRxBufCap) : RxState :=
  { buffer := { memory := memory, rxLen := 0, fits := Nat.zero_le _ } }

def close (event : RxEvent) (s : RxState) : RxState :=
  { s with closing := true, events := s.events ++ [event] }

/-- Read the socket once. -/
def sstpDemuxRecvOnce (recv : Recv) (s : RxState) : RecvCode × RxState :=
  if sstpRxBufCap ≤ s.buffer.rxLen then (.errno enobufs, { s with overruns := s.overruns + 1 })
  else
    match recv with
    | .bytes chunk =>
        (.received (chunk.take s.buffer.free).length,
          { s with
            buffer := s.buffer.read chunk
            received := s.received ++ chunk.take s.buffer.free })
    | .otherRecord recordType => (.errno epipe, s.close (.tlsRekeyNeeded recordType))
    | .closed => (.received 0, s)
    | .again => (.errno eagain, s)
    | .error errno => (.errno errno, s)

/-- Parse the buffer and compact it. -/
def demux (s : RxState) : RxState :=
  let (frames, consumed, broken) := s.buffer.demuxFrom s.buffer.rxLen 0
  let s := { s with frames := s.frames ++ frames, buffer := s.buffer.compact consumed }
  match broken with
  | some version => s.close (.protocolError version)
  | none => s

/-- Parse what there is, and stop for now after the last read of a run. -/
def parse (loops : Nat) (s : RxState) : RxState :=
  let s := if s.buffer.rxLen = 0 then s else s.demux
  if sstpRxLoops ≤ loops + 1 then { s with workQueued := true, run := none }
  else { s with run := some (loops + 1) }

/-- One pass through the loop of the worker. -/
def turn (loops : Nat) (recv : Recv) (s : RxState) : RxState :=
  if s.closing then { s with run := none }
  else
    match s.sstpDemuxRecvOnce recv with
    | (.received 0, s) => { s.close .peerClosed with run := none }
    | (.received _, s) => s.parse loops
    | (.errno number, s) =>
        if number = enobufs then s.parse loops
        else if number = eagain ∨ number = epipe then { s with run := none }
        else { s.close (.tlsFatalAlert number) with run := none }

def step (s : RxState) (move : RxMove) : RxState :=
  match move with
  | .dataReady => if s.closing then s else { s with workQueued := true }
  | .schedule =>
      if s.workQueued ∧ s.run = none then { s with workQueued := false, run := some 0 } else s
  | .turn recv =>
      match s.run with
      | some loops => s.turn loops recv
      | none => s
  | .close => { s with closing := true }

/-! ## The session without its memory -/

/-- The session as the coarser model sees it. -/
def session (s : RxState) : RxSession :=
  { rxBuf := s.buffer.bytes, closing := s.closing, frames := s.frames, events := s.events }

/-- What the worker makes of a read. -/
def outcome (s : RxState) : Recv → Recv
  | .bytes chunk =>
      if (chunk.take s.buffer.free).length = 0 then .closed else .bytes (chunk.take s.buffer.free)
  | .error errno =>
      if errno = enobufs then .bytes []
      else if errno = eagain ∨ errno = epipe then .again
      else .error errno
  | recv => recv

theorem session_demux (s : RxState) : s.demux.session = s.session.demux := by
  have parsed := s.buffer.bytes_compact_demuxFrom
  simp only [RxSession.demux, session, parsed]
  simp only [demux]
  split
  · next broken => simp only [broken]; rfl
  · next none => simp only [none]

theorem session_parse (loops : Nat) (s : RxState) : (s.parse loops).session = s.session.demux := by
  have parsed : (if s.buffer.rxLen = 0 then s else s.demux).session = s.session.demux := by
    split_ifs with empty
    · have nothing : s.buffer.bytes = [] := by
        rw [← List.length_eq_zero_iff, RxBuffer.length_bytes, empty]
      simp [RxSession.demux, session, nothing, sstpDemuxParse]
    · exact session_demux s
  rw [← parsed]
  unfold parse
  dsimp only
  split_ifs <;> rfl

/-- A pass through the loop does to the session what one turn of the coarser model does. -/
theorem session_turn (loops : Nat) (recv : Recv) (s : RxState) :
    (s.turn loops recv).session = s.session.rxWorker (s.outcome recv) := by
  have length : s.session.rxBuf.length = s.buffer.rxLen := s.buffer.length_bytes
  unfold turn RxSession.rxWorker
  rw [length]
  by_cases closing : s.closing = true
  · rw [if_pos closing, if_pos (show s.session.closing = true from closing)]
    rfl
  · rw [if_neg closing, if_neg (show ¬s.session.closing = true from closing)]
    unfold sstpDemuxRecvOnce
    by_cases full : sstpRxBufCap ≤ s.buffer.rxLen
    · rw [if_pos full, if_pos full]
      exact session_parse loops _
    · rw [if_neg full, if_neg full]
      cases recv with
      | bytes chunk =>
          dsimp only [outcome]
          cases count : (chunk.take s.buffer.free).length with
          | zero =>
              have nothing : chunk.take s.buffer.free = [] := List.length_eq_zero_iff.mp count
              simp [session, close, RxSession.close, RxBuffer.bytes_read, nothing]
          | succ more =>
              rw [if_neg (Nat.succ_ne_zero more)]
              apply (session_parse loops _).trans
              simp only [session, RxBuffer.bytes_read]
      | otherRecord recordType => rfl
      | closed => rfl
      | again => rfl
      | error errno =>
          dsimp only [outcome]
          split_ifs with overrun stops
          · rw [session_parse]
            simp [session]
          · rfl
          · rfl

end RxState

/-! ## Reassembly -/

/-- The bytes of a read. -/
def Recv.stream : Recv → Bytes
  | .bytes chunk => chunk
  | .otherRecord _ | .closed | .again | .error _ => []

namespace RxSession

/-- The session has cut the stream so far into packets, whatever has closed it. -/
structure Reads (stream : Bytes) (s : RxSession) : Prop where
  frames : s.frames = (sstpFraming.frames stream).map .ofPacket
  cuts : s.closing = false → Cuts stream s

theorem Reads.close {stream : Bytes} {s : RxSession} (reads : Reads stream s) (event : RxEvent) :
    Reads stream (s.close event) :=
  ⟨reads.frames, by intro opened; cases opened⟩

theorem Reads.length_lt {stream : Bytes} {s : RxSession} (reads : Reads stream s)
    (opened : s.closing = false) : s.rxBuf.length < sstpMaxPacketLen :=
  (reads.cuts opened).length_lt opened

theorem Reads.rxWorker {stream : Bytes} {s : RxSession} (reads : Reads stream s)
    (opened : s.closing = false) (recv : Recv) :
    Reads (stream ++ recv.stream) (s.rxWorker recv) := by
  have room : ¬sstpRxBufCap ≤ s.rxBuf.length :=
    Nat.not_le_of_lt ((reads.length_lt opened).trans (by decide))
  have going : ¬s.closing = true := Bool.eq_false_iff.mp opened
  cases recv with
  | bytes chunk =>
      have next := (reads.cuts opened).rxWorker chunk
      exact ⟨next.frames, fun _ => next⟩
  | again =>
      unfold RxSession.rxWorker
      rw [if_neg going, if_neg room, Recv.stream, List.append_nil]
      exact reads
  | closed | otherRecord | error =>
      unfold RxSession.rxWorker
      rw [if_neg going, if_neg room, Recv.stream, List.append_nil]
      exact reads.close _

end RxSession

namespace RxState

theorem received_demux (s : RxState) :
    s.demux.received = s.received ∧ s.demux.overruns = s.overruns := by
  unfold demux
  dsimp only
  split <;> exact ⟨rfl, rfl⟩

theorem received_parse (loops : Nat) (s : RxState) :
    (s.parse loops).received = s.received ∧ (s.parse loops).overruns = s.overruns := by
  unfold parse
  dsimp only
  by_cases empty : s.buffer.rxLen = 0
  · rw [if_pos empty]
    split_ifs <;> exact ⟨rfl, rfl⟩
  · rw [if_neg empty]
    split_ifs <;> exact received_demux s

/-- A pass through the loop adds to the stream what it reads, and does not find the buffer
full. -/
theorem received_turn (loops : Nat) (recv : Recv) {s : RxState} (opened : s.closing = false)
    (room : s.buffer.rxLen < sstpRxBufCap) :
    (s.turn loops recv).received = s.received ++ (s.outcome recv).stream ∧
      (s.turn loops recv).overruns = s.overruns := by
  have going : ¬s.closing = true := Bool.eq_false_iff.mp opened
  unfold turn
  rw [if_neg going]
  unfold sstpDemuxRecvOnce
  rw [if_neg (Nat.not_le_of_lt room)]
  cases recv with
  | bytes chunk =>
      dsimp only [outcome]
      cases count : (chunk.take s.buffer.free).length with
      | zero =>
          have nothing : chunk.take s.buffer.free = [] := List.length_eq_zero_iff.mp count
          simp [close, nothing, Recv.stream]
      | succ more =>
          rw [if_neg (Nat.succ_ne_zero more)]
          exact received_parse loops _
  | error errno =>
      dsimp only [outcome]
      split_ifs with overrun stops
      · rw [Recv.stream, List.append_nil]
        exact received_parse loops s
      · exact ⟨(List.append_nil _).symm, rfl⟩
      · exact ⟨(List.append_nil _).symm, rfl⟩
  | otherRecord | closed | again => exact ⟨(List.append_nil _).symm, rfl⟩

/-- The buffer has what the packets of the stream leave, and was never full. -/
structure Reassembles (s : RxState) : Prop where
  reads : s.session.Reads s.received
  room : s.overruns = 0

theorem Reassembles.turn {s : RxState} (sound : s.Reassembles) (loops : Nat) (recv : Recv) :
    (s.turn loops recv).Reassembles := by
  cases closing : s.closing with
  | true =>
      have rests : s.turn loops recv = { s with run := none } := if_pos closing
      rw [rests]
      exact ⟨sound.reads, sound.room⟩
  | false =>
      have short : s.buffer.rxLen < sstpMaxPacketLen := by
        rw [← s.buffer.length_bytes]
        exact sound.reads.length_lt closing
      rcases received_turn loops recv closing (short.trans (by decide)) with ⟨received, overruns⟩
      constructor
      · rw [session_turn, received]
        exact sound.reads.rxWorker closing _
      · rw [overruns]
        exact sound.room

theorem Reassembles.step {s : RxState} (sound : s.Reassembles) (move : RxMove) :
    (s.step move).Reassembles := by
  cases move with
  | dataReady =>
      unfold RxState.step
      dsimp only
      split_ifs
      · exact sound
      · exact ⟨sound.reads, sound.room⟩
  | schedule =>
      unfold RxState.step
      dsimp only
      split_ifs
      · exact ⟨sound.reads, sound.room⟩
      · exact sound
  | turn recv =>
      unfold RxState.step
      cases s.run with
      | some loops => exact sound.turn loops recv
      | none => exact sound
  | close => exact ⟨⟨sound.reads.frames, by intro opened; cases opened⟩, sound.room⟩

theorem reassembles_attached (memory : Block sstpRxBufCap) : (attached memory).Reassembles :=
  ⟨⟨rfl, fun _ => RxSession.cuts_nil⟩, rfl⟩

/-- However the stream arrives, the frames so far are the packets of the bytes received, no
read finds the buffer full, and an open session has less than a packet left in the buffer. -/
theorem frames_eq_and_rxLen_lt (memory : Block sstpRxBufCap) (moves : List RxMove) :
    (finalState step (attached memory) moves).frames =
        (sstpFraming.frames (finalState step (attached memory) moves).received).map .ofPacket ∧
      (finalState step (attached memory) moves).overruns = 0 ∧
        ((finalState step (attached memory) moves).closing = false →
          (finalState step (attached memory) moves).buffer.rxLen < sstpMaxPacketLen) := by
  have sound : (finalState step (attached memory) moves).Reassembles :=
    finalState_invariant (fun _ move sound => sound.step move) (reassembles_attached memory) moves
  refine ⟨sound.reads.frames, sound.room, ?_⟩
  intro opened
  rw [← RxBuffer.length_bytes]
  exact sound.reads.length_lt opened

end RxState

end SstpServer.Kmod
