import Mathlib.Data.List.Induction
import SstpServer.Sstp.Stream

/-!
# The receive path of the kernel module

The worker of a kernel session reads the decrypted stream into a buffer, parses the
packets that are complete and moves what is left to the head of the buffer.  Data
packets go to the PPP channel and control packets to the queue for the session task.
-/

namespace SstpServer.Kmod

open SstpServer.Wire
open SstpServer.Sstp
open SstpServer.Iteration

/-- Size of the receive buffer. -/
def sstpRxBufCap : Nat := 8192

/-- A packet without its header. -/
inductive RxFrame where
  | data (payload : Bytes)
  | control (payload : Bytes)
  deriving DecidableEq, Repr

/-- The frame with a given flag byte and body. -/
def RxFrame.ofBody (flags : UInt8) (body : Bytes) : RxFrame :=
  if flags.toNat % 2 = 0 then .data body else .control body

/-- The frame of a whole packet. -/
def RxFrame.ofPacket (packet : Bytes) : RxFrame :=
  .ofBody (packet.getD 1 0) (packet.drop sstpHeaderLen)

/-- Why the worker stops. -/
inductive RxEvent where
  | protocolError (version : UInt8)
  | peerClosed
  | tlsFatalAlert (errno : Nat)
  | tlsRekeyNeeded (recordType : UInt8)
  deriving DecidableEq, Repr

/-- Parse the complete packets at the head of the receive buffer.  The result is their
frames, what is left, and the version byte of a broken header. -/
def sstpDemuxParse : Nat → Bytes → List RxFrame × Bytes × Option UInt8
  | 0, buf => ([], buf, none)
  | fuel + 1, buf =>
      match buf with
      | version :: flags :: high :: low :: _ =>
          let length := be16 high low % (sstpMaxPacketLen + 1)
          if version ≠ sstpVersion10 ∨ length < sstpHeaderLen then ([], buf, some version)
          else if buf.length < length then ([], buf, none)
          else
            let (frames, rest, broken) := sstpDemuxParse fuel (buf.drop length)
            (.ofBody flags (slice buf sstpHeaderLen length) :: frames, rest, broken)
      | _ => ([], buf, none)

/-- The receive side of a kernel session. -/
structure RxSession where
  rxBuf : Bytes := []
  closing : Bool := false
  frames : List RxFrame := []
  events : List RxEvent := []
  deriving DecidableEq, Repr

/-- What a read of the socket returns: the bytes of a record, a record of another type,
the end of the stream, nothing for now, or an error. -/
inductive Recv where
  | bytes (chunk : Bytes)
  | otherRecord (recordType : UInt8)
  | closed
  | again
  | error (errno : Nat)
  deriving DecidableEq, Repr

namespace RxSession

def close (event : RxEvent) (s : RxSession) : RxSession :=
  { s with closing := true, events := s.events ++ [event] }

/-- Parse the receive buffer and compact it. -/
def demux (s : RxSession) : RxSession :=
  let (frames, rest, broken) := sstpDemuxParse s.rxBuf.length s.rxBuf
  let s := { s with rxBuf := rest, frames := s.frames ++ frames }
  match broken with
  | some version => s.close (.protocolError version)
  | none => s

/-- One turn of the worker.  A full buffer is parsed without a read. -/
def rxWorker (s : RxSession) (recv : Recv) : RxSession :=
  if s.closing then s
  else if sstpRxBufCap ≤ s.rxBuf.length then s.demux
  else
    match recv with
    | .bytes chunk => { s with rxBuf := s.rxBuf ++ chunk }.demux
    | .otherRecord recordType => s.close (.tlsRekeyNeeded recordType)
    | .closed => s.close .peerClosed
    | .again => s
    | .error errno => s.close (.tlsFatalAlert errno)

/-- The session after it has received some chunks. -/
def receive (chunks : List Bytes) : RxSession :=
  (chunks.map Recv.bytes).foldl rxWorker {}

end RxSession

/-! ## The packets of the stream -/

/-- The version byte of a broken header. -/
def brokenVersion (buf : Bytes) : Option UInt8 :=
  if sstpFraming.head buf = .bad then some (buf.getD 0 0) else none

theorem ofPacket_take {buf : Bytes} {size : Nat} (header : sstpHeaderLen ≤ size) :
    RxFrame.ofPacket (buf.take size) =
      .ofBody (buf.getD 1 0) (slice buf sstpHeaderLen size) := by
  have flags : (buf.take size).getD 1 0 = buf.getD 1 0 := by
    simp only [List.getD_eq_getElem?_getD,
      List.getElem?_take_of_lt (Nat.lt_of_lt_of_le (by decide : 1 < sstpHeaderLen) header)]
  rw [RxFrame.ofPacket, flags, slice]

theorem sstpDemuxParse_succ (fuel : Nat) (buf : Bytes) :
    sstpDemuxParse (fuel + 1) buf =
      match sstpFraming.head buf with
      | .frame size =>
          let (frames, rest, broken) := sstpDemuxParse fuel (buf.drop size)
          (.ofPacket (buf.take size) :: frames, rest, broken)
      | _ => ([], buf, brokenVersion buf) := by
  match buf with
  | version :: flags :: high :: low :: rest =>
      simp only [brokenVersion]
      cases verdict : sstpFraming.head (version :: flags :: high :: low :: rest) with
      | frame size =>
          obtain ⟨version10, rfl, header, complete⟩ := head_eq_frame_iff.mp verdict
          rw [lengthField_cons] at header complete ⊢
          have sound : ¬(version ≠ sstpVersion10 ∨
              be16 high low % (sstpMaxPacketLen + 1) < sstpHeaderLen) :=
            not_or.mpr ⟨not_not.mpr version10, Nat.not_lt.mpr header⟩
          simp only [sstpDemuxParse]
          rw [if_neg sound, if_neg (Nat.not_lt.mpr complete), ofPacket_take header]
          rfl
      | wait =>
          have waiting : packetHead (version :: flags :: high :: low :: rest) = .wait := verdict
          simp only [packetHead] at waiting
          simp only [sstpDemuxParse, reduceCtorEq, if_false]
          split_ifs at waiting ⊢
          rfl
      | bad =>
          have broken : packetHead (version :: flags :: high :: low :: rest) = .bad := verdict
          simp only [packetHead] at broken
          simp only [sstpDemuxParse]
          split_ifs at broken ⊢
          rfl
  | [] | [_] | [_, _] | [_, _, _] => rfl

/-- The parser of the kernel module cuts the buffer as the framing does. -/
theorem sstpDemuxParse_eq {fuel : Nat} {buf : Bytes} (enough : buf.length ≤ fuel) :
    sstpDemuxParse fuel buf =
      ((sstpFraming.frames buf).map .ofPacket, sstpFraming.rest buf,
        brokenVersion (sstpFraming.rest buf)) := by
  induction fuel generalizing buf with
  | zero =>
      obtain rfl := List.eq_nil_of_length_eq_zero (Nat.le_zero.mp enough)
      rfl
  | succ fuel ih =>
      rw [sstpDemuxParse_succ]
      cases verdict : sstpFraming.head buf with
      | frame size =>
          have positive := sstpFraming.positive verdict
          have shorter : (buf.drop size).length ≤ fuel := by
            rw [List.length_drop]
            omega
          rw [sstpFraming.frames_of_frame verdict, sstpFraming.rest_of_frame verdict]
          simp only [ih shorter]
          rfl
      | wait =>
          have other : ∀ size, sstpFraming.head buf ≠ .frame size := by simp [verdict]
          rw [sstpFraming.frames_of_ne_frame other, sstpFraming.rest_of_ne_frame other]
          rfl
      | bad =>
          have other : ∀ size, sstpFraming.head buf ≠ .frame size := by simp [verdict]
          rw [sstpFraming.frames_of_ne_frame other, sstpFraming.rest_of_ne_frame other]
          rfl

namespace RxSession

/-- The session has cut the stream so far into packets, and closes at a broken header. -/
structure Cuts (stream : Bytes) (s : RxSession) : Prop where
  frames : s.frames = (sstpFraming.frames stream).map .ofPacket
  rest : s.closing = false → s.rxBuf = sstpFraming.rest stream
  closing : s.closing = true ↔ sstpFraming.head (sstpFraming.rest stream) = .bad

theorem cuts_nil : Cuts [] {} :=
  ⟨rfl, fun _ => rfl, by decide⟩

/-- A session that goes on has room for more than a packet. -/
theorem Cuts.length_lt {stream : Bytes} {s : RxSession} (cuts : Cuts stream s)
    (opened : s.closing = false) : s.rxBuf.length < sstpMaxPacketLen := by
  rw [cuts.rest opened]
  cases verdict : sstpFraming.head (sstpFraming.rest stream) with
  | frame size => exact (sstpFraming.head_rest_ne_frame stream size verdict).elim
  | wait => exact length_lt_of_packetHead_eq_wait verdict
  | bad =>
      rw [cuts.closing.mpr verdict] at opened
      cases opened

theorem Cuts.rxWorker {stream : Bytes} {s : RxSession} (cuts : Cuts stream s) (chunk : Bytes) :
    Cuts (stream ++ chunk) (s.rxWorker (.bytes chunk)) := by
  cases closing : s.closing with
  | true =>
      rcases sstpFraming.frames_append_of_bad (cuts.closing.mp closing) chunk with ⟨frames, broken⟩
      have kept : s.rxWorker (.bytes chunk) = s := by simp [RxSession.rxWorker, closing]
      rw [kept]
      refine ⟨?_, ?_, ?_⟩
      · rw [frames]
        exact cuts.frames
      · simp [closing]
      · simp [closing, broken]
  | false =>
      have room : ¬sstpRxBufCap ≤ s.rxBuf.length := by
        have short := cuts.length_lt closing
        unfold sstpRxBufCap
        unfold sstpMaxPacketLen at short
        omega
      have parsed := sstpDemuxParse_eq (Nat.le_refl (s.rxBuf ++ chunk).length)
      rw [cuts.rest closing, ← sstpFraming.rest_append] at parsed
      have ran : s.rxWorker (.bytes chunk) = { s with rxBuf := s.rxBuf ++ chunk }.demux := by
        simp [RxSession.rxWorker, closing, room]
      have listed : s.frames ++
          (sstpFraming.frames (sstpFraming.rest stream ++ chunk)).map .ofPacket =
            (sstpFraming.frames (stream ++ chunk)).map .ofPacket := by
        rw [sstpFraming.frames_append stream chunk, List.map_append, cuts.frames]
      rw [ran]
      simp only [demux, cuts.rest closing, parsed, listed, brokenVersion]
      split_ifs with broken
      · exact ⟨rfl, nofun, by simp [close, broken]⟩
      · exact ⟨rfl, fun _ => rfl, by simp [closing, broken]⟩

/-- However the stream is split into reads, the worker cuts the same packets. -/
theorem cuts_receive (chunks : List Bytes) : Cuts chunks.flatten (receive chunks) := by
  induction chunks using List.reverseRecOn with
  | nil => exact cuts_nil
  | append_singleton before chunk ih =>
      have next : receive (before ++ [chunk]) = (receive before).rxWorker (.bytes chunk) := by
        simp [receive]
      rw [next, List.flatten_append, List.flatten_singleton]
      exact ih.rxWorker chunk

end RxSession

end SstpServer.Kmod
