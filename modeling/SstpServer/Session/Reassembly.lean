import SstpServer.Session.Handover
import SstpServer.Sstp.Reassembly

/-!
# Progress of the packet loop

Once all bytes of a packet are in the read buffer, the packet loop takes them off the
buffer or ends the session, unless the packet is a control packet that is too short for a
message type.
-/

namespace SstpServer.Session

open SstpServer.Wire
open SstpServer.Sstp
open SstpServer.Iteration

/-- The packet loop follows the verdict on the read buffer. -/
theorem onPacket_eq_verdict (config : Config) (env : Env) (s : Session) :
    s.onPacket config env =
      match verdict s.rxBuf with
      | .wait => { s with point := .select }.loopHead env
      | .stop => s.stop
      | .data payload used =>
          (s.onData config env payload).andThen fun s => { s with rxBuf := s.rxBuf.drop used }
      | .control message used =>
          (s.onControl config env message).andThen fun s =>
            { s with rxBuf := s.rxBuf.drop used } := by
  unfold onPacket verdict
  cases Packet.parse s.rxBuf with
  | error error => cases error <;> rfl
  | ok parsed =>
      rcases parsed with ⟨packet, used⟩
      cases packet with
      | data payload => rfl
      | control packet =>
          dsimp only
          cases parseControl packet <;> rfl

theorem step_of_reading (config : Config) {s : Session} {input : Input}
    (running : s.running = true) (reading : s.point = .reading) (move : input.move = .packet) :
    s.step config input = (s.onPacket config input.env).settle config input.env := by
  unfold step handle
  rw [if_pos running, reading, move]

/-- The head of the loop does not fail to poll a kernel session. -/
def PollsOn (env : Env) (s : Session) : Prop :=
  s.kmodFd = true ∨ s.isKernel = false ∨ env.kmodFdOk = true

theorem running_loopHead_iff {env : Env} {s : Session} (running : s.running = true) :
    (s.loopHead env).running = true ↔ PollsOn env s := by
  have policy : ∀ t : Session, (t.applyPolicy env).running = t.running := by
    intro t
    rw [applyPolicy_eq]
    rfl
  have goesOn : ∀ t : Session, (t.andThen (applyPolicy env)).running = t.running := by
    intro t
    unfold andThen
    split_ifs
    · exact policy t
    · rfl
  have drained : s.drainHlak.running = true ∧ s.drainHlak.kmodFd = s.kmodFd ∧
      s.drainHlak.isKernel = s.isKernel := by
    rw [drainHlak_eq]
    exact ⟨running, rfl, rfl⟩
  rcases drained with ⟨alive, fd, kernel⟩
  rw [loopHead, goesOn, PollsOn, ← fd, ← kernel]
  unfold pollKernel
  split_ifs with fresh ok
  · exact ⟨fun _ => .inr (.inr ok), fun _ => alive⟩
  · simp [Session.running, stop, fresh, ok]
  · refine ⟨fun _ => ?_, fun _ => alive⟩
    by_cases polled : s.drainHlak.kmodFd = true
    · exact .inl polled
    · right
      left
      exact Bool.eq_false_iff.mpr fun isKernel => fresh ⟨polled, isKernel⟩

theorem running_wait_iff {env : Env} {s : Session} (running : s.running = true) :
    ({ s with point := .select }.loopHead env).running = true ↔ PollsOn env s :=
  running_loopHead_iff (s := { s with point := .select }) running

/-- All bytes of the packet at the head of the buffer are there. -/
def HeadComplete (buf : Bytes) : Prop :=
  sstpHeaderLen ≤ buf.length ∧ lengthField buf ≤ buf.length

/-- A turn of the packet loop that finds a whole packet takes it off the buffer or ends the
session. -/
def Progresses (config : Config) (s : Session) (input : Input) : Prop :=
  s.running = true → s.point = .reading → input.move = .packet → HeadComplete s.rxBuf →
    (s.step config input).running = false ∨
      (s.step config input).rxBuf = s.rxBuf.drop (lengthField s.rxBuf)

/-- A turn of the packet loop that finds a whole control packet without room for a message
type, and goes on waiting. -/
structure WaitsInVain (s : Session) (input : Input) : Prop where
  running : s.running = true
  reading : s.point = .reading
  move : input.move = .packet
  complete : lengthField s.rxBuf ≤ s.rxBuf.length
  wedged : Wedged s.rxBuf
  polls : PollsOn input.env s

theorem WaitsInVain.not_progresses {s : Session} {input : Input} (vain : WaitsInVain s input)
    (config : Config) : ¬Progresses config s input := by
  intro progresses
  have waiting := verdict_eq_wait_iff.mpr vain.wedged.waits
  have waits : s.onPacket config input.env = { s with point := .select }.loopHead input.env := by
    rw [onPacket_eq_verdict, waiting]
  have running : (s.onPacket config input.env).running = true := by
    rw [waits]
    exact (running_wait_iff vain.running).mpr vain.polls
  have settled : (s.onPacket config input.env).settle config input.env =
      s.onPacket config input.env := by
    have going : ¬(s.onPacket config input.env).status = .ended := by
      intro ended
      simp [Session.running, ended] at running
    rw [settle, if_neg going]
  rcases progresses vain.running vain.reading vain.move ⟨vain.wedged.header, vain.complete⟩
    with ended | consumed
  · rw [step_of_reading config vain.running vain.reading vain.move, settled, running] at ended
    cases ended
  · rw [step_of_reading config vain.running vain.reading vain.move, settled, waits,
      loopHead_rxBuf] at consumed
    have shorter := congrArg List.length consumed
    have header := vain.wedged.header
    have least := vain.wedged.least
    rw [List.length_drop] at shorter
    unfold sstpHeaderLen at header least
    have same : ({ s with point := .select } : Session).rxBuf = s.rxBuf := rfl
    rw [same] at shorter
    omega

/-- A turn that survives takes the packet off the buffer, or waits for more bytes. -/
theorem progresses_of_not_waitsInVain (config : Config) {s : Session} {input : Input}
    (other : ¬WaitsInVain s input) : Progresses config s input := by
  intro running reading move complete
  by_cases survives : (s.step config input).running = true
  · right
    have turned := (turns_step survives).rxBuf
    have unread : bytesRead s input = [] := by simp [bytesRead, reading]
    have settled : s.step config input = s.onPacket config input.env := by
      rw [step_of_reading config running reading move] at survives ⊢
      exact settle_of_running survives
    have consumed : ∀ packet used, Packet.parse s.rxBuf = .ok (packet, used) →
        (s.step config input).rxBuf = s.rxBuf.drop (lengthField s.rxBuf) := by
      intro packet used parsed
      have framed := (Packet.parse_eq_ok_iff.mp parsed).1
      have handled : packetHandled s input = some (s.rxBuf.take used) := by
        simp [packetHandled, running, reading, move, parsed]
      rw [unread, handled, List.append_nil, Option.getD_some] at turned
      rw [framed.length]
      exact List.append_cancel_left (turned.symm.trans (List.take_append_drop _ _).symm)
    rw [settled, onPacket_eq_verdict] at survives
    cases parsed : Packet.parse s.rxBuf with
    | ok result => exact consumed result.1 result.2 parsed
    | error error =>
        exfalso
        have undecided : verdict s.rxBuf = .wait ∨ verdict s.rxBuf = .stop := by
          unfold verdict
          rw [parsed]
          cases error <;> simp
        rcases undecided with waiting | stopped
        · rw [waiting] at survives
          apply other
          have polls := (running_wait_iff running).mp survives
          have wedged : Wedged s.rxBuf := by
            cases head : packetHead s.rxBuf with
            | frame size =>
                exact (packetHead_eq_frame_iff.mp head).wedged_iff.mpr
                  (verdict_eq_wait_iff.mp waiting)
            | bad => cases waiting.symm.trans (verdict_of_bad head)
            | wait => exact (packetHead_ne_wait complete.1 complete.2 head).elim
          exact ⟨running, reading, move, complete.2, wedged, polls⟩
        · rw [stopped] at survives
          simp [Session.running, stop] at survives
  · left
    exact Bool.eq_false_iff.mpr survives

/-- Some extension of a buffer decides the parser, and a whole packet in the read buffer of
a session is taken off it or ends the session, except for control packets that are too
short for a message type. -/
theorem reassembly_iff (buf : Bytes) (config : Config) (s : Session) (input : Input) :
    ((Packet.Waits buf → ∃ more, ¬Packet.Waits (buf ++ more)) ↔ ¬Wedged buf) ∧
      (Progresses config s input ↔ ¬WaitsInVain s input) := by
  constructor
  · exact extends_iff buf
  · constructor
    · exact fun progresses vain => vain.not_progresses config progresses
    · exact progresses_of_not_waitsInVain config

/-- A control packet of four bytes. -/
def shortControl : Bytes :=
  [0x10, 0x01, 0x00, 0x04]

/-- A control packet of four bytes at the head of the stream is waited for in vain. -/
theorem waitsInVain_shortControl :
    Packet.parse shortControl = .error .truncated ∧
      (∀ more, Packet.Waits (shortControl ++ more)) ∧
      ¬Progresses tunConfig
        (sessionAfter tunConfig obligingEnv (readRun obligingEnv shortControl 0))
        ⟨.packet, obligingEnv⟩ := by
  have wedged : Wedged shortControl := by decide
  have vain : WaitsInVain
      (sessionAfter tunConfig obligingEnv (readRun obligingEnv shortControl 0))
      ⟨.packet, obligingEnv⟩ := by
    constructor
    · decide +kernel
    · decide +kernel
    · rfl
    · decide +kernel
    · decide +kernel
    · exact .inr (.inr rfl)
  exact ⟨by decide, fun more => (wedged.append more).waits, vain.not_progresses tunConfig⟩

end SstpServer.Session
