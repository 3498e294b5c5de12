import SstpServer.Ppp.Lease
import SstpServer.Session.Work

/-!
# Forwarding of IP packets

With a TUN device, IP packets of the peer and of the device pass through the session.
This module says which steps pass one on, and in which states of the call that can
happen.
-/

namespace SstpServer.Session

open SstpServer.Wire
open SstpServer.Sstp
open SstpServer.Ppp
open SstpServer.Transition

/-- An IP packet went to or came from the device. -/
def Effect.passesIp : Effect → Prop
  | .toTun _ | .fromTun _ => True
  | _ => False

/-- The step meets an IP packet: one from the peer in the read buffer, or one that the
device was read for. -/
def MeetsIp (s : Session) (input : Input) : Prop :=
  (s.point = .reading ∧ input.move = .packet ∧ ∃ kppp frame, HoldsIp s kppp frame) ∨
    (s.point = .select ∧ s.isTun = true ∧ ∃ packet,
      input.move = .event (.kpppRead (.ok packet)) ∧ packet.length ≤ tunPacketLen ∧
        (readFrame packet).isSome)

/-! ## The work that passes packets on -/

def Work.passesIp : Work → Prop
  | .toTun _ | .fromTun _ _ => True
  | _ => False

theorem Effect.not_passesIp_of_ofSstp (effect : Effect) (ofSstp : effect.ofSstp) :
    ¬effect.passesIp := by
  cases effect <;>
    simp_all [Effect.ofSstp, Effect.ofPpp, Effect.ofControl, Effect.isSendControl,
      Effect.isEstablished, Effect.isTlsWrite, Effect.isRadius, Effect.ofDevice,
      Effect.passesIp]

theorem Effect.not_passesIp_of_isAcct (effect : Effect) (isAcct : effect.isAcct) :
    ¬effect.passesIp := by
  cases effect <;> simp_all [Effect.isAcct, Effect.passesIp]

theorem exists_added_passesIp_iff (config : Config) (env : Env) (work : Work) (s : Session) :
    (∃ effect ∈ added s (s.perform config env work), effect.passesIp) ↔ work.passesIp := by
  have never : ∀ {s' : Session}, Grows Effect.ofSstp s s' →
      ¬∃ effect ∈ added s s', effect.passesIp := by
    rintro s' grows ⟨effect, member, passes⟩
    exact effect.not_passesIp_of_ofSstp (grows.of_mem_added member) passes
  cases work with
  | nothing => simp [added, perform, Work.passesIp]
  | sstp call =>
      have silent := never (acts_handleSstpStep config env (s.ssm.run config.crypto call).1
        { s with ssm := (s.ssm.run config.crypto call).2 }).log
      exact iff_of_false silent id
  | ppp step ppp =>
      have grows := (acts_handlePppStep config env pppRounds step ppp s).log
      exact iff_of_false (never (grows.mono fun _ => .inr)) id
  | toTun packet => simp [added, perform, push, Work.passesIp, Effect.passesIp]
  | fromTun packet frame =>
      have written := (acts_writeFrame env (List.mem_singleton_self frame) (s.push (.fromTun packet))).andThen
        (acts_tlsFlush _ env _)
      obtain ⟨more, logged, -⟩ := written.log
      refine iff_of_true ⟨.fromTun packet, ?_, trivial⟩ trivial
      simp only [added, perform, logged]
      simp [push]

/-- The steps of a running task that pass IP on are those that meet it. -/
theorem work_passesIp_iff {s : Session} {input : Input} :
    (s.work input).passesIp ↔ s.running = true ∧ MeetsIp s input := by
  constructor
  · intro passes
    have busy : s.work input ≠ .nothing := fun idle => by
      rw [idle] at passes
      exact passes
    refine ⟨running_of_work rfl busy, ?_⟩
    cases works : s.work input with
    | toTun packet =>
        cases assigned_of_work works with
        | toTun kppp frame point move holds => exact .inl ⟨point, move, kppp, frame, holds⟩
    | fromTun packet frame =>
        cases assigned_of_work works with
        | fromTun _ _ point tun move sized read =>
            exact .inr ⟨point, tun, packet, move, sized, by rw [read]; rfl⟩
    | _ => rw [works] at passes; exact passes.elim
  · rintro ⟨running, ⟨point, move, kppp, frame, holds⟩ | ⟨point, tun, packet, move, sized, readable⟩⟩
    · obtain ⟨device, tun, ⟨payload, used, parsed, decoded⟩, network, fits⟩ := holds
      have forwards := npFilterDecide_kppp_eq_forward_iff.mpr ⟨kppp, device, tun, network, fits⟩
      simp only [work, if_pos running, point, move, packetWork, parsed, frameWork, decoded,
        forwards, Work.passesIp]
    · obtain ⟨frame, read⟩ := Option.isSome_iff_exists.mp readable
      have armed : s.enabled input.env (.kpppRead (.ok packet)) = true := by
        simp [enabled, tun, sized]
      simp only [work, if_pos running, point, move, armed, if_true, eventWork, read,
        Work.passesIp]

/-! ## Forwarding and the state of the call -/

/-- The step passes IP on only while the call is connected. -/
def ForwardsConnected (config : Config) (s : Session) (input : Input) : Prop :=
  ∀ effect ∈ emitted config s input, effect.passesIp → s.ssm.state = .serverCallConnected

theorem exists_emitted_passesIp_iff (config : Config) (s : Session) (input : Input) :
    (∃ effect ∈ emitted config s input, effect.passesIp) ↔
      s.running = true ∧ MeetsIp s input := by
  obtain ⟨t, records, _, isAcct, emittedEq⟩ := emitted_eq config s input
  rw [← work_passesIp_iff, ← exists_added_passesIp_iff config input.env (s.work input) t,
    emittedEq]
  constructor
  · rintro ⟨effect, member, passes⟩
    rcases List.mem_append.mp member with ofWork | record
    · exact ⟨effect, ofWork, passes⟩
    · exact (effect.not_passesIp_of_isAcct (isAcct effect record) passes).elim
  · rintro ⟨effect, member, passes⟩
    exact ⟨effect, List.mem_append_left _ member, passes⟩

theorem forwardsConnected_iff (config : Config) (s : Session) (input : Input) :
    ForwardsConnected config s input ↔
      ¬(s.running = true ∧ MeetsIp s input ∧ s.ssm.state ≠ .serverCallConnected) := by
  have emits := exists_emitted_passesIp_iff config s input
  constructor
  · rintro connected ⟨running, meets, other⟩
    obtain ⟨effect, member, passes⟩ := emits.mpr ⟨running, meets⟩
    exact other (connected effect member passes)
  · intro excluded effect member passes
    obtain ⟨running, meets⟩ := emits.mp ⟨effect, member, passes⟩
    by_contra other
    exact excluded ⟨running, meets, other⟩

/-- A run passes IP on only while the call is connected exactly when none of its steps
meets an IP packet in another state of the call. -/
theorem forall_forwardsConnected_iff (config : Config) (env : Env) (inputs : List Input) :
    (∀ visit ∈ visits (step config) (start config env) inputs,
        ForwardsConnected config visit.1 visit.2) ↔
      ∀ visit ∈ visits (step config) (start config env) inputs,
        ¬(visit.1.running = true ∧ MeetsIp visit.1 visit.2 ∧
          visit.1.ssm.state ≠ .serverCallConnected) :=
  forall₂_congr fun visit _ => forwardsConnected_iff config visit.1 visit.2

/-! ## Forwarding before Call-Connected -/

/-- A server with a TUN device that asks for PAP. -/
def tunConfig : Config where
  id := 0
  crypto := zeroCrypto
  certHashSha1 := Block.zero 20
  certHashSha256 := Block.zero 32
  localIp := Block.zero 4
  authMethod := .pap
  dataPath := .tun
  acct := false

/-- An environment in which every call succeeds and every user is accepted. -/
def obligingEnv : Env where
  now := 0
  wallClock := 0
  nonce := Block.zero 32
  challenge _ := Block.zero 16
  radius := .accept
    ⟨⟨Block.zero 4, none, none, none, none, none⟩, {}, none, List.replicate 16 1,
      List.replicate 16 1⟩
  writeOk _ := true
  flushOk _ := true
  sendControlOk := true
  ktlsCompatible := true
  installKtls := .installed
  kernelDevice := some ⟨[], 1⟩
  tunDevice := some ⟨[], 1⟩
  kmodFdOk := true
  stats := none

/-- A Call-Connect-Request for PPP. -/
def peerCallConnectRequest : Bytes :=
  writeHeader true 14 ++ writeControlExtra .callConnectRequest 1 ++
    writeAttrHeader .encapsulatedProtocolId 6 ++ toBe16 sstpEncapsulatedProtocolPpp

/-- The data packet for a frame of the peer. -/
def peerData (input : Ppp.Input) : Bytes :=
  match input.call with
  | .frame frame => writeHeader false (sstpHeaderLen + frame.length) ++ frame
  | _ => []

/-- A one-byte IPv4 packet of the peer. -/
def peerIpPacket : Ppp.Input :=
  ⟨.frame [0xFF, 0x03, 0x00, 0x21, 0x45], Block.zero 16⟩

/-- A call with PAP, up to the last IPCP packet. -/
def networkStream : Bytes :=
  peerCallConnectRequest ++ peerData peerConfigureAck ++ peerData peerConfigureRequest ++
    peerData peerPapRequest ++ peerData peerIpcpAck ++ peerData peerIpcpRequest

/-- The steps that work off one TLS read of `count` packets. -/
def readRun (env : Env) (chunk : Bytes) (count : Nat) : List Input :=
  ⟨.event (.read (.ok chunk)), env⟩ :: List.replicate count ⟨.packet, env⟩

/-- A run that ends by passing IP on in another state of the call. -/
theorem not_forall_forwardsConnected {config : Config} {env : Env} {before : List Input}
    {input : Input} {effect : Effect} (passes : effect.passesIp)
    (sent : effect ∈ emitted config (sessionAfter config env before) input)
    (other : (sessionAfter config env before).ssm.state ≠ .serverCallConnected) :
    ¬∀ visit ∈ visits (step config) (start config env) (before ++ [input]),
      ForwardsConnected config visit.1 visit.2 := by
  intro forwards
  exact other (forwards _ (mem_visits_concat ..) effect sent passes)

/-- After IPCP, and before any Call-Connected, an IP packet goes to the device. -/
theorem not_forwardsConnected_networkStream :
    ¬∀ visit ∈ visits (step tunConfig) (start tunConfig obligingEnv)
        (readRun obligingEnv (networkStream ++ peerData peerIpPacket) 6 ++
          [⟨.packet, obligingEnv⟩]),
      ForwardsConnected tunConfig visit.1 visit.2 := by
  have passes : (Effect.toTun [0x45]).passesIp := trivial
  apply not_forall_forwardsConnected passes
  · decide +kernel
  · decide +kernel

end SstpServer.Session
