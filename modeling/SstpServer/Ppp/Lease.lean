import SstpServer.Ppp.Phases
import SstpServer.Ppp.Policy

/-!
# Leases: what is announced and acknowledged is what was granted

An applied Accept grants a lease.  The network is announced at most once per
lease, with the addresses of that lease, and an IPCP Configure-Ack only confirms
addresses of the lease granted last.
-/

namespace SstpServer.Ppp

open SstpServer.Wire
open SstpServer.Transition

/-- The addresses granted at a visit, if it applies an Accept. -/
def grantAt (visit : Ppp × Input) : Option AssignedAddrs :=
  (visit.1.acceptedAddrs visit.2).map visit.1.grantedAddrs

/-- A visit announces the network. -/
def Announces (visit : Ppp × Input) : Prop :=
  ∃ addrs, (visit.1.respond visit.2).event = some (.networkUp addrs)

/-- The last grant of a history, with the visits from it on. -/
structure LastGrant (history : List (Ppp × Input)) (addrs : AssignedAddrs)
    (since : List (Ppp × Input)) : Prop where
  split : ∃ earlier, history = earlier ++ since
  granted : ∃ visit later, since = visit :: later ∧ grantAt visit = some addrs ∧
    ∀ other ∈ later, grantAt other = none

theorem LastGrant.append {history : List (Ppp × Input)} {addrs : AssignedAddrs}
    {since : List (Ppp × Input)} (last : LastGrant history addrs since)
    {visit : Ppp × Input} (ungranted : grantAt visit = none) :
    LastGrant (history ++ [visit]) addrs (since ++ [visit]) := by
  obtain ⟨⟨earlier, rfl⟩, first, later, rfl, granted, none⟩ := last
  refine ⟨⟨earlier, by simp⟩, first, later ++ [visit], rfl, granted, ?_⟩
  intro other member
  rcases List.mem_append.mp member with before | now
  · exact none other before
  · rw [List.mem_singleton.mp now]
    exact ungranted

theorem lastGrant_singleton (history : List (Ppp × Input)) {addrs : AssignedAddrs}
    {visit : Ppp × Input} (granted : grantAt visit = some addrs) :
    LastGrant (history ++ [visit]) addrs [visit] :=
  ⟨⟨history, rfl⟩, visit, [], rfl, granted, by simp⟩

/-- The IPCP negotiation serves the last lease, and announces it at most once. -/
structure ServesLease (history : List (Ppp × Input)) (ppp : Ppp) : Prop where
  serves : ∀ ipcp, ppp.ipcp = some ipcp →
    ∃ since, LastGrant history ipcp.addrs since ∧ ppp.pendingAddrs = some ipcp.addrs ∧
      (ipcp.opened = false → ∀ visit ∈ since, ¬Announces visit)

/-! ## One call -/

theorem grantAt_eq_none {visit : Ppp × Input}
    (unaccepted : visit.1.acceptedAddrs visit.2 = none) : grantAt visit = none := by
  simp [grantAt, unaccepted]

/-- The IPCP side after a call. -/
inductive IpcpMove (ppp : Ppp) (input : Input) : PppStep × Ppp → Prop where
  | untouched (result : PppStep × Ppp) (unaccepted : ppp.acceptedAddrs input = none)
      (sameIpcp : result.2.ipcp = ppp.ipcp)
      (sameAddrs : result.2.pendingAddrs = ppp.pendingAddrs)
      (quiet : ∀ addrs, result.1.event ≠ some (.networkUp addrs)) :
      IpcpMove ppp input result
  | stepped (event : Fsm.Event) (ipcp after : IpcpServer)
      (unaccepted : ppp.acceptedAddrs input = none) (running : ppp.ipcp = some ipcp)
      (sameAddrs : after.addrs = ipcp.addrs) (sameOpened : after.opened = ipcp.opened) :
      IpcpMove ppp input (ppp.ipcpMove event after)
  | granted (addrs : AssignedAddrs) (frames : List Bytes)
      (accepted : ppp.acceptedAddrs input = some addrs) :
      IpcpMove ppp input (ppp.advanceToNetwork { frames } addrs)

theorem acceptedAddrs_eq_none_of_received {ppp : Ppp} {input : Input}
    {protocol : ProtocolId} {info : Bytes}
    (received : packetOf protocol input = some info) : ppp.acceptedAddrs input = none := by
  obtain ⟨payload, call, _⟩ := packetOf_eq_some_iff.mp received
  unfold acceptedAddrs
  split <;> simp_all

theorem acceptedAddrs_eq_none_of_timer {ppp : Ppp} {input : Input} {owner : TimerOwner}
    (call : input.call = .timer owner) : ppp.acceptedAddrs input = none := by
  unfold acceptedAddrs
  split <;> simp_all

theorem Move.ipcpMove {ppp : Ppp} {input : Input} {result : PppStep × Ppp}
    (move : Move ppp input result) : IpcpMove ppp input result := by
  cases move with
  | lcpPacket info packet received =>
      have keeps := ppp.lcpMove_keeps (ppp.lcp.eventOf packet).1 (ppp.lcp.eventOf packet).2
        input.random
      exact .untouched _ (acceptedAddrs_eq_none_of_received received) keeps.1 keeps.2 (by simp)
  | lcpTimer call =>
      have keeps := ppp.lcpMove_keeps .restartTimeout ppp.lcp input.random
      exact .untouched _ (acceptedAddrs_eq_none_of_timer call) keeps.1 keeps.2 (by simp)
  | pap info request phase received =>
      exact .untouched _ (acceptedAddrs_eq_none_of_received received) rfl rfl (by simp)
  | chap info response challenge event method phase received decoded sent handed =>
      refine .untouched _ (acceptedAddrs_eq_none_of_received received) rfl rfl ?_
      cases handed <;> simp
  | ipcpPacket info packet ipcp phase received decoded running =>
      have keeps := ipcp.eventOf_keeps packet
      exact .stepped _ ipcp _ (acceptedAddrs_eq_none_of_received received) running keeps.2.1
        keeps.2.2
  | ipcpTimer ipcp call running =>
      exact .stepped _ ipcp ipcp (acceptedAddrs_eq_none_of_timer call) running rfl rfl
  | protocolReject payload info protocol call =>
      obtain ⟨counter, after⟩ := ppp.protocolReject_snd protocol info
      refine .untouched _ ?_ (by rw [after]) (by rw [after]) ?_
      · unfold acceptedAddrs
        split <;> simp_all
      · rw [protocolReject_event]
        simp
  | accept addrs frame accepted => exact .granted addrs _ accepted
  | reject frame inFlight unaccepted =>
      have keeps := ppp.lcpMove_keeps .adminClose ppp.lcp input.random
      exact .untouched _ unaccepted keeps.1 keeps.2 (by simp [tearDownAfterReject_event])
  | silent unaccepted => exact .untouched _ unaccepted rfl rfl (by simp)

/-- One call keeps the lease. -/
theorem ServesLease.step {history : List (Ppp × Input)} {ppp : Ppp}
    (lease : ServesLease history ppp) (input : Input) :
    ServesLease (history ++ [(ppp, input)]) (ppp.step input) := by
  have move := (ppp.run_move input).ipcpMove
  have announces : ∀ result, ppp.run input = result →
      (Announces (ppp, input) ↔ ∃ addrs, result.1.event = some (.networkUp addrs)) := by
    rintro result rfl
    rfl
  have extended : ∀ since : List (Ppp × Input), (∀ visit ∈ since, ¬Announces visit) →
      ¬Announces (ppp, input) → ∀ visit ∈ since ++ [(ppp, input)], ¬Announces visit := by
    intro since quiet quietNow visit member
    rcases List.mem_append.mp member with before | now
    · exact quiet visit before
    · rw [List.mem_singleton.mp now]
      exact quietNow
  unfold Ppp.step
  generalize resultEq : ppp.run input = result at move ⊢
  cases move with
  | untouched result unaccepted sameIpcp sameAddrs quiet =>
      constructor
      intro ipcp running
      obtain ⟨since, last, pending, unannounced⟩ := lease.serves ipcp (sameIpcp ▸ running)
      refine ⟨_, last.append (grantAt_eq_none unaccepted), by rw [sameAddrs, pending],
        fun unopened => extended since (unannounced unopened) ?_⟩
      rw [announces _ resultEq]
      exact fun ⟨addrs, raised⟩ => quiet addrs raised
  | stepped event ipcp after unaccepted running sameAddrs sameOpened =>
      obtain ⟨since, last, pending, unannounced⟩ := lease.serves ipcp running
      rw [ipcpMove_snd]
      constructor
      rintro _ ⟨⟩
      refine ⟨since ++ [(ppp, input)], ?_, pending.trans (congrArg some sameAddrs.symm),
        fun unopened => ?_⟩
      · exact sameAddrs ▸ last.append (grantAt_eq_none unaccepted)
      · have still : after.opened = false ∧ (after.fsm.step event).1.notify.up = false := by
          simpa [IpcpServer.afterStep, IpcpServer.stepTraced] using unopened
        refine extended since (unannounced (sameOpened ▸ still.1)) ?_
        rw [announces _ resultEq]
        simp [Ppp.ipcpMove, renderIpcpStep_event, IpcpServer.stepTraced, still.2]
  | granted addrs frames accepted =>
      have grant : grantAt (ppp, input) = some (ppp.grantedAddrs addrs) := by
        simp [grantAt, accepted]
      rw [advanceToNetwork_snd]
      constructor
      rintro _ ⟨⟩
      refine ⟨_, lastGrant_singleton history grant, rfl, fun _ visit member => ?_⟩
      rw [List.mem_singleton.mp member, announces _ resultEq, advanceToNetwork_event]
      simp

/-- After every run the IPCP negotiation serves the last lease. -/
theorem servesLease_stateAfter (localIp : Ipv4) (method : AuthMethod) (inputs : List Input) :
    ServesLease (visits step (start localIp method) inputs)
      (stateAfter localIp method inputs) := by
  have keeps : ∀ (history : List (Ppp × Input)) ppp input, ServesLease history ppp →
      ServesLease (history ++ [(ppp, input)]) (step ppp input) :=
    fun history ppp input lease => lease.step input
  have initially : ServesLease [] (start localIp method) := by
    constructor
    intro ipcp running
    cases method <;> cases running
  have invariant := visits_finalState_induction keeps initially
  exact invariant inputs

/-- A network announcement carries the pending addresses of a negotiation that
has not come up before. -/
theorem IpcpMove.networkUp {ppp : Ppp} {input : Input} {result : PppStep × Ppp}
    (move : IpcpMove ppp input result) {addrs : AssignedAddrs}
    (raised : result.1.event = some (.networkUp addrs)) :
    ppp.acceptedAddrs input = none ∧ ∃ ipcp, ppp.ipcp = some ipcp ∧ ipcp.opened = false ∧
      ppp.pendingAddrs = some addrs := by
  cases move with
  | untouched result unaccepted sameIpcp sameAddrs quiet => exact absurd raised (quiet addrs)
  | stepped event ipcp after unaccepted running sameAddrs sameOpened =>
      simp only [Ppp.ipcpMove, renderIpcpStep_event] at raised
      split_ifs at raised with comesUp
      obtain ⟨pending, pendingEq, same⟩ := Option.map_eq_some_iff.mp raised
      cases same
      exact ⟨unaccepted, ipcp, running, sameOpened ▸ comesUp.2, pendingEq⟩
  | granted granted frames accepted =>
      rw [advanceToNetwork_event] at raised
      cases raised

/-! ## Acknowledgements -/

/-- A frame that is an IPCP Configure-Ack for an option list. -/
def IsIpcpAck (frame options : Bytes) : Prop :=
  ∃ info packet, decodeFrame frame = .ok ⟨ProtocolId.ipcp.asU16, info⟩ ∧
    decodeLcpPacket info = .ok packet ∧
    packet.code = IpcpCode.configureAck.asU8 ∧ packet.data = options

theorem not_isIpcpAck_encodeFrame {protocol : ProtocolId} (other : protocol ≠ .ipcp)
    (info options : Bytes) : ¬IsIpcpAck (encodeFrame protocol.asU16 info) options := by
  rintro ⟨received, packet, decoded, _⟩
  rw [decodeFrame_encodeFrame_asU16] at decoded
  exact other (ProtocolId.asU16_injective (congrArg PppFrame.protocol (Except.ok.inj decoded)))

/-- An Ack among the server's own IPCP frames is a Configure-Ack of that body. -/
theorem isIpcpAck_encodeIpcpFrame {code : IpcpCode} {identifier : UInt8}
    {body options : Bytes} (ack : IsIpcpAck (encodeIpcpFrame code identifier body) options) :
    code = .configureAck ∧ (body.length + 4 < 65536 → options = body) := by
  obtain ⟨info, packet, framed, decoded, isAck, rfl⟩ := ack
  rw [encodeIpcpFrame, encodeProtocolPacket, decodeFrame_encodeFrame_asU16] at framed
  cases framed
  have written : some code.asU8 = some packet.code := head?_of_decodeLcpPacket decoded
  refine ⟨IpcpCode.asU8_injective ((Option.some.inj written).trans isAck), fun fits => ?_⟩
  rw [decodeLcpPacket_writeLcpHeader _ _ fits] at decoded
  cases decoded
  rfl

theorem renderLcpStep_not_isIpcpAck {ppp : Ppp} {step : Fsm.StepOut} {random : Block 16}
    {frame : Bytes} (member : frame ∈ (ppp.renderLcpStep step random).1.frames)
    (options : Bytes) : ¬IsIpcpAck frame options := by
  rw [renderLcpStep_frames, List.mem_append] at member
  rcases member with lcpFrame | challenge
  · obtain ⟨code, identifier, body, rfl⟩ :=
      LcpServer.eq_encodeLcpFrame_of_mem_stepFrames lcpFrame
    exact not_isIpcpAck_encodeFrame (by decide) _ options
  · unfold challengeFrames at challenge
    split_ifs at challenge
    · rw [List.mem_singleton.mp challenge]
      exact not_isIpcpAck_encodeFrame (by decide) _ options
    · cases challenge

/-- An Ack of an IPCP move answers a good Configure-Request with its own
options. -/
theorem ipcpMove_isIpcpAck {ppp : Ppp} {event : Fsm.Event} {ipcp : IpcpServer}
    {frame options : Bytes} (member : frame ∈ (ppp.ipcpMove event ipcp).1.frames)
    (ack : IsIpcpAck frame options) :
    event = .rcvConfigReqGood ∧
      (ipcp.lastCrOptions.length + 4 < 65536 → options = ipcp.lastCrOptions) := by
  rw [Ppp.ipcpMove, renderIpcpStep_frames] at member
  obtain ⟨code, identifier, body, rfl, ackSent⟩ :=
    IpcpServer.eq_encodeIpcpFrame_of_mem_stepFrames member
  obtain ⟨isAck, bodyEq⟩ := isIpcpAck_encodeIpcpFrame ack
  obtain ⟨sent, rfl⟩ := ackSent isAck
  exact ⟨((ipcp.fsm.step_spec event).ack_iff.mp sent).1, bodyEq⟩

theorem authAnswer_not_isIpcpAck {frame : Bytes} (answer : AuthAnswer frame)
    (options : Bytes) : ¬IsIpcpAck frame options := by
  cases answer <;> exact not_isIpcpAck_encodeFrame (by decide) _ options

theorem protocolReject_not_isIpcpAck {ppp : Ppp} {protocol : Nat} {info frame : Bytes}
    (member : frame ∈ (ppp.protocolReject protocol info).1.frames) (options : Bytes) :
    ¬IsIpcpAck frame options := by
  unfold protocolReject at member
  split at member
  · cases member
  · rw [List.mem_singleton.mp member]
    exact not_isIpcpAck_encodeFrame (by decide) _ options

/-- Every IPCP Configure-Ack confirms only options granted to the running
negotiation, and none goes out with a new lease. -/
theorem Move.isIpcpAck {ppp : Ppp} {input : Input} {result : PppStep × Ppp}
    (move : Move ppp input result) {frame options : Bytes} (member : frame ∈ result.1.frames)
    (ack : IsIpcpAck frame options) :
    ppp.acceptedAddrs input = none ∧ ∃ ipcp, ppp.ipcp = some ipcp ∧
      ∀ item ∈ configOptions options,
        ∃ opt, item = .ok opt ∧ IpcpServer.Grants ipcp.addrs opt := by
  cases move with
  | ipcpPacket info packet ipcp phase received decoded running =>
      obtain ⟨good, optionsEq⟩ := ipcpMove_isIpcpAck member ack
      obtain ⟨cached, granted⟩ := IpcpServer.eventOf_good good
      have fits := (length_data_of_decodeLcpPacket decoded).2
      rw [cached] at optionsEq
      rw [optionsEq fits]
      exact ⟨acceptedAddrs_eq_none_of_received received, ipcp, running, granted⟩
  | ipcpTimer ipcp => cases (ipcpMove_isIpcpAck member ack).1
  | lcpPacket info packet => exact absurd ack (renderLcpStep_not_isIpcpAck member options)
  | lcpTimer => exact absurd ack (renderLcpStep_not_isIpcpAck member options)
  | protocolReject payload info protocol =>
      exact absurd ack (protocolReject_not_isIpcpAck member options)
  | accept addrs frame accepted answer =>
      rw [advanceToNetwork_frames, List.mem_append, List.mem_singleton] at member
      rcases member with rfl | opening
      · exact absurd ack (authAnswer_not_isIpcpAck answer options)
      · obtain ⟨code, identifier, body, rfl, ackSent⟩ :=
          IpcpServer.eq_encodeIpcpFrame_of_mem_stepFrames opening
        obtain ⟨sent, _⟩ := ackSent (isIpcpAck_encodeIpcpFrame ack).1
        rw [openIpcp_sends, List.mem_singleton] at sent
        cases sent
  | reject frame inFlight unaccepted answer =>
      rw [tearDownAfterReject_frames, List.mem_append, List.mem_singleton] at member
      rcases member with rfl | closing
      · exact absurd ack (authAnswer_not_isIpcpAck answer options)
      · exact absurd ack (renderLcpStep_not_isIpcpAck closing options)
  | pap info request => cases member
  | chap info response challenge event method => cases member
  | silent => cases member

/-- After every run, a network announcement carries the addresses of the last
grant, which no earlier call has announced, and every option of an IPCP
Configure-Ack has the value of the last grant. -/
theorem lease_of_respond (localIp : Ipv4) (method : AuthMethod) (before : List Input)
    (input : Input) :
    (∀ addrs,
        ((stateAfter localIp method before).respond input).event = some (.networkUp addrs) →
        ∃ since, LastGrant (visits step (start localIp method) before) addrs since ∧
          ∀ visit ∈ since, ¬Announces visit) ∧
      ∀ frame ∈ ((stateAfter localIp method before).respond input).frames,
        ∀ options, IsIpcpAck frame options →
        ∃ addrs since, LastGrant (visits step (start localIp method) before) addrs since ∧
          ∀ item ∈ configOptions options,
            ∃ opt, item = .ok opt ∧ IpcpServer.Grants addrs opt := by
  have lease := servesLease_stateAfter localIp method before
  have move := run_move (stateAfter localIp method before) input
  constructor
  · intro addrs raised
    obtain ⟨-, ipcp, running, unopened, pending⟩ := move.ipcpMove.networkUp raised
    obtain ⟨since, last, pendingEq, unannounced⟩ := lease.serves ipcp running
    cases pending.symm.trans pendingEq
    exact ⟨since, last, unannounced unopened⟩
  · intro frame member options ack
    obtain ⟨-, ipcp, running, granted⟩ := move.isIpcpAck member ack
    obtain ⟨since, last, _⟩ := lease.serves ipcp running
    exact ⟨ipcp.addrs, since, last, granted⟩

/-! ## The address of the lease -/

/-- The address granted last. -/
def leasedIp (ppp : Ppp) : Option Ipv4 :=
  ppp.pendingAddrs.map AssignedAddrs.ip

/-- The address in the IP-Address option of an option list. -/
def ipAddressOption (options : Bytes) : Option Ipv4 :=
  (configOptions options).findSome? fun item =>
    match item with
    | .ok opt =>
        if opt.optionType = IpcpOptionId.ipAddress.asU8 then (readIpv4Value opt.value).toOption
        else none
    | .error _ => none

/-- The address that a frame acknowledges, if it is an IPCP Configure-Ack with an
IP-Address option. -/
def ackedAddress (frame : Bytes) : Option Ipv4 :=
  match decodeFrame frame with
  | .error _ => none
  | .ok ⟨protocol, info⟩ =>
      if protocol = ProtocolId.ipcp.asU16 then
        match decodeLcpPacket info with
        | .error _ => none
        | .ok packet =>
            if packet.code = IpcpCode.configureAck.asU8 then ipAddressOption packet.data else none
      else none

theorem isIpcpAck_of_ackedAddress {frame : Bytes} {ip : Ipv4}
    (acked : ackedAddress frame = some ip) :
    ∃ options, IsIpcpAck frame options ∧ ipAddressOption options = some ip := by
  unfold ackedAddress at acked
  split at acked
  · cases acked
  · rename_i protocol info framed
    split_ifs at acked with ipcp
    split at acked
    · cases acked
    · rename_i packet decoded
      split_ifs at acked with isAck
      subst ipcp
      exact ⟨packet.data, ⟨info, packet, framed, decoded, isAck, rfl⟩, acked⟩

/-- Among granted options, the address is the granted one. -/
theorem ipAddressOption_of_granted {addrs : AssignedAddrs} {options : Bytes} {ip : Ipv4}
    (granted : ∀ item ∈ configOptions options,
      ∃ opt, item = .ok opt ∧ IpcpServer.Grants addrs opt)
    (found : ipAddressOption options = some ip) : ip = addrs.ip := by
  rcases List.exists_of_findSome?_eq_some found with ⟨item, member, read⟩
  rcases granted item member with ⟨opt, rfl, option, addr, known, grantedFor, value⟩
  dsimp only at read
  split_ifs at read with isAddress
  rw [isAddress, IpcpOptionId.fromU8_asU8] at known
  cases known
  cases grantedFor
  rw [readIpv4Value_eq_ok_iff.mpr value] at read
  exact (Option.some.inj read).symm

/-- What a step tells the peer and the session about addresses is the lease that the
driver holds after it. -/
structure Serves (step : PppStep) (ppp : Ppp) : Prop where
  acks : ∀ frame ∈ step.frames, ∀ ip, ackedAddress frame = some ip → ppp.leasedIp = some ip
  ups : ∀ addrs, step.event = some (.networkUp addrs) → ppp.leasedIp = some addrs.ip

/-- A call changes the lease exactly when it applies an Accept. -/
theorem leasedIp_step (ppp : Ppp) (input : Input) :
    (ppp.step input).leasedIp =
      (ppp.acceptedAddrs input).elim ppp.leasedIp fun addrs => some addrs.ip := by
  have move := (ppp.run_move input).ipcpMove
  unfold Ppp.step
  generalize ppp.run input = result at move ⊢
  cases move with
  | untouched result unaccepted sameIpcp sameAddrs quiet =>
      rw [unaccepted]
      exact congrArg (Option.map AssignedAddrs.ip) sameAddrs
  | stepped event ipcp after unaccepted =>
      rw [unaccepted, ipcpMove_snd]
      rfl
  | granted addrs frames accepted =>
      rw [accepted, advanceToNetwork_snd]
      rfl

theorem serves_run (localIp : Ipv4) (method : AuthMethod) (before : List Input) (input : Input) :
    Serves ((stateAfter localIp method before).run input).1
      ((stateAfter localIp method before).run input).2 := by
  have lease := servesLease_stateAfter localIp method before
  have kept := leasedIp_step (stateAfter localIp method before) input
  have move := run_move (stateAfter localIp method before) input
  unfold Ppp.step at kept
  constructor
  · intro frame member ip acked
    rcases isIpcpAck_of_ackedAddress acked with ⟨options, ack, found⟩
    rcases move.isIpcpAck member ack with ⟨unaccepted, ipcp, running, granted⟩
    rcases lease.serves ipcp running with ⟨_, _, pending, _⟩
    rw [kept, unaccepted, ipAddressOption_of_granted granted found, Option.elim_none, leasedIp,
      pending]
    rfl
  · intro addrs raised
    rcases move.ipcpMove.networkUp raised with ⟨unaccepted, ipcp, running, _, pending⟩
    rw [kept, unaccepted, Option.elim_none, leasedIp, pending]
    rfl

/-- The first call finds no lease. -/
theorem serves_openPpp (localIp : Ipv4) (method : AuthMethod) (random : Block 16) :
    Serves ((new localIp method).openPpp random).1 ((new localIp method).openPpp random).2 := by
  constructor
  · intro frame member ip acked
    rcases isIpcpAck_of_ackedAddress acked with ⟨options, ack, _⟩
    exact (renderLcpStep_not_isIpcpAck member options ack).elim
  · intro addrs raised
    rw [openPpp_event] at raised
    cases raised

/-- The first call draws no challenge. -/
theorem openPpp_snd (localIp : Ipv4) (method : AuthMethod) (random : Block 16) :
    ((new localIp method).openPpp random).2 = start localIp method := by
  cases method <;> rfl

theorem leasedIp_start (localIp : Ipv4) (method : AuthMethod) :
    (start localIp method).leasedIp = none := by
  cases method <;> rfl

/-! ## A lease that is announced -/

/-- A Configure-Ack for the first IPCP request of the server. -/
def peerIpcpAck : Input :=
  ⟨.frame [0xFF, 0x03, 0x80, 0x21, 0x02, 0x01, 0x00, 0x04], Block.zero 16⟩

/-- A run up to the last IPCP packet. -/
def networkRun : List Input :=
  [peerConfigureAck, peerConfigureRequest, peerPapRequest, backendAccept, peerIpcpAck]

/-- The last IPCP packet announces the granted addresses. -/
theorem lease_networkRun :
    ((stateAfter (Block.zero 4) .pap networkRun).respond peerIpcpRequest).event =
        some (.networkUp ⟨Block.zero 4, none, none, none, none, none⟩) ∧
      ∃ since, LastGrant (visits step (start (Block.zero 4) .pap) networkRun)
        ⟨Block.zero 4, none, none, none, none, none⟩ since := by
  have raised : ((stateAfter (Block.zero 4) .pap networkRun).respond peerIpcpRequest).event =
      some (.networkUp ⟨Block.zero 4, none, none, none, none, none⟩) := by
    decide
  obtain ⟨since, last, _⟩ := (lease_of_respond _ _ networkRun peerIpcpRequest).1 _ raised
  exact ⟨raised, since, last⟩

end SstpServer.Ppp
