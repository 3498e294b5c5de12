import Mathlib.Data.List.Flatten
import SstpServer.Ppp.ReplyIdentifier

/-!
# The answer to an IPCP request

Every IPCP Configure-Request that reaches a negotiating automaton gets one answer.  What
the answer says follows from the option list alone: an Ack if every option asks for what
was granted, otherwise a Reject of the options that cannot be granted, and only without
those a Nak of the options with another value.
-/

namespace SstpServer.Ppp

open SstpServer.Wire
open SstpServer.Iteration

/-! ## Option lists -/

/-- The bytes are an option list without a flaw. -/
def Parses (data : Bytes) (opts : List ConfigOption) : Prop :=
  configOptions data = opts.map .ok

/-- The iterator stops at the end of the bytes only. -/
theorem eq_nil_of_nextConfigOption {cursor : Bytes} (stops : nextConfigOption cursor = none) :
    cursor = [] := by
  unfold nextConfigOption at stops
  split at stops
  · rfl
  · cases stops
  · dsimp only at stops
    split_ifs at stops

/-- A flawless option list is the concatenation of its options. -/
theorem parses_iff {data : Bytes} {opts : List ConfigOption} :
    Parses data opts ↔ data = opts.flatMap ConfigOption.encode ∧ ∀ opt ∈ opts, opt.Sized := by
  constructor
  · intro parses
    induction opts generalizing data with
    | nil =>
        rw [Parses, configOptions, collect_eq nextConfigOption_shrinks] at parses
        cases first : nextConfigOption data with
        | none => exact ⟨eq_nil_of_nextConfigOption first, nofun⟩
        | some yielded =>
            rw [first] at parses
            cases parses
    | cons opt later ih =>
        rw [Parses, configOptions, collect_eq nextConfigOption_shrinks] at parses
        cases first : nextConfigOption data with
        | none =>
            rw [first] at parses
            cases parses
        | some yielded =>
            rcases yielded with ⟨item, rest⟩
            rw [first] at parses
            obtain ⟨rfl, parsesRest⟩ := List.cons.inj parses
            obtain ⟨restEq, sized⟩ := ih parsesRest
            refine ⟨?_, List.forall_mem_cons.mpr ⟨sized_of_nextConfigOption first, sized⟩⟩
            rw [nextConfigOption_eq_some_ok first, List.flatMap_cons, ← restEq]
            rfl
  · rintro ⟨rfl, sized⟩
    exact collect_flatMap nextConfigOption_shrinks rfl fun opt member rest =>
      nextConfigOption_writeOption (sized opt member) rest

theorem parses_flatMap {opts : List ConfigOption} (sized : ∀ opt ∈ opts, opt.Sized) :
    Parses (opts.flatMap ConfigOption.encode) opts :=
  parses_iff.mpr ⟨rfl, sized⟩

@[simp]
theorem leadingOptions_map_ok (opts : List ConfigOption) :
    leadingOptions (opts.map .ok) = opts := by
  induction opts with
  | nil => rfl
  | cons opt later ih => rw [List.map_cons, leadingOptions, ih]

@[simp]
theorem hasMalformed_map_ok (opts : List ConfigOption) : hasMalformed (opts.map .ok) = false := by
  simp [hasMalformed, Except.isOk, Except.toBool]

theorem map_ok_leadingOptions {items : List (Except LcpPacketError ConfigOption)}
    (wellFormed : hasMalformed items = false) : (leadingOptions items).map .ok = items := by
  induction items with
  | nil => rfl
  | cons item later ih =>
      cases item with
      | error error => simp [hasMalformed, Except.isOk, Except.toBool] at wellFormed
      | ok opt =>
          have laterFormed : hasMalformed later = false := by
            simpa [hasMalformed, Except.isOk, Except.toBool] using wellFormed
          rw [leadingOptions, List.map_cons, ih laterFormed]

/-- An option list has a flaw, or it parses. -/
theorem parses_or_hasMalformed (data : Bytes) :
    (∃ opts, Parses data opts) ∨ hasMalformed (configOptions data) = true := by
  cases malformed : hasMalformed (configOptions data) with
  | true => exact .inr rfl
  | false => exact .inl ⟨_, (map_ok_leadingOptions malformed).symm⟩

theorem Parses.eq_of_parses {data : Bytes} {first second : List ConfigOption}
    (parsesFirst : Parses data first) (parsesSecond : Parses data second) : first = second := by
  have same := parsesFirst.symm.trans parsesSecond
  rw [← leadingOptions_map_ok first, same, leadingOptions_map_ok]

/-! ## The automaton -/

namespace Fsm

/-- States in which a Configure-Request makes the automaton start over. -/
def State.restarts : State → Bool
  | .stopped | .opened => true
  | _ => false

/-- The event of a classified Configure-Request. -/
def requestEvent (good : Bool) : Event :=
  if good then .rcvConfigReqGood else .rcvConfigReqBad

/-- The packet that answers it. -/
def answerSend (good : Bool) : Send :=
  if good then .configureAck else .configureNak

/-- A Configure-Request in an answering state is answered last, after the server's own
request if the automaton starts over, and the next request will be answered too. -/
@[mk_iff]
structure RequestSpec (source : State) (good : Bool) (out : StepOut) : Prop where
  send : out.send = some (if source.restarts then .configureRequest else answerSend good)
  sendExtra : out.sendExtra = if source.restarts then some (answerSend good) else none
  answering : out.newState.answersConfigureRequest = true

instance (source : State) (good : Bool) (out : StepOut) :
    Decidable (RequestSpec source good out) :=
  decidable_of_iff _ (requestSpec_iff source good out).symm

theorem request_spec {fsm : Fsm} (answers : fsm.state.answersConfigureRequest = true)
    (good : Bool) : RequestSpec fsm.state good (fsm.step (requestEvent good)).1 := by
  rcases fsm with ⟨state, identifier, restartCounter⟩
  cases good <;> cases state <;> first | exact of_decide_eq_true rfl | cases answers

/-- The automaton leaves its identifier to the driver. -/
theorem step_identifier (fsm : Fsm) (event : Event) :
    (fsm.step event).2.identifier = fsm.identifier := by
  rcases fsm with ⟨state, identifier, restartCounter⟩
  cases event with
  | restartTimeout => cases restartCounter <;> cases state <;> rfl
  | _ => cases state <;> rfl

end Fsm

namespace IpcpServer

/-! ## What can be granted -/

/-- The address that was granted for the type of an option.  There is none for an unknown
type, for an unsupported one, and for a name server that was not granted. -/
def assignedFor (addrs : AssignedAddrs) (opt : ConfigOption) : Option Ipv4 :=
  (IpcpOptionId.fromU8 opt.optionType).bind (grantedFor addrs)

/-- The option asks for what was granted. -/
def asGranted (addrs : AssignedAddrs) (opt : ConfigOption) : Bool :=
  (assignedFor addrs opt).any fun addr => opt.value = addr.toList

/-- The option with the granted value, if it has another one. -/
def corrected (addrs : AssignedAddrs) (opt : ConfigOption) : Option ConfigOption :=
  (assignedFor addrs opt).bind fun addr =>
    if opt.value = addr.toList then none else some ⟨opt.optionType, addr.toList⟩

/-- The options that a Configure-Reject returns. -/
def rejected (addrs : AssignedAddrs) (opts : List ConfigOption) : List ConfigOption :=
  opts.filter fun opt => (assignedFor addrs opt).isNone

/-- The options that a Configure-Nak proposes. -/
def proposed (addrs : AssignedAddrs) (opts : List ConfigOption) : List ConfigOption :=
  opts.filterMap (corrected addrs)

theorem judge_eq (addrs : AssignedAddrs) (opt : ConfigOption) :
    judge addrs opt =
      match assignedFor addrs opt with
      | some addr => if opt.value = addr.toList then .accept else .nak addr
      | none => .reject :=
  rfl

theorem rejectBody_eq (addrs : AssignedAddrs) (opts : List ConfigOption) :
    rejectBody addrs opts = (rejected addrs opts).flatMap ConfigOption.encode := by
  have same : ∀ opt, decide (judge addrs opt = .reject) = (assignedFor addrs opt).isNone := by
    intro opt
    rw [judge_eq]
    cases assignedFor addrs opt with
    | none => rfl
    | some addr =>
        dsimp only
        split_ifs <;> rfl
  simp only [rejectBody, rejected, same]

theorem nakBody_eq (addrs : AssignedAddrs) (opts : List ConfigOption) :
    nakBody addrs opts = (proposed addrs opts).flatMap ConfigOption.encode := by
  have written : ∀ optionType (addr : Ipv4), writeIpv4Option optionType addr =
      ConfigOption.encode ⟨optionType, addr.toList⟩ := by
    intro optionType addr
    simp [writeIpv4Option, ConfigOption.encode, writeOption, ipv4OptionTotalLen,
      ipv4OptionValueLen, lcpOptHeaderLen]
  induction opts with
  | nil => rfl
  | cons opt later ih =>
      have split : nakBody addrs (opt :: later) = nakBody addrs [opt] ++ nakBody addrs later := by
        simp [nakBody]
      rw [split, ih]
      cases assigned : assignedFor addrs opt with
      | none => simp [nakBody, judge_eq, proposed, corrected, assigned]
      | some addr =>
          by_cases same : opt.value = addr.toList
          · simp [nakBody, judge_eq, proposed, corrected, assigned, same]
          · simp [nakBody, judge_eq, proposed, corrected, assigned, same, written]

theorem sized_of_mem_proposed {addrs : AssignedAddrs} {opts : List ConfigOption}
    {opt : ConfigOption} (member : opt ∈ proposed addrs opts) : opt.Sized := by
  obtain ⟨source, -, correction⟩ := List.mem_filterMap.mp member
  obtain ⟨addr, -, value⟩ := Option.bind_eq_some_iff.mp correction
  split_ifs at value
  cases value
  simp [ConfigOption.Sized, ConfigOption.encodedLen, lcpOptHeaderLen]

theorem flatMap_encode_eq_nil_iff {opts : List ConfigOption} :
    opts.flatMap ConfigOption.encode = [] ↔ opts = [] := by
  cases opts <;> simp [ConfigOption.encode, writeOption]

theorem rejected_eq_nil_iff {addrs : AssignedAddrs} {opts : List ConfigOption} :
    rejected addrs opts = [] ↔ ∀ opt ∈ opts, (assignedFor addrs opt).isSome := by
  simp [rejected, List.filter_eq_nil_iff, Option.isSome_iff_ne_none]

theorem proposed_eq_nil_iff {addrs : AssignedAddrs} {opts : List ConfigOption}
    (grantable : rejected addrs opts = []) :
    proposed addrs opts = [] ↔ ∀ opt ∈ opts, asGranted addrs opt = true := by
  rw [proposed, List.filterMap_eq_nil_iff]
  refine forall₂_congr fun opt member => ?_
  obtain ⟨addr, assigned⟩ :=
    Option.isSome_iff_exists.mp (rejected_eq_nil_iff.mp grantable opt member)
  simp [corrected, asGranted, assigned]

/-! ## The answer -/

/-- The code and the body of the answer to an option list. -/
def answer (addrs : AssignedAddrs) (data : Bytes) : IpcpCode × Bytes :=
  if hasMalformed (configOptions data) then (.configureNak, [])
  else
    let opts := leadingOptions (configOptions data)
    if rejected addrs opts ≠ [] then
      (.configureReject, (rejected addrs opts).flatMap ConfigOption.encode)
    else if proposed addrs opts ≠ [] then
      (.configureNak, (proposed addrs opts).flatMap ConfigOption.encode)
    else (.configureAck, data)

/-- The answer to a flawless option list. -/
theorem answer_of_parses {data : Bytes} {opts : List ConfigOption} (parses : Parses data opts)
    (addrs : AssignedAddrs) :
    answer addrs data =
      if rejected addrs opts ≠ [] then
        (.configureReject, (rejected addrs opts).flatMap ConfigOption.encode)
      else if proposed addrs opts ≠ [] then
        (.configureNak, (proposed addrs opts).flatMap ConfigOption.encode)
      else (.configureAck, data) := by
  unfold Parses at parses
  simp only [answer, parses, hasMalformed_map_ok, leadingOptions_map_ok, Bool.false_eq_true,
    if_false]

/-- The answer is an Ack. -/
def isGood (addrs : AssignedAddrs) (data : Bytes) : Bool :=
  (answer addrs data).1 = .configureAck

/-- The frame of the answer to a Configure-Request. -/
def answerFrame (addrs : AssignedAddrs) (packet : LcpPacket) : Bytes :=
  encodeIpcpFrame (answer addrs packet.data).1 packet.identifier (answer addrs packet.data).2

/-- A Configure-Request leaves its answer in the caches. -/
theorem eventOf_answer (ipcp : IpcpServer) {packet : LcpPacket}
    (request : IpcpCode.fromU8 packet.code = some .configureRequest) :
    (ipcp.eventOf packet).1 = Fsm.requestEvent (isGood ipcp.addrs packet.data) ∧
      (ipcp.eventOf packet).2.sentFrames
          (some (Fsm.answerSend (isGood ipcp.addrs packet.data))) =
        [answerFrame ipcp.addrs packet] := by
  simp only [eventOf, request, classifyConfigureRequest, classifyOptions_eq, List.nil_append,
    rejectBody_eq, nakBody_eq, isGood, answerFrame, answer]
  by_cases malformed : hasMalformed (configOptions packet.data) = true
  · simp [malformed, sentFrames, renderIpcpSend, PppStep.pushFrame, Fsm.requestEvent,
      Fsm.answerSend]
  · simp only [malformed, Bool.false_eq_true, if_false, ne_eq, flatMap_encode_eq_nil_iff]
    split_ifs <;>
      simp [sentFrames, renderIpcpSend, PppStep.pushFrame, Fsm.requestEvent, Fsm.answerSend]

theorem eventOf_localIp (ipcp : IpcpServer) (packet : LcpPacket) :
    (ipcp.eventOf packet).2.localIp = ipcp.localIp := by
  have heard := ipcp.heard_eventOf packet
  generalize ipcp.eventOf packet = out at heard ⊢
  cases heard <;> rfl

/-- The server's own Configure-Request in front of an answer. -/
def ownRequests (ipcp : IpcpServer) : List Bytes :=
  if ipcp.fsm.state.restarts then
    [encodeIpcpFrame .configureRequest (ipcp.fsm.identifier + 1)
      (writeIpv4Option IpcpOptionId.ipAddress.asU8 ipcp.localIp)]
  else []

/-- An answer is made from the caches, whatever the automaton does. -/
theorem sentFrames_answerSend (ipcp : IpcpServer) (fsm : Fsm) (good : Bool) :
    ({ ipcp with fsm := fsm } : IpcpServer).sentFrames (some (Fsm.answerSend good)) =
      ipcp.sentFrames (some (Fsm.answerSend good)) := by
  cases good <;> rfl

/-- A classified request is answered last. -/
theorem stepFrames_stepTraced {ipcp : IpcpServer}
    (answers : ipcp.fsm.state.answersConfigureRequest = true) (good : Bool) :
    (ipcp.stepTraced (Fsm.requestEvent good)).2.stepFrames
        (ipcp.stepTraced (Fsm.requestEvent good)).1 =
      ipcp.ownRequests ++ ipcp.sentFrames (some (Fsm.answerSend good)) := by
  have spec := Fsm.request_spec answers good
  have identifier := ipcp.fsm.step_identifier (Fsm.requestEvent good)
  simp only [stepTraced, stepFrames, spec.send, spec.sendExtra, ownRequests, bumped]
  cases ipcp.fsm.state.restarts with
  | false =>
      simp only [Bool.false_eq_true, if_false, sentFrames_answerSend, List.nil_append]
      exact List.append_nil _
  | true =>
      simp only [if_true, sentFrames_answerSend]
      simp [sentFrames, renderIpcpSend, PppStep.pushFrame, Fsm.bumpIdentifier, identifier]

/-- The answer to a Configure-Request is the last frame. -/
theorem stepFrames_onPacket {ipcp : IpcpServer} {packet : LcpPacket}
    (request : IpcpCode.fromU8 packet.code = some .configureRequest)
    (answers : ipcp.fsm.state.answersConfigureRequest = true) :
    (ipcp.onPacket packet).2.stepFrames (ipcp.onPacket packet).1.1 =
      ipcp.ownRequests ++ [answerFrame ipcp.addrs packet] := by
  obtain ⟨event, answered⟩ := ipcp.eventOf_answer request
  have kept := (ipcp.eventOf_keeps packet).1
  have own : (ipcp.eventOf packet).2.ownRequests = ipcp.ownRequests := by
    simp only [ownRequests, kept, eventOf_localIp]
  rw [← own, ← answered, ← stepFrames_stepTraced (kept ▸ answers), ← event]
  rfl

/-! ## Exactness -/

/-- The bytes are a flawless option list that asks for nothing but what was granted. -/
def AsGranted (addrs : AssignedAddrs) (data : Bytes) : Prop :=
  ∃ opts, Parses data opts ∧ ∀ opt ∈ opts, asGranted addrs opt = true

/-- A reply says exactly what is wrong with a Configure-Request. -/
structure ExactAnswer (addrs : AssignedAddrs) (packet : LcpPacket) (reply : Bytes) : Prop where
  /-- The request is acknowledged if and only if all of it was granted. -/
  ack_iff : reply = encodeIpcpFrame .configureAck packet.identifier packet.data ↔
    AsGranted addrs packet.data
  /-- There is no other Ack. -/
  ack : ∀ identifier body, reply = encodeIpcpFrame .configureAck identifier body →
    AsGranted addrs packet.data
  /-- Options that cannot be granted are returned as they came, and nothing else is. -/
  reject : ∀ opts, Parses packet.data opts → (∃ opt ∈ opts, assignedFor addrs opt = none) →
    ∃ body, reply = encodeIpcpFrame .configureReject packet.identifier body ∧
      body = (rejected addrs opts).flatMap ConfigOption.encode ∧
        Parses body (rejected addrs opts)
  /-- Otherwise the options with another value than the granted one are proposed with it. -/
  nak : ∀ opts, Parses packet.data opts → (∀ opt ∈ opts, (assignedFor addrs opt).isSome) →
    (∃ opt ∈ opts, asGranted addrs opt = false) →
    ∃ body, reply = encodeIpcpFrame .configureNak packet.identifier body ∧
      body = (proposed addrs opts).flatMap ConfigOption.encode ∧
        Parses body (proposed addrs opts)

theorem encodeIpcpFrame_code {first second : IpcpCode} {firstId secondId : UInt8}
    {firstBody secondBody : Bytes}
    (same : encodeIpcpFrame first firstId firstBody = encodeIpcpFrame second secondId secondBody) :
    first = second := by
  apply IpcpCode.asU8_injective
  simp only [encodeIpcpFrame, encodeProtocolPacket, encodeFrame, writeLcpHeader] at same
  simp_all

/-- The answer is an Ack exactly for a request of what was granted, and then it echoes the
bytes. -/
theorem answer_ack_iff {addrs : AssignedAddrs} {data : Bytes} :
    (answer addrs data).1 = .configureAck ↔ AsGranted addrs data := by
  rcases parses_or_hasMalformed data with ⟨opts, parses⟩ | malformed
  · have unique : AsGranted addrs data ↔ ∀ opt ∈ opts, asGranted addrs opt = true := by
      constructor
      · rintro ⟨others, parsesOthers, granted⟩
        rwa [parses.eq_of_parses parsesOthers]
      · exact fun granted => ⟨opts, parses, granted⟩
    have grantable : (∀ opt ∈ opts, asGranted addrs opt = true) → rejected addrs opts = [] := by
      intro granted
      refine rejected_eq_nil_iff.mpr fun opt member => ?_
      have asked := granted opt member
      unfold asGranted at asked
      cases assigned : assignedFor addrs opt with
      | none => simp [assigned] at asked
      | some addr => rfl
    rw [unique, answer_of_parses parses]
    split_ifs with rejects proposes
    · simp only [false_iff]
      exact fun granted => rejects (grantable granted)
    · simp only [false_iff]
      exact fun granted =>
        proposes ((proposed_eq_nil_iff (not_not.mp rejects)).mpr granted)
    · simp only [true_iff]
      exact (proposed_eq_nil_iff (not_not.mp rejects)).mp (not_not.mp proposes)
  · simp only [answer, malformed, if_true, reduceCtorEq, false_iff]
    rintro ⟨opts, parses, -⟩
    unfold Parses at parses
    rw [parses, hasMalformed_map_ok] at malformed
    cases malformed

theorem answer_data_of_ack {addrs : AssignedAddrs} {data : Bytes}
    (ack : (answer addrs data).1 = .configureAck) : (answer addrs data).2 = data := by
  simp only [answer] at ack ⊢
  split_ifs at ack ⊢
  rfl

theorem sized_of_mem_rejected {addrs : AssignedAddrs} {data : Bytes} {opts : List ConfigOption}
    (parses : Parses data opts) {opt : ConfigOption} (member : opt ∈ rejected addrs opts) :
    opt.Sized :=
  (parses_iff.mp parses).2 opt (List.mem_of_mem_filter member)

theorem exactAnswer_answerFrame (addrs : AssignedAddrs) (packet : LcpPacket) :
    ExactAnswer addrs packet (answerFrame addrs packet) where
  ack_iff := by
    rw [← answer_ack_iff]
    constructor
    · exact encodeIpcpFrame_code
    · intro ack
      rw [answerFrame, ack, answer_data_of_ack ack]
  ack := fun _ _ same => answer_ack_iff.mp (encodeIpcpFrame_code same)
  reject := by
    rintro opts parses ⟨opt, member, unassigned⟩
    have rejects : rejected addrs opts ≠ [] := by
      intro none
      have assigned := rejected_eq_nil_iff.mp none opt member
      simp [unassigned] at assigned
    refine ⟨_, ?_, rfl, parses_flatMap fun opt member => sized_of_mem_rejected parses member⟩
    rw [answerFrame, answer_of_parses parses, if_pos rejects]
  nak := by
    rintro opts parses grantable ⟨opt, member, other⟩
    have noReject := rejected_eq_nil_iff.mpr grantable
    have proposes : proposed addrs opts ≠ [] := by
      intro none
      have granted := (proposed_eq_nil_iff noReject).mp none opt member
      rw [other] at granted
      cases granted
    refine ⟨_, ?_, rfl, parses_flatMap fun opt member => sized_of_mem_proposed member⟩
    rw [answerFrame, answer_of_parses parses, if_neg (not_not.mpr noReject), if_pos proposes]

/-! ## Sizes -/

/-- A proposal is at most three times as long as the option it is for. -/
theorem length_proposed_le (addrs : AssignedAddrs) (opts : List ConfigOption) :
    ((proposed addrs opts).flatMap ConfigOption.encode).length ≤
      3 * (opts.flatMap ConfigOption.encode).length := by
  induction opts with
  | nil => simp [proposed]
  | cons opt later ih =>
      have grows : ((corrected addrs opt).toList.flatMap ConfigOption.encode).length ≤
          3 * opt.encode.length := by
        unfold corrected
        cases assignedFor addrs opt with
        | none => simp
        | some addr =>
            by_cases same : opt.value = addr.toList
            · simp [same]
            · simp [same, ConfigOption.encode, lcpOptHeaderLen]
              omega
      have split : proposed addrs (opt :: later) =
          (corrected addrs opt).toList ++ proposed addrs later := by
        unfold proposed
        cases correction : corrected addrs opt <;> simp [correction]
      rw [split, List.flatMap_append, List.flatMap_cons, List.length_append, List.length_append]
      omega

theorem length_rejected_le (addrs : AssignedAddrs) (opts : List ConfigOption) :
    ((rejected addrs opts).flatMap ConfigOption.encode).length ≤
      (opts.flatMap ConfigOption.encode).length :=
  (List.filter_sublist.flatMap ConfigOption.encode).length_le

theorem length_answer_le (addrs : AssignedAddrs) (data : Bytes) :
    (answer addrs data).2.length ≤ 3 * data.length := by
  rcases parses_or_hasMalformed data with ⟨opts, parses⟩ | malformed
  · have encoded := (parses_iff.mp parses).1
    have rejects := length_rejected_le addrs opts
    have proposes := length_proposed_le addrs opts
    rw [← encoded] at rejects proposes
    rw [answer_of_parses parses]
    split_ifs <;> dsimp only <;> omega
  · simp [answer, malformed]

/-- The Length field of an answer is right if the request is a third of the largest
packet. -/
theorem decode_answerFrame (addrs : AssignedAddrs) {packet : LcpPacket}
    (fits : 3 * packet.data.length + 4 < 65536) :
    ∃ info, decodeFrame (answerFrame addrs packet) = .ok ⟨ProtocolId.ipcp.asU16, info⟩ ∧
      decodeLcpPacket info = .ok ⟨(answer addrs packet.data).1.asU8, packet.identifier,
        (answer addrs packet.data).2⟩ := by
  have bound := length_answer_le addrs packet.data
  refine ⟨_, decodeFrame_encodeFrame_asU16 _ _, ?_⟩
  exact decodeLcpPacket_writeLcpHeader _ _ (by omega)

/-- A grant with an address and one name server. -/
def oneNameServer : AssignedAddrs where
  ip := ⟨[10, 0, 0, 9], rfl⟩
  mtu := none
  dns1 := some ⟨[10, 0, 0, 1], rfl⟩
  dns2 := none
  nbns1 := none
  nbns2 := none

/-- A request for another address and for the name server, without a value for the latter, gets an
answer that is longer than it; a request that breaks off gets an empty one. -/
theorem decode_oneNameServer :
    (∃ info, decodeFrame (answerFrame oneNameServer ⟨1, 7, [0x03, 6, 10, 0, 0, 8, 0x81, 2]⟩) =
        .ok ⟨ProtocolId.ipcp.asU16, info⟩ ∧
      decodeLcpPacket info = .ok ⟨3, 7, [0x03, 6, 10, 0, 0, 9, 0x81, 6, 10, 0, 0, 1]⟩) ∧
    ∃ info, decodeFrame (answerFrame oneNameServer ⟨1, 8, [0x03, 6, 10, 0]⟩) =
        .ok ⟨ProtocolId.ipcp.asU16, info⟩ ∧ decodeLcpPacket info = .ok ⟨3, 8, []⟩ :=
  ⟨decode_answerFrame _ (by decide), decode_answerFrame _ (by decide)⟩

end IpcpServer

/-- In the network phase a Configure-Request to a negotiating IPCP automaton gets one
answer, behind the server's own request if the automaton starts over, and it is exact. -/
theorem exists_exactAnswer_respond {ppp : Ppp} {input : Input} {packet : LcpPacket}
    {ipcp : IpcpServer} (received : packetAt .ipcp input = some packet)
    (request : packet.code = IpcpCode.configureRequest.asU8) (phase : ppp.phase = .network)
    (running : ppp.ipcp = some ipcp) (answers : ipcp.fsm.state.answersConfigureRequest = true) :
    ∃ reply, (ppp.respond input).frames = ipcp.ownRequests ++ [reply] ∧
      IpcpServer.ExactAnswer ipcp.addrs packet reply := by
  obtain ⟨info, framed, decoded⟩ := packetAt_eq_some_iff.mp received
  have typed : IpcpCode.fromU8 packet.code = some .configureRequest := by
    rw [request, IpcpCode.fromU8_asU8]
  refine ⟨_, ?_, IpcpServer.exactAnswer_answerFrame ipcp.addrs packet⟩
  rw [← IpcpServer.stepFrames_onPacket typed answers]
  simp only [respond, run_ipcp framed decoded, if_pos phase, running, ipcpMove,
    renderIpcpStep_frames]
  rfl

/-- A request for another address, for the mobile address and for a name server that was
not granted. -/
def greedyIpcpRequest : Input :=
  ⟨.frame [0xFF, 0x03, 0x80, 0x21, 0x01, 0x07, 0x00, 0x16, 0x03, 0x06, 10, 0, 0, 9,
    0x04, 0x06, 10, 0, 0, 9, 0x81, 0x06, 0, 0, 0, 0], Block.zero 16⟩

theorem exists_exactAnswer_greedyIpcpRequest :
    ∃ packet ipcp, packetAt .ipcp greedyIpcpRequest = some packet ∧
      (stateAfter (Block.zero 4) .pap networkRun).ipcp = some ipcp ∧
      ∃ reply, ((stateAfter (Block.zero 4) .pap networkRun).respond greedyIpcpRequest).frames =
          ipcp.ownRequests ++ [reply] ∧
        IpcpServer.ExactAnswer ipcp.addrs packet reply := by
  have received : packetAt .ipcp greedyIpcpRequest = some ⟨1, 7, [0x03, 0x06, 10, 0, 0, 9,
      0x04, 0x06, 10, 0, 0, 9, 0x81, 0x06, 0, 0, 0, 0]⟩ := by decide +kernel
  obtain ⟨ipcp, running⟩ := Option.isSome_iff_exists.mp
    (show (stateAfter (Block.zero 4) .pap networkRun).ipcp.isSome = true by decide)
  have answers : ipcp.fsm.state.answersConfigureRequest = true := by
    have checked : (stateAfter (Block.zero 4) .pap networkRun).ipcp.all
        (·.fsm.state.answersConfigureRequest) = true := by decide
    simpa [running] using checked
  exact ⟨_, ipcp, received, running,
    exists_exactAnswer_respond received rfl (by decide) running answers⟩

end SstpServer.Ppp
