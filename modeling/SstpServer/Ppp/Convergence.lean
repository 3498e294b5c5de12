import SstpServer.Ppp.IpcpAnswers

/-!
# Convergence of the IPCP negotiation

A client that follows the answers agrees with the server soon.  A Reject names every option
that cannot be granted, and whether an option can be granted depends on its type alone, so
the second request is not rejected.  A Nak gives the granted value of every type with
another value, so the request after it is acknowledged.
-/

namespace SstpServer.Ppp

open SstpServer.Wire
open SstpServer.Iteration

/-! ## The client -/

/-- An answer as the client reads it, with the body up to the end of the frame. -/
structure Answer where
  code : IpcpCode
  identifier : UInt8
  body : Bytes
  deriving DecidableEq

/-- The codes of answers to a Configure-Request. -/
def answerCodes : List IpcpCode :=
  [.configureAck, .configureNak, .configureReject]

/-- The answer in a frame. -/
def readAnswer (frame : Bytes) : Option Answer :=
  match decodeFrame frame with
  | .ok ⟨protocol, code :: identifier :: _ :: _ :: body⟩ =>
      if protocol = ProtocolId.ipcp.asU16 then
        (IpcpCode.fromU8 code).bind fun code =>
          if code ∈ answerCodes then some ⟨code, identifier, body⟩ else none
      else none
  | _ => none

/-- What the client asks for after an answer: a Reject drops the options it lists, a Nak
replaces every option by the listed one of its type. -/
def revise (opts : List ConfigOption) (answer : Answer) : List ConfigOption :=
  let listed := leadingOptions (configOptions answer.body)
  match answer.code with
  | .configureReject => opts.filter fun opt => opt ∉ listed
  | .configureNak =>
      opts.map fun opt => (listed.find? fun nak => nak.optionType = opt.optionType).getD opt
  | _ => opts

/-- A Configure-Request of the client. -/
def requestOf (identifier : UInt8) (opts : List ConfigOption) : LcpPacket :=
  ⟨IpcpCode.configureRequest.asU8, identifier, opts.flatMap ConfigOption.encode⟩

namespace IpcpServer

/-- The server after a packet. -/
def receive (ipcp : IpcpServer) (packet : LcpPacket) : IpcpServer :=
  (ipcp.onPacket packet).2.afterStep (ipcp.onPacket packet).1.1

/-- The answer to a packet. -/
def answerTo (ipcp : IpcpServer) (packet : LcpPacket) : Option Answer :=
  ((ipcp.onPacket packet).2.stepFrames (ipcp.onPacket packet).1.1).findSome? readAnswer

/-- The requests of a client, one for each identifier, with their answers.  The client
stops at an Ack. -/
def converse (ipcp : IpcpServer) (opts : List ConfigOption) :
    List UInt8 → List (LcpPacket × Option Answer)
  | [] => []
  | identifier :: later =>
      let request := requestOf identifier opts
      match ipcp.answerTo request with
      | none => (request, none) :: converse (ipcp.receive request) opts later
      | some answer =>
          (request, some answer) ::
            if answer.code = .configureAck then []
            else converse (ipcp.receive request) (revise opts answer) later

/-- The request is acknowledged as it was sent. -/
def Acknowledged (turn : LcpPacket × Option Answer) : Prop :=
  turn.2 = some ⟨.configureAck, turn.1.identifier, turn.1.data⟩

/-! ## One round -/

theorem readAnswer_encodeIpcpFrame (code : IpcpCode) (identifier : UInt8) (body : Bytes) :
    readAnswer (encodeIpcpFrame code identifier body) =
      if code ∈ answerCodes then some ⟨code, identifier, body⟩ else none := by
  rw [encodeIpcpFrame, encodeProtocolPacket, readAnswer, decodeFrame_encodeFrame_asU16]
  simp [writeLcpHeader, toBe16]

theorem answer_code_mem (addrs : AssignedAddrs) (data : Bytes) :
    (answer addrs data).1 ∈ answerCodes := by
  simp only [answer]
  split_ifs <;> simp [answerCodes]

/-- The client reads the answer behind the server's own request. -/
theorem answerTo_requestOf {ipcp : IpcpServer}
    (answers : ipcp.fsm.state.answersConfigureRequest = true) (identifier : UInt8)
    (opts : List ConfigOption) :
    ipcp.answerTo (requestOf identifier opts) =
      some ⟨(answer ipcp.addrs (opts.flatMap ConfigOption.encode)).1, identifier,
        (answer ipcp.addrs (opts.flatMap ConfigOption.encode)).2⟩ := by
  have own : ipcp.ownRequests.findSome? readAnswer = none := by
    unfold ownRequests
    split_ifs
    · simp [readAnswer_encodeIpcpFrame, answerCodes]
    · rfl
  rw [answerTo, stepFrames_onPacket rfl answers, List.findSome?_append, own,
    Option.none_or, List.findSome?_singleton, answerFrame, readAnswer_encodeIpcpFrame,
    if_pos (answer_code_mem _ _)]
  rfl

/-- After a request the server has the same addresses and answers the next one. -/
theorem receive_requestOf {ipcp : IpcpServer}
    (answers : ipcp.fsm.state.answersConfigureRequest = true) (identifier : UInt8)
    (opts : List ConfigOption) :
    (ipcp.receive (requestOf identifier opts)).addrs = ipcp.addrs ∧
      (ipcp.receive (requestOf identifier opts)).fsm.state.answersConfigureRequest = true := by
  obtain ⟨kept, addrs, -⟩ := ipcp.eventOf_keeps (requestOf identifier opts)
  have typed : IpcpCode.fromU8 (requestOf identifier opts).code = some .configureRequest := rfl
  have event := (ipcp.eventOf_answer typed).1
  refine ⟨addrs, ?_⟩
  have spec := Fsm.request_spec answers
    (isGood ipcp.addrs (requestOf identifier opts).data)
  rw [← event, ← kept] at spec
  exact spec.answering

end IpcpServer

/-- In the network phase a packet reaches the negotiation, its answer is among the frames of
the call, and the phase stays. -/
theorem respond_ipcpPacket {ppp : Ppp} {input : Input} {packet : LcpPacket} {ipcp : IpcpServer}
    (received : packetAt .ipcp input = some packet) (phase : ppp.phase = .network)
    (running : ppp.ipcp = some ipcp) :
    (ppp.respond input).frames.findSome? readAnswer = ipcp.answerTo packet ∧
      (ppp.step input).ipcp = some (ipcp.receive packet) ∧ (ppp.step input).phase = .network := by
  obtain ⟨info, framed, decoded⟩ := packetAt_eq_some_iff.mp received
  have moved : ppp.run input = ppp.ipcpMove (ipcp.eventOf packet).1 (ipcp.eventOf packet).2 := by
    simp only [run_ipcp framed decoded, if_pos phase, running]
  refine ⟨?_, ?_, ?_⟩
  · rw [respond, moved, ipcpMove, renderIpcpStep_frames]
    rfl
  · rw [step, moved, ipcpMove_snd]
    rfl
  · rw [step, moved, ipcpMove_snd]
    exact phase

/-- A conversation as calls of the driver: each request comes in a frame, and the client reads
the answer from the frames of that call. -/
inductive Converses : Ppp → List (LcpPacket × Option Answer) → Prop where
  | silent (ppp : Ppp) : Converses ppp []
  | turn {ppp : Ppp} {input : Input} {packet : LcpPacket} {later : List (LcpPacket × Option Answer)}
      (received : packetAt .ipcp input = some packet) (goesOn : Converses (ppp.step input) later) :
      Converses ppp ((packet, (ppp.respond input).frames.findSome? readAnswer) :: later)

theorem Converses.of_respond {ppp : Ppp} {ipcp : IpcpServer} {packet : LcpPacket}
    {later : List (LcpPacket × Option Answer)} (phase : ppp.phase = .network)
    (running : ppp.ipcp = some ipcp) (carried : ∃ input, packetAt .ipcp input = some packet)
    (goesOn : ∀ ppp' : Ppp, ppp'.phase = .network → ppp'.ipcp = some (ipcp.receive packet) →
      ppp'.Converses later) :
    ppp.Converses ((packet, ipcp.answerTo packet) :: later) := by
  obtain ⟨input, received⟩ := carried
  obtain ⟨answered, received', phase'⟩ := respond_ipcpPacket received phase running
  rw [← answered]
  exact .turn received (goesOn _ phase' received')

/-- The driver holds the conversation of its negotiation, as long as the requests fit a frame. -/
theorem converses_converse {ppp : Ppp} {ipcp : IpcpServer} (phase : ppp.phase = .network)
    (running : ppp.ipcp = some ipcp) {opts : List ConfigOption} {identifiers : List UInt8}
    (carried : ∀ turn ∈ ipcp.converse opts identifiers,
      ∃ input, packetAt .ipcp input = some turn.1) :
    ppp.Converses (ipcp.converse opts identifiers) := by
  induction identifiers generalizing ppp ipcp opts with
  | nil => exact .silent ppp
  | cons identifier later ih =>
      unfold IpcpServer.converse at carried ⊢
      cases answered : ipcp.answerTo (requestOf identifier opts) with
      | none =>
          simp only [answered, List.forall_mem_cons] at carried ⊢
          rw [← answered]
          exact .of_respond phase running carried.1 fun ppp' phase' running' =>
            ih phase' running' carried.2
      | some answer =>
          simp only [answered, List.forall_mem_cons] at carried ⊢
          rw [← answered]
          refine .of_respond phase running carried.1 fun ppp' phase' running' => ?_
          -- After an Ack the client has no more requests.
          by_cases acked : answer.code = .configureAck
          · rw [if_pos acked]
            exact .silent ppp'
          · rw [if_neg acked] at carried ⊢
            exact ih phase' running' carried.2

namespace IpcpServer

/-! ## What a revision achieves -/

/-- A list without its rejected options is not rejected. -/
theorem rejected_filter (addrs : AssignedAddrs) (opts : List ConfigOption) :
    rejected addrs (opts.filter fun opt => opt ∉ rejected addrs opts) = [] := by
  refine rejected_eq_nil_iff.mpr fun opt member => ?_
  obtain ⟨listed, kept⟩ := List.mem_filter.mp member
  rw [Option.isSome_iff_ne_none]
  intro unassigned
  have dropped : opt ∈ rejected addrs opts :=
    List.mem_filter.mpr ⟨listed, by simp [unassigned]⟩
  simp [dropped] at kept

theorem asGranted_of_mem_proposed {addrs : AssignedAddrs} {opts : List ConfigOption}
    {opt : ConfigOption} (member : opt ∈ proposed addrs opts) : asGranted addrs opt = true := by
  obtain ⟨source, -, correction⟩ := List.mem_filterMap.mp member
  obtain ⟨addr, assigned, value⟩ := Option.bind_eq_some_iff.mp correction
  split_ifs at value
  cases value
  have same : assignedFor addrs ⟨source.optionType, addr.toList⟩ = some addr := assigned
  simp [asGranted, same]

/-- A list with the proposed options in place of its own asks for what was granted. -/
theorem asGranted_replaced {addrs : AssignedAddrs} {opts : List ConfigOption}
    (grantable : rejected addrs opts = []) {opt : ConfigOption} (member : opt ∈ opts) :
    asGranted addrs (((proposed addrs opts).find? fun nak =>
      nak.optionType = opt.optionType).getD opt) = true := by
  cases found : (proposed addrs opts).find? fun nak => nak.optionType = opt.optionType with
  | some nak => exact asGranted_of_mem_proposed (List.mem_of_find?_eq_some found)
  | none =>
      -- An option with another value would have been proposed under its own type.
      obtain ⟨addr, assigned⟩ :=
        Option.isSome_iff_exists.mp (rejected_eq_nil_iff.mp grantable opt member)
      by_cases same : opt.value = addr.toList
      · simp [asGranted, assigned, same]
      · have listed : (⟨opt.optionType, addr.toList⟩ : ConfigOption) ∈ proposed addrs opts :=
          List.mem_filterMap.mpr ⟨opt, member, by simp [corrected, assigned, same]⟩
        simpa using List.find?_eq_none.mp found _ listed

theorem leadingOptions_flatMap {opts : List ConfigOption} (sized : ∀ opt ∈ opts, opt.Sized) :
    leadingOptions (configOptions (opts.flatMap ConfigOption.encode)) = opts := by
  rw [parses_flatMap sized, leadingOptions_map_ok]

/-- After a Reject the client asks for options that fit and can be granted. -/
theorem revise_reject (addrs : AssignedAddrs) {opts : List ConfigOption}
    (sized : ∀ opt ∈ opts, opt.Sized) (identifier : UInt8) :
    let revised := revise opts
      ⟨.configureReject, identifier, (rejected addrs opts).flatMap ConfigOption.encode⟩
    (∀ opt ∈ revised, opt.Sized) ∧ rejected addrs revised = [] := by
  have listed := leadingOptions_flatMap fun opt (member : opt ∈ rejected addrs opts) =>
    sized opt (List.mem_of_mem_filter member)
  simp only [revise, listed]
  exact ⟨fun opt member => sized opt (List.mem_of_mem_filter member), rejected_filter addrs opts⟩

/-- After a Nak the client asks for what was granted. -/
theorem revise_nak {addrs : AssignedAddrs} {opts : List ConfigOption}
    (sized : ∀ opt ∈ opts, opt.Sized) (grantable : rejected addrs opts = [])
    (identifier : UInt8) :
    let revised := revise opts
      ⟨.configureNak, identifier, (proposed addrs opts).flatMap ConfigOption.encode⟩
    (∀ opt ∈ revised, opt.Sized) ∧ ∀ opt ∈ revised, asGranted addrs opt = true := by
  have listed := leadingOptions_flatMap fun opt (member : opt ∈ proposed addrs opts) =>
    sized_of_mem_proposed member
  simp only [revise, listed, List.forall_mem_map]
  refine ⟨fun opt member => ?_, fun opt member => asGranted_replaced grantable member⟩
  cases found : (proposed addrs opts).find? fun nak => nak.optionType = opt.optionType with
  | none => exact sized opt member
  | some nak => exact sized_of_mem_proposed (List.mem_of_find?_eq_some found)

/-! ## Three rounds -/

/-- A round of the conversation, with the answer worked out. -/
theorem converse_cons {ipcp : IpcpServer}
    (answers : ipcp.fsm.state.answersConfigureRequest = true) {opts : List ConfigOption}
    {code : IpcpCode} {body : Bytes}
    (answered : answer ipcp.addrs (opts.flatMap ConfigOption.encode) = (code, body))
    (identifier : UInt8) (later : List UInt8) :
    ipcp.converse opts (identifier :: later) =
      (requestOf identifier opts, some ⟨code, identifier, body⟩) ::
        if code = .configureAck then []
        else (ipcp.receive (requestOf identifier opts)).converse
          (revise opts ⟨code, identifier, body⟩) later := by
  simp only [converse, answerTo_requestOf answers, answered]

/-- A request for what was granted is acknowledged. -/
theorem exists_acknowledged_of_granted {ipcp : IpcpServer}
    (answers : ipcp.fsm.state.answersConfigureRequest = true) {opts : List ConfigOption}
    (sized : ∀ opt ∈ opts, opt.Sized) (granted : ∀ opt ∈ opts, asGranted ipcp.addrs opt = true)
    (first : UInt8) (later : List UInt8) :
    ∃ turn ∈ ipcp.converse opts (first :: later), Acknowledged turn := by
  have ack := answer_ack_iff.mpr ⟨opts, parses_flatMap sized, granted⟩
  rw [converse_cons answers (Prod.ext ack (answer_data_of_ack ack))]
  exact ⟨_, List.mem_cons_self, rfl⟩

/-- A request of nothing that has to be rejected is acknowledged in two rounds. -/
theorem exists_acknowledged_of_grantable {ipcp : IpcpServer}
    (answers : ipcp.fsm.state.answersConfigureRequest = true) {opts : List ConfigOption}
    (sized : ∀ opt ∈ opts, opt.Sized) (grantable : rejected ipcp.addrs opts = [])
    (first second : UInt8) (later : List UInt8) :
    ∃ turn ∈ ipcp.converse opts (first :: second :: later), Acknowledged turn := by
  have answered := answer_of_parses (parses_flatMap sized) ipcp.addrs
  rw [if_neg (not_not.mpr grantable)] at answered
  by_cases agreed : proposed ipcp.addrs opts = []
  · exact exists_acknowledged_of_granted answers sized ((proposed_eq_nil_iff grantable).mp agreed)
      first _
  · rw [if_pos agreed] at answered
    obtain ⟨addrs, answering⟩ := receive_requestOf answers first opts
    obtain ⟨sizedNext, granted⟩ := revise_nak sized grantable first
    rw [converse_cons answers answered, if_neg (by decide)]
    obtain ⟨turn, member, acknowledged⟩ :=
      exists_acknowledged_of_granted answering sizedNext (by rwa [addrs]) second later
    exact ⟨turn, List.mem_cons_of_mem _ member, acknowledged⟩

/-- Whatever a client asks for, the third of its requests at the latest is acknowledged. -/
theorem exists_acknowledged {ipcp : IpcpServer}
    (answers : ipcp.fsm.state.answersConfigureRequest = true) {opts : List ConfigOption}
    (sized : ∀ opt ∈ opts, opt.Sized) (first second third : UInt8) :
    ∃ turn ∈ ipcp.converse opts [first, second, third], Acknowledged turn := by
  by_cases grantable : rejected ipcp.addrs opts = []
  · exact exists_acknowledged_of_grantable answers sized grantable first second [third]
  · have answered := answer_of_parses (parses_flatMap sized) ipcp.addrs
    rw [if_pos grantable] at answered
    obtain ⟨addrs, answering⟩ := receive_requestOf answers first opts
    obtain ⟨sizedNext, grantableNext⟩ := revise_reject ipcp.addrs sized first
    rw [converse_cons answers answered, if_neg (by decide)]
    obtain ⟨turn, member, acknowledged⟩ :=
      exists_acknowledged_of_grantable answering sizedNext (by rwa [addrs]) second third []
    exact ⟨turn, List.mem_cons_of_mem _ member, acknowledged⟩

/-- The third request of a client at the latest is acknowledged, and a driver in the network
phase holds this conversation, call by call, if the requests fit a frame. -/
theorem exists_acknowledged_of_three {ipcp : IpcpServer}
    (answers : ipcp.fsm.state.answersConfigureRequest = true) {opts : List ConfigOption}
    (sized : ∀ opt ∈ opts, opt.Sized) (first second third : UInt8) :
    (∃ turn ∈ ipcp.converse opts [first, second, third], Acknowledged turn) ∧
    ∀ ppp : Ppp, ppp.phase = .network → ppp.ipcp = some ipcp →
      (∀ turn ∈ ipcp.converse opts [first, second, third],
        ∃ input, packetAt .ipcp input = some turn.1) →
      ppp.Converses (ipcp.converse opts [first, second, third]) :=
  ⟨exists_acknowledged answers sized first second third,
    fun _ phase running carried => converses_converse phase running carried⟩

/-- Two addresses, one of them of a wrong size, the mobile address, and a name server. -/
def greedyOptions : List ConfigOption :=
  [⟨3, [10, 0, 0, 9]⟩, ⟨4, [10, 0, 0, 9]⟩, ⟨3, []⟩, ⟨129, [0, 0, 0, 0]⟩]

/-- A packet of the client in a frame. -/
def frameOf (packet : LcpPacket) : Input :=
  ⟨.frame (encodeProtocolPacket ProtocolId.ipcp.asU16 packet.code packet.identifier packet.data),
    Block.zero 16⟩

/-- A driver in the network phase answers the client that asks for them, and acknowledges one of
its three requests. -/
theorem exists_acknowledged_greedyOptions :
    ∃ ipcp, (stateAfter (Block.zero 4) .pap networkRun).ipcp = some ipcp ∧
      (∃ turn ∈ ipcp.converse greedyOptions [1, 2, 3], Acknowledged turn) ∧
      (stateAfter (Block.zero 4) .pap networkRun).Converses
        (ipcp.converse greedyOptions [1, 2, 3]) := by
  obtain ⟨ipcp, running⟩ := Option.isSome_iff_exists.mp
    (show (stateAfter (Block.zero 4) .pap networkRun).ipcp.isSome = true by decide)
  have checked : (stateAfter (Block.zero 4) .pap networkRun).ipcp.all (fun ipcp =>
      ipcp.fsm.state.answersConfigureRequest ∧
        ∀ turn ∈ ipcp.converse greedyOptions [1, 2, 3],
          packetAt .ipcp (frameOf turn.1) = some turn.1) = true := by decide +kernel
  simp only [running, Option.all_some, decide_eq_true_eq] at checked
  have sized : ∀ opt ∈ greedyOptions, opt.Sized := by
    simp [greedyOptions, ConfigOption.Sized, ConfigOption.encodedLen, lcpOptHeaderLen]
  obtain ⟨acknowledged, converses⟩ := exists_acknowledged_of_three checked.1 sized 1 2 3
  exact ⟨ipcp, running, acknowledged, converses _ (by decide) running
    fun turn member => ⟨frameOf turn.1, checked.2 turn member⟩⟩

end IpcpServer

end SstpServer.Ppp
