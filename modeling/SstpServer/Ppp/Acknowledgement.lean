import SstpServer.Ppp.Lease

/-!
# Acknowledged requests

A negotiation is to open only once the peer has acknowledged the server's last
Configure-Request, with its identifier and its options.  The automaton is told of every
Configure-Ack alike, so what it opens on depends on the peer.
-/

namespace SstpServer.Ppp

open SstpServer.Wire
open SstpServer.Transition

/-! ## The automaton -/

namespace Fsm

/-- The rows that lead to an acknowledged state. -/
@[mk_iff]
structure AckSpec (source : State) (event : Event) (out : StepOut) : Prop where
  opens : source ≠ .opened → out.newState = .opened →
    (source = .ackRcvd ∨ source = .ackSent ∧ event = .rcvConfigAck) ∧
      .configureRequest ∉ out.sends
  acks : out.newState = .ackRcvd →
    (source = .ackRcvd ∨ source = .reqSent ∧ event = .rcvConfigAck) ∧
      .configureRequest ∉ out.sends

instance (source : State) (event : Event) (out : StepOut) :
    Decidable (AckSpec source event out) :=
  decidable_of_iff _ (ackSpec_iff source event out).symm

theorem ack_spec (fsm : Fsm) (event : Event) : AckSpec fsm.state event (fsm.step event).1 :=
  step_of_rows (by decide +kernel) fsm event

end Fsm

/-! ## Requests and acknowledgements -/

/-- The two negotiations. -/
inductive Layer where
  | lcp
  | ipcp
  deriving DecidableEq, Repr

def Layer.protocol : Layer → ProtocolId
  | .lcp => .lcp
  | .ipcp => .ipcp

/-- An identifier and an option list. -/
abbrev Request := UInt8 × Bytes

/-- The identifier and the data of a frame of a layer with a given code. -/
def packetWith (layer : Layer) (code : LcpCode) (frame : Bytes) : Option Request :=
  match decodeFrame frame with
  | .ok frame =>
      if frame.protocol = layer.protocol.asU16 then
        match decodeLcpPacket frame.info with
        | .ok packet =>
            if packet.code = code.asU8 then some (packet.identifier, packet.data) else none
        | .error _ => none
      else none
  | .error _ => none

/-- The Configure-Requests among some frames. -/
def requestsIn (layer : Layer) (frames : List Bytes) : List Request :=
  frames.filterMap (packetWith layer .configureRequest)

/-- The Configure-Requests that a visit sends. -/
def requestsAt (layer : Layer) (visit : Ppp × Input) : List Request :=
  requestsIn layer (visit.1.respond visit.2).frames

/-- The Configure-Ack that a visit gives to the automaton.  IPCP packets are dropped outside
the network phase. -/
def ackAt (layer : Layer) (visit : Ppp × Input) : Option Request :=
  if layer = .ipcp ∧ visit.1.phase ≠ .network then none
  else
    match visit.2.call with
    | .frame frame => packetWith layer .configureAck frame
    | _ => none

/-- The state of an automaton. -/
def stateOf (ppp : Ppp) : Layer → Option Fsm.State
  | .lcp => some ppp.lcp.fsm.state
  | .ipcp => ppp.ipcp.map fun ipcp => ipcp.fsm.state

/-- The Configure-Requests sent when the driver is opened and during some visits. -/
def requestsSent (localIp : Ipv4) (method : AuthMethod) (layer : Layer)
    (history : List (Ppp × Input)) : List Request :=
  requestsIn layer ((new localIp method).openPpp (Block.zero 16)).1.frames ++
    history.flatMap (requestsAt layer)

/-- The last Configure-Request. -/
def lastRequest (localIp : Ipv4) (method : AuthMethod) (layer : Layer)
    (history : List (Ppp × Input)) : Option Request :=
  (requestsSent localIp method layer history).getLast?

/-- A visit has acknowledged the Configure-Request that is still the last one. -/
def Acknowledged (localIp : Ipv4) (method : AuthMethod) (layer : Layer)
    (history : List (Ppp × Input)) : Prop :=
  ∃ before visit after request, history = before ++ visit :: after ∧
    lastRequest localIp method layer before = some request ∧ ackAt layer visit = some request ∧
      ∀ other ∈ visit :: after, requestsAt layer other = []

/-- A visit opens a layer. -/
def Opens (layer : Layer) (visit : Ppp × Input) : Prop :=
  visit.1.stateOf layer ≠ some .opened ∧ (visit.1.step visit.2).stateOf layer = some .opened

/-- A Configure-Ack that comes when the automaton waits for one is for the last request. -/
def AnswersLast (localIp : Ipv4) (method : AuthMethod) (layer : Layer)
    (history : List (Ppp × Input)) (visit : Ppp × Input) : Prop :=
  visit.1.stateOf layer = some .reqSent ∨ visit.1.stateOf layer = some .ackSent →
    ∀ ack, ackAt layer visit = some ack → lastRequest localIp method layer history = some ack

/-! ## Frames that are no requests -/

theorem packetWith_encodeFrame {layer : Layer} {protocol : ProtocolId}
    (other : protocol ≠ layer.protocol) (code : LcpCode) (info : Bytes) :
    packetWith layer code (encodeFrame protocol.asU16 info) = none := by
  have differs : protocol.asU16 ≠ layer.protocol.asU16 :=
    fun equal => other (ProtocolId.asU16_injective equal)
  simp [packetWith, decodeFrame_encodeFrame_asU16, differs]

theorem packetWith_encodeProtocolPacket {layer : Layer} {code : LcpCode} {written : UInt8}
    (other : written ≠ code.asU8) (protocol : ProtocolId) (identifier : UInt8) (body : Bytes) :
    packetWith layer code (encodeProtocolPacket protocol.asU16 written identifier body) = none := by
  unfold packetWith encodeProtocolPacket
  rw [decodeFrame_encodeFrame_asU16]
  dsimp only
  split_ifs with same
  · split
    · rename_i packet decoded
      have first : some written = some packet.code := head?_of_decodeLcpPacket decoded
      rw [if_neg]
      rw [← Option.some.inj first]
      exact other
    · rfl
  · rfl

theorem requestsIn_eq_nil {layer : Layer} {frames : List Bytes}
    (others : ∀ frame ∈ frames, packetWith layer .configureRequest frame = none) :
    requestsIn layer frames = [] :=
  List.filterMap_eq_nil_iff.mpr others

theorem packetWith_lcp_sentFrames {layer : Layer} {lcp : LcpServer} {send : Option Fsm.Send}
    (quiet : layer = .lcp → send ≠ some .configureRequest) {frame : Bytes}
    (member : frame ∈ lcp.sentFrames send) : packetWith layer .configureRequest frame = none := by
  rcases LcpServer.eq_encodeLcpFrame_of_mem_sentFrames member with
    ⟨code, identifier, body, rfl, asked⟩
  cases layer with
  | ipcp => exact packetWith_encodeFrame (by decide) _ _
  | lcp =>
      apply packetWith_encodeProtocolPacket
      intro same
      exact quiet rfl (asked (LcpCode.asU8_injective same))

theorem packetWith_ipcp_sentFrames {layer : Layer} {ipcp : IpcpServer} {send : Option Fsm.Send}
    (quiet : layer = .ipcp → send ≠ some .configureRequest) {frame : Bytes}
    (member : frame ∈ ipcp.sentFrames send) : packetWith layer .configureRequest frame = none := by
  rcases IpcpServer.eq_encodeIpcpFrame_of_mem_sentFrames member with
    ⟨code, identifier, body, rfl, -, asked⟩
  cases layer with
  | lcp => exact packetWith_encodeFrame (by decide) _ _
  | ipcp =>
      apply packetWith_encodeProtocolPacket
      intro same
      exact quiet rfl (asked (IpcpCode.asU8_injective same))

theorem not_mem_sends {out : Fsm.StepOut} {send : Fsm.Send} (absent : send ∉ out.sends) :
    out.send ≠ some send ∧ out.sendExtra ≠ some send := by
  constructor
  · intro sent
    exact absent (List.mem_append_left _ (Option.mem_toList.mpr sent))
  · intro sent
    exact absent (List.mem_append_right _ (Option.mem_toList.mpr sent))

theorem requestsIn_lcpMove {layer : Layer} {event : Fsm.Event} {lcp : LcpServer}
    (quiet : layer = .lcp → .configureRequest ∉ (lcp.fsm.step event).1.sends) (ppp : Ppp)
    (random : Block 16) : requestsIn layer (ppp.lcpMove event lcp random).1.frames = [] := by
  apply requestsIn_eq_nil
  intro frame member
  rw [lcpMove, renderLcpStep_frames, List.mem_append] at member
  rcases member with sent | challenge
  · rcases List.mem_append.mp sent with first | second
    · exact packetWith_lcp_sentFrames (fun lcp => (not_mem_sends (quiet lcp)).1) first
    · exact packetWith_lcp_sentFrames (fun lcp => (not_mem_sends (quiet lcp)).2) second
  · unfold challengeFrames at challenge
    split_ifs at challenge
    · rw [List.mem_singleton.mp challenge]
      exact packetWith_encodeFrame (by cases layer <;> decide) _ _
    · cases challenge

theorem requestsIn_ipcp_stepFrames {layer : Layer} {ipcp : IpcpServer} {out : Fsm.StepOut}
    (quiet : layer = .ipcp → .configureRequest ∉ out.sends) :
    requestsIn layer (ipcp.stepFrames out) = [] := by
  apply requestsIn_eq_nil
  intro frame member
  rcases List.mem_append.mp member with first | second
  · exact packetWith_ipcp_sentFrames (fun ipcp => (not_mem_sends (quiet ipcp)).1) first
  · exact packetWith_ipcp_sentFrames (fun ipcp => (not_mem_sends (quiet ipcp)).2) second

theorem packetWith_authAnswer {frame : Bytes} (answer : AuthAnswer frame) (layer : Layer)
    (code : LcpCode) : packetWith layer code frame = none := by
  cases answer <;> exact packetWith_encodeFrame (by cases layer <;> decide) _ _

theorem requestsIn_protocolReject (layer : Layer) (ppp : Ppp) (protocol : Nat) (info : Bytes) :
    requestsIn layer (ppp.protocolReject protocol info).1.frames = [] := by
  unfold protocolReject
  split
  · rfl
  · apply requestsIn_eq_nil
    intro frame member
    rw [List.mem_singleton.mp member]
    exact packetWith_encodeProtocolPacket (by decide) _ _ _

/-! ## One call -/

/-- What a call does to a layer: nothing, one step of its automaton, or a new negotiation. -/
inductive LayerTurn (layer : Layer) (ppp : Ppp) (input : Input) (result : PppStep × Ppp) :
    Prop where
  | rests (state : result.2.stateOf layer = ppp.stateOf layer)
      (quiet : requestsIn layer result.1.frames = [])
  | steps (fsm : Fsm) (event : Fsm.Event) (source : ppp.stateOf layer = some fsm.state)
      (target : result.2.stateOf layer = some (fsm.step event).1.newState)
      (quiet : .configureRequest ∉ (fsm.step event).1.sends →
        requestsIn layer result.1.frames = [])
      (ack : event = .rcvConfigAck → (ackAt layer (ppp, input)).isSome)
  | launches (target : result.2.stateOf layer = some .reqSent)

theorem LayerTurn.congr {layer : Layer} {ppp : Ppp} {input : Input} {result other : PppStep × Ppp}
    (turn : LayerTurn layer ppp input result) (state : other.2.stateOf layer = result.2.stateOf layer)
    (requests : requestsIn layer other.1.frames = requestsIn layer result.1.frames) :
    LayerTurn layer ppp input other := by
  cases turn with
  | rests same quiet => exact .rests (state.trans same) (requests.trans quiet)
  | steps fsm event source target quiet ack =>
      exact .steps fsm event source (state.trans target)
        (fun absent => requests.trans (quiet absent)) ack
  | launches target => exact .launches (state.trans target)

theorem LcpServer.code_of_eventOf {lcp : LcpServer} {packet : LcpPacket}
    (ack : (lcp.eventOf packet).1 = .rcvConfigAck) : packet.code = LcpCode.configureAck.asU8 := by
  have heard := lcp.heard_eventOf packet
  generalize lcp.eventOf packet = out at heard ack
  cases heard with
  | ack typed => exact LcpCode.fromU8_eq_some_iff.mp typed
  | request _ classified => rcases classified with rfl | rfl <;> cases ack
  | _ => cases ack

theorem IpcpServer.code_of_eventOf {ipcp : IpcpServer} {packet : LcpPacket}
    (ack : (ipcp.eventOf packet).1 = .rcvConfigAck) : packet.code = LcpCode.configureAck.asU8 := by
  have heard := ipcp.heard_eventOf packet
  generalize ipcp.eventOf packet = out at heard ack
  cases heard with
  | ack typed => exact IpcpCode.eq_asU8_of_fromU8 typed
  | request _ classified => rcases classified with rfl | rfl <;> cases ack
  | _ => cases ack

theorem isSome_ackAt {layer : Layer} {ppp : Ppp} {input : Input} {info : Bytes}
    {packet : LcpPacket} (phase : layer = .ipcp → ppp.phase = .network)
    (received : packetOf layer.protocol input = some info)
    (decoded : decodeLcpPacket info = .ok packet)
    (code : packet.code = LcpCode.configureAck.asU8) : (ackAt layer (ppp, input)).isSome := by
  rcases packetOf_eq_some_iff.mp received with ⟨payload, call, framed⟩
  have open' : ¬(layer = .ipcp ∧ ppp.phase ≠ .network) :=
    fun dropped => dropped.2 (phase dropped.1)
  rw [ackAt, if_neg open']
  simp [call, packetWith, framed, decoded, code]

theorem lcpMove_layerTurn {ppp : Ppp} {input : Input} {event : Fsm.Event} {lcp : LcpServer}
    (same : lcp.fsm = ppp.lcp.fsm)
    (ack : event = .rcvConfigAck → (ackAt .lcp (ppp, input)).isSome) (layer : Layer)
    (random : Block 16) : LayerTurn layer ppp input (ppp.lcpMove event lcp random) := by
  cases layer with
  | lcp =>
      apply LayerTurn.steps lcp.fsm event
      · rw [same]
        rfl
      · exact congrArg some (lcpMove_state ppp event lcp random)
      · intro quiet
        exact requestsIn_lcpMove (fun _ => quiet) ppp random
      · exact ack
  | ipcp =>
      apply LayerTurn.rests
      · exact congrArg (Option.map _) (lcpMove_keeps ppp event lcp random).1
      · exact requestsIn_lcpMove (by intro other; cases other) ppp random

theorem ipcpMove_layerTurn {ppp : Ppp} {input : Input} {event : Fsm.Event}
    {ipcp ipcp' : IpcpServer} (running : ppp.ipcp = some ipcp) (same : ipcp'.fsm = ipcp.fsm)
    (ack : event = .rcvConfigAck → (ackAt .ipcp (ppp, input)).isSome) (layer : Layer) :
    LayerTurn layer ppp input (ppp.ipcpMove event ipcp') := by
  have frames : (ppp.ipcpMove event ipcp').1.frames =
      (ipcp'.stepTraced event).2.stepFrames (ipcp'.stepTraced event).1 :=
    renderIpcpStep_frames _ _ _
  cases layer with
  | ipcp =>
      apply LayerTurn.steps ipcp.fsm event
      · simp [stateOf, running]
      · rw [ipcpMove_snd, ← same]
        rfl
      · intro quiet
        rw [frames]
        apply requestsIn_ipcp_stepFrames
        intro _
        rw [← same] at quiet
        exact quiet
      · exact ack
  | lcp =>
      apply LayerTurn.rests
      · rw [ipcpMove_snd]
        rfl
      · rw [frames]
        exact requestsIn_ipcp_stepFrames (by intro other; cases other)

/-- Every call is a turn of each layer. -/
theorem Move.layerTurn {ppp : Ppp} {input : Input} {result : PppStep × Ppp}
    (move : Move ppp input result) (layer : Layer) : LayerTurn layer ppp input result := by
  cases move with
  | silent => exact .rests rfl rfl
  | pap => exact .rests (by cases layer <;> rfl) rfl
  | chap => exact .rests (by cases layer <;> rfl) rfl
  | lcpPacket info packet received decoded =>
      apply lcpMove_layerTurn (ppp.lcp.eventOf_keeps packet).1
      intro ack
      exact isSome_ackAt (by intro other; cases other) received decoded
        (LcpServer.code_of_eventOf ack)
  | lcpTimer call => exact lcpMove_layerTurn rfl (by intro other; cases other) layer _
  | ipcpPacket info packet ipcp phase received decoded running =>
      apply ipcpMove_layerTurn running (ipcp.eventOf_keeps packet).1
      intro ack
      exact isSome_ackAt (fun _ => phase) received decoded (IpcpServer.code_of_eventOf ack)
  | ipcpTimer ipcp call running =>
      exact ipcpMove_layerTurn running rfl (by intro other; cases other) layer
  | protocolReject payload info protocol =>
      rcases ppp.protocolReject_snd protocol info with ⟨counter, after⟩
      apply LayerTurn.rests
      · rw [after]
        cases layer <;> rfl
      · exact requestsIn_protocolReject layer ppp protocol info
  | accept addrs frame accepted answer =>
      cases layer with
      | ipcp =>
          apply LayerTurn.launches
          rw [advanceToNetwork_snd]
          rfl
      | lcp =>
          apply LayerTurn.rests
          · rw [advanceToNetwork_snd]
            rfl
          · rw [advanceToNetwork_frames, requestsIn, List.filterMap_append,
              List.append_eq_nil_iff]
            constructor
            · simp [packetWith_authAnswer answer]
            · exact requestsIn_ipcp_stepFrames (by intro other; cases other)
  | reject frame inFlight unaccepted answer =>
      have closes : LayerTurn layer ppp input (ppp.lcpMove .adminClose ppp.lcp input.random) :=
        lcpMove_layerTurn rfl (by intro other; cases other) layer input.random
      apply closes.congr
      · rw [tearDownAfterReject_snd]
        cases layer <;> rfl
      · rw [tearDownAfterReject_frames, requestsIn, List.filterMap_append]
        simp [packetWith_authAnswer answer, requestsIn]

/-! ## Runs -/

section Runs

variable {localIp : Ipv4} {method : AuthMethod} {layer : Layer}

theorem Acknowledged.append {history : List (Ppp × Input)} {visit : Ppp × Input}
    (acknowledged : Acknowledged localIp method layer history)
    (quiet : requestsAt layer visit = []) :
    Acknowledged localIp method layer (history ++ [visit]) := by
  rcases acknowledged with ⟨before, ack, after, request, rfl, last, answered, silent⟩
  refine ⟨before, ack, after ++ [visit], request, by simp, last, answered, ?_⟩
  intro other member
  rw [← List.cons_append] at member
  rcases List.mem_append.mp member with early | now
  · exact silent other early
  · rw [List.mem_singleton.mp now]
    exact quiet

/-- A Configure-Ack for the last request acknowledges it. -/
theorem AnswersLast.acknowledged {history : List (Ppp × Input)} {visit : Ppp × Input}
    (answers : AnswersLast localIp method layer history visit)
    (waits : visit.1.stateOf layer = some .reqSent ∨ visit.1.stateOf layer = some .ackSent)
    (ack : (ackAt layer visit).isSome) (quiet : requestsAt layer visit = []) :
    Acknowledged localIp method layer (history ++ [visit]) := by
  rcases Option.isSome_iff_exists.mp ack with ⟨request, received⟩
  refine ⟨history, visit, [], request, rfl, answers waits request received, received, ?_⟩
  intro other member
  rw [List.mem_singleton.mp member]
  exact quiet

/-- A layer that has an acknowledgement has one for the last request. -/
def AckKept (localIp : Ipv4) (method : AuthMethod) (layer : Layer) (history : List (Ppp × Input))
    (ppp : Ppp) : Prop :=
  ppp.stateOf layer = some .ackRcvd → Acknowledged localIp method layer history

/-- Where the automaton goes by an acknowledgement, the last request is acknowledged. -/
theorem acknowledged_of_source {history : List (Ppp × Input)} {ppp : Ppp} {input : Input}
    {source waiting : Fsm.State} {event : Fsm.Event}
    (kept : AckKept localIp method layer history ppp)
    (answers : AnswersLast localIp method layer history (ppp, input))
    (state : ppp.stateOf layer = some source)
    (waits : waiting = .reqSent ∨ waiting = .ackSent)
    (ack : event = .rcvConfigAck → (ackAt layer (ppp, input)).isSome)
    (quiet : requestsAt layer (ppp, input) = [])
    (reached : source = .ackRcvd ∨ source = waiting ∧ event = .rcvConfigAck) :
    Acknowledged localIp method layer (history ++ [(ppp, input)]) := by
  rcases reached with rfl | ⟨rfl, acked⟩
  · exact (kept state).append quiet
  · apply answers.acknowledged _ (ack acked) quiet
    rcases waits with rfl | rfl
    · exact .inl state
    · exact .inr state

theorem AckKept.step {history : List (Ppp × Input)} {ppp : Ppp} {input : Input}
    (kept : AckKept localIp method layer history ppp)
    (answers : AnswersLast localIp method layer history (ppp, input)) :
    AckKept localIp method layer (history ++ [(ppp, input)]) (ppp.step input) := by
  intro acked
  cases (ppp.run_move input).layerTurn layer with
  | rests same quiet => exact (kept (same.symm.trans acked)).append quiet
  | steps fsm event source target quiet ack =>
      have reached := (fsm.ack_spec event).acks (Option.some.inj (target.symm.trans acked))
      exact acknowledged_of_source kept answers source (.inl rfl) ack (quiet reached.2) reached.1
  | launches target => cases target.symm.trans acked

/-- What opens a layer is an acknowledgement of the last request. -/
theorem AckKept.opens {history : List (Ppp × Input)} {ppp : Ppp} {input : Input}
    (kept : AckKept localIp method layer history ppp)
    (answers : AnswersLast localIp method layer history (ppp, input))
    (opens : Opens layer (ppp, input)) :
    Acknowledged localIp method layer (history ++ [(ppp, input)]) := by
  rcases opens with ⟨closed, opened⟩
  cases (ppp.run_move input).layerTurn layer with
  | rests same quiet => exact absurd (same.symm.trans opened) closed
  | steps fsm event source target quiet ack =>
      have before : fsm.state ≠ .opened := by
        intro same
        rw [same] at source
        exact closed source
      have reached := (fsm.ack_spec event).opens before (Option.some.inj (target.symm.trans opened))
      exact acknowledged_of_source kept answers source (.inr rfl) ack (quiet reached.2) reached.1
  | launches target => cases target.symm.trans opened

theorem stateOf_start (localIp : Ipv4) (method : AuthMethod) (layer : Layer) :
    (start localIp method).stateOf layer ≠ some .ackRcvd := by
  cases layer with
  | lcp =>
      have sent : (start localIp method).lcp.fsm.state = .reqSent := by cases method <;> rfl
      intro acked
      cases sent.symm.trans (Option.some.inj acked)
  | ipcp =>
      have down : (start localIp method).ipcp = none := by cases method <;> rfl
      intro acked
      rw [stateOf, down] at acked
      cases acked

/-- In a run in which every awaited Configure-Ack is for the last Configure-Request, a layer
opens only once its last Configure-Request has been acknowledged. -/
theorem acknowledged_of_opens {inputs : List Input}
    (answers : ∀ before visit after, visits step (start localIp method) inputs =
      before ++ visit :: after → AnswersLast localIp method layer before visit)
    {before after : List (Ppp × Input)} {visit : Ppp × Input}
    (visited : visits step (start localIp method) inputs = before ++ visit :: after)
    (opens : Opens layer visit) : Acknowledged localIp method layer (before ++ [visit]) := by
  have answersVisit := answers before visit after visited
  rcases exists_of_visits_eq visited with ⟨early, late, rfl, rfl, reached⟩
  have kept : AckKept localIp method layer (visits step (start localIp method) early)
      (finalState step (start localIp method) early) := by
    apply visits_finalState_of_guarded
      (fun _ _ _ kept answers => AckKept.step kept answers)
    · intro acked
      exact absurd acked (stateOf_start localIp method layer)
    · intro before other between split
      have earlier : visits step (start localIp method) early = before ++ other :: between := split
      apply answers before other (between ++ visit :: after)
      rw [visited, earlier, List.append_assoc, List.cons_append]
  rw [reached] at kept
  exact kept.opens answersVisit opens

end Runs

/-! ## Runs of a peer -/

theorem AnswersLast.of_ackAt {localIp : Ipv4} {method : AuthMethod} {layer : Layer}
    {history : List (Ppp × Input)} {visit : Ppp × Input}
    (answers : ackAt layer visit = none ∨ ackAt layer visit = lastRequest localIp method layer history) :
    AnswersLast localIp method layer history visit := by
  intro _ ack received
  rcases answers with none | last
  · cases none.symm.trans received
  · exact last.symm.trans received

/-- An acknowledged request is among those sent, and its acknowledgement among those
received. -/
theorem Acknowledged.exists_mem {localIp : Ipv4} {method : AuthMethod} {layer : Layer}
    {history : List (Ppp × Input)} (acknowledged : Acknowledged localIp method layer history) :
    ∃ visit ∈ history, ∃ request ∈ requestsSent localIp method layer history,
      ackAt layer visit = some request := by
  rcases acknowledged with ⟨before, visit, after, request, rfl, last, answered, _⟩
  refine ⟨visit, by simp, request, ?_, answered⟩
  have sent := List.mem_of_getLast? last
  rw [requestsSent, List.flatMap_append, ← List.append_assoc]
  exact List.mem_append_left _ sent

theorem forall_split_of_forall_index {α : Type} {items : List α} {property : List α → α → Prop}
    (holds : ∀ index, (inside : index < items.length) →
      property (items.take index) (items.get ⟨index, inside⟩)) :
    ∀ before item after, items = before ++ item :: after → property before item := by
  rintro before item after rfl
  have here := holds before.length (by simp)
  simpa using here

/-- An Ack for the first Configure-Request of LCP, with its options. -/
def properConfigureAck : Input :=
  ⟨.frame ([0xFF, 0x03, 0xC0, 0x21, 0x02, 0x01, 0x00, 0x08] ++
    (LcpServer.new .pap).writeOwnCrOptions), Block.zero 16⟩

/-- An LCP negotiation in which the peer acknowledges what it was sent. -/
def acknowledgedRun : List Input :=
  [properConfigureAck, peerConfigureRequest]

theorem acknowledged_acknowledgedRun :
    Opens .lcp (stateAfter (Block.zero 4) .pap [properConfigureAck], peerConfigureRequest) ∧
      Acknowledged (Block.zero 4) .pap .lcp
        (visits step (start (Block.zero 4) .pap) acknowledgedRun) := by
  have opens : Opens .lcp
      (stateAfter (Block.zero 4) .pap [properConfigureAck], peerConfigureRequest) := by
    constructor
    · decide +kernel
    · decide +kernel
  have answers : ∀ before visit after,
      visits step (start (Block.zero 4) .pap) acknowledgedRun = before ++ visit :: after →
        AnswersLast (Block.zero 4) .pap .lcp before visit := by
    apply forall_split_of_forall_index
    intro index inside
    apply AnswersLast.of_ackAt
    revert index
    decide +kernel
  have visited : visits step (start (Block.zero 4) .pap) acknowledgedRun =
      [(start (Block.zero 4) .pap, properConfigureAck)] ++
        (stateAfter (Block.zero 4) .pap [properConfigureAck], peerConfigureRequest) :: [] := rfl
  exact ⟨opens, acknowledged_of_opens answers visited opens⟩

/-- An Ack without the options of the request opens LCP as well. -/
theorem not_acknowledged_peerConfigureAck :
    Opens .lcp (stateAfter (Block.zero 4) .pap [peerConfigureAck], peerConfigureRequest) ∧
      ¬Acknowledged (Block.zero 4) .pap .lcp
        (visits step (start (Block.zero 4) .pap) [peerConfigureAck, peerConfigureRequest]) := by
  refine ⟨⟨by decide +kernel, by decide +kernel⟩, ?_⟩
  intro acknowledged
  rcases acknowledged.exists_mem with ⟨visit, visited, request, sent, answered⟩
  revert visit request
  decide +kernel

end SstpServer.Ppp
