import SstpServer.Ppp.Calls

/-!
# Which credentials the driver hands up

A credential event is raised for an inbound PAP or CHAP packet.  The PAP handler
does not look at the configured method, and the CHAP handler looks neither at the
packet's code beyond what the decoder admits nor at its identifier.  The results
state exactly for which calls the event is the one of the configured method, and
for which it answers the last challenge sent.
-/

namespace SstpServer.Ppp

open SstpServer.Wire
open SstpServer.Transition

/-- The method whose credentials an event carries. -/
def PppEvent.credentialMethod : PppEvent → Option AuthMethod
  | .needPapAuth _ _ => some .pap
  | .needChapAuth _ _ _ _ => some .chapMd5
  | .needMsChapV2Auth _ _ _ _ _ _ => some .msChapV2
  | .networkUp _ => none

/-- A step of the driver raises no credentials, or the event that carries them. -/
theorem PppStep.plain_or_credential (step : PppStep) :
    (∀ event, step.event = some event → event.credentialMethod = none) ∨
      ∃ event used, step.event = some event ∧ event.credentialMethod = some used := by
  refine or_iff_not_imp_left.mpr fun carries => ?_
  push Not at carries
  obtain ⟨event, raised, credential⟩ := carries
  obtain ⟨used, credential⟩ := Option.ne_none_iff_exists'.mp credential
  exact ⟨event, used, raised, credential⟩

/-- A well-formed PAP Authenticate-Request while authentication is open. -/
def PapRequested (ppp : Ppp) (input : Input) : Prop :=
  ppp.phase.isAuth = true ∧
    ∃ info request, packetOf .pap input = some info ∧
      Pap.decodeAuthenticateRequest info = .ok request

/-- A PAP request during authentication is handed up, whatever the method. -/
theorem respond_event_of_papRequested {ppp : Ppp} {input : Input}
    (requested : PapRequested ppp input) :
    ∃ peerId password, (ppp.respond input).event = some (.needPapAuth peerId password) := by
  obtain ⟨phase, info, request, received, decoded⟩ := requested
  obtain ⟨payload, call, framed⟩ := packetOf_eq_some_iff.mp received
  refine ⟨request.peerId, request.password, ?_⟩
  have known : ProtocolId.fromU16 ProtocolId.pap.asU16 = some .pap :=
    ProtocolId.fromU16_asU16 .pap
  cases current : ppp.phase <;>
    simp_all [respond, run, onFrame, handlePap, Phase.isAuth]

/-- The packets that raise an event. -/
inductive Raised (ppp : Ppp) (input : Input) : PppEvent → Prop where
  | pap (request : Pap.AuthenticateRequest) (requested : PapRequested ppp input) :
      Raised ppp input (.needPapAuth request.peerId request.password)
  | chap (info : Bytes) (response : Chap.ChallengeResponse) (challenge : Block 16)
      (event : PppEvent) (method : InFlightMethod)
      (phase : ppp.phase.isAuth = true) (received : packetOf .chap input = some info)
      (decoded : Chap.decodeChallengeResponse info = .ok response)
      (sent : ppp.chapChallenge = some challenge)
      (handed : ChapEvent ppp.lcp.authMethod response challenge event method) :
      Raised ppp input event
  | network (addrs : AssignedAddrs) : Raised ppp input (.networkUp addrs)

theorem ipcpMove_raised {ppp : Ppp} {fsmEvent : Fsm.Event} {ipcp : IpcpServer}
    (input : Input) {event : PppEvent}
    (raised : (ppp.ipcpMove fsmEvent ipcp).1.event = some event) :
    Raised ppp input event := by
  simp only [ipcpMove, renderIpcpStep_event] at raised
  split_ifs at raised
  obtain ⟨addrs, _, rfl⟩ := Option.map_eq_some_iff.mp raised
  exact .network addrs

/-- The calls that raise an event, with what comes of them. -/
inductive Raising (ppp : Ppp) (input : Input) (event : PppEvent) : PppStep × Ppp → Prop where
  | pap (info : Bytes) (request : Pap.AuthenticateRequest)
      (phase : ppp.phase.isAuth = true) (received : packetOf .pap input = some info)
      (decoded : Pap.decodeAuthenticateRequest info = .ok request)
      (isEvent : event = .needPapAuth request.peerId request.password) :
      Raising ppp input event
        ({ event := some event }, { ppp with phase := .authInFlight (.pap request.identifier) })
  | chap (info : Bytes) (response : Chap.ChallengeResponse) (challenge : Block 16)
      (method : InFlightMethod)
      (phase : ppp.phase.isAuth = true) (received : packetOf .chap input = some info)
      (decoded : Chap.decodeChallengeResponse info = .ok response)
      (sent : ppp.chapChallenge = some challenge)
      (handed : ChapEvent ppp.lcp.authMethod response challenge event method) :
      Raising ppp input event ({ event := some event }, { ppp with phase := .authInFlight method })
  | ipcp (fsmEvent : Fsm.Event) (ipcp : IpcpServer) :
      Raising ppp input event (ppp.ipcpMove fsmEvent ipcp)

theorem Move.raising {ppp : Ppp} {input : Input} {result : PppStep × Ppp}
    (move : Move ppp input result) {event : PppEvent}
    (raised : result.1.event = some event) : Raising ppp input event result := by
  cases move with
  | pap info request phase received decoded =>
      cases raised
      exact .pap info request phase received decoded rfl
  | chap info response challenge event method phase received decoded sent handed =>
      cases raised
      exact .chap info response challenge method phase received decoded sent handed
  | ipcpPacket info packet ipcp => exact .ipcp _ _
  | ipcpTimer ipcp => exact .ipcp _ _
  | protocolReject payload info protocol =>
      rw [protocolReject_event] at raised
      cases raised
  | accept addrs frame =>
      rw [advanceToNetwork_event] at raised
      cases raised
  | lcpPacket info packet => simp at raised
  | lcpTimer => simp at raised
  | silent => cases raised
  | reject frame => cases raised

/-- Every event has a packet that raises it. -/
theorem Move.raised {ppp : Ppp} {input : Input} {result : PppStep × Ppp}
    (move : Move ppp input result) {event : PppEvent}
    (raised : result.1.event = some event) : Raised ppp input event := by
  cases move.raising raised with
  | pap info request phase received decoded isEvent =>
      subst isEvent
      exact .pap request ⟨phase, info, request, received, decoded⟩
  | chap info response challenge method phase received decoded sent handed =>
      exact .chap info response challenge event method phase received decoded sent handed
  | ipcp fsmEvent ipcp => exact ipcpMove_raised input raised

/-- The method of a credential event: the configured one, or PAP for a PAP
request. -/
theorem Raised.credentialMethod {ppp : Ppp} {input : Input} {event : PppEvent}
    (raised : Raised ppp input event) {used : AuthMethod}
    (credential : event.credentialMethod = some used) :
    used = ppp.lcp.authMethod ∨ used = .pap ∧ PapRequested ppp input := by
  cases raised with
  | pap request requested =>
      cases credential
      exact Or.inr ⟨rfl, requested⟩
  | chap info response challenge event method phase received decoded sent handed =>
      cases handed with
      | md5 configured =>
          cases credential
          exact Or.inl configured.symm
      | msChapV2 configured =>
          cases credential
          exact Or.inl configured.symm
  | network addrs => cases credential

/-! ## The verdict on credentials -/

/-- The method of an exchange in flight. -/
def InFlightMethod.authMethod : InFlightMethod → AuthMethod
  | .pap _ => .pap
  | .chap _ => .chapMd5
  | .msChapV2 _ => .msChapV2

/-- A call that hands credentials up does nothing else, and puts their exchange in
flight. -/
theorem Move.credential {ppp : Ppp} {input : Input} {result : PppStep × Ppp}
    (move : Move ppp input result) {event : PppEvent} {used : AuthMethod}
    (raised : result.1.event = some event) (credential : event.credentialMethod = some used) :
    result.1 = { event := some event } ∧
      ∃ inFlight, result.2.phase = .authInFlight inFlight ∧ inFlight.authMethod = used := by
  have notNetwork : ∀ addrs, event ≠ .networkUp addrs := by
    rintro addrs rfl
    cases credential
  cases move.raising raised with
  | pap info request phase received decoded isEvent =>
      subst isEvent
      exact ⟨rfl, _, rfl, Option.some.inj credential⟩
  | chap info response challenge method phase received decoded sent handed =>
      refine ⟨rfl, _, rfl, ?_⟩
      cases handed <;> exact Option.some.inj credential
  | ipcp fsmEvent ipcp =>
      simp only [Ppp.ipcpMove, renderIpcpStep_event] at raised
      split_ifs at raised
      obtain ⟨addrs, _, announces⟩ := Option.map_eq_some_iff.mp raised
      exact (notNetwork addrs announces.symm).elim

/-- A step that starts with the answer to an authentication exchange. -/
def StartsWithAnswer (step : PppStep) : Prop :=
  ∃ frame rest, step.frames = frame :: rest ∧ AuthAnswer frame ∧ step.event = none

theorem advanceToNetwork_startsWithAnswer (ppp : Ppp) {frame : Bytes} (answer : AuthAnswer frame)
    (addrs : AssignedAddrs) :
    StartsWithAnswer (ppp.advanceToNetwork { frames := [frame] } addrs).1 :=
  ⟨frame, _, advanceToNetwork_frames ppp [frame] addrs, answer,
    advanceToNetwork_event ppp [frame] addrs⟩

theorem tearDownAfterReject_startsWithAnswer (ppp : Ppp) {frame : Bytes}
    (answer : AuthAnswer frame) (random : Block 16) :
    StartsWithAnswer (ppp.tearDownAfterReject { frames := [frame] } random).1 :=
  ⟨frame, _, tearDownAfterReject_frames ppp { frames := [frame] } random, answer, rfl⟩

/-- Every verdict on a PAP or CHAP exchange is answered. -/
theorem onAuthResult_startsWithAnswer {ppp : Ppp} {inFlight : InFlightMethod}
    (phase : ppp.phase = .authInFlight inFlight) (other : inFlight.authMethod ≠ .msChapV2)
    (verdict : AuthVerdict) (random : Block 16) :
    StartsWithAnswer (ppp.onAuthResult verdict random).1 := by
  unfold onAuthResult
  rw [phase]
  cases inFlight with
  | pap identifier =>
      cases verdict with
      | accept addrs => exact advanceToNetwork_startsWithAnswer ppp (.pap _ _ [] (by simp)) addrs
      | reject message =>
          exact tearDownAfterReject_startsWithAnswer ppp (.pap _ _ _ (by simp)) random
  | chap identifier =>
      cases verdict with
      | accept addrs =>
          exact advanceToNetwork_startsWithAnswer ppp (.chap _ _ [] (.inl rfl) (by simp)) addrs
      | reject message =>
          exact tearDownAfterReject_startsWithAnswer ppp (.chap _ _ _ (.inr rfl) (by simp)) random
  | msChapV2 identifier => exact (other rfl).elim

/-- Every verdict on an MS-CHAPv2 exchange is answered. -/
theorem onMschapResult_startsWithAnswer {ppp : Ppp} {inFlight : InFlightMethod}
    (phase : ppp.phase = .authInFlight inFlight) (method : inFlight.authMethod = .msChapV2)
    (verdict : AuthVerdict) (authResponse errorString : Option Bytes) (random : Block 16) :
    StartsWithAnswer (ppp.onMschapResult verdict authResponse errorString random).1 := by
  cases inFlight with
  | pap identifier => cases method
  | chap identifier => cases method
  | msChapV2 identifier =>
      unfold onMschapResult
      rw [phase]
      cases verdict with
      | accept addrs =>
          exact advanceToNetwork_startsWithAnswer ppp (.chap _ _ _ (.inl rfl) (by simp)) addrs
      | reject message =>
          exact tearDownAfterReject_startsWithAnswer ppp (.chap _ _ _ (.inr rfl) (by simp)) random

/-! ## The configured method -/

theorem stateAfter_authMethod (localIp : Ipv4) (method : AuthMethod)
    (inputs : List Input) : (stateAfter localIp method inputs).lcp.authMethod = method := by
  have keeps : ∀ ppp input, ppp.lcp.authMethod = method →
      (step ppp input).lcp.authMethod = method :=
    fun ppp input same => (step_authMethod ppp input).trans same
  have invariant := finalState_invariant keeps (rfl : (start localIp method).lcp.authMethod = _)
  exact invariant inputs

/-- A step raises no credential event of another method. -/
def RaisesOnly (method : AuthMethod) (out : PppStep) : Prop :=
  ∀ event used, out.event = some event → event.credentialMethod = some used →
    used = method

/-- After every run, the next call raises only credentials of the configured
method, unless the method is not PAP and the call is a PAP request during
authentication. -/
theorem raisesOnly_iff (localIp : Ipv4) (method : AuthMethod) (before : List Input)
    (input : Input) :
    RaisesOnly method ((stateAfter localIp method before).respond input) ↔
      method = .pap ∨ ¬PapRequested (stateAfter localIp method before) input := by
  constructor
  · intro only
    by_cases requested : PapRequested (stateAfter localIp method before) input
    · obtain ⟨peerId, password, raised⟩ := respond_event_of_papRequested requested
      exact Or.inl (only _ .pap raised rfl).symm
    · exact Or.inr requested
  · intro condition event used raised credential
    have origin := Move.raised (run_move _ input) raised
    rcases origin.credentialMethod credential with same | ⟨rfl, requested⟩
    · exact same.trans (stateAfter_authMethod localIp method before)
    · rcases condition with rfl | unrequested
      · rfl
      · exact absurd requested unrequested

/-! ## A PAP request under CHAP -/

/-- A Configure-Ack from the peer. -/
def peerConfigureAck : Input :=
  ⟨.frame [0xFF, 0x03, 0xC0, 0x21, 0x02, 0x01, 0x00, 0x04], Block.zero 16⟩

/-- A Configure-Request without options from the peer. -/
def peerConfigureRequest : Input :=
  ⟨.frame [0xFF, 0x03, 0xC0, 0x21, 0x01, 0x01, 0x00, 0x04], Block.zero 16⟩

/-- A PAP Authenticate-Request with one-byte credentials. -/
def peerPapRequest : Input :=
  ⟨.frame [0xFF, 0x03, 0xC0, 0x23, 0x01, 0x07, 0x00, 0x08, 0x01, 0x75, 0x01, 0x70],
    Block.zero 16⟩

/-- Under CHAP, once LCP is open, a PAP request is handed up. -/
theorem not_raisesOnly_chapMd5 :
    ¬RaisesOnly .chapMd5
      ((stateAfter (Block.zero 4) .chapMd5 [peerConfigureAck, peerConfigureRequest]).respond
        peerPapRequest) := by
  intro only
  have raised : ((stateAfter (Block.zero 4) .chapMd5
      [peerConfigureAck, peerConfigureRequest]).respond peerPapRequest).event =
        some (.needPapAuth [0x75] [0x70]) := by
    decide
  exact absurd (only _ .pap raised rfl) (by decide)

/-! ## Challenges sent so far -/

/-- The identifier and value of a frame that is a CHAP Challenge. -/
def challengeOf (frame : Bytes) : Option (UInt8 × Bytes) :=
  match decodeFrame frame with
  | .ok ⟨protocol, info⟩ =>
      if protocol = ProtocolId.chap.asU16 ∧ info.head? = some Chap.Code.challenge.asU8 then
        match Chap.decodeChallengeResponse info with
        | .ok packet => some (packet.identifier, packet.value)
        | .error _ => none
      else
        none
  | .error _ => none

/-- The last challenge among the frames sent. -/
def lastChallenge (frames : List Bytes) : Option (UInt8 × Bytes) :=
  (frames.filterMap challengeOf).getLast?

/-- The frames of the opening call and of the visits of a run, in order. -/
def framesOf (localIp : Ipv4) (method : AuthMethod) (history : List (Ppp × Input)) :
    List Bytes :=
  ((new localIp method).openPpp (Block.zero 16)).1.frames ++
    history.flatMap fun visit => (visit.1.respond visit.2).frames

/-- Every frame sent up to the end of a run. -/
def framesSent (localIp : Ipv4) (method : AuthMethod) (inputs : List Input) : List Bytes :=
  framesOf localIp method (visits step (start localIp method) inputs)

theorem challengeOf_encodeFrame {protocol : ProtocolId} (other : protocol ≠ .chap)
    (info : Bytes) : challengeOf (encodeFrame protocol.asU16 info) = none := by
  have differs : protocol.asU16 ≠ ProtocolId.chap.asU16 :=
    fun equal => other (ProtocolId.asU16_injective equal)
  simp [challengeOf, differs]

theorem challengeOf_encodeChapChallenge (identifier : UInt8) (challenge : Block 16) :
    challengeOf (encodeChapChallenge identifier challenge) =
      some (identifier, challenge.toList) := by
  have decoded := Chap.decodeChallengeResponse_encodeChallengeResponse
    (Or.inl rfl : Chap.Code.challenge = .challenge ∨ _) identifier challenge.toList
    chapServerName (by simp) (by simp [chapServerName])
  have code : (Chap.encodeChallengeResponse .challenge identifier challenge.toList
      chapServerName).head? = some Chap.Code.challenge.asU8 := rfl
  simp [challengeOf, encodeChapChallenge, encodeChapFrame, decoded, code]

theorem challengeOf_authAnswer {frame : Bytes} (answer : AuthAnswer frame) :
    challengeOf frame = none := by
  cases answer with
  | pap code identifier message => exact challengeOf_encodeFrame (by decide) _
  | chap code identifier message terminal =>
      have notChallenge : code.asU8 ≠ Chap.Code.challenge.asU8 := by
        rcases terminal with rfl | rfl <;> decide
      simp [challengeOf, encodeChapTerminal, encodeChapFrame, Chap.encodeTerminal, notChallenge]

theorem filterMap_challengeOf_lcp (lcp : LcpServer) (step : Fsm.StepOut) :
    (lcp.stepFrames step).filterMap challengeOf = [] := by
  rw [List.filterMap_eq_nil_iff]
  intro frame member
  obtain ⟨code, identifier, body, rfl⟩ := LcpServer.eq_encodeLcpFrame_of_mem_stepFrames member
  exact challengeOf_encodeFrame (by decide) _

theorem filterMap_challengeOf_ipcp (ipcp : IpcpServer) (step : Fsm.StepOut) :
    (ipcp.stepFrames step).filterMap challengeOf = [] := by
  rw [List.filterMap_eq_nil_iff]
  intro frame member
  obtain ⟨code, identifier, body, rfl, _⟩ :=
    IpcpServer.eq_encodeIpcpFrame_of_mem_stepFrames member
  exact challengeOf_encodeFrame (by decide) _

theorem filterMap_challengeOf_protocolReject (ppp : Ppp) (protocol : Nat) (info : Bytes) :
    (ppp.protocolReject protocol info).1.frames.filterMap challengeOf = [] := by
  unfold protocolReject
  split
  · rfl
  · have other := challengeOf_encodeFrame (by decide : ProtocolId.lcp ≠ .chap)
    simp [PppStep.pushFrame, encodeLcpFrame, encodeProtocolPacket, other]

/-- A call sends no challenge, or it sends one under the next identifier and
remembers it. -/
structure ChallengeStep (ppp : Ppp) (frames : List Bytes) (next : Ppp) : Prop where
  sent : frames.filterMap challengeOf = [] ∧ next.chapChallenge = ppp.chapChallenge ∧
      next.chapIdCounter = ppp.chapIdCounter ∨
    ∃ challenge : Block 16,
      frames.filterMap challengeOf = [(ppp.chapIdCounter, challenge.toList)] ∧
      next.chapChallenge = some challenge ∧ next.chapIdCounter = ppp.chapIdCounter + 1
  entered : next.phase.isAuth = true → ppp.phase.isAuth = true ∨
    ppp.lcp.authMethod = .pap ∨ next.chapChallenge.isSome = true

theorem lcpMove_challengeStep (ppp : Ppp) (event : Fsm.Event) {lcp : LcpServer}
    (sameMethod : lcp.authMethod = ppp.lcp.authMethod) (random : Block 16) :
    ChallengeStep ppp (ppp.lcpMove event lcp random).1.frames
      (ppp.lcpMove event lcp random).2 := by
  simp only [lcpMove, renderLcpStep_snd, renderLcpStep_frames, challengeFrames]
  split_ifs with finished enters challenges <;> constructor <;>
    simp_all [filterMap_challengeOf_lcp, challengeOf_encodeChapChallenge, Phase.isAuth,
      Challenges, LcpServer.stepTraced]

theorem Move.challengeStep {ppp : Ppp} {input : Input} {result : PppStep × Ppp}
    (move : Move ppp input result) :
    ChallengeStep ppp result.1.frames result.2 := by
  cases move with
  | lcpPacket info packet =>
      exact lcpMove_challengeStep ppp _ (ppp.lcp.eventOf_keeps packet).2.2 _
  | lcpTimer => exact lcpMove_challengeStep ppp _ rfl _
  | ipcpPacket info packet ipcp =>
      rw [ipcpMove_snd, ipcpMove, renderIpcpStep_frames]
      exact ⟨Or.inl ⟨filterMap_challengeOf_ipcp _ _, rfl, rfl⟩, Or.inl⟩
  | ipcpTimer ipcp =>
      rw [ipcpMove_snd, ipcpMove, renderIpcpStep_frames]
      exact ⟨Or.inl ⟨filterMap_challengeOf_ipcp _ _, rfl, rfl⟩, Or.inl⟩
  | protocolReject payload info protocol =>
      obtain ⟨counter, after⟩ := ppp.protocolReject_snd protocol info
      rw [after]
      exact ⟨Or.inl ⟨filterMap_challengeOf_protocolReject _ _ _, rfl, rfl⟩, Or.inl⟩
  | accept addrs frame accepted answer =>
      rw [advanceToNetwork_snd, advanceToNetwork_frames]
      refine ⟨Or.inl ⟨?_, rfl, rfl⟩, by simp [Phase.isAuth]⟩
      simp [challengeOf_authAnswer answer, filterMap_challengeOf_ipcp]
  | reject frame inFlight unaccepted answer =>
      have closed := lcpMove_challengeStep ppp .adminClose rfl input.random
      rw [tearDownAfterReject_snd, tearDownAfterReject_frames]
      refine ⟨?_, by simp [Phase.isAuth]⟩
      simpa [challengeOf_authAnswer answer] using closed.sent
  | pap info request phase => exact ⟨Or.inl ⟨rfl, rfl, rfl⟩, fun _ => Or.inl phase⟩
  | chap info response challenge event method phase =>
      exact ⟨Or.inl ⟨rfl, rfl, rfl⟩, fun _ => Or.inl phase⟩
  | silent => exact ⟨Or.inl ⟨rfl, rfl, rfl⟩, Or.inl⟩

/-- The driver remembers the last challenge it sent, under the identifier before
its counter, and has one whenever it awaits a response. -/
structure RemembersChallenge (sent : List Bytes) (ppp : Ppp) : Prop where
  last : lastChallenge sent =
    ppp.chapChallenge.map fun challenge => (ppp.chapIdCounter - 1, challenge.toList)
  pending : ppp.phase.isAuth = true →
    ppp.lcp.authMethod = .pap ∨ ppp.chapChallenge.isSome = true

/-- One call keeps the memory of the last challenge. -/
theorem RemembersChallenge.step {sent : List Bytes} {ppp : Ppp}
    (remembers : RemembersChallenge sent ppp) (input : Input) :
    RemembersChallenge (sent ++ (ppp.respond input).frames) (ppp.step input) := by
  have challenged := (ppp.run_move input).challengeStep
  have method := step_authMethod ppp input
  have lastAppend : lastChallenge (sent ++ (ppp.respond input).frames) =
      (((ppp.respond input).frames.filterMap challengeOf).getLast?).or
        (lastChallenge sent) := by
    simp [lastChallenge, List.getLast?_append]
  change ChallengeStep ppp (ppp.respond input).frames (ppp.step input) at challenged
  rcases challenged.sent with ⟨none, same, counter⟩ | ⟨challenge, one, now, counter⟩
  · refine ⟨by rw [lastAppend, none, same, counter]; exact remembers.last, fun auth => ?_⟩
    rw [method]
    rcases challenged.entered auth with before | pap | some
    · exact (remembers.pending before).imp_right (same ▸ ·)
    · exact Or.inl pap
    · exact Or.inr some
  · refine ⟨?_, fun _ => Or.inr (by rw [now]; rfl)⟩
    rw [lastAppend, one, now, counter]
    simp

/-- After every run the driver remembers the last challenge it sent. -/
theorem remembersChallenge_stateAfter (localIp : Ipv4) (method : AuthMethod)
    (inputs : List Input) :
    RemembersChallenge (framesSent localIp method inputs)
      (stateAfter localIp method inputs) := by
  have keeps : ∀ (history : List (Ppp × Input)) ppp input,
      RemembersChallenge (framesOf localIp method history) ppp →
      RemembersChallenge (framesOf localIp method (history ++ [(ppp, input)]))
        (step ppp input) := by
    intro history ppp input remembers
    simpa [framesOf] using remembers.step input
  have initially : RemembersChallenge (framesOf localIp method []) (start localIp method) := by
    have phase : (start localIp method).phase = .establish := by
      cases method <;> rfl
    refine ⟨?_, fun auth => by simp [phase, Phase.isAuth] at auth⟩
    cases method <;> rfl
  have invariant := visits_finalState_induction keeps initially
  exact invariant inputs

/-! ## Responses to the last challenge -/

/-- The challenge a CHAP credential event hands up. -/
def PppEvent.challenge : PppEvent → Option (Block 16)
  | .needChapAuth _ _ challenge _ => some challenge
  | .needMsChapV2Auth _ _ challenge _ _ _ => some challenge
  | _ => none

/-- A CHAP event is raised only for a Response that carries the identifier of the
last challenge, and it hands that challenge up. -/
def AnswersLastChallenge (sent : List Bytes) (input : Input) (out : PppStep) : Prop :=
  ∀ event challenge, out.event = some event → event.challenge = some challenge →
    ∃ identifier rest,
      packetOf .chap input = some (Chap.Code.response.asU8 :: identifier :: rest) ∧
      lastChallenge sent = some (identifier, challenge.toList)

/-- Response values the CHAP handler takes under a method. -/
def AcceptableValue (method : AuthMethod) (value : Bytes) : Prop :=
  match method with
  | .pap => False
  | .chapMd5 => value.length = 16
  | .msChapV2 => value.length = 49 ∧ ∀ byte ∈ slice value 16 24, byte = 0

/-- An acceptable CHAP packet during authentication. -/
structure ChapAnswered (ppp : Ppp) (input : Input) (info : Bytes)
    (response : Chap.ChallengeResponse) : Prop where
  phase : ppp.phase.isAuth = true
  received : packetOf .chap input = some info
  decoded : Chap.decodeChallengeResponse info = .ok response
  acceptable : AcceptableValue ppp.lcp.authMethod response.value

/-- An acceptable CHAP packet is handed up with the remembered challenge. -/
theorem ChapAnswered.event {ppp : Ppp} {input : Input} {info : Bytes}
    {response : Chap.ChallengeResponse} (answered : ChapAnswered ppp input info response)
    {challenge : Block 16} (sent : ppp.chapChallenge = some challenge) :
    ∃ event, (ppp.respond input).event = some event ∧ event.challenge = some challenge := by
  obtain ⟨phase, received, decoded, acceptable⟩ := answered
  obtain ⟨payload, call, framed⟩ := packetOf_eq_some_iff.mp received
  have handled : ppp.respond input = (ppp.handleChap info).1 := by
    have known : ProtocolId.fromU16 ProtocolId.chap.asU16 = some .chap :=
      ProtocolId.fromU16_asU16 .chap
    cases current : ppp.phase <;> simp_all [respond, run, onFrame, Phase.isAuth]
  rw [handled]
  cases method : ppp.lcp.authMethod with
  | pap => simp [AcceptableValue, method] at acceptable
  | chapMd5 =>
      simp only [AcceptableValue, method] at acceptable
      simp [handleChap, decoded, method, acceptable, sent, PppEvent.challenge]
  | msChapV2 =>
      simp only [AcceptableValue, method] at acceptable
      have reserved : ¬∃ byte, byte ∈ slice response.value 16 24 ∧ ¬byte = 0 := by
        simpa using acceptable.2
      simp [handleChap, decoded, method, acceptable.1, reserved, sent, PppEvent.challenge]

/-- A CHAP event comes from an acceptable CHAP packet. -/
theorem Raised.chapAnswered {ppp : Ppp} {input : Input} {event : PppEvent}
    (raised : Raised ppp input event) {challenge : Block 16}
    (handedUp : event.challenge = some challenge) :
    ppp.chapChallenge = some challenge ∧
      ∃ info response, ChapAnswered ppp input info response := by
  cases raised with
  | chap info response sentChallenge event method phase received decoded sent handed =>
      cases handed with
      | md5 configured sized =>
          cases handedUp
          refine ⟨sent, info, response, phase, received, decoded, ?_⟩
          rw [configured]
          exact sized
      | msChapV2 configured sized reserved =>
          cases handedUp
          refine ⟨sent, info, response, phase, received, decoded, ?_⟩
          rw [configured]
          exact ⟨sized, reserved⟩
  | pap request => cases handedUp
  | network addrs => cases handedUp

/-- After every run, the next call raises a CHAP event only for a Response to the
last challenge, exactly when every acceptable CHAP packet during authentication
has the Response code and the identifier issued last. -/
theorem answersLastChallenge_iff (localIp : Ipv4) (method : AuthMethod)
    (before : List Input) (input : Input) :
    AnswersLastChallenge (framesSent localIp method before) input
        ((stateAfter localIp method before).respond input) ↔
      ∀ info response,
        ChapAnswered (stateAfter localIp method before) input info response →
        info.head? = some Chap.Code.response.asU8 ∧
          response.identifier = (stateAfter localIp method before).chapIdCounter - 1 := by
  have remembers := remembersChallenge_stateAfter localIp method before
  constructor
  · intro answers info response answered
    obtain ⟨challenge, sent⟩ : ∃ challenge,
        (stateAfter localIp method before).chapChallenge = some challenge := by
      rcases remembers.pending answered.phase with pap | some
      · have acceptable := answered.acceptable
        rw [pap] at acceptable
        exact acceptable.elim
      · exact Option.isSome_iff_exists.mp some
    obtain ⟨event, raised, handedUp⟩ := answered.event sent
    obtain ⟨identifier, rest, received, last⟩ := answers event challenge raised handedUp
    cases Option.some.inj (answered.received.symm.trans received)
    obtain ⟨code, tail, bufEq, _⟩ := Chap.decodeChallengeResponse_eq_ok answered.decoded
    rw [remembers.last, sent] at last
    refine ⟨rfl, ?_⟩
    have issued : (stateAfter localIp method before).chapIdCounter - 1 = identifier :=
      congrArg Prod.fst (Option.some.inj last)
    rw [issued]
    simp only [List.cons.injEq] at bufEq
    exact bufEq.2.1.symm
  · intro condition event challenge raised chap
    obtain ⟨sent, info, response, answered⟩ :=
      (Move.raised (run_move _ input) raised).chapAnswered chap
    obtain ⟨code, identifier⟩ := condition info response answered
    obtain ⟨first, rest, rfl, _⟩ := Chap.decodeChallengeResponse_eq_ok answered.decoded
    cases code
    refine ⟨response.identifier, rest, answered.received, ?_⟩
    rw [remembers.last, sent, identifier]
    rfl

/-- A CHAP Challenge from the peer, under an identifier never issued. -/
def peerChapChallenge : Input :=
  ⟨.frame ([0xFF, 0x03, 0xC2, 0x23, 0x01, 0x55, 0x00, 0x15, 0x10] ++
    List.replicate 16 0x00), Block.zero 16⟩

/-- A stray Challenge from the peer is handed up as its response. -/
theorem not_answersLastChallenge_challenge :
    ¬AnswersLastChallenge
      (framesSent (Block.zero 4) .chapMd5 [peerConfigureAck, peerConfigureRequest])
      peerChapChallenge
      ((stateAfter (Block.zero 4) .chapMd5 [peerConfigureAck, peerConfigureRequest]).respond
        peerChapChallenge) := by
  intro answers
  have raised : ((stateAfter (Block.zero 4) .chapMd5
      [peerConfigureAck, peerConfigureRequest]).respond peerChapChallenge).event =
        some (.needChapAuth [] 0x55 (Block.zero 16) (Block.zero 16)) := by
    decide
  obtain ⟨identifier, rest, received, _⟩ := answers _ (Block.zero 16) raised rfl
  have code : (packetOf .chap peerChapChallenge).bind List.head? =
      some Chap.Code.challenge.asU8 := by
    decide
  rw [received] at code
  simp [Chap.Code.asU8] at code

end SstpServer.Ppp
