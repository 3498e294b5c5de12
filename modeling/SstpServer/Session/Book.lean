import SstpServer.Ppp.Lease
import SstpServer.Session.Locals
import SstpServer.Session.Verdicts

/-!
# The book of a session

A session tells its peer's name and address in several places: the session info, the
accounting records, the device of the data path and the Configure-Acks of IPCP.  The book
lists what stands in each of them.  A step of the session first enters the Access-Accept
that it applies, if there is one; all its other entries take the name and the address from
what the book holds by then.
-/

namespace SstpServer.Session

open SstpServer.Wire
open SstpServer.Sstp
open SstpServer.Ppp

/-! ## What the log says about the peer -/

/-- An accounting record, without its counters. -/
structure AcctRecord where
  username : Bytes
  session : AcctSession
  event : AcctEvent
  deriving DecidableEq

def Effect.acctRecord? : Effect → Option AcctRecord
  | .acct username session event _ => some ⟨username, session, event⟩
  | _ => none

/-- The address that an effect acknowledges to the peer. -/
def Effect.acked? : Effect → Option Ipv4
  | .tlsWrite bytes =>
      match Packet.parse bytes with
      | .ok (.data payload, _) => ackedAddress payload
      | _ => none
  | _ => none

/-- The accounting records so far. -/
def acctRecords (log : List Effect) : List AcctRecord :=
  log.filterMap Effect.acctRecord?

/-- The address acknowledged last. -/
def lastAcked (log : List Effect) : Option Ipv4 :=
  (log.filterMap Effect.acked?).getLast?

theorem acctRecords_append (log : List Effect) (effect : Effect) :
    acctRecords (log ++ [effect]) = acctRecords log ++ effect.acctRecord?.toList := by
  cases record : effect.acctRecord? <;> simp [acctRecords, record]

theorem lastAcked_append (log : List Effect) (effect : Effect) :
    lastAcked (log ++ [effect]) = effect.acked?.or (lastAcked log) := by
  cases acked : effect.acked? <;> simp [lastAcked, acked]

/-- A data packet acknowledges what its frame does. -/
theorem acked?_of_writePppAsSstpData {frame packet : Bytes}
    (written : writePppAsSstpData frame = some packet) :
    (Effect.tlsWrite packet).acked? = ackedAddress frame := by
  unfold writePppAsSstpData at written
  dsimp only at written
  split_ifs at written with fits
  cases written
  have framed : Packet.Framed (writeHeader false (sstpHeaderLen + frame.length) ++ frame) _ :=
    Packet.framed_writeHeader false rfl fits
  have body : slice (writeHeader false (sstpHeaderLen + frame.length) ++ frame) sstpHeaderLen
      (sstpHeaderLen + frame.length) = frame := by
    rw [slice, List.take_of_length_le (by rw [List.length_append, length_writeHeader])]
    rfl
  have parsed : Packet.parse (writeHeader false (sstpHeaderLen + frame.length) ++ frame) =
      .ok (.data frame, sstpHeaderLen + frame.length) := by
    apply Packet.parse_eq_ok_iff.mpr ⟨framed, _⟩
    rw [body]
    rfl
  simp only [Effect.acked?, parsed]

theorem acked?_of_flag {bytes : Bytes} (flagged : bytes.getD 1 0 = 1) :
    (Effect.tlsWrite bytes).acked? = none := by
  unfold Effect.acked?
  dsimp only
  split
  · rename_i payload used parsed
    exact (Packet.parse_ne_data flagged payload used parsed).elim
  · rfl

/-- A frame from the TUN device acknowledges nothing. -/
theorem ackedAddress_of_readFrame {packet frame : Bytes} (read : readFrame packet = some frame) :
    ackedAddress frame = none := by
  have other : ∀ protocol : ProtocolId, protocol ≠ .ipcp →
      ackedAddress (encodeFrame protocol.asU16 packet) = none := by
    intro protocol other
    cases acked : ackedAddress (encodeFrame protocol.asU16 packet) with
    | none => rfl
    | some ip =>
        rcases isIpcpAck_of_ackedAddress acked with ⟨options, ack, _⟩
        exact (not_isIpcpAck_encodeFrame other packet options ack).elim
  unfold readFrame at read
  split at read
  · cases read
  · split at read
    · cases read
      exact other .ip (by decide)
    · cases read
      exact other .ipv6 (by decide)
    · cases read

/-! ## The book -/

/-- What is said about the peer: the address of the device, the accounting session, the name
for the first record, the name and the address of the session info, the address granted to
IPCP, the accounting records, and the address acknowledged last. -/
structure Book where
  device : Option Ipv4
  acct : Option (Bytes × AcctSession)
  pendingUsername : Option Bytes
  username : Option Bytes
  assignedIp : Option Ipv4
  lease : Option Ipv4
  records : List AcctRecord
  acked : Option Ipv4

def book (s : Session) : Book where
  device := s.kppp.map KpppSession.peerIp
  acct := s.acctState.map fun state => (state.username, state.session)
  pendingUsername := s.pendingUsername
  username := s.info.username
  assignedIp := s.info.assignedIp
  lease := s.ppp.bind leasedIp
  records := acctRecords s.log
  acked := lastAcked s.log

/-- Enter an Access-Accept. -/
def Book.accept (b : Book) (user : Bytes) (ip : Ipv4) : Book :=
  { b with
    pendingUsername := some user
    username := some user
    assignedIp := some ip
    lease := some ip }

/-- Entries other than an Access-Accept. -/
inductive Entry (bridge : Bool) : Book → Book → Prop where
  | acknowledge (b : Book) (ip : Ipv4) (leased : b.lease = some ip) :
      Entry bridge b { b with acked := some ip }
  | attach (b : Book) (ip : Ipv4) (down : b.device = none) (leased : b.lease = some ip) :
      Entry bridge b { b with device := some ip, pendingUsername := none }
  | start (b : Book) (user : Bytes) (session : AcctSession) (bridged : bridge = true)
      (down : b.device = none) (leased : b.lease = some session.framedIp)
      (pending : b.pendingUsername = some user) :
      Entry bridge b
        { b with
          device := some session.framedIp
          acct := some (user, session)
          pendingUsername := none
          records := b.records ++ [⟨user, session, .start⟩] }
  | interim (b : Book) (user : Bytes) (session : AcctSession)
      (opened : b.acct = some (user, session)) :
      Entry bridge b { b with records := b.records ++ [⟨user, session, .interimUpdate⟩] }

abbrev Entries (bridge : Bool) : Book → Book → Prop :=
  Relation.ReflTransGen (Entry bridge)

theorem Entries.of_eq {bridge : Bool} {b b' : Book} (same : b' = b) : Entries bridge b b' := by
  rw [same]

section Entries

variable {bridge : Bool} {s s' : Session}

theorem Entries.andThen {b : Book} {next : Session → Session} (first : Entries bridge b s'.book)
    (second : Entries bridge s'.book (next s').book) :
    Entries bridge b (s'.andThen next).book := by
  unfold Session.andThen
  split_ifs
  · exact first.trans second
  · exact first

/-- Effects that say nothing about the peer. -/
def Effect.IsPlain (effect : Effect) : Prop :=
  effect.acctRecord? = none ∧ effect.acked? = none

theorem book_push {effect : Effect} (plain : effect.IsPlain) (s : Session) :
    (s.push effect).book = s.book := by
  unfold book push
  dsimp only
  rw [acctRecords_append, lastAcked_append, plain.1, plain.2, Option.toList_none, List.append_nil,
    Option.none_or]

/-- Writing acknowledges addresses of the lease. -/
theorem entries_of_outputs {kind : Effect → Prop} (outputs : Outputs s s')
    (grows : Grows kind s s')
    (leased : ∀ effect, kind effect → effect.acctRecord? = none ∧
      ∀ ip, effect.acked? = some ip → s.ppp.bind leasedIp = some ip) :
    Entries bridge s.book s'.book := by
  rcases grows with ⟨added, logged, kinds⟩
  have same : s'.book = { s with log := s.log ++ added }.book := by
    unfold Outputs at outputs
    rw [outputs, logged]
    rfl
  rw [same]
  clear same outputs logged
  induction added generalizing s with
  | nil => exact .of_eq (by rw [List.append_nil])
  | cons effect rest ih =>
      rcases leased effect (kinds effect List.mem_cons_self) with ⟨unrecorded, acks⟩
      have first : Entries bridge s.book (s.push effect).book := by
        cases acked : effect.acked? with
        | none => exact .of_eq (book_push ⟨unrecorded, acked⟩ s)
        | some ip =>
            have entered : (s.push effect).book = { s.book with acked := some ip } := by
              unfold book push
              dsimp only
              rw [acctRecords_append, lastAcked_append, unrecorded, acked, Option.toList_none,
                List.append_nil, Option.some_or]
            rw [entered]
            exact .single (.acknowledge s.book ip (acks ip acked))
      have more := ih (s := s.push effect) leased
        fun effect member => kinds effect (List.mem_cons_of_mem _ member)
      rw [List.append_cons]
      exact first.trans more

theorem book_of_outputs (outputs : Outputs s s') (grows : Grows Effect.IsPlain s s') :
    s'.book = s.book := by
  rcases grows with ⟨added, logged, plain⟩
  have records : acctRecords s'.log = acctRecords s.log := by
    have silent : added.filterMap Effect.acctRecord? = [] :=
      List.filterMap_eq_nil_iff.mpr fun effect member => (plain effect member).1
    simp [acctRecords, logged, silent]
  have acked : lastAcked s'.log = lastAcked s.log := by
    have silent : added.filterMap Effect.acked? = [] :=
      List.filterMap_eq_nil_iff.mpr fun effect member => (plain effect member).2
    simp [lastAcked, logged, silent]
  unfold Outputs at outputs
  rw [outputs]
  unfold book
  dsimp only
  rw [records, acked]

end Entries

/-! ## Handlers -/

theorem Grows.andThen {kind : Effect → Prop} {next : Session → Session} {s s' : Session}
    (first : Grows kind s s') (second : Grows kind s' (next s')) :
    Grows kind s (s'.andThen next) := by
  unfold Session.andThen
  split_ifs
  · exact first.trans second
  · exact first

/-- The frames of a step acknowledge the lease of the driver. -/
theorem entries_writeFrames {bridge : Bool} (env : Env) {step : PppStep} {ppp : Ppp}
    (serves : Serves step ppp) (s : Session) :
    Entries bridge { s with ppp := some ppp }.book
      ({ s with ppp := some ppp }.writeFrames env step.frames).book := by
  apply entries_of_outputs (outputs_writeFrames env step.frames _)
    (acts_writeFrames env step.frames _).log
  intro effect carries
  cases effect with
  | tlsWrite bytes =>
      rcases carries with ⟨frame, member, written⟩
      refine ⟨rfl, fun ip acked => ?_⟩
      rw [acked?_of_writePppAsSstpData written] at acked
      exact serves.acks frame member ip acked
  | _ => cases carries

theorem KpppSession.peerIp_of_bringUp {mode : DataPathMode} {kernel tun : Option Device}
    {localIp peerIp : Ipv4} {mtu : Option Nat} {kppp : KpppSession}
    (up : KpppSession.bringUp mode kernel tun localIp peerIp mtu = some kppp) :
    kppp.peerIp = peerIp := by
  unfold KpppSession.bringUp at up
  cases mode <;> cases kernel <;> cases tun <;> cases up <;> rfl

/-- The device gets the address of the lease, and so does the first record. -/
theorem entries_bringUp (config : Config) (env : Env) (mode : DataPathMode)
    {addrs : AssignedAddrs} {s : Session} (down : s.kppp = none)
    (leased : s.ppp.bind leasedIp = some addrs.ip) :
    Entries config.acct s.book (s.bringUp config env mode addrs).book := by
  have unattached : s.book.device = none := congrArg (Option.map KpppSession.peerIp) down
  unfold bringUp
  split
  · rename_i kppp up
    have ip := KpppSession.peerIp_of_bringUp up
    rw [← ip] at leased
    unfold startAccounting
    dsimp only
    split
    · rename_i user pending bridged
      have entered : Entry config.acct s.book _ := .start s.book user
        ⟨env.wallClock, kppp.peerIp, config.id % 2 ^ 32, s.pendingPolicy.bind SessionPolicy.class?⟩
        bridged unattached leased pending
      convert Relation.ReflTransGen.single entered using 1
      unfold book push
      dsimp only
      rw [acctRecords_append, acctRecords_append, lastAcked_append, lastAcked_append]
      simp [Effect.acctRecord?, Effect.acked?]
    · have entered : Entry config.acct s.book _ := .attach s.book kppp.peerIp unattached leased
      convert Relation.ReflTransGen.single entered using 1
      unfold book push
      dsimp only
      rw [acctRecords_append, lastAcked_append]
      simp [Effect.acctRecord?, Effect.acked?]
  · exact .refl

theorem entries_networkUp (config : Config) (env : Env) {addrs : AssignedAddrs} {s : Session}
    (leased : s.ppp.bind leasedIp = some addrs.ip) :
    Entries config.acct s.book (s.networkUp config env addrs).book := by
  unfold networkUp
  split_ifs with up
  · exact .refl
  · split
    · exact entries_bringUp config env _ (Option.not_isSome_iff_eq_none.mp up) leased
    · exact .refl

theorem book_finish (step : PppStep) (s : Session) :
    (if step.finished then s.stop else s).book = s.book := by
  split_ifs <;> rfl

/-- A PPP step without credentials makes entries from the lease of the driver. -/
theorem entries_handlePppStep_plain (config : Config) (env : Env) (fuel : Nat) {step : PppStep}
    {ppp : Ppp} (serves : Serves step ppp)
    (plain : ∀ event, step.event = some event → event.credentialMethod = none) (s : Session) :
    Entries config.acct { s with ppp := some ppp }.book
      (handlePppStep config env (fuel + 1) step ppp s).book := by
  have outputs := outputs_writeFrames env step.frames { s with ppp := some ppp }
  apply (entries_writeFrames env serves s).andThen
  have driver : ({ s with ppp := some ppp }.writeFrames env step.frames).ppp = some ppp :=
    outputs.congr fun _ _ _ => rfl
  generalize { s with ppp := some ppp }.writeFrames env step.frames = t at driver ⊢
  unfold handlePppEvent
  dsimp only
  have timed : (t.applyPppTimers env step).book = t.book := rfl
  cases raised : step.event with
  | none => exact .of_eq (book_finish step _)
  | some event =>
      cases event with
      | networkUp addrs =>
          have leased : (t.applyPppTimers env step).ppp.bind leasedIp = some addrs.ip := by
            rw [← serves.ups addrs raised]
            exact congrArg (Option.bind · leasedIp) driver
          exact (entries_networkUp config env leased).andThen (.of_eq (book_finish step _))
      | _ => cases plain _ raised

/-- The driver after a PPP step without credentials. -/
theorem ppp_handlePppStep_plain (config : Config) (env : Env) (fuel : Nat) {step : PppStep}
    (ppp : Ppp) (plain : ∀ event, step.event = some event → event.credentialMethod = none)
    (s : Session) : (handlePppStep config env (fuel + 1) step ppp s).ppp = some ppp := by
  have driver : ({ s with ppp := some ppp }.writeFrames env step.frames).ppp = some ppp :=
    (outputs_writeFrames env step.frames _).congr fun _ _ _ => rfl
  have up : ∀ addrs (t : Session), (t.networkUp config env addrs).ppp = t.ppp := by
    intro addrs t
    unfold networkUp bringUp startAccounting
    split_ifs
    · rfl
    · split
      · split
        · dsimp only
          split <;> rfl
        · rfl
      · rfl
  have finish : ∀ t : Session, (if step.finished then t.stop else t).ppp = t.ppp := by
    intro t
    split_ifs <;> rfl
  unfold handlePppStep andThen
  generalize { s with ppp := some ppp }.writeFrames env step.frames = t at driver ⊢
  split_ifs
  · unfold handlePppEvent
    dsimp only
    cases raised : step.event with
    | none => exact (finish _).trans driver
    | some event =>
        cases event with
        | networkUp addrs =>
            unfold andThen
            dsimp only
            split_ifs
            · exact (up addrs _).trans driver
            · exact (up addrs _).trans driver
            · exact (up addrs _).trans driver
        | _ => cases plain _ raised
  · exact driver

/-! ## Credentials -/

/-- The name that credentials are for. -/
def credentialUser : PppEvent → Option Bytes
  | .needPapAuth peerId _ => some (fromUtf8Lossy peerId)
  | .needChapAuth username _ _ _ => some (fromUtf8Lossy username)
  | .needMsChapV2Auth username _ _ _ _ _ => some (fromUtf8Lossy username)
  | .networkUp _ => none

/-- The Access-Accept of an answer. -/
def RadiusAnswer.granted : RadiusAnswer → Option AuthAccept
  | .accept granted => some granted
  | .reject _ _ => none

/-- The Access-Accept for the credentials of a PPP step, with the name they are for. -/
def acceptFor (env : Env) (step : PppStep) : Option (Bytes × AuthAccept) :=
  (step.event.bind credentialUser).bind fun user => env.radius.granted.map fun granted =>
    (user, granted)

/-- Enter an Access-Accept, if there is one. -/
def Book.enter (b : Book) : Option (Bytes × AuthAccept) → Book
  | none => b
  | some (user, granted) => b.accept user granted.addrs.ip

/-- The call with which the driver learns the verdict on credentials. -/
def verdictCall (env : Env) : PppEvent → Ppp.Call
  | .needMsChapV2Auth _ _ _ _ _ _ =>
      .mschapResult env.radius.msChapOutcome.verdict env.radius.msChapOutcome.authResponse
        env.radius.msChapOutcome.errorString
  | _ => .authResult env.radius.authOutcome.verdict

theorem submitted_fst (env : Env) {event : PppEvent} {used : AuthMethod} (ppp : Ppp)
    (s : Session) (credential : event.credentialMethod = some used) :
    (s.submitted env event ppp).1 = ppp.run ⟨verdictCall env event, env.challenge 1⟩ := by
  cases event with
  | networkUp addrs => cases credential
  | _ => rfl

theorem acceptedAddrs_verdictCall (env : Env) {event : PppEvent} {used : AuthMethod} {ppp : Ppp}
    {inFlight : InFlightMethod} (credential : event.credentialMethod = some used)
    (phase : ppp.phase = .authInFlight inFlight) (method : inFlight.authMethod = used)
    (random : Block 16) :
    ppp.acceptedAddrs ⟨verdictCall env event, random⟩ =
      env.radius.granted.map AuthAccept.addrs := by
  subst method
  unfold acceptedAddrs
  rw [phase]
  cases event <;> cases inFlight <;> cases credential <;> cases answer : env.radius <;>
    simp [verdictCall, answer, RadiusAnswer.authOutcome, RadiusAnswer.msChapOutcome,
      RadiusAnswer.granted]

/-- The verdict on credentials is an entry in the book. -/
theorem book_submitted (env : Env) {event : PppEvent} {used : AuthMethod} {ppp : Ppp}
    {inFlight : InFlightMethod} (s : Session) (credential : event.credentialMethod = some used)
    (phase : ppp.phase = .authInFlight inFlight) (method : inFlight.authMethod = used) :
    { (s.submitted env event ppp).2 with ppp := some (s.submitted env event ppp).1.2 }.book =
      { s with ppp := some ppp }.book.enter (acceptFor env { event := some event }) := by
  have lease : (s.submitted env event ppp).1.2.leasedIp =
      (env.radius.granted.map AuthAccept.addrs).elim ppp.leasedIp fun addrs => some addrs.ip := by
    rw [submitted_fst env ppp s credential,
      ← acceptedAddrs_verdictCall env credential phase method (env.challenge 1)]
    exact leasedIp_step ppp _
  generalize (s.submitted env event ppp).1.2 = ppp' at lease ⊢
  have records : acctRecords (s.log ++ [.radius env.radius]) = acctRecords s.log := by
    rw [acctRecords_append]
    exact List.append_nil _
  have acked : lastAcked (s.log ++ [.radius env.radius]) = lastAcked s.log :=
    lastAcked_append _ _
  have user : (credentialUser event).isSome := by
    cases event <;> cases credential <;> rfl
  cases answer : env.radius with
  | accept granted =>
      rw [answer] at lease records acked
      cases event <;> cases user <;>
        simp [submitted, submitCredentials, submitMschapv2, answer, RadiusAnswer.authOutcome,
          RadiusAnswer.msChapOutcome, recordAccept, book, push, records, acked, acceptFor,
          credentialUser, RadiusAnswer.granted, Book.enter, Book.accept, lease]
  | reject message errorString =>
      rw [answer] at lease records acked
      cases event <;> cases user <;>
        simp [submitted, submitCredentials, submitMschapv2, answer, RadiusAnswer.authOutcome,
          RadiusAnswer.msChapOutcome, book, push, records, acked, acceptFor, credentialUser,
          RadiusAnswer.granted, Book.enter, lease]

/-! ## Work -/

/-- The PPP driver of the session, if there is one, is in a state that calls lead to. -/
def Driven (config : Config) (s : Session) : Prop :=
  ∀ ppp, s.ppp = some ppp → ∃ calls, ppp = stateAfter config.localIp config.authMethod calls

theorem Driven.of_eq {config : Config} {s s' : Session} (driven : Driven config s)
    (same : s'.ppp = s.ppp) : Driven config s' := by
  intro ppp started
  exact driven ppp (same ▸ started)

theorem driven_of_some {config : Config} {s : Session} {calls : List Ppp.Input}
    (same : s.ppp = some (stateAfter config.localIp config.authMethod calls)) :
    Driven config s := by
  intro ppp started
  exact ⟨calls, Option.some.inj (started.symm.trans same)⟩

theorem stateAfter_append (localIp : Ipv4) (method : AuthMethod) (calls : List Ppp.Input)
    (call : Ppp.Input) :
    stateAfter localIp method (calls ++ [call]) = ((stateAfter localIp method calls).run call).2 := by
  rw [stateAfter, Transition.finalState_append]
  rfl

theorem acceptFor_eq_none {env : Env} {step : PppStep}
    (plain : ∀ event, step.event = some event → event.credentialMethod = none) :
    acceptFor env step = none := by
  unfold acceptFor
  cases raised : step.event with
  | none => rfl
  | some event =>
      have uncredited := plain event raised
      cases event with
      | networkUp addrs => rfl
      | _ => cases uncredited

/-- The step of a verdict, in the book that has the verdict. -/
theorem entries_verdict (config : Config) (env : Env) {calls : List Ppp.Input} {event : PppEvent}
    {used : AuthMethod} {ppp : Ppp} {inFlight : InFlightMethod} (s : Session)
    (reached : ppp = stateAfter config.localIp config.authMethod calls)
    (credential : event.credentialMethod = some used)
    (phase : ppp.phase = .authInFlight inFlight) (method : inFlight.authMethod = used) :
    Entries config.acct
        ({ s with ppp := some ppp }.book.enter (acceptFor env { event := some event }))
        (handlePppStep config env 1 (s.submitted env event ppp).1.1
          (s.submitted env event ppp).1.2 (s.submitted env event ppp).2).book ∧
      Driven config (handlePppStep config env 1 (s.submitted env event ppp).1.1
        (s.submitted env event ppp).1.2 (s.submitted env event ppp).2) := by
  have verdict := submitted_fst env ppp s credential
  have entered := book_submitted env s credential phase method
  rcases submitted_startsWithAnswer env s credential phase method with ⟨_, _, _, _, silent⟩
  generalize s.submitted env event ppp = answer at verdict entered silent ⊢
  rcases answer with ⟨⟨step, next⟩, t⟩
  dsimp only at verdict entered silent ⊢
  have quiet : ∀ event, step.event = some event → event.credentialMethod = none := by
    intro event raised
    rw [silent] at raised
    cases raised
  have serves := serves_run config.localIp config.authMethod calls
    ⟨verdictCall env event, env.challenge 1⟩
  have learned := stateAfter_append config.localIp config.authMethod calls
    ⟨verdictCall env event, env.challenge 1⟩
  rw [← reached, ← verdict] at serves learned
  constructor
  · rw [← entered]
    exact entries_handlePppStep_plain config env 0 serves quiet t
  · apply driven_of_some
    rw [ppp_handlePppStep_plain config env 0 next quiet t, learned]

/-- A call of the driver without a verdict: the session enters the Access-Accept for its
credentials, and what it says then is the lease. -/
theorem entries_handlePppStep_run (config : Config) (env : Env) {calls : List Ppp.Input}
    {input : Ppp.Input} {ppp : Ppp} {s : Session} (running : s.running = true)
    (reached : ppp = stateAfter config.localIp config.authMethod calls)
    (started : s.ppp = some ppp) (unaccepted : ppp.acceptedAddrs input = none) :
    Entries config.acct (s.book.enter (acceptFor env (ppp.run input).1))
        (handlePppStep config env pppRounds (ppp.run input).1 (ppp.run input).2 s).book ∧
      Driven config (handlePppStep config env pppRounds (ppp.run input).1 (ppp.run input).2 s) := by
  have called := stateAfter_append config.localIp config.authMethod calls input
  rw [← reached] at called
  have leased : { s with ppp := some (ppp.run input).2 }.book = s.book := by
    have same := leasedIp_step ppp input
    rw [unaccepted] at same
    unfold book
    rw [started]
    exact congrArg (fun lease => { s.book with lease }) same
  rcases (ppp.run input).1.plain_or_credential with plain | ⟨event, used, raised, credential⟩
  · have serves := serves_run config.localIp config.authMethod calls input
    rw [← reached] at serves
    rw [acceptFor_eq_none plain]
    constructor
    · have entries := entries_handlePppStep_plain config env 1 serves plain s
      rw [leased] at entries
      exact entries
    · apply driven_of_some
      rw [pppRounds, ppp_handlePppStep_plain config env 1 _ plain s, called]
  · rcases (ppp.run_move input).credential raised credential with ⟨only, inFlight, phase, method⟩
    have entries := entries_verdict config env { s with ppp := some (ppp.run input).2 }
      called.symm credential phase method
    rw [leased] at entries
    rw [only, pppRounds, handlePppStep_credential config env 1 _ running credential]
    exact entries

/-- An SSTP step says nothing about the peer, before PPP is started. -/
theorem book_applyStep (env : Env) {out : StepOut} (s : Session)
    (control : out.send = [] ∨ out.send.getD 1 0 = 1) : (s.applyStep env out).book = s.book := by
  have plain : Acts Effect.IsPlain s (s.sendPacket env out.send) :=
    acts_sendPacket env (fun _ => ⟨rfl, rfl⟩) fun filled _ =>
      ⟨rfl, acked?_of_flag (control.resolve_left filled)⟩
  have sent := book_of_outputs (outputs_sendPacket env out.send s) plain.log
  have established : ∀ (t : Session) hlak, (t.push (.established hlak)).book = t.book :=
    fun t hlak => book_push ⟨rfl, rfl⟩ t
  unfold applyStep andThen
  generalize s.sendPacket env out.send = t at sent ⊢
  rw [← sent]
  simp only [applySstpTimers_eq]
  split_ifs
  · exact established { t with sstpTimer := timerSlot env out t.sstpTimer } t.ssm.hlak
  · rfl
  · exact established { t with sstpTimer := timerSlot env out t.sstpTimer } t.ssm.hlak
  · rfl
  · rfl

theorem ppp_applyStep (env : Env) (out : StepOut) (s : Session) :
    (s.applyStep env out).ppp = s.ppp := by
  rcases applyStep_eq env out s with ⟨status, log, sstpTimer, applied⟩
  rw [applied]

theorem entries_handleSstpStep (config : Config) (env : Env) {out : StepOut} {s : Session}
    (driven : Driven config s) (control : out.send = [] ∨ out.send.getD 1 0 = 1) :
    Entries config.acct s.book (s.handleSstpStep config env out).book ∧
      Driven config (s.handleSstpStep config env out) := by
  have applied := book_applyStep env s control
  have kept := driven.of_eq (ppp_applyStep env out s)
  unfold handleSstpStep andThen
  generalize s.applyStep env out = t at applied kept ⊢
  rw [← applied]
  dsimp only
  split_ifs with going starts
  · -- PPP starts without a lease.
    have quiet : ∀ event, ((Ppp.new config.localIp config.authMethod).openPpp
        (env.challenge 0)).1.event = some event → event.credentialMethod = none := by
      intro event raised
      rw [openPpp_event] at raised
      cases raised
    have fresh : { t with
        ppp := some ((Ppp.new config.localIp config.authMethod).openPpp (env.challenge 0)).2 }.book =
        t.book := by
      unfold book
      rw [starts.2, openPpp_snd]
      exact congrArg (fun lease => { t.book with lease }) (leasedIp_start _ _)
    constructor
    · rw [← fresh]
      exact entries_handlePppStep_plain config env 1 (serves_openPpp _ _ _) quiet t
    · apply driven_of_some
      rw [pppRounds, ppp_handlePppStep_plain config env 1 _ quiet t, openPpp_snd]
      exact congrArg some (rfl : _ = stateAfter config.localIp config.authMethod [])
  · exact ⟨.refl, kept⟩
  · exact ⟨.refl, kept⟩

/-- The Access-Accept that a step applies, with the name it is for. -/
def appliedAccept (s : Session) (input : Input) : Option (Bytes × AuthAccept) :=
  match s.work input with
  | .ppp step _ => acceptFor input.env step
  | _ => none

/-- Packets of the TUN device are written as the frames they make. -/
theorem readFrame_of_work {s : Session} {input : Input} {packet frame : Bytes}
    (works : s.work input = .fromTun packet frame) : readFrame packet = some frame := by
  cases assigned_of_work works with
  | fromTun _ _ _ _ _ _ read => exact read

theorem entries_perform (config : Config) {s t : Session} (input : Input)
    (driven : Driven config s) (ready : Readies s t) :
    Entries config.acct (t.book.enter (appliedAccept s input))
        (t.perform config input.env (s.work input)).book ∧
      Driven config (t.perform config input.env (s.work input)) := by
  have kept := driven.of_eq ready.ppp
  unfold appliedAccept
  cases works : s.work input with
  | nothing => exact ⟨.refl, kept⟩
  | sstp call =>
      have called : Driven config { t with ssm := (t.ssm.run config.crypto call).2 } := kept
      have entries :=
        entries_handleSstpStep config input.env called (t.ssm.run_send config.crypto call)
      -- Without this step the unifier looks for the handler in both books.
      unfold perform Book.enter
      exact entries
  | ppp step ppp' =>
      rcases work_eq_ppp_iff.mp works with ⟨running, ppp, call, started, handed, ran⟩
      have unaccepted : ppp.acceptedAddrs ⟨call, input.env.challenge 0⟩ = none := by
        cases handed with
        | frame payload => exact acceptedAddrs_frame ppp payload _
        | timer owner => exact acceptedAddrs_eq_none_of_timer rfl
      rcases driven ppp started with ⟨calls, reached⟩
      have goes : t.running = true := by
        unfold Session.running at running ⊢
        rw [ready.status]
        exact running
      have entries := entries_handlePppStep_run config input.env goes reached
        (ready.ppp.trans started) unaccepted
      rw [ran] at entries
      exact entries
  | toTun packet =>
      exact ⟨.of_eq (book_push ⟨rfl, rfl⟩ t), kept⟩
  | fromTun packet frame =>
      have carried : ∀ effect : Effect, effect.carries [frame] → effect.IsPlain := by
        intro effect carries
        cases effect with
        | tlsWrite bytes =>
            rcases carries with ⟨_, only, written⟩
            rw [List.mem_singleton.mp only] at written
            refine ⟨rfl, (acked?_of_writePppAsSstpData written).trans ?_⟩
            exact ackedAddress_of_readFrame (readFrame_of_work works)
        | _ => cases carries
      have outputs := (outputs_writeFrame input.env frame (t.push (.fromTun packet))).andThen
        (outputs_tlsFlush input.env _)
      have grows := ((acts_writeFrame input.env (List.mem_singleton_self frame)
        (t.push (.fromTun packet))).mono carried).andThen (acts_tlsFlush _ input.env _)
      constructor
      · exact .of_eq ((book_of_outputs outputs grows.log).trans (book_push ⟨rfl, rfl⟩ t))
      · exact kept.of_eq (outputs.congr fun _ _ _ => rfl)

/-- An interim record is for the accounting session of the first one. -/
theorem entries_acctInterim (config : Config) (env : Env) (s : Session) :
    Entries config.acct s.book (s.acctInterim config env).book := by
  unfold acctInterim
  split_ifs
  · exact .refl
  · dsimp only
    split
    · rename_i state opened bridged
      generalize sampleAcctCounters env.stats env.now state = counters
      have noted : ({ s with lastAcctInterim := env.now }.noteActivity env counters).book =
          s.book := by
        rw [noteActivity_eq]
        rfl
      have kept : s.book.acct = some (state.username, state.session) := by
        unfold book
        rw [show s.acctState = some state from opened]
        rfl
      have entered : Entry config.acct s.book _ :=
        .interim s.book state.username state.session kept
      convert Relation.ReflTransGen.single entered using 1
      rw [← noted] at kept ⊢
      generalize { s with lastAcctInterim := env.now }.noteActivity env counters = t at kept ⊢
      unfold book at kept ⊢
      dsimp only [push] at kept ⊢
      rw [acctRecords_append, lastAcked_append, kept]
      rfl
    · exact .refl

theorem entries_of_tidied {config : Config} {env : Env} {s s' : Session}
    (tidied : Tidied config env s s') : Entries config.acct s.book s'.book := by
  induction tidied with
  | refl => exact .refl
  | tail _ last ih =>
      apply ih.trans
      cases last with
      | adjust _ adjusts =>
          rw [adjusts]
          exact .refl
      | stop => exact .refl
      | drainHlak =>
          rw [drainHlak_eq]
          exact .refl
      | poll => exact .refl
      | applyPolicy =>
          rw [applyPolicy_eq]
          exact .refl
      | acctInterim => exact entries_acctInterim config env _

/-- Before the last record is sent, a step enters the Access-Accept that it applies, and then
makes entries from what the book holds. -/
theorem entries_handle (config : Config) {s : Session} (running : s.running = true)
    (driven : Driven config s) (input : Input) :
    Entries config.acct (s.book.enter (appliedAccept s input)) (s.handle config input).book ∧
      Driven config (s.handle config input) := by
  rcases turn_handle config running input with ⟨t, prepares, tidied⟩
  have performed := entries_perform config input driven prepares.readies
  have noted : t.book = s.book := by
    rw [prepares.notes]
    rfl
  rw [noted] at performed
  exact ⟨performed.1.trans (entries_of_tidied tidied), performed.2.of_eq tidied.settles.ppp⟩

/-! ## What work adds to the log -/

/-- What work can add to the log: the packet it sends, data packets with frames, the first
accounting record, and whatever is neither a packet of the TLS stream nor a record. -/
def Effect.ofWork (send : Bytes) : Effect → Prop
  | .tlsWrite bytes => bytes = send ∨ ∃ frame, writePppAsSstpData frame = some bytes
  | .acct _ _ event counters => event = .start ∧ counters = {}
  | _ => True

/-- The packet that work has the state machine send. -/
def Work.sends (crypto : Crypto) (ssm : StateMachine) : Work → Bytes
  | .sstp call => (ssm.run crypto call).1.send
  | _ => []

section OfWork

variable {send : Bytes}

theorem Effect.ofWork_of_carries {frames : List Bytes} {effect : Effect}
    (carries : effect.carries frames) : effect.ofWork send := by
  cases effect with
  | tlsWrite bytes =>
      rcases carries with ⟨frame, -, written⟩
      exact .inr ⟨frame, written⟩
  | _ => exact carries.elim

theorem Effect.ofWork_of_isRadius {effect : Effect} (isRadius : effect.isRadius) :
    effect.ofWork send := by
  cases effect with
  | radius answer => trivial
  | _ => exact isRadius.elim

theorem grows_networkUp (config : Config) (env : Env) (addrs : AssignedAddrs) (s : Session) :
    Grows (Effect.ofWork send) s (s.networkUp config env addrs) := by
  unfold networkUp bringUp startAccounting
  split_ifs
  · exact .of_log_eq rfl
  · split
    · split
      · rename_i kppp _
        have attached : Grows (Effect.ofWork send) s (s.push (.dataPath kppp.backend)) :=
          grows_push trivial s
        dsimp only
        split
        · exact attached.trans ⟨[_], rfl, by simp [Effect.ofWork]⟩
        · exact attached
      · exact .of_log_eq rfl
    · exact .of_log_eq rfl

theorem grows_handlePppStep (config : Config) (env : Env) (fuel : Nat) (step : PppStep)
    (ppp : Ppp) (s : Session) :
    Grows (Effect.ofWork send) s (handlePppStep config env fuel step ppp s) := by
  have kept : KeptByPpp config env (Grows (Effect.ofWork send)) :=
    { refl := fun _ => .of_log_eq rfl
      trans := .trans
      stop := fun _ => .of_log_eq rfl
      store := fun _ _ => .of_log_eq rfl
      write := fun s frames =>
        (acts_writeFrames env frames s).log.mono fun _ => Effect.ofWork_of_carries
      timers := fun _ _ => .of_log_eq rfl
      submit := fun s event ppp =>
        (acts_submitted env event ppp s).log.mono fun _ => Effect.ofWork_of_isRadius
      networkUp := fun s addrs => grows_networkUp config env addrs s }
  exact kept.handlePppStep fuel step ppp s

theorem grows_applyStep (env : Env) (out : StepOut) (s : Session) :
    Grows (Effect.ofWork out.send) s (s.applyStep env out) := by
  have sent : Acts (Effect.ofWork out.send) s (s.sendPacket env out.send) :=
    acts_sendPacket env (fun _ => trivial) fun _ _ => .inl rfl
  refine (acts_applyStep env sent fun _ effect established => ?_).log
  cases effect with
  | established hlak => trivial
  | _ => exact established.elim

end OfWork

theorem grows_perform_ofWork (config : Config) (env : Env) (work : Work) (s : Session) :
    Grows (Effect.ofWork (work.sends config.crypto s.ssm)) s (s.perform config env work) := by
  cases work with
  | nothing => exact .of_log_eq rfl
  | sstp call =>
      have applied := grows_applyStep env (s.ssm.run config.crypto call).1
        { s with ssm := (s.ssm.run config.crypto call).2 }
      unfold perform handleSstpStep
      apply Grows.andThen applied
      dsimp only
      split_ifs
      · exact grows_handlePppStep config env _ _ _ _
      · exact .of_log_eq rfl
  | ppp step ppp => exact grows_handlePppStep config env _ step ppp s
  | toTun packet => exact grows_push trivial s
  | fromTun packet frame =>
      have written : Acts (Effect.ofWork []) (s.push (.fromTun packet)) _ :=
        (acts_writeFrame env (List.mem_singleton_self frame) _).mono fun _ =>
          Effect.ofWork_of_carries
      exact (grows_push trivial s).trans (written.andThen (acts_tlsFlush _ env _)).log

end SstpServer.Session
