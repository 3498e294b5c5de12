import SstpServer.Session.Forwarding
import SstpServer.Session.Records

/-!
# One identity

The session info and IPCP follow every Access-Accept; the device and the accounting session
stay with the Access-Accept of the first network announcement.  They agree as long as a
later Access-Accept does not bring another name or another address.
-/

namespace SstpServer.Session

open SstpServer.Wire
open SstpServer.Sstp
open SstpServer.Ppp
open SstpServer.Transition

/-! ## One name and one address in the book -/

/-- All that stands in the book is of the Access-Accept entered last. -/
structure Book.Truthful (b : Book) : Prop where
  lease : ∀ ip, b.lease = some ip → b.assignedIp = some ip
  pending : b.device = none → b.pendingUsername = b.username
  named : b.assignedIp.isSome → b.username.isSome
  device : ∀ ip, b.device = some ip → b.assignedIp = some ip
  acct : ∀ user session, b.acct = some (user, session) →
    b.username = some user ∧ b.assignedIp = some session.framedIp
  records : ∀ record ∈ b.records,
    b.username = some record.username ∧ b.assignedIp = some record.session.framedIp
  acked : ∀ ip, b.acked = some ip → b.assignedIp = some ip

theorem Book.Truthful.append {b : Book} (truthful : b.Truthful) {user : Bytes}
    {session : AcctSession} (username : b.username = some user)
    (assignedIp : b.assignedIp = some session.framedIp) (event : AcctEvent) :
    ∀ record ∈ b.records ++ [⟨user, session, event⟩],
      b.username = some record.username ∧ b.assignedIp = some record.session.framedIp := by
  intro record member
  rcases List.mem_append.mp member with before | now
  · exact truthful.records record before
  · rw [List.mem_singleton.mp now]
    exact ⟨username, assignedIp⟩

theorem Entry.truthful {bridge : Bool} {b b' : Book} (entry : Entry bridge b b')
    (truthful : b.Truthful) : b'.Truthful := by
  cases entry with
  | acknowledge ip leased =>
      have acked : ∀ other, some ip = some other → b.assignedIp = some other := by
        rintro _ ⟨⟩
        exact truthful.lease ip leased
      exact { truthful with acked }
  | attach ip down leased =>
      have device : ∀ other, some ip = some other → b.assignedIp = some other := by
        rintro _ ⟨⟩
        exact truthful.lease ip leased
      exact { truthful with pending := nofun, device }
  | start user session bridged down leased pending =>
      have username : b.username = some user := (truthful.pending down).symm.trans pending
      have assignedIp := truthful.lease session.framedIp leased
      have device : ∀ other, some session.framedIp = some other → b.assignedIp = some other := by
        rintro _ ⟨⟩
        exact assignedIp
      have acct : ∀ user' session', some (user, session) = some (user', session') →
          b.username = some user' ∧ b.assignedIp = some session'.framedIp := by
        rintro _ _ ⟨⟩
        exact ⟨username, assignedIp⟩
      have records := truthful.append username assignedIp .start
      exact { truthful with pending := nofun, device, acct, records }
  | interim user session opened =>
      rcases truthful.acct user session opened with ⟨username, assignedIp⟩
      have records := truthful.append username assignedIp .interimUpdate
      exact { truthful with records }

/-- An Access-Accept that brings nothing new to what it cannot change any more. -/
structure Book.Suits (b : Book) (user : Bytes) (ip : Ipv4) : Prop where
  device : b.device.isSome → b.assignedIp = some ip
  acct : b.acct.isSome → b.username = some user
  acked : ∀ acked, b.acked = some acked → ip = acked

theorem Book.Truthful.accept {bridge : Bool} {b : Book} (truthful : b.Truthful)
    (balanced : b.Balanced bridge) {user : Bytes} {ip : Ipv4} (suits : b.Suits user ip) :
    (b.accept user ip).Truthful := by
  have accounted : b.acct.isSome → b.username = some user ∧ b.assignedIp = some ip := by
    intro opened
    have up : b.device.isSome := by
      cases down : b.device with
      | none =>
          rw [balanced.down down] at opened
          cases opened
      | some _ => rfl
    exact ⟨suits.acct opened, suits.device up⟩
  constructor
  · exact fun _ => id
  · exact fun _ => rfl
  · exact fun _ => rfl
  · intro device up
    rw [← truthful.device device up]
    exact (suits.device (by rw [show b.device = some device from up]; rfl)).symm
  · intro user' session opened
    have opened : b.acct = some (user', session) := opened
    rcases accounted (by rw [opened]; rfl) with ⟨username, assignedIp⟩
    rcases truthful.acct user' session opened with ⟨username', assignedIp'⟩
    exact ⟨username.symm.trans username', assignedIp.symm.trans assignedIp'⟩
  · intro record member
    cases opened : b.acct with
    | none =>
        have member : record ∈ b.records := member
        rw [balanced.unopened opened] at member
        cases member
    | some _ =>
        rcases accounted (by rw [opened]; rfl) with ⟨username, assignedIp⟩
        rcases truthful.records record member with ⟨username', assignedIp'⟩
        exact ⟨username.symm.trans username', assignedIp.symm.trans assignedIp'⟩
  · intro acked last
    rw [← suits.acked acked last]
    rfl

theorem Book.Truthful.entries {bridge : Bool} {b b' : Book} (truthful : b.Truthful)
    (entries : Entries bridge b b') : b'.Truthful := by
  induction entries with
  | refl => exact truthful
  | tail _ last ih => exact last.truthful ih

/-- The last record is of the accounting session, too. -/
theorem truthful_settle (config : Config) (env : Env) {s : Session} (truthful : s.book.Truthful) :
    (s.settle config env).book.Truthful := by
  have closed : { s.book with acct := none }.Truthful :=
    { truthful with acct := nofun }
  unfold settle acctStop
  split_ifs
  · split
    · rename_i state opened bridged
      have accounted : s.book.acct = some (state.username, state.session) := by
        unfold book
        rw [opened]
        rfl
      rcases truthful.acct _ _ accounted with ⟨username, assignedIp⟩
      have records := closed.append username assignedIp (.stop s.acctCause)
      have stopped : { s.push (.acct state.username state.session (.stop s.acctCause)
          (sampleAcctCounters env.stats env.now state)) with acctState := none }.book =
          { s.book with
            acct := none
            records := s.book.records ++ [⟨state.username, state.session, .stop s.acctCause⟩] } := by
        unfold book
        dsimp only [push]
        rw [acctRecords_append, lastAcked_append]
        rfl
      rw [stopped]
      exact { closed with records }
    · exact closed
  · exact truthful

/-! ## Where the name and the address come from -/

/-- The session info is of an Access-Accept that the history has applied. -/
def Granted (history : List (Session × Input)) (b : Book) : Prop :=
  ∀ user ip, b.username = some user → b.assignedIp = some ip →
    ∃ visit ∈ history, ∃ granted, appliedAccept visit.1 visit.2 = some (user, granted) ∧
      granted.addrs.ip = ip

theorem Granted.mono {history more : List (Session × Input)} {b : Book}
    (granted : Granted history b) : Granted (history ++ more) b := by
  intro user ip username assignedIp
  rcases granted user ip username assignedIp with ⟨visit, member, applied⟩
  exact ⟨visit, List.mem_append_left _ member, applied⟩

theorem Granted.of_entries {history : List (Session × Input)} {bridge : Bool} {b b' : Book}
    (granted : Granted history b) (entries : Entries bridge b b') : Granted history b' := by
  induction entries with
  | refl => exact granted
  | tail _ last ih => cases last <;> exact ih

theorem Granted.enter {history : List (Session × Input)} {s : Session}
    (granted : Granted history s.book) (input : Input) :
    Granted (history ++ [(s, input)]) (s.book.enter (appliedAccept s input)) := by
  cases applied : appliedAccept s input with
  | none => exact granted.mono
  | some accepted =>
      rcases accepted with ⟨user, accept⟩
      rintro _ _ ⟨⟩ ⟨⟩
      exact ⟨(s, input), by simp, accept, applied, rfl⟩

/-! ## Runs -/

/-- All that a session tells about its peer is one name and one address. -/
structure SpeaksFor (s : Session) (user : Bytes) (ip : Ipv4) : Prop where
  username : s.info.username = some user
  assignedIp : s.info.assignedIp = some ip
  device : s.kppp.map KpppSession.peerIp = some ip
  acct : ∀ state, s.acctState = some state → state.username = user ∧ state.session.framedIp = ip
  records : ∀ record ∈ acctRecords s.log, record.username = user ∧ record.session.framedIp = ip
  acked : ∀ acked, lastAcked s.log = some acked → acked = ip

/-- Once the device is up, the session speaks for one Access-Accept that the history has
applied. -/
def OneIdentity (history : List (Session × Input)) (s : Session) : Prop :=
  s.kppp.isSome → ∃ visit ∈ history, ∃ user granted,
    appliedAccept visit.1 visit.2 = some (user, granted) ∧ SpeaksFor s user granted.addrs.ip

/-- An Access-Accept has the address of the session info once the device is up, the name of
the session info once accounting is open, and the address acknowledged last, if there is
one. -/
def KeepsIdentity (s : Session) (input : Input) : Prop :=
  ∀ applied ∈ appliedAccept s input,
    (s.kppp.isSome → s.info.assignedIp = some applied.2.addrs.ip) ∧
      (s.acctState.isSome → s.info.username = some applied.1) ∧
      ∀ acked ∈ lastAcked s.log, applied.2.addrs.ip = acked

-- Named here, since addresses are also a finite type that could be searched through.
instance (s : Session) (input : Input) : Decidable (KeepsIdentity s input) :=
  haveI : ∀ ip : Ipv4, Decidable (∀ acked ∈ lastAcked s.log, ip = acked) :=
    fun _ => Option.decidableForallMem (lastAcked s.log)
  inferInstanceAs (Decidable (∀ applied ∈ appliedAccept s input, _))

theorem Book.Truthful.oneIdentity {history : List (Session × Input)} {s : Session}
    (truthful : s.book.Truthful) (granted : Granted history s.book) : OneIdentity history s := by
  intro up
  rcases Option.isSome_iff_exists.mp up with ⟨kppp, device⟩
  have device : s.book.device = some kppp.peerIp := congrArg (Option.map _) device
  have assignedIp := truthful.device _ device
  rcases Option.isSome_iff_exists.mp (truthful.named (by rw [assignedIp]; rfl)) with
    ⟨user, username⟩
  rcases granted user kppp.peerIp username assignedIp with ⟨visit, member, accept, applied, ip⟩
  refine ⟨visit, member, user, accept, applied, ?_⟩
  rw [ip]
  have same : ∀ {user' : Bytes} {ip' : Ipv4}, s.book.username = some user' →
      s.book.assignedIp = some ip' → user' = user ∧ ip' = kppp.peerIp := by
    intro user' ip' username' assignedIp'
    exact ⟨Option.some.inj (username'.symm.trans username),
      Option.some.inj (assignedIp'.symm.trans assignedIp)⟩
  constructor
  · exact username
  · exact assignedIp
  · exact device
  · intro state opened
    have accounted : s.book.acct = some (state.username, state.session) := by
      unfold book
      rw [opened]
      rfl
    rcases truthful.acct _ _ accounted with ⟨username', assignedIp'⟩
    exact same username' assignedIp'
  · intro record member
    rcases truthful.records record member with ⟨username', assignedIp'⟩
    exact same username' assignedIp'
  · intro acked last
    exact (same username (truthful.acked acked last)).2

/-- What a step keeps, after the visits so far. -/
structure KeepsBook (config : Config) (history : List (Session × Input)) (s : Session) : Prop where
  truthful : s.book.Truthful
  granted : Granted history s.book
  running : s.running = true → s.book.Balanced config.acct ∧ Driven config s

theorem KeepsIdentity.enter {bridge : Bool} {s : Session} {input : Input}
    (keeps : KeepsIdentity s input) (truthful : s.book.Truthful)
    (balanced : s.book.Balanced bridge) :
    (s.book.enter (appliedAccept s input)).Truthful := by
  cases applied : appliedAccept s input with
  | none => exact truthful
  | some accepted =>
      rcases accepted with ⟨user, accept⟩
      rcases keeps (user, accept) applied with ⟨device, acct, acked⟩
      apply truthful.accept balanced
      constructor
      · intro up
        exact device (by simpa [book] using up)
      · intro opened
        exact acct (by simpa [book] using opened)
      · exact acked

theorem KeepsBook.step {config : Config} {history : List (Session × Input)} {s : Session}
    (keeps : KeepsBook config history s) {input : Input} (same : KeepsIdentity s input) :
    KeepsBook config (history ++ [(s, input)]) (s.step config input) := by
  unfold Session.step
  by_cases running : s.running = true
  · rcases keeps.running running with ⟨balanced, driven⟩
    rcases entries_handle config running driven input with ⟨entries, driven⟩
    have handled := (same.enter keeps.truthful balanced).entries entries
    have granted := (keeps.granted.enter input).of_entries entries
    rw [if_pos running]
    constructor
    · exact truthful_settle config input.env handled
    · intro user ip username assignedIp
      rw [settle_eq] at username assignedIp
      exact granted user ip username assignedIp
    · intro survives
      rw [settle_of_running survives]
      exact ⟨(balanced.enter _).entries entries, driven⟩
  · rw [if_neg running]
    exact ⟨keeps.truthful, keeps.granted.mono, fun other => (running other).elim⟩

/-- A run in which no Access-Accept brings another name or another address too late tells
one identity in every state it reaches. -/
theorem oneIdentity_sessionAfter (config : Config) (env : Env) (inputs : List Input)
    (same : ∀ visit ∈ visits (step config) (start config env) inputs,
      KeepsIdentity visit.1 visit.2) :
    OneIdentity (visits (step config) (start config env) inputs)
      (sessionAfter config env inputs) := by
  have initially : KeepsBook config [] (start config env) := by
    constructor
    · rw [start_eq]
      exact ⟨nofun, fun _ => rfl, nofun, nofun, nofun, nofun, nofun⟩
    · rw [start_eq]
      exact nofun
    · exact fun _ => ⟨balanced_start config env, driven_start config env⟩
  -- The hypothesis is about the whole history, so it is part of what is kept.
  have keeps : ∀ (history : List (Session × Input)) s input,
      ((∀ visit ∈ history, KeepsIdentity visit.1 visit.2) → KeepsBook config history s) →
      (∀ visit ∈ history ++ [(s, input)], KeepsIdentity visit.1 visit.2) →
        KeepsBook config (history ++ [(s, input)]) (s.step config input) := by
    intro history s input kept same
    have before := kept fun visit member => same visit (List.mem_append_left _ member)
    exact before.step (same (s, input) (by simp))
  have kept := visits_finalState_induction keeps (fun _ => initially) inputs same
  exact kept.truthful.oneIdentity kept.granted

/-! ## Authenticating again -/

/-- A server with a TUN device and an accounting bridge. -/
def bridgedConfig : Config :=
  { tunConfig with acct := true }

/-- A Configure-Ack for the second LCP request of the server. -/
def peerSecondConfigureAck : Ppp.Input :=
  ⟨.frame [0xFF, 0x03, 0xC0, 0x21, 0x02, 0x02, 0x00, 0x04], Block.zero 16⟩

/-- A call with the device up, in which the peer negotiates LCP again and authenticates once
more. -/
def authenticateAgain (env : Env) (request : Ppp.Input) : List Input :=
  readRun obligingEnv networkStream 7 ++
    readRun env (peerData peerConfigureRequest ++ peerData peerSecondConfigureAck ++
      peerData request) 3

/-- The same user gets the same address again, with the device up and accounting open. -/
theorem oneIdentity_authenticateAgain :
    let inputs := authenticateAgain obligingEnv peerPapRequest
    ((visits (step bridgedConfig) (start bridgedConfig obligingEnv) inputs).any fun visit =>
        visit.1.kppp.isSome && visit.1.acctState.isSome && (lastAcked visit.1.log).isSome &&
          (appliedAccept visit.1 visit.2).isSome) = true ∧
      (sessionAfter bridgedConfig obligingEnv inputs).kppp.isSome ∧
      OneIdentity (visits (step bridgedConfig) (start bridgedConfig obligingEnv) inputs)
        (sessionAfter bridgedConfig obligingEnv inputs) := by
  refine ⟨?_, ?_, oneIdentity_sessionAfter bridgedConfig obligingEnv _ ?_⟩
  · decide +kernel
  · decide +kernel
  · decide +kernel

/-- A PAP Authenticate-Request of another user. -/
def peerOtherPapRequest : Ppp.Input :=
  ⟨.frame [0xFF, 0x03, 0xC0, 0x23, 0x01, 0x08, 0x00, 0x08, 0x01, 0x76, 0x01, 0x70],
    Block.zero 16⟩

/-- An environment whose backend grants another address. -/
def otherAddressEnv : Env :=
  { obligingEnv with
    radius := .accept
      { addrs := ⟨Block.ofBytes 4 [10, 0, 0, 9], none, none, none, none, none⟩
        policy := {}
        mschap2Success := none
        mppeSendKey := []
        mppeRecvKey := [] } }

/-- The peer authenticates as another user, who gets another address. -/
def reauthenticationRun : List Input :=
  authenticateAgain otherAddressEnv peerOtherPapRequest

theorem not_oneIdentity {history : List (Session × Input)} {s : Session} (up : s.kppp.isSome)
    (differs : s.kppp.map KpppSession.peerIp ≠ s.info.assignedIp) : ¬OneIdentity history s := by
  intro identity
  rcases identity up with ⟨_, _, _, _, _, speaks⟩
  exact differs (speaks.device.trans speaks.assignedIp.symm)

/-- The session info has the second user and address, the device still the first address. -/
theorem not_oneIdentity_reauthenticationRun :
    ¬OneIdentity (visits (step bridgedConfig) (start bridgedConfig obligingEnv) reauthenticationRun)
      (sessionAfter bridgedConfig obligingEnv reauthenticationRun) := by
  apply not_oneIdentity
  · decide +kernel
  · decide +kernel

end SstpServer.Session
