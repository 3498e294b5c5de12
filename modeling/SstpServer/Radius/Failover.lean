import SstpServer.Radius.AuthBridge

/-!
# Failover between RADIUS servers

An answer decides a job when it is an Access-Reject, or an Access-Accept that decodes.  Whatever
the method, the task of a job asks the servers up to the first one whose answer decides and
replies what that server decided; when no server decides, it has asked them all and rejects.  It
replies once, however the tasks take their turns.
-/

namespace SstpServer.Radius

open SstpServer.Wire
open SstpServer.Ppp
open SstpServer.Iteration
open SstpServer.Transition
open SstpServer.Sstp (ascii)

variable {σ ρ : Type} (codec : ReplyCodec σ ρ)

/-! ## Decisions -/

/-- What a server can decide. -/
inductive Decision (σ ρ : Type) where
  | accepted (accept : AuthAccept σ ρ)
  | rejected (attributes : ReplyAttributes)

/-- What the answer of a server to a request decides, if anything. -/
def decision (exchange : Exchange) (request : AccessRequest) (attempt : Nat) (server : Server) :
    Option (Decision σ ρ) :=
  match exchange attempt server request with
  | .ok (.accept authenticator attributes) =>
      match decodeAccept codec attributes server.secret authenticator with
      | .ok accept => some (.accepted accept)
      | .error _ => none
  | .ok (.reject attributes) => some (.rejected attributes)
  | .ok .challenge | .error _ => none

namespace Decision

/-- The text of a reject: the server's message, for MS-CHAPv2 else its error, else a default. -/
def rejectText (attributes : ReplyAttributes) (fallback : Option Bytes) : Bytes :=
  (attributes.replyMessage.or fallback).getD (ascii "access rejected")

/-- What a PAP or CHAP job is told of a decision. -/
def authOutcome : Decision σ ρ → AuthOutcome σ ρ
  | accepted accept =>
      ⟨.accept (projectAddrs accept), accept.shaping, .fromAccept accept⟩
  | rejected attributes => ⟨.reject (rejectText attributes none), none, {}⟩

/-- What an MS-CHAPv2 job is told of a decision. -/
def msChapOutcome : Decision σ ρ → MsChapOutcome σ ρ
  | accepted accept =>
      ⟨.accept (projectAddrs accept), accept.shaping, .fromAccept accept,
        accept.mschap2Success, none, hlakFromMppe accept⟩
  | rejected attributes =>
      ⟨.reject (rejectText attributes (mschapError codec attributes)), none, {}, none,
        mschapError codec attributes, none⟩

/-- What a job is told of a decision. -/
def reply (decision : Decision σ ρ) : Job → Reply σ ρ
  | .pap _ | .chap _ => .basic decision.authOutcome
  | .msChap _ => .msChap (decision.msChapOutcome codec)

end Decision

/-- An attempt ends its loop with what was decided, and goes on when nothing was. -/
def Follows {δ ω : Type} (tell : δ → ω) (decided : Option δ) (attempt : Except Bytes ω) : Prop :=
  match decided with
  | some decision => attempt = .ok (tell decision)
  | none => ∃ error, attempt = .error error

/-- An Access-Accept that does not decode is not taken for an Access-Reject. -/
theorem decodeAccept_ne_rejected (attrs : ReplyAttributes) (secret : Bytes)
    (authenticator : Block 16) (message : Option Bytes) :
    decodeAccept codec attrs secret authenticator ≠ .error (.rejected message) := by
  have keyError : ∀ key, mppeKey codec key secret authenticator ≠ .error (.rejected message) := by
    intro key
    unfold mppeKey
    repeat' split
    all_goals exact nofun
  unfold decodeAccept
  split
  · exact nofun
  · cases sendKey : mppeKey codec attrs.msMppeSendKey secret authenticator with
    | error error =>
        rintro ⟨⟩
        exact keyError _ sendKey
    | ok send =>
        cases recvKey : mppeKey codec attrs.msMppeRecvKey secret authenticator with
        | error error =>
            rintro ⟨⟩
            exact keyError _ recvKey
        | ok recv => exact nofun

theorem basicAttempt_error {error : AuthError} (passed : ∀ message, error ≠ .rejected message) :
    basicAttempt codec (.error error) = .error (error.display codec) := by
  cases error with
  | rejected message => exact absurd rfl (passed message)
  | unexpectedChallenge | missingAttribute | transport | malformed => rfl

theorem basicAttempt_follows (exchange : Exchange) (request : AccessRequest) (attempt : Nat)
    (server : Server) :
    Follows Decision.authOutcome (decision codec exchange request attempt server)
      (basicAttempt codec (authenticate codec exchange attempt server request)) := by
  unfold decision authenticate
  cases exchange attempt server request with
  | error error => cases error <;> exact ⟨_, rfl⟩
  | ok outcome =>
      cases outcome with
      | accept authenticator attributes =>
          simp only [projectTerminal]
          cases decoded : decodeAccept codec attributes server.secret authenticator with
          | ok accept => rfl
          | error error =>
              refine ⟨_, basicAttempt_error codec fun message same => ?_⟩
              exact decodeAccept_ne_rejected codec _ _ _ message (same ▸ decoded)
      | reject attributes =>
          simp [Follows, basicAttempt, projectTerminal, Decision.authOutcome,
            Decision.rejectText, rejectReason, reject]
      | challenge => exact ⟨_, rfl⟩

theorem msChapAttempt_follows (exchange : Exchange) (request : AccessRequest) (attempt : Nat)
    (server : Server) :
    Follows (Decision.msChapOutcome codec) (decision codec exchange request attempt server)
      (msChapAttempt codec server.secret (exchange attempt server request)) := by
  unfold decision
  cases exchange attempt server request with
  | error error => exact ⟨_, rfl⟩
  | ok outcome =>
      cases outcome with
      | accept authenticator attributes =>
          simp only [msChapAttempt]
          cases decodeAccept codec attributes server.secret authenticator with
          | ok accept => rfl
          | error error => exact ⟨_, rfl⟩
      | reject attributes => rfl
      | challenge => exact ⟨_, rfl⟩

/-! ## The rule of failover -/

/-- What a job asks the servers. -/
def Job.request (nasIdentifier : Option Bytes) : Job → AccessRequest
  | .pap job => ⟨requestCtx codec nasIdentifier job.username job.peer, .pap job.password⟩
  | .chap job =>
      ⟨requestCtx codec nasIdentifier job.username job.peer,
        .chapMd5 job.chapId job.response job.challenge⟩
  | .msChap job =>
      ⟨requestCtx codec nasIdentifier job.username job.peer,
        .mschapv2 job.authenticatorChallenge job.chapId job.peerChallenge job.ntResponse job.flags⟩

/-- What a job is told when no server has decided; `last` is the error of the last attempt. -/
def Job.failure (last : Option Bytes) : Job → Reply σ ρ
  | .pap _ | .chap _ => .basic (transportFailure last)
  | .msChap _ => .msChap ⟨.reject (failureText last), none, {}, none, none, none⟩

/-- The servers that a job asks and the reply it gets, from what the servers' answers decide. -/
inductive Settles (exchange : Exchange) (nasIdentifier : Option Bytes) (servers : List Server)
    (job : Job) : List Server → Reply σ ρ → Prop where
  | decided {k : Nat} {server : Server} {first : Decision σ ρ}
      (place : servers[k]? = some server)
      (decides : decision codec exchange (job.request codec nasIdentifier) k server = some first)
      (earlier : ∀ j < k, ∀ other, servers[j]? = some other →
        decision codec exchange (job.request codec nasIdentifier) j other = none) :
      Settles exchange nasIdentifier servers job (servers.take (k + 1)) (first.reply codec job)
  | undecided {last : Option Bytes} {reply : Reply σ ρ}
      (silent : ∀ j other, servers[j]? = some other →
        decision codec exchange (job.request codec nasIdentifier) j other = none)
      (fails : reply = job.failure last) :
      Settles exchange nasIdentifier servers job servers reply

variable {codec}

theorem Settles.length_le {exchange : Exchange} {nasIdentifier : Option Bytes}
    {servers asked : List Server} {job : Job} {reply : Reply σ ρ}
    (settles : Settles codec exchange nasIdentifier servers job asked reply) :
    asked.length ≤ servers.length := by
  cases settles with
  | decided => exact List.length_take_le' _ _
  | undecided => exact Nat.le_refl _

theorem Follows.none_of_error {δ ω : Type} {tell : δ → ω} {decided : Option δ} {error : Bytes}
    (follows : Follows tell decided (.error error)) : decided = none := by
  cases decided with
  | none => rfl
  | some decision => cases follows

theorem Follows.exists_of_ok {δ ω : Type} {tell : δ → ω} {decided : Option δ} {outcome : ω}
    (follows : Follows tell decided (.ok outcome)) :
    ∃ decision, decided = some decision ∧ outcome = tell decision := by
  cases decided with
  | none =>
      rcases follows with ⟨error, other⟩
      cases other
  | some decision => exact ⟨decision, rfl, Except.ok.inj follows⟩

/-- A loop whose attempts follow the decisions, and that rejects at its end, settles its job. -/
theorem exists_settles_attempts {ω : Type} {tell : Decision σ ρ → ω} {wrap : ω → Reply σ ρ}
    {exchange : Exchange} {nasIdentifier : Option Bytes} {answer : Nat → Server → Except Bytes ω}
    {exhausted : Option Bytes → ω} {job : Job}
    (follows : ∀ attempt server,
      Follows tell (decision codec exchange (job.request codec nasIdentifier) attempt server)
        (answer attempt server))
    (tells : ∀ first, wrap (tell first) = first.reply codec job)
    (fails : ∀ last, wrap (exhausted last) = job.failure last) (servers : List Server) :
    ∃ asked reply, Settles codec exchange nasIdentifier servers job asked reply ∧
      (attempts answer exhausted 0 none servers).map (Action.mapOutcome wrap) =
        asked.map Action.ask ++ [Action.finish reply] := by
  rcases exists_ending_attempts answer exhausted 0 none servers with
    ⟨asked, outcome, ending, actions⟩
  have passes : ∀ {j server}, (∃ error, answer (0 + j) server = .error error) →
      decision codec exchange (job.request codec nasIdentifier) j server = none := by
    rintro j server ⟨error, answered⟩
    have followed := follows (0 + j) server
    rw [answered, Nat.zero_add] at followed
    exact followed.none_of_error
  refine ⟨asked, wrap outcome, ?_, by simp [actions, Action.mapOutcome, Function.comp_def]⟩
  cases ending with
  | @answered k server _ place answers earlier =>
      have followed := follows (0 + k) server
      rw [answers, Nat.zero_add] at followed
      rcases followed.exists_of_ok with ⟨first, decides, rfl⟩
      rw [tells]
      exact .decided place decides fun j before other found => passes (earlier j before other found)
  | exhausted failed =>
      exact .undecided (fun j other found => passes (failed j other found)) (fails _)

/-- Every method settles its job by the same rule. -/
theorem exists_settles_run (codec : ReplyCodec σ ρ) (exchange : Exchange) (servers : List Server)
    (nasIdentifier : Option Bytes) (job : Job) :
    ∃ asked reply, Settles codec exchange nasIdentifier servers job asked reply ∧
      job.run codec exchange servers nasIdentifier = asked.map .ask ++ [.finish reply] := by
  cases job with
  | pap job =>
      exact exists_settles_attempts (basicAttempt_follows codec exchange _) (fun _ => rfl)
        (fun _ => rfl) servers
  | chap job =>
      exact exists_settles_attempts (basicAttempt_follows codec exchange _) (fun _ => rfl)
        (fun _ => rfl) servers
  | msChap job =>
      exact exists_settles_attempts (msChapAttempt_follows codec exchange _) (fun _ => rfl)
        (fun _ => rfl) servers

/-! ## What a session hears

The session model takes the answer of the backend as an input.  Every reply of the bridge is what
the session makes of such an answer. -/

/-- The part of a policy that the session model has. -/
def SessionPolicy.forSession (policy : SessionPolicy ρ) : Session.SessionPolicy :=
  ⟨policy.class?, policy.sessionTimeout, policy.idleTimeout, policy.acctInterimInterval⟩

def AuthAccept.forSession (accept : AuthAccept σ ρ) : Session.AuthAccept :=
  ⟨projectAddrs accept, (SessionPolicy.fromAccept accept).forSession, accept.mschap2Success,
    accept.mppeSendKey, accept.mppeRecvKey⟩

/-- A reply tells a session what an answer of the backend does. -/
def Reply.Tells (answer : Session.RadiusAnswer) : Reply σ ρ → Prop
  | .basic outcome => ⟨outcome.verdict, outcome.policy.forSession⟩ = answer.authOutcome
  | .msChap outcome =>
      ⟨outcome.verdict, outcome.policy.forSession, outcome.authResponse, outcome.errorString,
        outcome.hlak⟩ = answer.msChapOutcome

theorem Settles.exists_tells {exchange : Exchange} {nasIdentifier : Option Bytes}
    {servers asked : List Server} {job : Job} {reply : Reply σ ρ}
    (settles : Settles codec exchange nasIdentifier servers job asked reply) :
    ∃ answer : Session.RadiusAnswer, reply.Tells answer := by
  cases settles with
  | @decided _ _ first =>
      cases first with
      | accepted accept => exact ⟨.accept accept.forSession, by cases job <;> rfl⟩
      | rejected attributes =>
          cases job with
          | pap | chap =>
              exact ⟨.reject (Decision.rejectText attributes none) none, rfl⟩
          | msChap =>
              exact ⟨.reject (Decision.rejectText attributes (mschapError codec attributes))
                (mschapError codec attributes), rfl⟩
  | undecided silent fails =>
      rw [fails]
      exact ⟨.reject _ none, by cases job <;> rfl⟩

/-! ## The jobs of a bridge -/

namespace AuthBridge

/-- In every run of the bridge, with its tasks taking turns in any order, what is done for a
submitted job is a part of asking the servers up to the first one that decides and then replying
once, with something that a session can hear; it is all of it when the task of the job is given its
turns. -/
theorem serves_submitted (codec : ReplyCodec σ ρ) (exchange : Nat → Exchange)
    (servers : List Server) (nasIdentifier : Option Bytes) (moves : List (PoolMove Job)) {id : Nat}
    {job : Job}
    (submitted : (reach codec exchange servers nasIdentifier moves).jobs[id]? = some job) :
    ∃ asked reply,
      Settles codec (exchange id) nasIdentifier servers job asked reply ∧
      (∃ answer : Session.RadiusAnswer, reply.Tells answer) ∧
      (reach codec exchange servers nasIdentifier moves).logOf id <+:
        asked.map .ask ++ [.finish reply] ∧
      (TaskPool.GivenTurns queueDepth
          (fun id => Job.run codec (exchange id) servers nasIdentifier) (servers.length + 1) id
          moves →
        (reach codec exchange servers nasIdentifier moves).logOf id =
          asked.map .ask ++ [.finish reply]) := by
  rcases exists_settles_run codec (exchange id) servers nasIdentifier job with
    ⟨asked, reply, settles, actions⟩
  have enough : (job.run codec (exchange id) servers nasIdentifier).length ≤
      servers.length + 1 := by
    rw [actions, List.length_append, List.length_map]
    exact Nat.succ_le_succ settles.length_le
  have faithful := TaskPool.faithful_finalState queueDepth
    (fun id => Job.run codec (exchange id) servers nasIdentifier) moves
  refine ⟨asked, reply, settles, settles.exists_tells, ?_, fun given => ?_⟩
  · rw [← actions]
    exact faithful.logOf_isPrefix submitted
  · rw [← actions]
    exact TaskPool.logOf_eq_of_givenTurns enough submitted given

/-- Formats under which no key, rate limit or route parses. -/
def plainCodec : ReplyCodec Unit Unit where
  mppeKeyDecrypt _ _ _ := none
  parseRateLimit _ := none
  isEmpty _ := true
  isUtf8 _ := true
  fromUtf8Lossy text := text
  parseRoute _ := none
  ipToString ip := ip
  debug message := message.getD []

def twoServers : List Server :=
  [⟨⟨[192, 0, 2, 1], 1812⟩, [1]⟩, ⟨⟨[192, 0, 2, 2], 1812⟩, [2]⟩]

/-- The first server is silent and the second one accepts. -/
def secondAccepts : Nat → Exchange := fun _ attempt _ _ =>
  if attempt = 0 then .error .timeout
  else .ok (.accept (.zero 16) { framedIpAddress := some (Block.ofBytes 4 [10, 0, 0, 2]) })

def papJob : Job := .pap ⟨[97], [98], ⟨[198, 51, 100, 7], 49152⟩⟩

def papMoves : List (PoolMove Job) :=
  [.submit papJob, .dispatch, .turn 0, .turn 0, .turn 0]

theorem serves_submitted_papJob :
    (reach plainCodec secondAccepts twoServers none papMoves).jobs[0]? = some papJob ∧
      ∃ asked reply,
        Settles plainCodec (secondAccepts 0) none twoServers papJob asked reply ∧
        (reach plainCodec secondAccepts twoServers none papMoves).logOf 0 =
          asked.map .ask ++ [.finish reply] := by
  have submitted :
      (reach plainCodec secondAccepts twoServers none papMoves).jobs[0]? = some papJob := rfl
  rcases serves_submitted plainCodec secondAccepts twoServers none papMoves submitted with
    ⟨asked, reply, settles, _, _, complete⟩
  have given : TaskPool.GivenTurns queueDepth
      (fun id => Job.run plainCodec (secondAccepts id) twoServers none) 3 0 papMoves :=
    ⟨[.submit papJob], [.dispatch], [.turn 0, .turn 0, .turn 0], rfl, by decide, by decide,
      by decide⟩
  exact ⟨submitted, asked, reply, settles, complete given⟩

end AuthBridge

end SstpServer.Radius
