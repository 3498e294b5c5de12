import SstpServer.Session.Book

/-!
# The accounting trace of a session

The first record of a session opens its accounting, together with the device of the data
path, and nothing closes it while the task runs.  The guard of the task sends the last
record on every way out.
-/

namespace SstpServer.Session

open SstpServer.Wire
open SstpServer.Sstp
open SstpServer.Ppp
open SstpServer.Transition

/-! ## Open accounting -/

/-- One Start and a number of interim updates, all for one accounting session. -/
def openRecords (user : Bytes) (session : AcctSession) (interims : Nat) : List AcctRecord :=
  ⟨user, session, .start⟩ :: List.replicate interims ⟨user, session, .interimUpdate⟩

theorem openRecords_succ (user : Bytes) (session : AcctSession) (interims : Nat) :
    openRecords user session (interims + 1) =
      openRecords user session interims ++ [⟨user, session, .interimUpdate⟩] := by
  rw [openRecords, List.replicate_succ']
  rfl

/-- Accounting is open only with a device and a bridge, and all records are of the accounting
session that is open. -/
structure Book.Balanced (bridge : Bool) (b : Book) : Prop where
  down : b.device = none → b.acct = none
  unopened : b.acct = none → b.records = []
  opened : ∀ user session, b.acct = some (user, session) →
    bridge = true ∧ ∃ interims, b.records = openRecords user session interims

theorem Entry.balanced {bridge : Bool} {b b' : Book} (entry : Entry bridge b b')
    (balanced : b.Balanced bridge) : b'.Balanced bridge := by
  cases entry with
  | acknowledge ip leased => exact ⟨balanced.down, balanced.unopened, balanced.opened⟩
  | attach ip down leased =>
      exact ⟨(nomatch ·), balanced.unopened, balanced.opened⟩
  | start user session bridged down leased pending =>
      constructor
      · intro undone
        cases undone
      · intro closed
        cases closed
      · rintro _ _ ⟨⟩
        refine ⟨bridged, 0, ?_⟩
        rw [balanced.unopened (balanced.down down)]
        rfl
  | interim user session opened =>
      rcases balanced.opened user session opened with ⟨bridged, interims, records⟩
      constructor
      · exact balanced.down
      · intro closed
        cases opened.symm.trans closed
      · intro other session' reopened
        cases opened.symm.trans reopened
        refine ⟨bridged, interims + 1, ?_⟩
        rw [openRecords_succ, ← records]

theorem Book.Balanced.entries {bridge : Bool} {b b' : Book} (balanced : b.Balanced bridge)
    (entries : Entries bridge b b') : b'.Balanced bridge := by
  induction entries with
  | refl => exact balanced
  | tail _ last ih => exact last.balanced ih

theorem Book.Balanced.enter {bridge : Bool} {b : Book} (balanced : b.Balanced bridge)
    (granted : Option (Bytes × AuthAccept)) : (b.enter granted).Balanced bridge := by
  cases granted with
  | none => exact balanced
  | some granted => exact ⟨balanced.down, balanced.unopened, balanced.opened⟩

/-! ## The trace -/

/-- The records of a task: none, or one Start, interim updates, and one Stop exactly when the
task has returned, all for one name and one accounting session. -/
inductive AcctTrace (status : Status) : List AcctRecord → Prop where
  | silent : AcctTrace status []
  | opened (user : Bytes) (session : AcctSession) (interims : Nat) (inside : status ≠ .ended) :
      AcctTrace status (openRecords user session interims)
  | closed (user : Bytes) (session : AcctSession) (interims : Nat) (cause : SessionEnd)
      (returned : status = .ended) :
      AcctTrace status (openRecords user session interims ++ [⟨user, session, .stop cause⟩])

/-- The guard closes what is open, exactly when the task returns. -/
theorem acctTrace_settle (config : Config) (env : Env) {s : Session}
    (balanced : s.book.Balanced config.acct) :
    AcctTrace (s.settle config env).status (acctRecords (s.settle config env).log) := by
  unfold settle
  cases accounting : s.acctState with
  | none =>
      have closed : s.book.acct = none := congrArg (Option.map _) accounting
      have none : acctRecords s.log = [] := balanced.unopened closed
      split_ifs
      · unfold acctStop
        rw [accounting]
        dsimp only
        rw [none]
        exact .silent
      · rw [none]
        exact .silent
  | some state =>
      have opened : s.book.acct = some (state.username, state.session) := by
        unfold book
        rw [accounting]
        rfl
      rcases balanced.opened _ _ opened with ⟨bridged, interims, records⟩
      have records : acctRecords s.log = openRecords state.username state.session interims :=
        records
      split_ifs with returned
      · unfold acctStop
        rw [accounting, bridged]
        dsimp only [push]
        rw [acctRecords_append, records]
        exact .closed state.username state.session interims s.acctCause returned
      · rw [records]
        exact .opened _ _ _ returned

/-- What a step keeps: the trace, and the book of a task that runs. -/
structure KeepsRecords (config : Config) (s : Session) : Prop where
  trace : AcctTrace s.status (acctRecords s.log)
  book : s.running = true → s.book.Balanced config.acct ∧ Driven config s

theorem KeepsRecords.settle {config : Config} (env : Env) {s : Session}
    (balanced : s.book.Balanced config.acct) (driven : Driven config s) :
    KeepsRecords config (s.settle config env) := by
  constructor
  · exact acctTrace_settle config env balanced
  · intro running
    rw [settle_of_running running]
    exact ⟨balanced, driven⟩

theorem KeepsRecords.step {config : Config} {s : Session} (keeps : KeepsRecords config s)
    (input : Input) : KeepsRecords config (s.step config input) := by
  unfold Session.step
  by_cases running : s.running = true
  · rcases keeps.book running with ⟨balanced, driven⟩
    rcases entries_handle config running driven input with ⟨entries, driven⟩
    rw [if_pos running]
    exact .settle input.env ((balanced.enter _).entries entries) driven
  · rw [if_neg running]
    exact keeps

theorem balanced_start (config : Config) (env : Env) :
    (start config env).book.Balanced config.acct := by
  rw [start_eq]
  exact ⟨fun _ => rfl, fun _ => rfl, fun _ _ opened => nomatch opened⟩

theorem driven_start (config : Config) (env : Env) : Driven config (start config env) := by
  rw [start_eq]
  intro ppp started
  cases started

/-- Every run leaves an accounting trace. -/
theorem acctTrace_sessionAfter (config : Config) (env : Env) (inputs : List Input) :
    AcctTrace (sessionAfter config env inputs).status
      (acctRecords (sessionAfter config env inputs).log) := by
  have initially : KeepsRecords config (start config env) := by
    constructor
    · rw [start_eq]
      exact .silent
    · exact fun _ => ⟨balanced_start config env, driven_start config env⟩
  have keeps : ∀ s input, KeepsRecords config s → KeepsRecords config (s.step config input) :=
    fun _ input keeps => keeps.step input
  exact (finalState_invariant keeps initially inputs).trace

end SstpServer.Session
