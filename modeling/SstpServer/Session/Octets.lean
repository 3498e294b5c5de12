import SstpServer.Radius.AcctClient
import SstpServer.Session.Identity
import SstpServer.Session.Records

/-!
# The octets of the accounting records

Interim and Stop records report the octet counters of the device.  A counter is sampled when a
record is made; when that fails, the record repeats the sample before it.  On the wire a counter of
64 bits is split into two attributes of 32 bits, and the upper one is left out when it is zero.
-/

namespace SstpServer.Radius

/-! ## Counters on the wire -/

/-- The value of the first integer attribute of a name. -/
def integerOf (name : AttrName) (attrs : List Attribute) : Option UInt32 :=
  attrs.findSome? fun attr =>
    if attr.name = name then
      match attr.value with
      | .integer value => some value
      | _ => none
    else none

/-- The counter that a request carries in two attributes; an absent Gigawords counts as zero. -/
def carriedOctets (octets gigawords : AttrName) (attrs : List Attribute) : Option Nat :=
  (integerOf octets attrs).map fun low =>
    ((integerOf gigawords attrs).getD 0).toNat * 2 ^ 32 + low.toNat

theorem integerOf_append (name : AttrName) (first second : List Attribute) :
    integerOf name (first ++ second) = (integerOf name first).or (integerOf name second) :=
  List.findSome?_append

theorem integerOf_eq_none {name : AttrName} {attrs : List Attribute}
    (absent : ∀ attr ∈ attrs, attr.name ≠ name) : integerOf name attrs = none :=
  List.findSome?_eq_none_iff.mpr fun attr member => if_neg (absent attr member)

/-- The halves of a counter make up the counter. -/
theorem halves_toNat (octets : UInt64) :
    (octets >>> 32).toUInt32.toNat * 2 ^ 32 + octets.toUInt32.toNat = octets.toNat := by
  have bound := octets.toNat_lt
  have shift : (32 : UInt64).toNat % 64 = 32 := rfl
  have high : (octets >>> 32).toUInt32.toNat = octets.toNat / 2 ^ 32 := by
    rw [UInt64.toNat_toUInt32, UInt64.toNat_shiftRight, shift, Nat.shiftRight_eq_div_pow]
    omega
  rw [high, UInt64.toNat_toUInt32]
  omega

/-- A name of the octet counters. -/
def AttrName.isOctets : AttrName → Bool
  | .acctInputOctets | .acctOutputOctets | .acctInputGigawords | .acctOutputGigawords => true
  | _ => false

theorem integerOf_eq_none_of_plain {name : AttrName} (counter : name.isOctets = true)
    {attrs : List Attribute} (plain : ∀ attr ∈ attrs, attr.name.isOctets = false) :
    integerOf name attrs = none := by
  apply integerOf_eq_none
  rintro attr member rfl
  rw [plain attr member] at counter
  cases counter

/-- The octet counters stand in the request of any record but the first, and only among its
counters. -/
theorem integerOf_attributes {record : AcctRecord} (later : record.event ≠ .start)
    (delaySecs : UInt32) {name : AttrName} (counter : name.isOctets = true) :
    integerOf name (attributes record delaySecs) =
      integerOf name (counterAttributes record.counters) := by
  unfold attributes
  rw [if_pos later, integerOf_append, integerOf_append]
  refine (congrArg (Option.or _) (integerOf_eq_none_of_plain counter ?_)).trans ?_
  · cases record.event <;> simp [AttrName.isOctets]
  · rw [Option.or_none]
    refine (congrArg (Option.or · _) (integerOf_eq_none_of_plain counter ?_)).trans Option.none_or
    refine List.forall_mem_append.mpr ⟨?_, ?_⟩
    · simp only [List.forall_mem_append, List.forall_mem_cons, List.forall_mem_map,
        List.not_mem_nil, IsEmpty.forall_iff, implies_true, AttrName.isOctets, and_self]
    · split_ifs
      · exact List.forall_mem_singleton.mpr rfl
      · exact List.forall_mem_nil _

theorem integerOf_gigawords (name : AttrName) (octets : UInt64) :
    ((integerOf name (gigawords name octets)).getD 0).toNat = (octets >>> 32).toUInt32.toNat := by
  unfold gigawords
  split_ifs with zero
  · rw [zero]
    rfl
  · simp [integerOf]

/-- A request carries the counters of its record. -/
theorem carriedOctets_attributes {record : AcctRecord} (later : record.event ≠ .start)
    (delaySecs : UInt32) :
    carriedOctets .acctInputOctets .acctInputGigawords (attributes record delaySecs) =
        some record.counters.inputOctets.toNat ∧
      carriedOctets .acctOutputOctets .acctOutputGigawords (attributes record delaySecs) =
        some record.counters.outputOctets.toNat := by
  have high : ∀ counters,
      integerOf .acctInputGigawords (counterAttributes counters) =
          integerOf .acctInputGigawords (gigawords .acctInputGigawords counters.inputOctets) ∧
        integerOf .acctOutputGigawords (counterAttributes counters) =
          integerOf .acctOutputGigawords
            (gigawords .acctOutputGigawords counters.outputOctets) := by
    intro counters
    unfold counterAttributes gigawords
    split_ifs <;> exact ⟨rfl, rfl⟩
  have low : ∀ counters,
      integerOf .acctInputOctets (counterAttributes counters) =
          some counters.inputOctets.toUInt32 ∧
        integerOf .acctOutputOctets (counterAttributes counters) =
          some counters.outputOctets.toUInt32 :=
    fun counters => ⟨rfl, rfl⟩
  unfold carriedOctets
  constructor
  · rw [integerOf_attributes later delaySecs rfl, integerOf_attributes later delaySecs rfl,
      (low _).1, (high _).1, Option.map_some, integerOf_gigawords, halves_toNat]
  · rw [integerOf_attributes later delaySecs rfl, integerOf_attributes later delaySecs rfl,
      (low _).2, (high _).2, Option.map_some, integerOf_gigawords, halves_toNat]

end SstpServer.Radius

namespace SstpServer.Session

open SstpServer.Wire
open SstpServer.Sstp
open SstpServer.Ppp
open SstpServer.Transition

/-! ## Records and samples -/

/-- The octets of counters, received and sent. -/
def AcctCounters.octets (counters : AcctCounters) : Nat × Nat :=
  (counters.inputOctets, counters.outputOctets)

/-- The octets of an Interim or Stop record. -/
def Effect.octets? : Effect → Option (Nat × Nat)
  | .acct _ _ .start _ => none
  | .acct _ _ _ counters => some counters.octets
  | _ => none

/-- The octets of the Interim and Stop records of a log. -/
def octetRecords (log : List Effect) : List (Nat × Nat) :=
  log.filterMap Effect.octets?

/-- The counters of the device, or the ones before when the sample fails. -/
def sampledOctets (env : Env) (last : Nat × Nat) : Nat × Nat :=
  env.stats.elim last fun stats => (stats.rxBytes, stats.txBytes)

/-- The octets that a failed sample repeats. -/
def lastOctets (s : Session) : Nat × Nat :=
  s.acctState.elim (0, 0) fun state => state.lastCounters.octets

theorem octets_sampleAcctCounters (env : Env) (state : AcctState) :
    (sampleAcctCounters env.stats env.now state).octets =
      sampledOctets env state.lastCounters.octets := by
  unfold sampleAcctCounters sampledOctets
  cases env.stats <;> rfl

theorem sampledOctets_sampledOctets (env : Env) (last : Nat × Nat) :
    sampledOctets env (sampledOctets env last) = sampledOctets env last := by
  unfold sampledOctets
  cases env.stats <;> rfl

/-- A further sample of one step shows what the samples before it have shown. -/
theorem sampledOctets_again {env : Env} {last latest : Nat × Nat} {count : Nat}
    (sampled : latest = if count = 0 then last else sampledOctets env last) :
    sampledOctets env latest = sampledOctets env last := by
  rw [sampled]
  split_ifs
  · rfl
  · exact sampledOctets_sampledOctets env last

theorem octetRecords_append (first second : List Effect) :
    octetRecords (first ++ second) = octetRecords first ++ octetRecords second :=
  List.filterMap_append

theorem octetRecords_of_grows {send : Bytes} {s s' : Session}
    (grows : Grows (Effect.ofWork send) s s') : octetRecords s'.log = octetRecords s.log := by
  rcases grows with ⟨added, logged, allowed⟩
  have silent : octetRecords added = [] := by
    apply List.filterMap_eq_nil_iff.mpr
    intro effect member
    cases effect with
    | acct username session event counters =>
        rcases allowed _ member with ⟨rfl, -⟩
        rfl
    | _ => rfl
  rw [logged, octetRecords_append, silent, List.append_nil]

/-! ## Steps -/

/-- Without a device there is no accounting. -/
def Unopened (s : Session) : Prop :=
  s.kppp = none → s.acctState = none

/-- A handler that takes no sample: accounting may start, with counters of zero. -/
def KeepsOctets (s s' : Session) : Prop :=
  Unopened s → Unopened s' ∧ lastOctets s' = lastOctets s

theorem KeepsOctets.of_eq {s s' : Session} (kppp : s'.kppp = s.kppp)
    (acct : s'.acctState = s.acctState) : KeepsOctets s s' := by
  intro unopened
  unfold Unopened lastOctets at *
  rw [kppp, acct]
  exact ⟨unopened, rfl⟩

theorem Outputs.keepsOctets {s s' : Session} (outputs : Outputs s s') : KeepsOctets s s' :=
  .of_eq (outputs.congr fun _ _ _ => rfl) (outputs.congr fun _ _ _ => rfl)

theorem keepsOctets_submitted (env : Env) (event : PppEvent) (ppp : Ppp) (s : Session) :
    KeepsOctets s (s.submitted env event ppp).2 := by
  have submission := submission_submitted env event ppp s
  generalize (s.submitted env event ppp).2 = t at submission ⊢
  cases submission <;> exact .of_eq rfl rfl

theorem keepsOctets_networkUp (config : Config) (env : Env) (addrs : AssignedAddrs) (s : Session) :
    KeepsOctets s (s.networkUp config env addrs) := by
  unfold networkUp
  split_ifs with up
  · exact .of_eq rfl rfl
  · have down : s.kppp = none := Option.not_isSome_iff_eq_none.mp up
    split
    · unfold bringUp startAccounting
      split
      · intro unopened
        have closed := unopened down
        dsimp only
        split
        · refine ⟨nofun, ?_⟩
          rw [lastOctets, lastOctets, closed]
          rfl
        · exact ⟨nofun, rfl⟩
      · exact .of_eq rfl rfl
    · exact .of_eq rfl rfl

theorem keepsOctets_applyStep (env : Env) (out : StepOut) (s : Session) :
    KeepsOctets s (s.applyStep env out) := by
  rcases applyStep_eq env out s with ⟨status, log, sstpTimer, applied⟩
  rw [applied]
  exact .of_eq rfl rfl

theorem keepsOctets_perform (config : Config) (env : Env) (work : Work) (s : Session) :
    KeepsOctets s (s.perform config env work) := by
  have kept : KeptByWork config env KeepsOctets :=
    { refl := fun _ => .of_eq rfl rfl
      trans := fun first second unopened =>
        ⟨(second (first unopened).1).1, (second (first unopened).1).2.trans (first unopened).2⟩
      stop := fun _ => .of_eq rfl rfl
      store := fun _ _ => .of_eq rfl rfl
      write := fun s frames => (outputs_writeFrames env frames s).keepsOctets
      timers := fun _ _ => .of_eq rfl rfl
      submit := fun s event ppp => keepsOctets_submitted env event ppp s
      networkUp := fun s addrs => keepsOctets_networkUp config env addrs s
      machine := fun _ _ => .of_eq rfl rfl
      apply := fun s out => keepsOctets_applyStep env out s
      push := fun _ _ => .of_eq rfl rfl
      writeOne := fun s frame => (outputs_writeFrame env frame s).keepsOctets
      flush := fun s => (outputs_tlsFlush env s).keepsOctets }
  exact kept.perform work s

/-- A handler that takes samples: each becomes a record, and the last one is kept. -/
def Samples (env : Env) (s s' : Session) : Prop :=
  ∃ count, octetRecords s'.log =
      octetRecords s.log ++ List.replicate count (sampledOctets env (lastOctets s)) ∧
    lastOctets s' = if count = 0 then lastOctets s else sampledOctets env (lastOctets s)

section Samples

variable {config : Config} {env : Env} {s s' s'' : Session}

theorem Samples.of_eq (log : octetRecords s'.log = octetRecords s.log)
    (last : lastOctets s' = lastOctets s) : Samples env s s' :=
  ⟨0, by rw [log]; exact (List.append_nil _).symm, last⟩

theorem Samples.trans (first : Samples env s s') (second : Samples env s' s'') :
    Samples env s s'' := by
  rcases first with ⟨count, records, last⟩
  rcases second with ⟨more, recordsMore, lastMore⟩
  have same := sampledOctets_again last
  refine ⟨count + more, ?_, ?_⟩
  · rw [recordsMore, records, same, List.append_assoc, List.replicate_append_replicate]
  · rw [lastMore, same]
    split_ifs with none both both
    · rw [last, if_pos (by omega)]
    · rw [last, if_neg (by omega)]
    · omega
    · rfl

theorem samples_acctInterim (config : Config) (env : Env) (s : Session) :
    Samples env s (s.acctInterim config env) := by
  unfold acctInterim
  split_ifs
  · exact .of_eq rfl rfl
  · dsimp only
    split
    · rename_i state opened bridged
      have open' : s.acctState = some state := opened
      have sampled := octets_sampleAcctCounters env state
      have kept : lastOctets s = state.lastCounters.octets := by
        rw [lastOctets, open']
        rfl
      have logged : ({ s with lastAcctInterim := env.now }.noteActivity env
          (sampleAcctCounters env.stats env.now state)).log = s.log := by
        rw [noteActivity_eq]
      refine ⟨1, ?_, ?_⟩
      · dsimp only [push]
        rw [octetRecords_append, logged, kept, ← sampled]
        rfl
      · rw [kept, ← sampled]
        rfl
    · exact .of_eq rfl rfl

theorem samples_of_tidied (tidied : Tidied config env s s') : Samples env s s' := by
  induction tidied with
  | refl => exact .of_eq rfl rfl
  | tail _ last ih =>
      apply ih.trans
      cases last with
      | adjust _ adjusts =>
          rw [adjusts]
          exact .of_eq rfl rfl
      | stop => exact .of_eq rfl rfl
      | drainHlak =>
          rw [drainHlak_eq]
          exact .of_eq rfl rfl
      | poll => exact .of_eq rfl rfl
      | applyPolicy =>
          rw [applyPolicy_eq]
          exact .of_eq rfl rfl
      | acctInterim => exact samples_acctInterim config env _

theorem samples_handle (config : Config) (input : Input) (running : s.running = true)
    (unopened : Unopened s) : Samples input.env s (s.handle config input) := by
  rcases turn_handle config running input with ⟨t, prepares, tidied⟩
  have noted : t.kppp = s.kppp ∧ t.acctState = s.acctState ∧ t.log = s.log := by
    rw [prepares.notes]
    exact ⟨rfl, rfl, rfl⟩
  have kept := KeepsOctets.of_eq noted.1 noted.2.1 unopened
  have performed := keepsOctets_perform config input.env (s.work input) t kept.1
  have records := octetRecords_of_grows (grows_perform_ofWork config input.env (s.work input) t)
  have worked : Samples input.env s (t.perform config input.env (s.work input)) :=
    .of_eq (records.trans (congrArg octetRecords noted.2.2)) (performed.2.trans kept.2)
  exact worked.trans (samples_of_tidied tidied)

/-- The guard samples once more, if accounting is open when the task returns. -/
theorem octetRecords_settle (config : Config) (env : Env) (s : Session) :
    ∃ count, octetRecords (s.settle config env).log =
      octetRecords s.log ++ List.replicate count (sampledOctets env (lastOctets s)) := by
  unfold settle acctStop
  split_ifs
  · split
    · rename_i state opened bridged
      refine ⟨1, ?_⟩
      dsimp only [push]
      rw [octetRecords_append, lastOctets, opened, Option.elim_some,
        ← octets_sampleAcctCounters]
      rfl
    · exact ⟨0, (List.append_nil _).symm⟩
  · exact ⟨0, (List.append_nil _).symm⟩

/-- The Interim and Stop records of a step show its sample, or what the last successful one has
shown. -/
theorem octetRecords_step (config : Config) (input : Input) (running : s.running = true)
    (unopened : Unopened s) :
    ∃ count, octetRecords (s.step config input).log =
        octetRecords s.log ++
          List.replicate count (sampledOctets input.env (lastOctets s)) ∧
      ((s.step config input).running = true → lastOctets (s.step config input) =
        if count = 0 then lastOctets s else sampledOctets input.env (lastOctets s)) := by
  rcases samples_handle config input running unopened with ⟨count, records, last⟩
  rw [step, if_pos running]
  by_cases survives : ((s.handle config input).settle config input.env).running = true
  · rw [settle_of_running survives]
    exact ⟨count, records, fun _ => last⟩
  · rcases octetRecords_settle config input.env (s.handle config input) with ⟨more, recordsMore⟩
    have same := sampledOctets_again last
    refine ⟨count + more, ?_, fun goesOn => (survives goesOn).elim⟩
    rw [recordsMore, records, same, List.append_assoc, List.replicate_append_replicate]

end Samples

/-! ## Runs -/

/-- The latest successful sample after a step.  A step takes a sample for each Interim or Stop
record. -/
def latestSample (config : Config) (last : Nat × Nat) (visit : Session × Input) : Nat × Nat :=
  if octetRecords (emitted config visit.1 visit.2) = [] then last
  else sampledOctets visit.2.env last

/-- The latest successful sample at each Interim or Stop record of a run. -/
def latestSamples (config : Config) : Nat × Nat → List (Session × Input) → List (Nat × Nat)
  | _, [] => []
  | last, visit :: rest =>
      (octetRecords (emitted config visit.1 visit.2)).map
          (fun _ => latestSample config last visit) ++
        latestSamples config (latestSample config last visit) rest

/-- What a run keeps: the records of accounting, and the latest successful sample. -/
structure KeepsSamples (config : Config) (last : Nat × Nat) (s : Session) : Prop where
  records : KeepsRecords config s
  last : s.running = true → lastOctets s = last

theorem KeepsSamples.unopened {config : Config} {last : Nat × Nat} {s : Session}
    (keeps : KeepsSamples config last s) (running : s.running = true) : Unopened s := by
  intro down
  have closed := (keeps.records.book running).1.down (by unfold book; rw [down]; rfl)
  exact Option.map_eq_none_iff.mp closed

theorem emitted_of_stopped (config : Config) {s : Session} (input : Input)
    (stopped : ¬s.running = true) : emitted config s input = [] := by
  rw [emitted, step, if_neg stopped, added, List.drop_length]

theorem log_step (config : Config) (s : Session) (input : Input) :
    (s.step config input).log = s.log ++ emitted config s input := by
  rcases does_step config s input with ⟨t, ready, settled⟩
  have performed := grows_perform config input.env (s.work input) t
  rcases performed.trans (settled.log.mono fun _ _ => trivial) with ⟨more, logged, all⟩
  have grown : Grows (fun _ => True) s (s.step config input) :=
    ⟨more, by rw [logged, ready.log], all⟩
  exact grown.log_eq

theorem KeepsSamples.step {config : Config} {last : Nat × Nat} {s : Session} (input : Input)
    (keeps : KeepsSamples config last s) :
    KeepsSamples config (latestSample config last (s, input)) (s.step config input) ∧
      octetRecords (emitted config s input) =
        (octetRecords (emitted config s input)).map
          fun _ => latestSample config last (s, input) := by
  by_cases running : s.running = true
  · rcases octetRecords_step config input running (keeps.unopened running) with
      ⟨count, records, lasts⟩
    rw [keeps.last running] at records lasts
    have exact' : octetRecords (emitted config s input) =
        List.replicate count (sampledOctets input.env last) := by
      rw [log_step, octetRecords_append] at records
      exact List.append_cancel_left records
    have latest : latestSample config last (s, input) =
        if count = 0 then last else sampledOctets input.env last := by
      simp only [latestSample, exact', List.replicate_eq_nil_iff]
    constructor
    · exact ⟨keeps.records.step input, fun survives => (lasts survives).trans latest.symm⟩
    · rw [exact', List.map_replicate, latest]
      split_ifs with none
      · rw [none]
        rfl
      · rfl
  · have stopped : s.step config input = s := if_neg running
    have silent := emitted_of_stopped config input running
    rw [stopped, silent]
    refine ⟨⟨keeps.records, fun goesOn => (running goesOn).elim⟩, rfl⟩

/-- The records of a run show the latest successful samples. -/
theorem KeepsSamples.octetRecords_run {config : Config} {last : Nat × Nat} {s : Session}
    (keeps : KeepsSamples config last s) (inputs : List Input) :
    octetRecords (finalState (Session.step config) s inputs).log =
      octetRecords s.log ++ latestSamples config last (visits (Session.step config) s inputs) := by
  induction inputs generalizing s last with
  | nil => exact (List.append_nil _).symm
  | cons input rest ih =>
      rcases keeps.step input with ⟨kept, shown⟩
      have logged : octetRecords (s.step config input).log =
          octetRecords s.log ++ octetRecords (emitted config s input) := by
        rw [log_step, octetRecords_append]
      rw [finalState_cons, visits_cons, ih kept, logged, latestSamples, List.append_assoc, ← shown]

theorem octetRecords_sessionAfter (config : Config) (env : Env) (inputs : List Input) :
    octetRecords (sessionAfter config env inputs).log =
      latestSamples config (0, 0) (visits (step config) (start config env) inputs) := by
  have initially : KeepsSamples config (0, 0) (start config env) := by
    refine ⟨⟨?_, fun _ => ⟨balanced_start config env, driven_start config env⟩⟩, fun _ => ?_⟩
    · rw [start_eq]
      exact .silent
    · rw [start_eq]
      rfl
  have run := initially.octetRecords_run inputs
  rw [start_eq] at run
  exact run

/-- The counters of the device are 64-bit numbers that never decrease from one step to a later
one. -/
structure CountersGrow (inputs : List Input) : Prop where
  bounded : ∀ input ∈ inputs, ∀ stats, input.env.stats = some stats →
    stats.rxBytes < 2 ^ 64 ∧ stats.txBytes < 2 ^ 64
  grows : inputs.Pairwise fun earlier later =>
    ∀ stats, earlier.env.stats = some stats → ∀ stats', later.env.stats = some stats' →
      stats.rxBytes ≤ stats'.rxBytes ∧ stats.txBytes ≤ stats'.txBytes

section Monotone

variable {config : Config}

/-- What holds of the latest sample and of the counters at a step holds of its sample. -/
theorem latestSample_induction {P : Nat × Nat → Prop} {last : Nat × Nat} {s : Session}
    {input : Input} (kept : P last)
    (sampled : ∀ stats, input.env.stats = some stats → P (stats.rxBytes, stats.txBytes)) :
    P (latestSample config last (s, input)) := by
  unfold latestSample sampledOctets
  split_ifs
  · exact kept
  · cases sample : input.env.stats with
    | none => exact kept
    | some stats => exact sampled stats sample

theorem latestSamples_induction {P : Nat × Nat → Prop} {last : Nat × Nat} {s : Session}
    {inputs : List Input} (kept : P last)
    (sampled : ∀ input ∈ inputs, ∀ stats, input.env.stats = some stats →
      P (stats.rxBytes, stats.txBytes)) :
    ∀ octets ∈ latestSamples config last (visits (step config) s inputs), P octets := by
  induction inputs generalizing s last with
  | nil => nofun
  | cons input rest ih =>
      have latest : P (latestSample config last (s, input)) :=
        latestSample_induction kept (sampled input List.mem_cons_self)
      have later := ih (s := s.step config input) latest fun next member =>
        sampled next (List.mem_cons_of_mem _ member)
      intro octets member
      rw [visits_cons, latestSamples] at member
      rcases List.mem_append.mp member with now | afterwards
      · rcases List.mem_map.mp now with ⟨_, _, rfl⟩
        exact latest
      · exact later octets afterwards

theorem latestSamples_mono {last : Nat × Nat} {s : Session} {inputs : List Input}
    (above : ∀ input ∈ inputs, ∀ stats, input.env.stats = some stats →
      last ≤ (stats.rxBytes, stats.txBytes))
    (grows : inputs.Pairwise fun earlier later =>
      ∀ stats, earlier.env.stats = some stats → ∀ stats', later.env.stats = some stats' →
        stats.rxBytes ≤ stats'.rxBytes ∧ stats.txBytes ≤ stats'.txBytes) :
    (latestSamples config last (visits (step config) s inputs)).Pairwise (· ≤ ·) := by
  induction inputs generalizing s last with
  | nil => exact List.Pairwise.nil
  | cons input rest ih =>
      rcases List.pairwise_cons.mp grows with ⟨fromHere, later⟩
      -- A step without a sample leaves the one before it, which the later ones are also above.
      have aboveLatest : ∀ next ∈ rest, ∀ stats, next.env.stats = some stats →
          latestSample config last (s, input) ≤ (stats.rxBytes, stats.txBytes) := by
        intro next member stats sample
        apply latestSample_induction (P := (· ≤ (stats.rxBytes, stats.txBytes)))
        · exact above next (List.mem_cons_of_mem _ member) stats sample
        · exact fun earlier sampled => fromHere next member earlier sampled stats sample
      rw [visits_cons, latestSamples]
      refine List.pairwise_append.mpr ⟨?_, ih aboveLatest later, ?_⟩
      · rw [List.map_const']
        exact List.pairwise_replicate.mpr (.inr le_rfl)
      · intro first member
        rcases List.mem_map.mp member with ⟨_, _, rfl⟩
        exact latestSamples_induction le_rfl aboveLatest

end Monotone

/-! ## Requests -/

/-- The counters as the accounting client takes them. -/
def AcctCounters.toRadius (counters : AcctCounters) : Radius.AcctCounters where
  sessionTime := .ofNat counters.sessionTime
  inputOctets := .ofNat counters.inputOctets
  outputOctets := .ofNat counters.outputOctets
  inputPackets := .ofNat counters.inputPackets
  outputPackets := .ofNat counters.outputPackets

/-- A request made for a record, first or repeated: its kind and its counters are those of the
record. -/
def Effect.ReportedBy (effect : Effect) (request : Radius.AcctRecord × UInt32) : Prop :=
  match effect with
  | .acct _ _ event counters =>
      (request.1.event = .start ↔ event = .start) ∧ request.1.counters = counters.toRadius
  | _ => False

/-- The counters that a request carries, received and sent. -/
def requestOctets (request : Radius.AcctRecord × UInt32) : Option Nat × Option Nat :=
  (Radius.carriedOctets .acctInputOctets .acctInputGigawords
      (Radius.attributes request.1 request.2),
    Radius.carriedOctets .acctOutputOctets .acctOutputGigawords
      (Radius.attributes request.1 request.2))

theorem requestOctets_eq {effect : Effect} {request : Radius.AcctRecord × UInt32}
    (reported : effect.ReportedBy request) {octets : Nat × Nat}
    (shows : effect.octets? = some octets) (bounded : octets.1 < 2 ^ 64 ∧ octets.2 < 2 ^ 64) :
    requestOctets request = (some octets.1, some octets.2) := by
  cases effect with
  | acct username session event counters =>
      rcases reported with ⟨kind, same⟩
      have later : event ≠ .start := by
        rintro rfl
        cases shows
      have counted : octets = counters.octets := by
        cases event with
        | start => exact (later rfl).elim
        | interimUpdate | stop => exact (Option.some.inj shows).symm
      subst counted
      have carried := Radius.carriedOctets_attributes (fun started => later (kind.mp started))
        request.2
      have received : request.1.counters.inputOctets.toNat = counters.inputOctets := by
        rw [same]
        exact Nat.mod_eq_of_lt bounded.1
      have sent : request.1.counters.outputOctets.toNat = counters.outputOctets := by
        rw [same]
        exact Nat.mod_eq_of_lt bounded.2
      rw [requestOctets, carried.1, carried.2, received, sent]
      rfl
  | _ => cases shows

/-- The Interim and Stop records of a log. -/
def laterRecords (log : List Effect) : List Effect :=
  log.filter fun effect => effect.octets?.isSome

theorem requestOctets_map {log : List Effect} {requests : List (Radius.AcctRecord × UInt32)}
    (reported : List.Forall₂ Effect.ReportedBy (laterRecords log) requests)
    (bounded : ∀ octets ∈ octetRecords log, octets.1 < 2 ^ 64 ∧ octets.2 < 2 ^ 64) :
    requests.map requestOctets =
      (octetRecords log).map fun octets => (some octets.1, some octets.2) := by
  induction log generalizing requests with
  | nil =>
      cases reported
      rfl
  | cons effect rest ih =>
      cases shows : effect.octets? with
      | none =>
          have skipped : laterRecords (effect :: rest) = laterRecords rest :=
            List.filter_cons_of_neg (by simp [shows])
          have unseen : octetRecords (effect :: rest) = octetRecords rest :=
            List.filterMap_cons_none shows
          rw [skipped] at reported
          rw [unseen] at bounded ⊢
          exact ih reported bounded
      | some octets =>
          have kept : laterRecords (effect :: rest) = effect :: laterRecords rest :=
            List.filter_cons_of_pos (by simp [shows])
          have seen : octetRecords (effect :: rest) = octets :: octetRecords rest :=
            List.filterMap_cons_some shows
          rw [kept] at reported
          rw [seen] at bounded ⊢
          cases reported with
          | cons first others =>
              rw [List.map_cons, List.map_cons,
                requestOctets_eq first shows (bounded octets List.mem_cons_self),
                ih others fun later member => bounded later (List.mem_cons_of_mem _ member)]

/-- While the counters of the device grow, the requests for the Interim and Stop records of a
session carry the latest successful samples, and these never decrease. -/
theorem requestOctets_sessionAfter (config : Config) (env : Env) (inputs : List Input)
    (counters : CountersGrow inputs) (requests : List (Radius.AcctRecord × UInt32))
    (reported : List.Forall₂ Effect.ReportedBy
      (laterRecords (sessionAfter config env inputs).log) requests) :
    let samples := latestSamples config (0, 0) (visits (step config) (start config env) inputs)
    requests.map requestOctets = samples.map (fun octets => (some octets.1, some octets.2)) ∧
      samples.Pairwise fun earlier later => earlier.1 ≤ later.1 ∧ earlier.2 ≤ later.2 := by
  intro samples
  have shown : octetRecords (sessionAfter config env inputs).log = samples :=
    octetRecords_sessionAfter config env inputs
  have bounded : ∀ octets ∈ samples, octets.1 < 2 ^ 64 ∧ octets.2 < 2 ^ 64 :=
    latestSamples_induction (by decide) counters.bounded
  have carried := requestOctets_map reported (by rw [shown]; exact bounded)
  rw [shown] at carried
  have sorted : samples.Pairwise (· ≤ ·) :=
    latestSamples_mono (fun _ _ _ _ => ⟨Nat.zero_le _, Nat.zero_le _⟩) counters.grows
  exact ⟨carried, sorted⟩

/-- A request for a record that says nothing but what it has to. -/
def Effect.plainRequest : Effect → Radius.AcctRecord × UInt32
  | .acct username _ event counters =>
      let kind := match event with
        | .start => .start
        | .interimUpdate => .interimUpdate
        | .stop _ => .stop 1
      (⟨username, none, none, ⟨[], 1, Block.zero 4, none, 0, none⟩, kind, counters.toRadius⟩, 0)
  | _ => (⟨[], none, none, ⟨[], 1, Block.zero 4, none, 0, none⟩, .start, {}⟩, 0)

theorem reportedBy_plainRequest {effect : Effect} (later : effect.octets?.isSome = true) :
    effect.ReportedBy effect.plainRequest := by
  cases effect with
  | acct username session event counters =>
      cases event <;> simp [Effect.ReportedBy, Effect.plainRequest]
  | _ => cases later

/-- An environment whose device has the given counters, if they can be read. -/
def countedEnv (now : Nat) (stats : Option LinkStats) : Env :=
  { obligingEnv with now, stats }

/-- Three ticks and the end of the connection.  The first and the third sample fail, and the
counters are past 32 bits. -/
def countedRun : List Input :=
  readRun obligingEnv networkStream 7 ++
    [⟨.event (.control (some .periodicTick)), countedEnv 60000 none⟩,
      ⟨.event (.control (some .periodicTick)), countedEnv 120000 (some ⟨5000000000, 7, 1, 1⟩)⟩,
      ⟨.event (.control (some .periodicTick)), countedEnv 180000 none⟩,
      ⟨.event (.read (.error ())), countedEnv 200000 (some ⟨5000000001, 9, 2, 2⟩)⟩]

theorem requestOctets_countedRun :
    ∃ requests, List.Forall₂ Effect.ReportedBy
        (laterRecords (sessionAfter bridgedConfig obligingEnv countedRun).log) requests ∧
      requests.map requestOctets =
        [(some 0, some 0), (some 5000000000, some 7), (some 5000000000, some 7),
          (some 5000000001, some 9)] := by
  have counters : CountersGrow countedRun := by
    constructor
    · simp [countedRun, readRun, countedEnv, obligingEnv]
    · simp [countedRun, readRun, countedEnv, obligingEnv]
  have reported : List.Forall₂ Effect.ReportedBy
      (laterRecords (sessionAfter bridgedConfig obligingEnv countedRun).log)
      ((laterRecords (sessionAfter bridgedConfig obligingEnv countedRun).log).map
        Effect.plainRequest) := by
    apply List.forall₂_map_right_iff.mpr
    apply List.forall₂_same.mpr
    intro effect member
    exact reportedBy_plainRequest (List.mem_filter.mp member).2
  have carried := (requestOctets_sessionAfter bridgedConfig obligingEnv countedRun counters _
    reported).1
  have samples : latestSamples bridgedConfig (0, 0)
      (visits (step bridgedConfig) (start bridgedConfig obligingEnv) countedRun) =
        [(0, 0), (5000000000, 7), (5000000000, 7), (5000000001, 9)] := by
    decide +kernel
  refine ⟨_, reported, carried.trans ?_⟩
  rw [samples]
  rfl

end SstpServer.Session
