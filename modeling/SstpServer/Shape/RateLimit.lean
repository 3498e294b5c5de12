import Mathlib.Algebra.Group.Nat.Defs
import Mathlib.Data.List.Basic
import Mathlib.Tactic.SplitIfs

/-!
# Rate limits from a RADIUS attribute

The Mikrotik-Rate-Limit attribute is a text of up to six fields.  A field that gives rates is one
value for both directions or a pair of them.  Fields may be left out only at the end.  The parser
turns the text into a specification for each direction, and the shaper installs an HTB class for
traffic to the client and a policer for traffic from it.

A direction is left alone only when it has no specification.  A rate of zero is meant as no limit,
but when the text goes on, a zero in a later field counts as a limit that is present.
-/

namespace SstpServer.Shape

/-! ## Policies -/

/-- The limits of one direction, in bits per second. -/
structure RateSpec where
  rateBps : Nat
  burstRateBps : Option Nat
  burstThresholdBps : Option Nat
  burstTimeSecs : Option Nat
  minRateBps : Option Nat
  deriving DecidableEq, Repr

structure ShapingPolicy where
  egress : Option RateSpec
  ingress : Option RateSpec
  priority : Option Nat
  deriving DecidableEq, Repr

def ShapingPolicy.isEmpty (policy : ShapingPolicy) : Bool :=
  policy.egress.isNone && policy.ingress.isNone

/-- Traffic to the client, or from it. -/
inductive Direction where
  | egress
  | ingress
  deriving DecidableEq, Repr

def ShapingPolicy.spec (policy : ShapingPolicy) : Direction → Option RateSpec
  | .egress => policy.egress
  | .ingress => policy.ingress

/-! ## Reading the attribute -/

abbrev Text := List Char

inductive Field where
  | rate
  | burstRate
  | burstThreshold
  | burstTime
  | priority
  | minRate
  deriving DecidableEq, Repr

def Field.text : Field → String
  | .rate => "rate"
  | .burstRate => "burst-rate"
  | .burstThreshold => "burst-threshold"
  | .burstTime => "burst-time"
  | .priority => "priority"
  | .minRate => "min-rate"

inductive ParseError where
  | empty
  | badPair (field : Field)
  | badNumber (field : Field) (value : Text)
  | priorityRange (priority : Int)
  | extra
  deriving DecidableEq, Repr

/-- White space in the sense of Unicode. -/
def isWhitespace (c : Char) : Bool :=
  let code := c.toNat
  (0x09 ≤ code && code ≤ 0x0D) || code = 0x20 || code = 0x85 || code = 0xA0 || code = 0x1680 ||
    (0x2000 ≤ code && code ≤ 0x200A) || code = 0x2028 || code = 0x2029 || code = 0x202F ||
    code = 0x205F || code = 0x3000

def trim (text : Text) : Text :=
  ((text.dropWhile isWhitespace).reverse.dropWhile isWhitespace).reverse

def isAsciiWhitespace (c : Char) : Bool :=
  c = '\t' || c = '\n' || c.toNat = 0x0C || c = '\r' || c = ' '

def splitAsciiWhitespace (text : Text) : List Text :=
  (text.splitOnP isAsciiWhitespace).filter (· ≠ [])

def parseDigits : Text → Option Nat
  | [] => none
  | text =>
      text.foldlM
        (fun value c => if '0' ≤ c ∧ c ≤ '9' then some (value * 10 + (c.toNat - 48)) else none) 0

/-- An unsigned number below a bound, perhaps with a plus sign. -/
def parseUnsigned (bound : Nat) : Text → Option Nat
  | '+' :: digits => (parseDigits digits).filter (· < bound)
  | digits => (parseDigits digits).filter (· < bound)

def parseI64 : Text → Option Int
  | '-' :: digits => ((parseDigits digits).filter (· ≤ 2 ^ 63)).map fun value => -(value : Int)
  | digits => (parseUnsigned (2 ^ 63) digits).map Int.ofNat

/-- The values of a field for the two directions, as the client names them. -/
structure Pair (α : Type) where
  rx : α
  tx : α
  deriving DecidableEq, Repr

section Parse

-- What 64-bit floating point makes of a mantissa that is no integer, at a multiplier.
variable (decimal : Text → Nat → Option Nat)

def parseBps (s : Text) (field : Field) : Except ParseError Nat :=
  match s.getLast? with
  | none => .error (.badNumber field s)
  | some last =>
      let (num, multiplier) :=
        if last = 'k' ∨ last = 'K' then (s.dropLast, 1000)
        else if last = 'm' ∨ last = 'M' then (s.dropLast, 1000000)
        else if last = 'g' ∨ last = 'G' then (s.dropLast, 1000000000)
        else (s, 1)
      if num = [] then .error (.badNumber field s)
      else
        match parseUnsigned (2 ^ 64) num with
        | some n =>
            if n * multiplier < 2 ^ 64 then .ok (n * multiplier)
            else .error (.badNumber field s)
        | none =>
            match decimal num multiplier with
            | some value => .ok value
            | none => .error (.badNumber field s)

def parseU32 (s : Text) (field : Field) : Except ParseError Nat :=
  match parseUnsigned (2 ^ 32) s with
  | some value => .ok value
  | none => .error (.badNumber field s)

/-- A value, or one for each direction. -/
def parsePairWith (parse : Text → Field → Except ParseError Nat) (text : Text) (name : Field) :
    Except ParseError (Pair Nat) := do
  let halves := text.splitOn '/'
  let rx ← parse (halves.headD []) name
  let tx ← match halves[1]? with
    | some half => parse half name
    | none => pure rx
  if halves[2]?.isSome then throw (.badPair name)
  return ⟨rx, tx⟩

def parsePair (text : Text) (name : Field) : Except ParseError (Pair Nat) :=
  parsePairWith (parseBps decimal) text name

def parsePairU32 (text : Text) (name : Field) : Except ParseError (Pair Nat) :=
  parsePairWith parseU32 text name

def parsePriority (text : Text) : Except ParseError Nat :=
  match parseI64 text with
  | none => .error (.badNumber .priority text)
  | some n => if 1 ≤ n ∧ n ≤ 8 then .ok n.toNat else .error (.priorityRange n)

/-- A field that may be left out. -/
def optional {α : Type} (parse : Text → Except ParseError α) :
    Option Text → Except ParseError (Option α)
  | none => .ok none
  | some text => (parse text).map some

/-- The fields of an attribute. -/
structure Fields where
  rate : Pair Nat
  burstRate : Option (Pair Nat)
  burstThreshold : Option (Pair Nat)
  burstTime : Option (Pair Nat)
  priority : Option Nat
  minRate : Option (Pair Nat)
  deriving DecidableEq, Repr

/-- Read the first field and those after it, in order. -/
def parseTexts (first : Text) (others : List Text) : Except ParseError Fields := do
  let rate ← parsePair decimal first .rate
  let burstRate ← optional (parsePair decimal · .burstRate) others[0]?
  let burstThreshold ← optional (parsePair decimal · .burstThreshold) others[1]?
  let burstTime ← optional (parsePairU32 · .burstTime) others[2]?
  let priority ← optional parsePriority others[3]?
  let minRate ← optional (parsePair decimal · .minRate) others[4]?
  if others[5]?.isSome then .error .extra
  else .ok ⟨rate, burstRate, burstThreshold, burstTime, priority, minRate⟩

def parseFields (value : Text) : Except ParseError Fields :=
  let trimmed := trim value
  if trimmed = [] then .error .empty
  else
    match splitAsciiWhitespace trimmed with
    | [] => .error .empty
    | first :: others => parseTexts decimal first others

def buildSpec (rate : Nat) (burstRate burstThreshold burstTime minRate : Option Nat) :
    Option RateSpec :=
  if rate = 0 ∧ burstRate.isNone ∧ minRate.isNone then none
  else some ⟨rate, burstRate, burstThreshold, burstTime, minRate⟩

/-- The policy of the fields: what the client receives is sent, and the other way round. -/
def Fields.policy (fields : Fields) : ShapingPolicy where
  egress := buildSpec fields.rate.rx (fields.burstRate.map Pair.rx)
    (fields.burstThreshold.map Pair.rx) (fields.burstTime.map Pair.rx) (fields.minRate.map Pair.rx)
  ingress := buildSpec fields.rate.tx (fields.burstRate.map Pair.tx)
    (fields.burstThreshold.map Pair.tx) (fields.burstTime.map Pair.tx) (fields.minRate.map Pair.tx)
  priority := fields.priority

def parse (value : Text) : Except ParseError ShapingPolicy :=
  (parseFields decimal value).map Fields.policy

end Parse

/-! ## Installing a policy -/

/-- An HTB class: rates in bytes per second, buffers in bytes. -/
structure HtbLeaf where
  rate : Nat
  ceil : Nat
  buffer : Nat
  cbuffer : Nat
  prio : Nat
  rate64 : Nat
  ceil64 : Nat
  deriving DecidableEq, Repr

/-- A policer: its rate in bytes per second, its burst in ticks. -/
structure Police where
  rate : Nat
  burst : Nat
  rate64 : Nat
  deriving DecidableEq, Repr

def u32Max : Nat := 2 ^ 32 - 1

def mtu : Nat := 1500

def saturatingBurstBytes (rateBytesPerSec : Nat) : Nat :=
  min (min (rateBytesPerSec / 1000 + mtu) (2 ^ 64 - 1)) u32Max

def saturatingIngressBurstBytes (rateBytesPerSec : Nat) : Nat :=
  min (max (rateBytesPerSec / 100) (mtu * 10)) u32Max

def burstBytesToPschedTicks (burstBytes rateBytesPerSec : Nat) : Nat :=
  if rateBytesPerSec = 0 then u32Max
  else min (burstBytes * 1000000000 / rateBytesPerSec) u32Max

def encodeHtbLeaf (spec : RateSpec) (priority : Option Nat) : HtbLeaf :=
  let rate64 := spec.rateBps / 8
  let ceil64 := spec.burstRateBps.getD spec.rateBps / 8
  -- The kernel rejects a rate of zero, so it becomes one byte per second.
  let rate := if min rate64 u32Max = 0 then 1 else min rate64 u32Max
  let ceil := if min ceil64 u32Max = 0 then rate else min ceil64 u32Max
  { rate, ceil
    buffer := saturatingBurstBytes rate64
    cbuffer := saturatingBurstBytes ceil64
    prio := priority.getD 0
    rate64, ceil64 }

def encodeIngressPoliceFilter (spec : RateSpec) : Police :=
  let rate64 := spec.rateBps / 8
  { rate := if min rate64 u32Max = 0 then 1 else min rate64 u32Max
    burst := burstBytesToPschedTicks (saturatingIngressBurstBytes rate64) rate64
    rate64 }

/-- The requests of the shaper, for one interface. -/
inductive TcRequest where
  | htbRoot
  | htbLeaf (leaf : HtbLeaf)
  | ingressQdisc
  | ingressPoliceFilter (police : Police)
  deriving DecidableEq, Repr

def TcRequest.op : TcRequest → String
  | .htbRoot => "RTM_NEWQDISC(htb root)"
  | .htbLeaf _ => "RTM_NEWTCLASS(htb leaf)"
  | .ingressQdisc => "RTM_NEWQDISC(ingress)"
  | .ingressPoliceFilter _ => "RTM_NEWTFILTER(u32+police)"

def TcRequest.direction : TcRequest → Direction
  | .htbRoot | .htbLeaf _ => .egress
  | .ingressQdisc | .ingressPoliceFilter _ => .ingress

inductive ShapeError where
  | netlink
  | kernel (op : String) (errno : Nat)
  deriving DecidableEq, Repr

/-- Send requests until one fails; the ones before it are installed. -/
def installAll (exchange : TcRequest → Except ShapeError Unit) :
    List TcRequest → Except ShapeError Unit × List TcRequest
  | [] => (.ok (), [])
  | request :: rest =>
      match exchange request with
      | .error error => (.error error, [])
      | .ok () =>
          let later := installAll exchange rest
          (later.1, request :: later.2)

/-- The requests for a policy; one without limits is left to the teardown of the interface. -/
def policyRequests (policy : ShapingPolicy) : List TcRequest :=
  if policy.isEmpty then []
  else
    (match policy.egress with
      | some spec => [.htbRoot, .htbLeaf (encodeHtbLeaf spec policy.priority)]
      | none => []) ++
    (match policy.ingress with
      | some spec => [.ingressQdisc, .ingressPoliceFilter (encodeIngressPoliceFilter spec)]
      | none => [])

/-- Install a policy; the result comes with the requests that the kernel has accepted. -/
def apply (exchange : TcRequest → Except ShapeError Unit) (policy : ShapingPolicy) :
    Except ShapeError Unit × List TcRequest :=
  installAll exchange (policyRequests policy)

/-! ## Directions without a limit -/

def Pair.half {α : Type} (pair : Pair α) : Direction → α
  | .egress => pair.rx
  | .ingress => pair.tx

/-- A rate of zero, with a burst rate and a minimum rate that are absent or zero. -/
structure Fields.ZeroAt (fields : Fields) (direction : Direction) : Prop where
  rate : fields.rate.half direction = 0
  burstRate : ∀ pair, fields.burstRate = some pair → pair.half direction = 0
  minRate : ∀ pair, fields.minRate = some pair → pair.half direction = 0

theorem optional_eq_none {α : Type} {parse : Text → Except ParseError α} {text : Option Text}
    {value : Option α} (parsed : optional parse text = .ok value) :
    value = none ↔ text = none := by
  cases text with
  | none =>
      cases parsed
      exact ⟨fun _ => rfl, fun _ => rfl⟩
  | some text =>
      rw [optional] at parsed
      cases result : parse text with
      | error error =>
          rw [result] at parsed
          cases parsed
      | ok read =>
          rw [result] at parsed
          cases parsed
          exact ⟨nofun, nofun⟩

/-- The success of a step, in a sequence of them. -/
theorem bind_eq_ok {α β : Type} {step : Except ParseError α} {next : α → Except ParseError β}
    {result : β} (succeeded : step >>= next = .ok result) :
    ∃ value, step = .ok value ∧ next value = .ok result := by
  cases step with
  | error error => cases succeeded
  | ok value => exact ⟨value, rfl, succeeded⟩

/-- Fields are positional: without a burst rate there is no minimum rate. -/
theorem minRate_of_burstRate {decimal : Text → Nat → Option Nat} {value : Text} {fields : Fields}
    (parsed : parseFields decimal value = .ok fields) (absent : fields.burstRate = none) :
    fields.minRate = none := by
  unfold parseFields at parsed
  dsimp only at parsed
  split_ifs at parsed
  split at parsed
  · cases parsed
  · rename_i first others texts
    rcases bind_eq_ok parsed with ⟨rate, -, parsed⟩
    rcases bind_eq_ok parsed with ⟨burstRate, readBurst, parsed⟩
    rcases bind_eq_ok parsed with ⟨burstThreshold, -, parsed⟩
    rcases bind_eq_ok parsed with ⟨burstTime, -, parsed⟩
    rcases bind_eq_ok parsed with ⟨priority, -, parsed⟩
    rcases bind_eq_ok parsed with ⟨minRate, readMin, parsed⟩
    split_ifs at parsed
    cases parsed
    have last := (optional_eq_none readBurst).mp absent
    rw [List.getElem?_eq_none_iff] at last
    exact (optional_eq_none readMin).mpr (List.getElem?_eq_none_iff.mpr (by omega))

theorem spec_policy (fields : Fields) (direction : Direction) :
    fields.policy.spec direction =
      buildSpec (fields.rate.half direction) (fields.burstRate.map (Pair.half · direction))
        (fields.burstThreshold.map (Pair.half · direction))
        (fields.burstTime.map (Pair.half · direction))
        (fields.minRate.map (Pair.half · direction)) := by
  cases direction <;> rfl

/-- A direction has no specification exactly if its rate is zero and both other rates are
absent. -/
theorem spec_eq_none_iff (fields : Fields) (direction : Direction) :
    fields.policy.spec direction = none ↔
      fields.rate.half direction = 0 ∧ fields.burstRate = none ∧ fields.minRate = none := by
  rw [spec_policy, buildSpec]
  simp

theorem mem_installAll {exchange : TcRequest → Except ShapeError Unit} {requests : List TcRequest}
    {request : TcRequest} (installed : request ∈ (installAll exchange requests).2) :
    request ∈ requests := by
  induction requests with
  | nil => exact installed
  | cons first rest ih =>
      rw [installAll] at installed
      split at installed
      · cases installed
      · rcases List.mem_cons.mp installed with rfl | later
        · exact List.mem_cons_self
        · exact List.mem_cons_of_mem _ (ih later)

/-- A request is made for a direction that has a specification. -/
theorem spec_of_request {policy : ShapingPolicy} {request : TcRequest}
    (requested : request ∈ policyRequests policy) :
    ∃ spec, policy.spec request.direction = some spec := by
  unfold policyRequests at requested
  split_ifs at requested
  · cases requested
  · rcases List.mem_append.mp requested with egress | ingress
    · cases limits : policy.egress with
      | none =>
          rw [limits] at egress
          cases egress
      | some spec =>
          rw [limits] at egress
          simp only [List.mem_cons, List.not_mem_nil, or_false] at egress
          rcases egress with rfl | rfl <;> exact ⟨spec, limits⟩
    · cases limits : policy.ingress with
      | none =>
          rw [limits] at ingress
          cases ingress
      | some spec =>
          rw [limits] at ingress
          simp only [List.mem_cons, List.not_mem_nil, or_false] at ingress
          rcases ingress with rfl | rfl <;> exact ⟨spec, limits⟩

/-- A rate of zero that is installed all the same lets one byte per second through. -/
theorem encodeHtbLeaf_of_zero {fields : Fields} (zero : fields.ZeroAt .egress) {spec : RateSpec}
    (limited : fields.policy.egress = some spec) (priority : Option Nat) :
    (encodeHtbLeaf spec priority).rate = 1 ∧ (encodeHtbLeaf spec priority).ceil = 1 := by
  have built : spec = ⟨fields.rate.rx, fields.burstRate.map Pair.rx,
      fields.burstThreshold.map Pair.rx, fields.burstTime.map Pair.rx,
      fields.minRate.map Pair.rx⟩ := by
    rw [Fields.policy, buildSpec] at limited
    split_ifs at limited
    exact (Option.some.inj limited).symm
  have rate : spec.rateBps = 0 := by
    rw [built]
    exact zero.rate
  have burst : spec.burstRateBps.getD spec.rateBps = 0 := by
    rw [rate, built]
    cases given : fields.burstRate with
    | none => rfl
    | some pair => exact zero.burstRate pair given
  rw [encodeHtbLeaf, burst, rate]
  exact ⟨rfl, rfl⟩

/-- Of a direction whose rate is zero and whose other rates are absent or zero, there is no
specification, and nothing is installed for it, exactly if the attribute has no burst rate; what
is installed for the egress direction otherwise lets one byte per second through. -/
theorem unlimited_iff {decimal : Text → Nat → Option Nat} {value : Text} {fields : Fields}
    (parsed : parseFields decimal value = .ok fields) {direction : Direction}
    (zero : fields.ZeroAt direction) :
    parse decimal value = .ok fields.policy ∧
      (fields.policy.spec direction = none ∧
          (∀ exchange, ∀ request ∈ (apply exchange fields.policy).2,
            request.direction ≠ direction) ↔
        fields.burstRate = none) ∧
      (direction = .egress → ∀ spec priority, fields.policy.egress = some spec →
        (encodeHtbLeaf spec priority).rate = 1 ∧ (encodeHtbLeaf spec priority).ceil = 1) := by
  refine ⟨by rw [parse, parsed]; rfl, ?_, ?_⟩
  · rw [spec_eq_none_iff]
    constructor
    · exact fun unlimited => unlimited.1.2.1
    · intro absent
      have nothing : fields.rate.half direction = 0 ∧ fields.burstRate = none ∧
          fields.minRate = none :=
        ⟨zero.rate, absent, minRate_of_burstRate parsed absent⟩
      refine ⟨nothing, ?_⟩
      rintro exchange request installed rfl
      rcases spec_of_request (mem_installAll installed) with ⟨spec, limited⟩
      rw [(spec_eq_none_iff fields _).mpr nothing] at limited
      cases limited
  · rintro rfl spec priority limited
    exact encodeHtbLeaf_of_zero zero limited priority

/-- The text `0/2M`, which limits only what the client sends. -/
theorem unlimited_egress :
    ∃ fields : Fields, parse (fun _ _ => none) ['0', '/', '2', 'M'] = .ok fields.policy ∧
      fields.policy.spec .egress = none ∧
      ∀ exchange, ∀ request ∈ (apply exchange fields.policy).2, request.direction ≠ .egress := by
  have parsed : parseFields (fun _ _ => none) ['0', '/', '2', 'M'] =
      .ok ⟨⟨0, 2000000⟩, none, none, none, none, none⟩ := by
    decide
  have zero : Fields.ZeroAt ⟨⟨0, 2000000⟩, none, none, none, none, none⟩ .egress :=
    ⟨rfl, nofun, nofun⟩
  rcases unlimited_iff parsed zero with ⟨accepted, unlimited, -⟩
  exact ⟨_, accepted, unlimited.mpr rfl⟩

/-- The text `0 0`: a burst rate of zero makes a limit of one byte per second. -/
theorem limited_of_zero_burst :
    ∃ fields, parseFields (fun _ _ => none) ['0', ' ', '0'] = .ok fields ∧
      fields.ZeroAt .egress ∧ fields.policy.spec .egress ≠ none ∧
      ∃ leaf, .htbLeaf leaf ∈ (apply (fun _ => .ok ()) fields.policy).2 ∧ leaf.rate = 1 := by
  refine ⟨⟨⟨0, 0⟩, some ⟨0, 0⟩, none, none, none, none⟩, by decide, ⟨rfl, ?_, nofun⟩, nofun,
    encodeHtbLeaf ⟨0, some 0, none, none, none⟩ none, by decide, rfl⟩
  rintro pair ⟨⟩
  rfl

end SstpServer.Shape
