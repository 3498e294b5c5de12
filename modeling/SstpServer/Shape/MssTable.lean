import Mathlib.Data.Vector.Basic
import Mathlib.Logic.Function.Basic
import SstpServer.Transition.Run
import SstpServer.Wire.Bytes

/-!
# The shared table of segment sizes

All sessions share one table of the packet filter.  It has, for each segment size in use, a set of
interface names and a chain with two rules, one for each direction.  The process keeps a record of
what it has created, since a create request for something that is there already is rejected.

A request may fail at any time.  The group of a segment size takes four requests to create, and is
recorded only after the last of them.  When one of the later three fails, the set stays behind in
the kernel without a record, and every further attempt is rejected at the first request.
-/

namespace SstpServer.Shape

open SstpServer.Wire
open SstpServer.Transition

/-! ## The kernel -/

/-- A rule that writes a segment size, for packets of interfaces in a set.  It looks up the
interface a packet comes from or the one it leaves through. -/
structure Rule where
  ingress : Bool
  setName : String
  mss : UInt16
  deriving DecidableEq, Repr

/-- An interface name as an element of a set, padded with zeros. -/
abbrev IfKey := Block 16

structure KernelTable where
  sets : String → Option (List IfKey)
  chains : String → Option (List Rule)

def KernelTable.empty : KernelTable :=
  ⟨fun _ => none, fun _ => none⟩

/-- The table with the name of this process, if it is there. -/
abbrev Kernel := Option KernelTable

/-- One transaction. -/
inductive Batch where
  | createTable
  | deleteTable
  | createSet (setName : String)
  | createChain (chainName : String)
  | rule (chainName : String) (rule : Rule)
  | addElem (setName : String) (key : IfKey)
  | delElem (setName : String) (key : IfKey)
  deriving DecidableEq

def enoent : Nat := 2

def eexist : Nat := 17

/-- What the kernel does with a transaction, or the error it rejects it with.  Creating a table, a
set or a chain is exclusive; adding an element is not. -/
def Kernel.execute (kernel : Kernel) (batch : Batch) : Except Nat Kernel :=
  match kernel with
  | none =>
      match batch with
      | .createTable => .ok (some .empty)
      | _ => .error enoent
  | some table =>
      match batch with
      | .createTable => .error eexist
      | .deleteTable => .ok none
      | .createSet name =>
          if (table.sets name).isSome then .error eexist
          else .ok (some { table with sets := Function.update table.sets name (some []) })
      | .createChain name =>
          if (table.chains name).isSome then .error eexist
          else .ok (some { table with chains := Function.update table.chains name (some []) })
      | .rule name rule =>
          match table.chains name, table.sets rule.setName with
          | some rules, some _ =>
              .ok (some { table with
                chains := Function.update table.chains name (some (rules ++ [rule])) })
          | _, _ => .error enoent
      | .addElem name key =>
          match table.sets name with
          | some keys =>
              .ok (some { table with
                sets := Function.update table.sets name (some (keys.insert key)) })
          | none => .error enoent
      | .delElem name key =>
          match table.sets name with
          | some keys =>
              if key ∈ keys then
                .ok (some { table with
                  sets := Function.update table.sets name (some (keys.erase key)) })
              else .error enoent
          | none => .error enoent

/-! ## The table of the process -/

/-- The requests of a call, by the texts that its errors give. -/
inductive Op where
  | socket
  | flushStaleTable
  | createTable
  | createSet
  | createChain
  | createRuleIif
  | createRuleOif
  | addSetElem
  | delSetElem
  | destroyTable
  deriving DecidableEq, Repr

def Op.text : Op → String
  | .socket => "socket"
  | .flushStaleTable => "flush-stale-table"
  | .createTable => "create-table"
  | .createSet => "create-set"
  | .createChain => "create-chain"
  | .createRuleIif => "create-rule-iif"
  | .createRuleOif => "create-rule-oif"
  | .addSetElem => "add-set-elem"
  | .delSetElem => "del-set-elem"
  | .destroyTable => "destroy-table"

inductive SharedMssError where
  | invalidName
  | netlink (op : Op)
  | kernel (op : Op) (errno : Nat)
  deriving DecidableEq, Repr

/-- A failure that has nothing to do with what the kernel holds. -/
inductive Fault where
  | netlink
  | kernel (errno : Nat)
  deriving DecidableEq, Repr

/-- The requests of a call that fail.  A call makes each request at most once. -/
abbrev Faults := Op → Option Fault

def noFaults : Faults := fun _ => none

def chainName (mss : UInt16) : String :=
  "fwd_" ++ toString mss.toNat

def setName (mss : UInt16) : String :=
  "ifaces_" ++ toString mss.toNat

/-- The key of an interface name: the name with its NUL, cut or filled to 16 bytes. -/
def ifKey (ifname : Bytes) : IfKey :=
  Block.ofBytes 16 (ifname ++ [0])

-- The count is one of 32 bits.  It never exceeds the number of live handles, and there are fewer than
-- `2 ^ 31` interface indices.
structure MssGroup where
  chainName : String
  setName : String
  refcount : Nat
  kernelCreated : Bool
  deriving DecidableEq, Repr

def MssGroup.new (mss : UInt16) : MssGroup :=
  ⟨Shape.chainName mss, Shape.setName mss, 0, false⟩

structure Inner where
  tableExists : Bool
  groups : UInt16 → Option MssGroup

/-- What a call leaves behind, to be undone when it is dropped. -/
structure SharedMssGuard where
  ifname : Bytes
  mss : UInt16
  deriving DecidableEq, Repr

/-- The table of the process, behind its lock, with the kernel it talks to and the transactions
that the kernel has carried out. -/
structure SharedMssTable where
  inner : Inner
  kernel : Kernel
  done : List Batch

/-- A request, or several of them, and what they leave. -/
abbrev Attempt := Except SharedMssError Unit × SharedMssTable

/-- Go on unless an error makes the call return. -/
def Attempt.andThen (attempt : Attempt) (next : SharedMssTable → Attempt) : Attempt :=
  match attempt with
  | (.ok (), s) => next s
  | (.error error, s) => (.error error, s)

theorem Attempt.andThen_eq_ok {attempt : Attempt} {next : SharedMssTable → Attempt}
    {t : SharedMssTable} (succeeded : attempt.andThen next = (.ok (), t)) :
    ∃ s, attempt = (.ok (), s) ∧ next s = (.ok (), t) := by
  rcases attempt with ⟨_ | ⟨⟩, s⟩
  · cases succeeded
  · exact ⟨s, rfl, succeeded⟩

namespace SharedMssTable

/-- A new table, before a kernel that may have a stale one. -/
def new (kernel : Kernel) : SharedMssTable :=
  ⟨⟨false, fun _ => none⟩, kernel, []⟩

def openSocket (faults : Faults) (s : SharedMssTable) : Attempt :=
  if (faults .socket).isSome then (.error (.netlink .socket), s) else (.ok (), s)

def exchangeBatch (faults : Faults) (op : Op) (batch : Batch) (s : SharedMssTable) : Attempt :=
  match faults op with
  | some .netlink => (.error (.netlink op), s)
  | some (.kernel errno) => (.error (.kernel op errno), s)
  | none =>
      match s.kernel.execute batch with
      | .ok kernel => (.ok (), { s with kernel, done := s.done ++ [batch] })
      | .error errno => (.error (.kernel op errno), s)

/-- Create the table on the first call; whether there was a stale one does not matter. -/
def ensureTable (faults : Faults) (s : SharedMssTable) : Attempt :=
  if s.inner.tableExists then (.ok (), s)
  else
    let flushed := (s.exchangeBatch faults .flushStaleTable .deleteTable).2
    Attempt.andThen (flushed.exchangeBatch faults .createTable .createTable) fun s =>
      (.ok (), { s with inner := { s.inner with tableExists := true } })

def group (mss : UInt16) (s : SharedMssTable) : MssGroup :=
  (s.inner.groups mss).getD (.new mss)

def setGroup (mss : UInt16) (group : MssGroup) (s : SharedMssTable) : SharedMssTable :=
  { s with inner := { s.inner with groups := Function.update s.inner.groups mss (some group) } }

/-- Create the set, the chain and the rules of a group, each in a transaction of its own. -/
def createGroup (faults : Faults) (mss : UInt16) (group : MssGroup) (s : SharedMssTable) :
    Attempt :=
  Attempt.andThen (s.exchangeBatch faults .createSet (.createSet group.setName)) fun s =>
  Attempt.andThen (s.exchangeBatch faults .createChain (.createChain group.chainName)) fun s =>
  Attempt.andThen (s.exchangeBatch faults .createRuleIif
    (.rule group.chainName ⟨true, group.setName, mss⟩)) fun s =>
  s.exchangeBatch faults .createRuleOif (.rule group.chainName ⟨false, group.setName, mss⟩)

def ensureGroup (faults : Faults) (mss : UInt16) (s : SharedMssTable) : Attempt :=
  -- The entry is made before anything is created in the kernel, and stays if that fails.
  let s := s.setGroup mss (s.group mss)
  if (s.group mss).kernelCreated then (.ok (), s)
  else
    Attempt.andThen (s.createGroup faults mss (s.group mss)) fun s =>
      (.ok (), s.setGroup mss { s.group mss with kernelCreated := true })

def addElement (faults : Faults) (ifname : Bytes) (mss : UInt16) (s : SharedMssTable) : Attempt :=
  Attempt.andThen
    (s.exchangeBatch faults .addSetElem (.addElem (s.group mss).setName (ifKey ifname))) fun s =>
      (.ok (), s.setGroup mss { s.group mss with refcount := (s.group mss).refcount + 1 })

/-- All requests of `add`. -/
def addRequests (faults : Faults) (ifname : Bytes) (mss : UInt16) (s : SharedMssTable) : Attempt :=
  Attempt.andThen (s.openSocket faults) fun s =>
  Attempt.andThen (s.ensureTable faults) fun s =>
  Attempt.andThen (s.ensureGroup faults mss) fun s =>
  s.addElement faults ifname mss

def add (faults : Faults) (ifname : Bytes) (mss : UInt16) (s : SharedMssTable) :
    Except SharedMssError SharedMssGuard × SharedMssTable :=
  if 0 ∈ ifname then (.error .invalidName, s)
  else
    let attempt := s.addRequests faults ifname mss
    (attempt.1.map fun _ => ⟨ifname, mss⟩, attempt.2)

/-- Take an interface out of its set.  The group stays, also when it is empty. -/
def remove (faults : Faults) (ifname : Bytes) (mss : UInt16) (s : SharedMssTable) :
    SharedMssTable :=
  if 0 ∈ ifname ∨ (faults .socket).isSome then s
  else
    match s.inner.groups mss with
    | none => s
    | some group =>
        (s.exchangeBatch faults .delSetElem (.delElem group.setName (ifKey ifname))).2.setGroup mss
          { group with refcount := group.refcount - 1 }

/-- Delete the table; it is forgotten whether or not that works. -/
def destroy (faults : Faults) (s : SharedMssTable) : SharedMssTable :=
  if ¬s.inner.tableExists ∨ (faults .socket).isSome then s
  else
    { (s.exchangeBatch faults .destroyTable .deleteTable).2 with inner := ⟨false, fun _ => none⟩ }

end SharedMssTable

/-- A call, with the requests that fail during it. -/
inductive Call where
  | add (faults : Faults) (ifname : Bytes) (mss : UInt16)
  | remove (faults : Faults) (ifname : Bytes) (mss : UInt16)

def SharedMssTable.step (s : SharedMssTable) : Call → SharedMssTable
  | .add faults ifname mss => (s.add faults ifname mss).2
  | .remove faults ifname mss => s.remove faults ifname mss

/-! ## What the kernel holds for a segment size -/

/-- A name that ends with a number tells it. -/
theorem eq_of_append_repr {tag : String} {first second : UInt16}
    (same : tag ++ first.toNat.repr = tag ++ second.toNat.repr) : first = second := by
  rw [String.append_right_inj, Nat.repr_eq_ofList_toDigits, Nat.repr_eq_ofList_toDigits,
    String.ofList_inj] at same
  have numbers := congrArg (Nat.ofDigitChars 10 · 0) same
  rw [Nat.ofDigitChars_ten_toDigits, Nat.ofDigitChars_ten_toDigits] at numbers
  exact UInt16.toNat_inj.mp numbers

theorem chainName_injective : Function.Injective chainName :=
  fun _ _ => eq_of_append_repr

theorem setName_injective : Function.Injective setName :=
  fun _ _ => eq_of_append_repr

/-- The rules of a segment size. -/
def clampRule (ingress : Bool) (mss : UInt16) : Rule :=
  ⟨ingress, setName mss, mss⟩

def clampRules (mss : UInt16) : List Rule :=
  [clampRule true mss, clampRule false mss]

/-- The transactions that create a group. -/
def creationBatches (mss : UInt16) : List Batch :=
  [.createSet (setName mss), .createChain (chainName mss),
    .rule (chainName mss) (clampRule true mss), .rule (chainName mss) (clampRule false mss)]

/-- The set of a segment size. -/
def Kernel.set (kernel : Kernel) (mss : UInt16) : Option (List IfKey) :=
  kernel.bind fun table => table.sets (setName mss)

/-- The chain of a segment size. -/
def Kernel.chain (kernel : Kernel) (mss : UInt16) : Option (List Rule) :=
  kernel.bind fun table => table.chains (chainName mss)

/-- A table with a new set under the name of a segment size. -/
theorem Kernel.set_update (table : KernelTable) (mss : UInt16) (keys : Option (List IfKey)) :
    Kernel.set (some { table with sets := Function.update table.sets (setName mss) keys }) =
      Function.update (Kernel.set (some table)) mss keys :=
  Function.update_comp_eq_of_injective table.sets setName_injective mss keys

theorem Kernel.chain_update (table : KernelTable) (mss : UInt16) (rules : Option (List Rule)) :
    Kernel.chain
        (some { table with chains := Function.update table.chains (chainName mss) rules }) =
      Function.update (Kernel.chain (some table)) mss rules :=
  Function.update_comp_eq_of_injective table.chains chainName_injective mss rules

section Execute

variable {kernel next : Kernel} {mss : UInt16}

theorem execute_createSet (executed : kernel.execute (.createSet (setName mss)) = .ok next) :
    kernel.set mss = none ∧ next.isSome ∧ next.set = Function.update kernel.set mss (some []) ∧
      next.chain = kernel.chain := by
  cases kernel with
  | none => cases executed
  | some table =>
      dsimp only [Kernel.execute] at executed
      split_ifs at executed with present
      cases executed
      exact ⟨Option.not_isSome_iff_eq_none.mp present, rfl, Kernel.set_update table mss _, rfl⟩

theorem execute_createChain (executed : kernel.execute (.createChain (chainName mss)) = .ok next) :
    kernel.chain mss = none ∧ next.isSome ∧ next.set = kernel.set ∧
      next.chain = Function.update kernel.chain mss (some []) := by
  cases kernel with
  | none => cases executed
  | some table =>
      dsimp only [Kernel.execute] at executed
      split_ifs at executed with present
      cases executed
      exact ⟨Option.not_isSome_iff_eq_none.mp present, rfl, rfl, Kernel.chain_update table mss _⟩

theorem execute_rule {ingress : Bool}
    (executed : kernel.execute (.rule (chainName mss) (clampRule ingress mss)) = .ok next) :
    ∃ rules, kernel.chain mss = some rules ∧ next.isSome ∧ next.set = kernel.set ∧
      next.chain = Function.update kernel.chain mss (some (rules ++ [clampRule ingress mss])) := by
  cases kernel with
  | none => cases executed
  | some table =>
      dsimp only [Kernel.execute] at executed
      split at executed
      · rename_i rules keys hasChain hasSet
        cases executed
        exact ⟨rules, hasChain, rfl, rfl, Kernel.chain_update table mss _⟩
      · cases executed

/-- A rule is appended to the rules that the chain has. -/
theorem rules_of_execute {chains : UInt16 → Option (List Rule)} {rules : List Rule} {ingress : Bool}
    (executed : kernel.execute (.rule (chainName mss) (clampRule ingress mss)) = .ok next)
    (before : kernel.chain = Function.update chains mss (some rules)) :
    next.isSome ∧ next.set = kernel.set ∧
      next.chain = Function.update chains mss (some (rules ++ [clampRule ingress mss])) := by
  rcases execute_rule executed with ⟨present, hasChain, there, set, chain⟩
  rw [before, Function.update_self] at hasChain
  cases hasChain
  rw [before, Function.update_idem] at chain
  exact ⟨there, set, chain⟩

theorem execute_addElem {key : IfKey}
    (executed : kernel.execute (.addElem (setName mss) key) = .ok next) :
    ∃ keys, kernel.set mss = some keys ∧ next.isSome ∧
      next.set = Function.update kernel.set mss (some (keys.insert key)) ∧
      next.chain = kernel.chain := by
  cases kernel with
  | none => cases executed
  | some table =>
      dsimp only [Kernel.execute] at executed
      split at executed
      · rename_i keys hasSet
        cases executed
        exact ⟨keys, hasSet, rfl, Kernel.set_update table mss _, rfl⟩
      · cases executed

theorem execute_delElem {key : IfKey}
    (executed : kernel.execute (.delElem (setName mss) key) = .ok next) :
    ∃ keys, kernel.set mss = some keys ∧ next.isSome ∧
      next.set = Function.update kernel.set mss (some (keys.erase key)) ∧
      next.chain = kernel.chain := by
  cases kernel with
  | none => cases executed
  | some table =>
      dsimp only [Kernel.execute] at executed
      split at executed
      · rename_i keys hasSet
        split_ifs at executed
        cases executed
        exact ⟨keys, hasSet, rfl, Kernel.set_update table mss _, rfl⟩
      · cases executed

theorem exists_execute_createSet (there : kernel.isSome = true) (absent : kernel.set mss = none) :
    ∃ next, kernel.execute (.createSet (setName mss)) = .ok next := by
  rcases Option.isSome_iff_exists.mp there with ⟨table, rfl⟩
  have free : table.sets (setName mss) = none := absent
  dsimp only [Kernel.execute]
  rw [free, if_neg (by decide)]
  exact ⟨_, rfl⟩

theorem exists_execute_createChain (there : kernel.isSome = true)
    (absent : kernel.chain mss = none) :
    ∃ next, kernel.execute (.createChain (chainName mss)) = .ok next := by
  rcases Option.isSome_iff_exists.mp there with ⟨table, rfl⟩
  have free : table.chains (chainName mss) = none := absent
  dsimp only [Kernel.execute]
  rw [free, if_neg (by decide)]
  exact ⟨_, rfl⟩

theorem exists_execute_rule {keys : List IfKey} {rules : List Rule} (ingress : Bool)
    (hasSet : kernel.set mss = some keys) (hasChain : kernel.chain mss = some rules) :
    ∃ next, kernel.execute (.rule (chainName mss) (clampRule ingress mss)) = .ok next := by
  rcases Option.bind_eq_some_iff.mp hasSet with ⟨table, rfl, named⟩
  have hasChain : table.chains (chainName mss) = some rules := hasChain
  dsimp only [Kernel.execute, clampRule]
  rw [hasChain, named]
  exact ⟨_, rfl⟩

theorem exists_execute_addElem {keys : List IfKey} (hasSet : kernel.set mss = some keys)
    (key : IfKey) : ∃ next, kernel.execute (.addElem (setName mss) key) = .ok next := by
  rcases Option.bind_eq_some_iff.mp hasSet with ⟨table, rfl, named⟩
  dsimp only [Kernel.execute]
  rw [named]
  exact ⟨_, rfl⟩

theorem exists_execute_delElem {keys : List IfKey} (hasSet : kernel.set mss = some keys)
    {key : IfKey} (member : key ∈ keys) :
    ∃ next, kernel.execute (.delElem (setName mss) key) = .ok next := by
  rcases Option.bind_eq_some_iff.mp hasSet with ⟨table, rfl, named⟩
  dsimp only [Kernel.execute]
  rw [named]
  exact ⟨_, if_pos member⟩

end Execute

/-! ## One request -/

/-- The request at which a call has failed. -/
def SharedMssError.op? : SharedMssError → Option Op
  | .invalidName => none
  | .netlink op | .kernel op _ => some op

section Requests

variable {faults : Faults} {op : Op} {batch : Batch} {s : SharedMssTable}

/-- A request fails without effect, or the kernel carries it out. -/
theorem exchangeBatch_cases (faults : Faults) (op : Op) (batch : Batch) (s : SharedMssTable) :
    (∃ error, error.op? = some op ∧ s.exchangeBatch faults op batch = (.error error, s)) ∨
      ∃ kernel, s.kernel.execute batch = .ok kernel ∧
        s.exchangeBatch faults op batch =
          (.ok (), { s with kernel, done := s.done ++ [batch] }) := by
  unfold SharedMssTable.exchangeBatch
  cases faults op with
  | some fault =>
      cases fault with
      | netlink => exact .inl ⟨.netlink op, rfl, rfl⟩
      | kernel errno => exact .inl ⟨.kernel op errno, rfl, rfl⟩
  | none =>
      cases s.kernel.execute batch with
      | ok kernel => exact .inr ⟨kernel, rfl, rfl⟩
      | error errno => exact .inl ⟨.kernel op errno, rfl, rfl⟩

theorem exchangeBatch_ok {kernel : Kernel} (executed : s.kernel.execute batch = .ok kernel) :
    s.exchangeBatch noFaults op batch = (.ok (), { s with kernel, done := s.done ++ [batch] }) := by
  dsimp only [SharedMssTable.exchangeBatch, noFaults]
  rw [executed]

end Requests

/-! ## The record and the kernel -/

namespace SharedMssTable

/-- The process has recorded the group of a segment size as created. -/
def created (s : SharedMssTable) (mss : UInt16) : Bool :=
  (s.inner.groups mss).any MssGroup.kernelCreated

/-- What the process has recorded is there. -/
structure Consistent (s : SharedMssTable) : Prop where
  closed : s.inner.tableExists = false → ∀ mss, s.inner.groups mss = none
  opened : s.inner.tableExists = true → s.kernel.isSome = true
  named : ∀ mss group, s.inner.groups mss = some group →
    group.setName = setName mss ∧ group.chainName = chainName mss
  complete : ∀ mss, s.created mss = true →
    (s.kernel.set mss).isSome = true ∧ s.kernel.chain mss = some (clampRules mss)
  untouched : s.inner.tableExists = true → ∀ mss, s.created mss = false →
    s.kernel.set mss = none → s.kernel.chain mss = none

/-- The kernel has a set for a segment size that the process has not recorded. -/
def Stranded (s : SharedMssTable) (mss : UInt16) : Prop :=
  s.inner.tableExists = true ∧ s.created mss = false ∧ (s.kernel.set mss).isSome = true

theorem consistent_new (kernel : Kernel) : (new kernel).Consistent where
  closed _ _ := rfl
  opened := nofun
  named := nofun
  complete := nofun
  untouched := nofun

theorem not_stranded_new (kernel : Kernel) (mss : UInt16) : ¬(new kernel).Stranded mss :=
  nofun

variable {s t : SharedMssTable} {mss : UInt16}

theorem group_named (consistent : s.Consistent) (mss : UInt16) :
    (s.group mss).setName = setName mss ∧ (s.group mss).chainName = chainName mss := by
  unfold group
  cases found : s.inner.groups mss with
  | none => exact ⟨rfl, rfl⟩
  | some group => exact consistent.named mss group found

theorem kernelCreated_group (s : SharedMssTable) (mss : UInt16) :
    (s.group mss).kernelCreated = s.created mss := by
  unfold group created
  cases s.inner.groups mss <;> rfl

@[simp]
theorem groups_setGroup (s : SharedMssTable) (mss : UInt16) (group : MssGroup) :
    (s.setGroup mss group).inner.groups = Function.update s.inner.groups mss (some group) :=
  rfl

@[simp]
theorem kernel_setGroup (s : SharedMssTable) (mss : UInt16) (group : MssGroup) :
    (s.setGroup mss group).kernel = s.kernel :=
  rfl

@[simp]
theorem group_setGroup (s : SharedMssTable) (mss : UInt16) (group : MssGroup) :
    (s.setGroup mss group).group mss = group := by
  simp [SharedMssTable.group, setGroup]

section Inner

variable {group : MssGroup}

theorem group_of_inner (inner : t.inner = (s.setGroup mss group).inner) : t.group mss = group := by
  rw [← group_setGroup s mss group]
  unfold SharedMssTable.group
  rw [inner]

theorem groups_of_inner (inner : t.inner = (s.setGroup mss group).inner) (later : MssGroup) :
    (t.setGroup mss later).inner.groups = Function.update s.inner.groups mss (some later) := by
  rw [groups_setGroup, inner, groups_setGroup, Function.update_idem]

end Inner

/-- A call for one segment size has changed its group, its set and its chain, and no other. -/
structure Alters (mss : UInt16) (group : MssGroup) (s t : SharedMssTable) : Prop where
  named : group.setName = setName mss ∧ group.chainName = chainName mss
  tableExists : t.inner.tableExists = true
  there : t.kernel.isSome = true
  groups : t.inner.groups = Function.update s.inner.groups mss (some group)
  set : ∀ other, other ≠ mss → t.kernel.set other = s.kernel.set other
  chain : ∀ other, other ≠ mss → t.kernel.chain other = s.kernel.chain other

section Alters

variable {group : MssGroup}

theorem Alters.created_self (alters : Alters mss group s t) :
    t.created mss = group.kernelCreated := by
  rw [created, alters.groups, Function.update_self]
  rfl

theorem Alters.created_of_ne (alters : Alters mss group s t) {other : UInt16}
    (differs : other ≠ mss) : t.created other = s.created other := by
  rw [created, alters.groups, Function.update_of_ne differs]
  rfl

theorem Alters.consistent (alters : Alters mss group s t) (consistent : s.Consistent)
    (opened : s.inner.tableExists = true)
    (complete : group.kernelCreated = true →
      (t.kernel.set mss).isSome = true ∧ t.kernel.chain mss = some (clampRules mss))
    (untouched : group.kernelCreated = false → t.kernel.set mss = none →
      t.kernel.chain mss = none) : t.Consistent where
  closed closed := absurd alters.tableExists (by rw [closed]; decide)
  opened _ := alters.there
  named other found present := by
    rw [alters.groups] at present
    by_cases equal : other = mss
    · subst equal
      rw [Function.update_self] at present
      cases present
      exact alters.named
    · rw [Function.update_of_ne equal] at present
      exact consistent.named other found present
  complete other isCreated := by
    by_cases equal : other = mss
    · subst equal
      rw [alters.created_self] at isCreated
      exact complete isCreated
    · rw [alters.created_of_ne equal] at isCreated
      rw [alters.set other equal, alters.chain other equal]
      exact consistent.complete other isCreated
  untouched _ other uncreated absent := by
    by_cases equal : other = mss
    · subst equal
      rw [alters.created_self] at uncreated
      exact untouched uncreated absent
    · rw [alters.created_of_ne equal] at uncreated
      rw [alters.set other equal] at absent
      rw [alters.chain other equal]
      exact consistent.untouched opened other uncreated absent

theorem Alters.stranded_self (alters : Alters mss group s t) :
    t.Stranded mss ↔ group.kernelCreated = false ∧ (t.kernel.set mss).isSome = true := by
  rw [Stranded, alters.created_self]
  exact ⟨fun stranded => stranded.2, fun stranded => ⟨alters.tableExists, stranded⟩⟩

theorem Alters.stranded_of_ne (alters : Alters mss group s t)
    (opened : s.inner.tableExists = true) {other : UInt16} (differs : other ≠ mss) :
    t.Stranded other ↔ s.Stranded other := by
  rw [Stranded, Stranded, alters.created_of_ne differs, alters.set other differs,
    alters.tableExists, opened]

end Alters

/-- Without a table, nothing has been recorded. -/
theorem consistent_of_closed (closed : s.inner.tableExists = false)
    (none : ∀ mss, s.inner.groups mss = none) : s.Consistent where
  closed _ := none
  opened opened := absurd opened (by rw [closed]; decide)
  named mss group present := by
    rw [none mss] at present
    cases present
  complete mss isCreated := by
    rw [created, none mss] at isCreated
    cases isCreated
  untouched opened := absurd opened (by rw [closed]; decide)

end SharedMssTable

/-! ## What a call leaves -/

/-- The requests that leave a set without a record when they fail. -/
def Op.strands : Op → Bool
  | .createChain | .createRuleIif | .createRuleOif => true
  | _ => false

/-- An error at one of these requests. -/
def Late {α : Type} (result : Except SharedMssError α) : Prop :=
  ∃ error op, result = .error error ∧ error.op? = some op ∧ op.strands = true

theorem not_late_ok {α : Type} (value : α) : ¬Late (.ok value : Except SharedMssError α) :=
  nofun

theorem late_error {α : Type} {error : SharedMssError} {op : Op} (at' : error.op? = some op) :
    Late (.error error : Except SharedMssError α) ↔ op.strands = true := by
  constructor
  · rintro ⟨_, other, same, atOther, strands⟩
    cases same
    rw [at'] at atOther
    cases atOther
    exact strands
  · exact fun strands => ⟨error, op, rfl, at', strands⟩

theorem not_late_error {α : Type} {error : SharedMssError} {op : Op} (at' : error.op? = some op)
    (early : op.strands = false) : ¬Late (.error error : Except SharedMssError α) := by
  rw [late_error at', early]
  decide

/-- Requests for a segment size keep the record consistent, and strand a set only by failing
late. -/
structure Sound (mss : UInt16) (s : SharedMssTable) (attempt : Attempt) : Prop where
  consistent : attempt.2.Consistent
  stranded : ∀ other, attempt.2.Stranded other ↔
    s.Stranded other ∨ other = mss ∧ Late attempt.1

namespace Sound

variable {mss : UInt16} {s t : SharedMssTable} {attempt : Attempt}

theorem quiet {result : Except SharedMssError Unit} (consistent : t.Consistent)
    (stranded : ∀ other, t.Stranded other ↔ s.Stranded other) (early : ¬Late result) :
    Sound mss s (result, t) :=
  ⟨consistent, fun other => (stranded other).trans (or_iff_left fun late => early late.2).symm⟩

/-- Requests that succeed strand no set. -/
theorem stranded_of_ok {value : Unit} (sound : Sound mss s (.ok value, t)) (other : UInt16) :
    t.Stranded other ↔ s.Stranded other :=
  (sound.stranded other).trans (or_iff_left fun late => not_late_ok _ late.2)

theorem andThen {next : SharedMssTable → Attempt} (first : Sound mss s attempt)
    (second : ∀ t, attempt = (.ok (), t) → Sound mss t (next t)) :
    Sound mss s (attempt.andThen next) := by
  rcases attempt with ⟨_ | ⟨⟩, t⟩
  · exact first
  · have later := second t rfl
    refine ⟨later.consistent, fun other => (later.stranded other).trans ?_⟩
    rw [first.stranded_of_ok]
    rfl

end Sound

namespace SharedMssTable

variable {s : SharedMssTable}

theorem sound_openSocket (faults : Faults) (mss : UInt16) (consistent : s.Consistent) :
    Sound mss s (s.openSocket faults) := by
  unfold openSocket
  split_ifs
  · exact .quiet consistent (fun _ => .rfl) (not_late_error rfl rfl)
  · exact .quiet consistent (fun _ => .rfl) (not_late_ok _)

theorem exchangeBatch_inner (faults : Faults) (op : Op) (batch : Batch) (s : SharedMssTable) :
    (s.exchangeBatch faults op batch).2.inner = s.inner := by
  rcases exchangeBatch_cases faults op batch s with ⟨_, -, failed⟩ | ⟨_, -, done⟩
  · rw [failed]
  · rw [done]

theorem sound_ensureTable (faults : Faults) (mss : UInt16) (consistent : s.Consistent) :
    Sound mss s (s.ensureTable faults) := by
  unfold ensureTable
  split_ifs with opened
  · exact .quiet consistent (fun _ => .rfl) (not_late_ok _)
  · have closed : s.inner.tableExists = false := Bool.eq_false_of_not_eq_true opened
    have none := consistent.closed closed
    have never : ∀ other, ¬s.Stranded other := fun other stranded => opened stranded.1
    have inner := exchangeBatch_inner faults .flushStaleTable .deleteTable s
    generalize (s.exchangeBatch faults .flushStaleTable .deleteTable).2 = flushed at inner ⊢
    dsimp only
    rcases exchangeBatch_cases faults .createTable .createTable flushed with
      ⟨error, atTable, failed⟩ | ⟨kernel, executed, done⟩
    · rw [failed, Attempt.andThen]
      refine .quiet (consistent_of_closed ?_ ?_) (fun other => ?_) (not_late_error atTable rfl)
      · rw [inner, closed]
      · rw [inner]
        exact none
      · exact ⟨fun stranded => absurd stranded.1 (by rw [inner]; exact opened),
          fun stranded => (never other stranded).elim⟩
    · have fresh : kernel = some .empty := by
        cases before : flushed.kernel with
        | none =>
            rw [before] at executed
            cases executed
            rfl
        | some table =>
            rw [before] at executed
            cases executed
      subst fresh
      rw [done, Attempt.andThen]
      refine .quiet ⟨nofun, fun _ => rfl, ?_, ?_, fun _ _ _ _ => rfl⟩ (fun other => ?_)
        (not_late_ok _)
      · intro other group present
        rw [show flushed.inner.groups other = _ from congrArg (Inner.groups · other) inner,
          none other] at present
        cases present
      · intro other isCreated
        rw [created, show flushed.inner.groups other = _ from congrArg (Inner.groups · other) inner,
          none other] at isCreated
        cases isCreated
      · exact ⟨nofun, fun stranded => (never other stranded).elim⟩

theorem tableExists_of_ensureTable {faults : Faults} {t : SharedMssTable}
    (ensured : s.ensureTable faults = (.ok (), t)) : t.inner.tableExists = true := by
  unfold ensureTable at ensured
  split_ifs at ensured with opened
  · cases ensured
    exact opened
  · dsimp only at ensured
    rcases exchangeBatch_cases faults .createTable .createTable
      (s.exchangeBatch faults .flushStaleTable .deleteTable).2 with
      ⟨error, -, failed⟩ | ⟨kernel, -, done⟩
    · rw [failed] at ensured
      cases ensured
    · rw [done] at ensured
      cases ensured
      rfl

/-- How far the creation of a group gets. -/
inductive Creation (mss : UInt16) (s : SharedMssTable) : Attempt → Prop
  | rejected {error : SharedMssError} :
      error.op? = some .createSet → Creation mss s (.error error, s)
  | stranded {error : SharedMssError} {op : Op} {t : SharedMssTable} :
      error.op? = some op → op.strands = true → t.inner = s.inner → s.kernel.set mss = none →
      t.kernel.isSome = true → t.kernel.set = Function.update s.kernel.set mss (some []) →
      (∀ other, other ≠ mss → t.kernel.chain other = s.kernel.chain other) →
        Creation mss s (.error error, t)
  | complete {t : SharedMssTable} :
      t.inner = s.inner → s.kernel.set mss = none → t.kernel.isSome = true →
      t.kernel.set = Function.update s.kernel.set mss (some []) →
      t.kernel.chain = Function.update s.kernel.chain mss (some (clampRules mss)) →
      t.done = s.done ++ creationBatches mss → Creation mss s (.ok (), t)

theorem creation_createGroup (faults : Faults) {mss : UInt16} {group : MssGroup}
    (named : group.setName = setName mss ∧ group.chainName = chainName mss) :
    Creation mss s (s.createGroup faults mss group) := by
  unfold createGroup
  rw [named.1, named.2]
  rcases exchangeBatch_cases faults .createSet (.createSet (setName mss)) s with
    ⟨error, atSet, failed⟩ | ⟨kernel₁, executed, done⟩
  · rw [failed, Attempt.andThen]
    exact .rejected atSet
  rw [done, Attempt.andThen]
  rcases execute_createSet executed with ⟨absent, there₁, set₁, chain₁⟩
  -- From here on a failure leaves the set behind.
  rcases exchangeBatch_cases faults .createChain (.createChain (chainName mss))
    { s with kernel := kernel₁, done := s.done ++ [.createSet (setName mss)] } with
    ⟨error, atChain, failed⟩ | ⟨kernel₂, executed, done⟩
  · rw [failed, Attempt.andThen]
    exact .stranded atChain rfl rfl absent there₁ set₁ fun other _ => congrFun chain₁ other
  rw [done, Attempt.andThen]
  rcases execute_createChain executed with ⟨-, there₂, set₂, chain₂⟩
  dsimp only at set₂ chain₂
  rw [set₁] at set₂
  rw [chain₁] at chain₂
  rcases exchangeBatch_cases faults .createRuleIif (.rule (chainName mss) (clampRule true mss))
    { s with
      kernel := kernel₂
      done := s.done ++ [.createSet (setName mss)] ++ [.createChain (chainName mss)] } with
    ⟨error, atRule, failed⟩ | ⟨kernel₃, executed, done⟩
  · rw [← clampRule, failed, Attempt.andThen]
    refine .stranded atRule rfl rfl absent there₂ set₂ fun other differs => ?_
    rw [chain₂, Function.update_of_ne differs]
  rw [← clampRule, done, Attempt.andThen]
  rcases rules_of_execute executed chain₂ with ⟨there₃, set₃, chain₃⟩
  rw [set₂] at set₃
  rcases exchangeBatch_cases faults .createRuleOif (.rule (chainName mss) (clampRule false mss))
    { s with
      kernel := kernel₃
      done := s.done ++ [.createSet (setName mss)] ++ [.createChain (chainName mss)] ++
        [.rule (chainName mss) (clampRule true mss)] } with
    ⟨error, atRule, failed⟩ | ⟨kernel₄, executed, done⟩
  · rw [← clampRule, failed]
    refine .stranded atRule rfl rfl absent there₃ set₃ fun other differs => ?_
    rw [chain₃, Function.update_of_ne differs]
  rw [← clampRule, done]
  rcases rules_of_execute executed chain₃ with ⟨there₄, set₄, chain₄⟩
  exact .complete rfl absent there₄ (set₄.trans set₃) chain₄ (by simp [creationBatches])

theorem stranded_iff (opened : s.inner.tableExists = true) (mss : UInt16) :
    s.Stranded mss ↔ (s.group mss).kernelCreated = false ∧ (s.kernel.set mss).isSome = true := by
  rw [Stranded, kernelCreated_group]
  exact ⟨fun stranded => stranded.2, fun stranded => ⟨opened, stranded⟩⟩

/-- A call that alters a segment size is sound when it is so at that segment size. -/
theorem Alters.sound {mss : UInt16} {group : MssGroup} {t : SharedMssTable}
    {result : Except SharedMssError Unit} (alters : Alters mss group s t)
    (consistent : s.Consistent) (opened : s.inner.tableExists = true)
    (complete : group.kernelCreated = true →
      (t.kernel.set mss).isSome = true ∧ t.kernel.chain mss = some (clampRules mss))
    (untouched : group.kernelCreated = false → t.kernel.set mss = none →
      t.kernel.chain mss = none)
    (stranded : group.kernelCreated = false ∧ (t.kernel.set mss).isSome = true ↔
      ((s.group mss).kernelCreated = false ∧ (s.kernel.set mss).isSome = true) ∨ Late result) :
    Sound mss s (result, t) := by
  refine ⟨alters.consistent consistent opened complete untouched, fun other => ?_⟩
  by_cases equal : other = mss
  · subst equal
    rw [alters.stranded_self, stranded, stranded_iff opened]
    simp
  · rw [alters.stranded_of_ne opened equal]
    simp [equal]

theorem sound_ensureGroup (faults : Faults) {mss : UInt16} (consistent : s.Consistent)
    (opened : s.inner.tableExists = true) : Sound mss s (s.ensureGroup faults mss) := by
  have named := group_named consistent mss
  have recorded := kernelCreated_group s mss
  have entered : Alters mss (s.group mss) s (s.setGroup mss (s.group mss)) :=
    ⟨named, opened, consistent.opened opened, rfl, fun _ _ => rfl, fun _ _ => rfl⟩
  have complete : (s.group mss).kernelCreated = true →
      (s.kernel.set mss).isSome = true ∧ s.kernel.chain mss = some (clampRules mss) :=
    fun isCreated => consistent.complete mss (by rwa [recorded] at isCreated)
  have untouched : (s.group mss).kernelCreated = false → s.kernel.set mss = none →
      s.kernel.chain mss = none :=
    fun uncreated => consistent.untouched opened mss (by rwa [recorded] at uncreated)
  unfold ensureGroup
  dsimp only
  rw [group_setGroup]
  split_ifs with isCreated
  · exact entered.sound consistent opened complete untouched
      (or_iff_left (not_late_ok _)).symm
  · have creation := creation_createGroup (s := s.setGroup mss (s.group mss)) faults named
    generalize (s.setGroup mss (s.group mss)).createGroup faults mss (s.group mss) = attempt
      at creation ⊢
    cases creation with
    | @rejected error atSet =>
        exact entered.sound consistent opened complete untouched
          (or_iff_left (not_late_error atSet rfl)).symm
    | @stranded error op t at' strands inner absent there set chain =>
        have altered : Alters mss (s.group mss) s t := by
          refine ⟨named, (congrArg Inner.tableExists inner).trans opened, there,
            congrArg Inner.groups inner, fun other differs => ?_, chain⟩
          rw [set, Function.update_of_ne differs]
          rfl
        have present : t.kernel.set mss = some [] := by
          rw [set, Function.update_self]
        have late : Late (.error error : Except SharedMssError Unit) := (late_error at').mpr strands
        refine altered.sound consistent opened (fun isCreated' => (isCreated isCreated').elim)
          (fun _ absent' => ?_) ⟨fun _ => .inr late, fun _ => ⟨?_, ?_⟩⟩
        · rw [present] at absent'
          cases absent'
        · exact Bool.eq_false_of_not_eq_true isCreated
        · rw [present]
          rfl
    | @complete t inner absent there set chain done =>
        have altered : Alters mss { s.group mss with kernelCreated := true } s
            (t.setGroup mss { t.group mss with kernelCreated := true }) := by
          refine ⟨named, (congrArg Inner.tableExists inner).trans opened, there, ?_,
            fun other differs => ?_, fun other differs => ?_⟩
          · rw [groups_of_inner inner, group_of_inner inner]
          · rw [kernel_setGroup, set, Function.update_of_ne differs]
            rfl
          · rw [kernel_setGroup, chain, Function.update_of_ne differs]
            rfl
        refine altered.sound consistent opened (fun _ => ?_) nofun
          ⟨nofun, fun either => ?_⟩
        · rw [kernel_setGroup, set, chain, Function.update_self, Function.update_self]
          exact ⟨rfl, rfl⟩
        · rcases either with stranded | late
          · have absent' : s.kernel.set mss = none := absent
            rw [absent'] at stranded
            cases stranded.2
          · exact (not_late_ok _ late).elim

theorem tableExists_of_group {mss : UInt16} {group : MssGroup} (consistent : s.Consistent)
    (found : s.inner.groups mss = some group) : s.inner.tableExists = true := by
  by_contra closed
  rw [consistent.closed (Bool.eq_false_of_not_eq_true closed) mss] at found
  cases found

theorem tableExists_of_created {mss : UInt16} (consistent : s.Consistent)
    (isCreated : s.created mss = true) : s.inner.tableExists = true := by
  rcases (Option.any_eq_true _ _).mp isCreated with ⟨group, found, -⟩
  exact tableExists_of_group consistent found

theorem created_of_ensureGroup {faults : Faults} {mss : UInt16} {t : SharedMssTable}
    (ensured : s.ensureGroup faults mss = (.ok (), t)) : t.created mss = true := by
  unfold ensureGroup at ensured
  dsimp only at ensured
  split_ifs at ensured with isCreated
  · cases ensured
    rw [← kernelCreated_group]
    exact isCreated
  · rcases attempt : (s.setGroup mss (s.group mss)).createGroup faults mss
      ((s.setGroup mss (s.group mss)).group mss) with ⟨_ | ⟨⟩, u⟩
    · rw [attempt] at ensured
      cases ensured
    · rw [attempt] at ensured
      cases ensured
      rw [← kernelCreated_group, group_setGroup]

/-- A new count of a group, and perhaps new elements of its set. -/
theorem sound_recount {mss : UInt16} (refcount : Nat) {kernel : Kernel} (done : List Batch)
    {result : Except SharedMssError Unit} (early : ¬Late result) (consistent : s.Consistent)
    (opened : s.inner.tableExists = true) (there : kernel.isSome = true)
    (still : (kernel.set mss).isSome = (s.kernel.set mss).isSome)
    (set : ∀ other, other ≠ mss → kernel.set other = s.kernel.set other)
    (chain : kernel.chain = s.kernel.chain) :
    Sound mss s (result,
      ({ s with kernel, done } : SharedMssTable).setGroup mss { s.group mss with refcount }) := by
  have altered : Alters mss { s.group mss with refcount } s
      (({ s with kernel, done } : SharedMssTable).setGroup mss { s.group mss with refcount }) :=
    ⟨group_named consistent mss, opened, there, rfl, set, fun other _ => congrFun chain other⟩
  have recorded := kernelCreated_group s mss
  refine altered.sound consistent opened (fun isCreated => ?_) (fun uncreated absent => ?_) ?_
  · rw [kernel_setGroup, still, chain]
    exact consistent.complete mss (recorded.symm.trans isCreated)
  · rw [kernel_setGroup] at absent ⊢
    have absent' : s.kernel.set mss = none := by
      rwa [← Option.isNone_iff_eq_none, ← Option.not_isSome, ← still, Option.not_isSome,
        Option.isNone_iff_eq_none]
    rw [chain]
    exact consistent.untouched opened mss (recorded.symm.trans uncreated) absent'
  · rw [kernel_setGroup, still]
    exact (or_iff_left early).symm

theorem sound_addElement (faults : Faults) (ifname : Bytes) {mss : UInt16}
    (consistent : s.Consistent) (opened : s.inner.tableExists = true) :
    Sound mss s (s.addElement faults ifname mss) := by
  unfold addElement
  rw [(group_named consistent mss).1]
  rcases exchangeBatch_cases faults .addSetElem (.addElem (setName mss) (ifKey ifname)) s with
    ⟨error, at', failed⟩ | ⟨kernel, executed, done⟩
  · rw [failed, Attempt.andThen]
    exact .quiet consistent (fun _ => .rfl) (not_late_error at' rfl)
  · rw [done, Attempt.andThen]
    rcases execute_addElem executed with ⟨keys, before, there, set, chain⟩
    refine sound_recount _ _ (not_late_ok _) consistent opened there ?_ (fun other differs => ?_)
      chain
    · rw [set, Function.update_self, before]
      rfl
    · rw [set, Function.update_of_ne differs]

theorem sound_addRequests (faults : Faults) (ifname : Bytes) (mss : UInt16)
    (consistent : s.Consistent) : Sound mss s (s.addRequests faults ifname mss) := by
  refine (sound_openSocket faults mss consistent).andThen fun t opened => ?_
  have soundSocket := sound_openSocket faults mss consistent
  rw [opened] at soundSocket
  have soundTable := sound_ensureTable faults mss soundSocket.consistent
  refine soundTable.andThen fun u ensured => ?_
  rw [ensured] at soundTable
  have exists' := tableExists_of_ensureTable ensured
  have soundGroup : Sound mss u (u.ensureGroup faults mss) :=
    sound_ensureGroup faults soundTable.consistent exists'
  refine soundGroup.andThen fun v made => ?_
  rw [made] at soundGroup
  exact sound_addElement faults ifname soundGroup.consistent (tableExists_of_created
    soundGroup.consistent (created_of_ensureGroup made))

theorem late_map {α β : Type} (f : α → β) (result : Except SharedMssError α) :
    Late (result.map f) ↔ Late result := by
  cases result with
  | ok value => exact ⟨nofun, nofun⟩
  | error error =>
      constructor <;> rintro ⟨_, op, same, at', strands⟩ <;> cases same <;>
        exact ⟨error, op, rfl, at', strands⟩

/-- A call to `add` keeps the record consistent, and strands a set only by failing late. -/
theorem sound_add (faults : Faults) (ifname : Bytes) (mss : UInt16) (consistent : s.Consistent) :
    (s.add faults ifname mss).2.Consistent ∧
      ∀ other, (s.add faults ifname mss).2.Stranded other ↔
        s.Stranded other ∨ other = mss ∧ Late (s.add faults ifname mss).1 := by
  unfold add
  split_ifs
  · refine ⟨consistent, fun other => (or_iff_left ?_).symm⟩
    rintro ⟨-, error, op, same, at', -⟩
    cases same
    cases at'
  · have sound := sound_addRequests faults ifname mss consistent
    dsimp only
    simp only [late_map]
    exact ⟨sound.consistent, sound.stranded⟩

theorem sound_remove (faults : Faults) (ifname : Bytes) (mss : UInt16) (consistent : s.Consistent) :
    (s.remove faults ifname mss).Consistent ∧
      ∀ other, (s.remove faults ifname mss).Stranded other ↔ s.Stranded other := by
  unfold remove
  split_ifs
  · exact ⟨consistent, fun _ => .rfl⟩
  · split
    · exact ⟨consistent, fun _ => .rfl⟩
    · rename_i group found
      have opened := tableExists_of_group consistent found
      have isGroup : s.group mss = group := by
        rw [SharedMssTable.group, found]
        rfl
      subst isGroup
      have sound : Sound mss s (.ok (),
          (s.exchangeBatch faults .delSetElem
            (.delElem (s.group mss).setName (ifKey ifname))).2.setGroup mss
              { s.group mss with refcount := (s.group mss).refcount - 1 }) := by
        rcases exchangeBatch_cases faults .delSetElem
          (.delElem (s.group mss).setName (ifKey ifname)) s with
          ⟨error, -, failed⟩ | ⟨kernel, executed, done⟩
        · rw [failed]
          exact sound_recount _ s.done (not_late_ok _) consistent opened
            (consistent.opened opened) rfl (fun _ _ => rfl) rfl
        · rw [done]
          rw [(group_named consistent mss).1] at executed
          rcases execute_delElem executed with ⟨keys, before, there, set, chain⟩
          refine sound_recount _ _ (not_late_ok _) consistent opened there ?_
            (fun other differs => ?_) chain
          · rw [set, Function.update_self, before]
            rfl
          · rw [set, Function.update_of_ne differs]
      exact ⟨sound.consistent, sound.stranded_of_ok⟩

end SharedMssTable

/-! ## Runs -/

/-- A call to `add` that fails after it has created the set of a segment size. -/
def Call.strands (mss : UInt16) (s : SharedMssTable) : Call → Prop
  | .add faults ifname at' => at' = mss ∧ Late (s.add faults ifname at').1
  | .remove _ _ _ => False

namespace SharedMssTable

theorem step_sound {s : SharedMssTable} (consistent : s.Consistent) (call : Call) :
    (s.step call).Consistent ∧
      ∀ mss, (s.step call).Stranded mss ↔ s.Stranded mss ∨ call.strands mss s := by
  cases call with
  | add faults ifname mss =>
      have sound := sound_add faults ifname mss consistent
      refine ⟨sound.1, fun other => (sound.2 other).trans ?_⟩
      rw [Call.strands, eq_comm]
  | remove faults ifname mss =>
      have sound := sound_remove faults ifname mss consistent
      exact ⟨sound.1, fun other => (sound.2 other).trans (or_false _).symm.to_iff⟩

theorem run_sound {s : SharedMssTable} (consistent : s.Consistent) (calls : List Call) :
    (finalState step s calls).Consistent ∧
      ∀ mss, (finalState step s calls).Stranded mss ↔
        s.Stranded mss ∨ ∃ visit ∈ visits step s calls, visit.2.strands mss visit.1 := by
  induction calls generalizing s with
  | nil => exact ⟨consistent, fun mss => by simp⟩
  | cons call rest ih =>
      rcases step_sound consistent call with ⟨kept, stranded⟩
      rcases ih kept with ⟨final, strandedLater⟩
      refine ⟨final, fun mss => (strandedLater mss).trans ?_⟩
      rw [stranded, visits_cons, List.exists_mem_cons_iff, or_assoc]

end SharedMssTable

/-! ## Calls without failures -/

namespace SharedMssTable

variable {s : SharedMssTable} {mss : UInt16}

theorem ensureTable_noFaults (s : SharedMssTable) :
    ∃ t, s.ensureTable noFaults = (.ok (), t) ∧ t.inner.groups = s.inner.groups ∧
      (s.inner.tableExists = true → t = s) ∧
      ∃ before : List Batch, (∀ batch ∈ before, batch = .createTable ∨ batch = .deleteTable) ∧
        t.done = s.done ++ before := by
  unfold ensureTable
  split_ifs with opened
  · exact ⟨s, rfl, rfl, fun _ => rfl, [], nofun, (List.append_nil _).symm⟩
  · have inner := exchangeBatch_inner noFaults .flushStaleTable .deleteTable s
    -- Whether or not there was a stale table, there is none now.
    have flushed : (s.exchangeBatch noFaults .flushStaleTable .deleteTable).2.kernel = none ∧
        ∃ before : List Batch, (∀ batch ∈ before, batch = .deleteTable) ∧
          (s.exchangeBatch noFaults .flushStaleTable .deleteTable).2.done = s.done ++ before := by
      dsimp only [exchangeBatch, noFaults]
      cases stale : s.kernel with
      | none => exact ⟨stale, [], nofun, (List.append_nil _).symm⟩
      | some table => exact ⟨rfl, [.deleteTable], by simp, rfl⟩
    generalize (s.exchangeBatch noFaults .flushStaleTable .deleteTable).2 = t at inner flushed ⊢
    rcases flushed with ⟨gone, before, deletes, done⟩
    have executed : t.kernel.execute .createTable = .ok (some .empty) := by
      rw [gone]
      rfl
    dsimp only
    rw [exchangeBatch_ok executed, Attempt.andThen]
    have groups : t.inner.groups = s.inner.groups := congrArg Inner.groups inner
    refine ⟨_, rfl, groups, fun opened' => (opened opened').elim, before ++ [.createTable], ?_, ?_⟩
    · intro batch member
      rcases List.mem_append.mp member with earlier | last
      · exact .inr (deletes batch earlier)
      · exact .inl (List.mem_singleton.mp last)
    · rw [done, List.append_assoc]

theorem createGroup_noFaults {group : MssGroup} (there : s.kernel.isSome = true)
    (noSet : s.kernel.set mss = none) (noChain : s.kernel.chain mss = none)
    (named : group.setName = setName mss ∧ group.chainName = chainName mss) :
    ∃ t, s.createGroup noFaults mss group = (.ok (), t) := by
  rcases exists_execute_createSet there noSet with ⟨kernel₁, executed₁⟩
  rcases execute_createSet executed₁ with ⟨-, there₁, set₁, chain₁⟩
  rw [← chain₁] at noChain
  rcases exists_execute_createChain there₁ noChain with ⟨kernel₂, executed₂⟩
  rcases execute_createChain executed₂ with ⟨-, -, set₂, chain₂⟩
  have hasSet₂ : kernel₂.set mss = some [] := by
    rw [set₂, set₁, Function.update_self]
  have hasChain₂ : kernel₂.chain mss = some [] := by
    rw [chain₂, Function.update_self]
  rcases exists_execute_rule true hasSet₂ hasChain₂ with ⟨kernel₃, executed₃⟩
  rcases rules_of_execute executed₃ chain₂ with ⟨-, set₃, chain₃⟩
  have hasSet₃ : kernel₃.set mss = some [] := by
    rw [set₃, hasSet₂]
  have hasChain₃ : kernel₃.chain mss = some ([] ++ [clampRule true mss]) := by
    rw [chain₃, Function.update_self]
  rcases exists_execute_rule false hasSet₃ hasChain₃ with ⟨kernel₄, executed₄⟩
  unfold createGroup
  rw [named.1, named.2, exchangeBatch_ok executed₁, Attempt.andThen, exchangeBatch_ok executed₂,
    Attempt.andThen, ← clampRule, exchangeBatch_ok executed₃, Attempt.andThen, ← clampRule,
    exchangeBatch_ok executed₄]
  exact ⟨_, rfl⟩

theorem ensureGroup_noFaults (consistent : s.Consistent) (opened : s.inner.tableExists = true)
    (free : ¬s.Stranded mss) :
    ∃ t, s.ensureGroup noFaults mss = (.ok (), t) ∧
      t.inner.groups = Function.update s.inner.groups mss
        (some { s.group mss with kernelCreated := true }) ∧
      t.kernel.set = Function.update s.kernel.set mss (some ((s.kernel.set mss).getD [])) ∧
      t.done = s.done ++ if s.created mss then [] else creationBatches mss := by
  have recorded := kernelCreated_group s mss
  unfold ensureGroup
  dsimp only
  rw [group_setGroup, recorded]
  split_ifs with isCreated
  · rcases Option.isSome_iff_exists.mp (consistent.complete mss isCreated).1 with ⟨keys, present⟩
    refine ⟨_, rfl, ?_, ?_, (List.append_nil _).symm⟩
    · rw [groups_setGroup, ← recorded.trans isCreated]
    · rw [kernel_setGroup, present, Option.getD_some, ← present, Function.update_eq_self]
  · have uncreated := Bool.eq_false_of_not_eq_true isCreated
    have noSet : s.kernel.set mss = none := by
      by_contra present
      exact free ⟨opened, uncreated, Option.isSome_iff_ne_none.mpr present⟩
    have noChain := consistent.untouched opened mss uncreated noSet
    have named := group_named consistent mss
    rcases createGroup_noFaults (s := s.setGroup mss (s.group mss)) (consistent.opened opened)
      noSet noChain named with ⟨t, made⟩
    have creation := creation_createGroup (s := s.setGroup mss (s.group mss)) noFaults named
    rw [made] at creation ⊢
    cases creation with
    | complete inner _ _ set chain done =>
        refine ⟨_, rfl, ?_, ?_, done⟩
        · rw [groups_of_inner inner, group_of_inner inner]
        · rw [kernel_setGroup, set, noSet]
          rfl

theorem addElement_noFaults {keys : List IfKey} (consistent : s.Consistent)
    (hasSet : s.kernel.set mss = some keys) (ifname : Bytes) :
    ∃ t, s.addElement noFaults ifname mss = (.ok (), t) ∧
      t.inner.groups = Function.update s.inner.groups mss
        (some { s.group mss with refcount := (s.group mss).refcount + 1 }) ∧
      t.kernel.set = Function.update s.kernel.set mss (some (keys.insert (ifKey ifname))) ∧
      t.done = s.done ++ [.addElem (setName mss) (ifKey ifname)] := by
  rcases exists_execute_addElem hasSet (ifKey ifname) with ⟨kernel, executed⟩
  rcases execute_addElem executed with ⟨keys', before, -, set, -⟩
  rw [hasSet] at before
  cases before
  unfold addElement
  rw [(group_named consistent mss).1, exchangeBatch_ok executed, Attempt.andThen]
  exact ⟨_, rfl, rfl, set, rfl⟩

/-- What `add` does when no request fails. -/
structure Added (ifname : Bytes) (mss : UInt16) (s t : SharedMssTable) : Prop where
  groups : t.inner.groups = Function.update s.inner.groups mss
    (some { s.group mss with refcount := (s.group mss).refcount + 1, kernelCreated := true })
  set : t.kernel.set mss = some
    (((if s.created mss then s.kernel.set mss else none).getD []).insert (ifKey ifname))
  others : s.inner.tableExists = true → ∀ other, other ≠ mss →
    t.kernel.set other = s.kernel.set other
  done : ∃ before : List Batch, (∀ batch ∈ before, batch = .createTable ∨ batch = .deleteTable) ∧
    t.done = s.done ++ before ++ (if s.created mss then [] else creationBatches mss) ++
      [.addElem (setName mss) (ifKey ifname)]

theorem add_noFaults {ifname : Bytes} (consistent : s.Consistent) (free : ¬s.Stranded mss)
    (plain : 0 ∉ ifname) :
    ∃ t, s.add noFaults ifname mss = (.ok ⟨ifname, mss⟩, t) ∧ Added ifname mss s t := by
  rcases ensureTable_noFaults s with ⟨t, ensured, groups, same, before, tables, done⟩
  have soundTable := sound_ensureTable noFaults mss consistent
  rw [ensured] at soundTable
  have opened := tableExists_of_ensureTable ensured
  have free' : ¬t.Stranded mss := by
    rw [soundTable.stranded_of_ok]
    exact free
  have isGroup : t.group mss = s.group mss := by
    rw [group, groups, group]
  have isCreated : t.created mss = s.created mss := by
    rw [created, groups, created]
  rcases ensureGroup_noFaults soundTable.consistent opened free' with
    ⟨u, made, groupsMade, setMade, doneMade⟩
  have soundGroup : Sound mss t (t.ensureGroup noFaults mss) :=
    sound_ensureGroup noFaults soundTable.consistent opened
  rw [made] at soundGroup
  have hasSet : u.kernel.set mss = some ((t.kernel.set mss).getD []) := by
    rw [setMade, Function.update_self]
  rcases addElement_noFaults soundGroup.consistent hasSet ifname with
    ⟨v, added, groupsAdded, setAdded, doneAdded⟩
  have isGroup' : u.group mss = { s.group mss with kernelCreated := true } := by
    rw [group, groupsMade, Function.update_self, isGroup]
    rfl
  have requests : s.addRequests noFaults ifname mss = (.ok (), v) := by
    unfold addRequests
    rw [show s.openSocket noFaults = (.ok (), s) from rfl, Attempt.andThen, ensured,
      Attempt.andThen, made, Attempt.andThen, added]
  -- The set is new unless the group has been recorded.
  have base : (t.kernel.set mss).getD [] =
      (if s.created mss then s.kernel.set mss else none).getD [] := by
    cases recorded : s.created mss with
    | true => rw [same (tableExists_of_created consistent recorded), if_pos rfl]
    | false =>
        have absent : t.kernel.set mss = none := by
          by_contra present
          exact free' ⟨opened, isCreated.trans recorded, Option.isSome_iff_ne_none.mpr present⟩
        rw [absent, if_neg (by decide)]
  refine ⟨v, ?_, ?_, ?_, ?_, before, tables, ?_⟩
  · rw [add, if_neg plain, requests]
    rfl
  · rw [groupsAdded, groupsMade, Function.update_idem, isGroup', groups]
  · rw [setAdded, Function.update_self, base]
  · intro opened' other differs
    rw [setAdded, Function.update_of_ne differs, setMade, Function.update_of_ne differs,
      same opened']
  · rw [doneAdded, doneMade, isCreated, done]

theorem created_of_addElement {faults : Faults} {ifname : Bytes} {t : SharedMssTable}
    (added : s.addElement faults ifname mss = (.ok (), t)) : t.created mss = s.created mss := by
  unfold addElement at added
  rcases exchangeBatch_cases faults .addSetElem (.addElem (s.group mss).setName (ifKey ifname)) s
    with ⟨error, -, failed⟩ | ⟨kernel, -, done⟩
  · rw [failed] at added
    cases added
  · rw [done] at added
    cases added
    rw [← kernelCreated_group, group_setGroup]
    exact kernelCreated_group s mss

/-- A call that succeeds has recorded the group. -/
theorem created_of_add {faults : Faults} {ifname : Bytes} {guard : SharedMssGuard}
    (succeeded : (s.add faults ifname mss).1 = .ok guard) :
    (s.add faults ifname mss).2.created mss = true := by
  unfold add at succeeded ⊢
  split_ifs at succeeded ⊢
  dsimp only at succeeded ⊢
  rcases requests : s.addRequests faults ifname mss with ⟨_ | ⟨⟩, v⟩
  · rw [requests] at succeeded
    cases succeeded
  · rcases Attempt.andThen_eq_ok requests with ⟨_, -, requests⟩
    rcases Attempt.andThen_eq_ok requests with ⟨_, -, requests⟩
    rcases Attempt.andThen_eq_ok requests with ⟨u, made, added⟩
    exact (created_of_addElement added).trans (created_of_ensureGroup made)

/-- With a set that has no record, every call is rejected. -/
theorem add_of_stranded {faults : Faults} {ifname : Bytes} {guard : SharedMssGuard}
    (consistent : s.Consistent) (stranded : s.Stranded mss) :
    (s.add faults ifname mss).1 ≠ .ok guard := by
  intro succeeded
  have recorded := created_of_add succeeded
  have still := ((sound_add faults ifname mss consistent).2 mss).mpr (.inl stranded)
  rw [still.2.1] at recorded
  cases recorded

/-- What `remove` does for an interface of the set when no request fails. -/
theorem remove_noFaults {ifname : Bytes} {group : MssGroup} {keys : List IfKey}
    (consistent : s.Consistent) (found : s.inner.groups mss = some group)
    (hasSet : s.kernel.set mss = some keys) (plain : 0 ∉ ifname) (member : ifKey ifname ∈ keys) :
    (s.remove noFaults ifname mss).inner.groups = Function.update s.inner.groups mss
        (some { group with refcount := group.refcount - 1 }) ∧
      (s.remove noFaults ifname mss).kernel.set =
        Function.update s.kernel.set mss (some (keys.erase (ifKey ifname))) ∧
      (s.remove noFaults ifname mss).done =
        s.done ++ [.delElem (setName mss) (ifKey ifname)] := by
  rcases exists_execute_delElem hasSet member with ⟨kernel, executed⟩
  rcases execute_delElem executed with ⟨keys', before, -, set, -⟩
  rw [hasSet] at before
  cases before
  have goesOn : ¬(0 ∈ ifname ∨ (noFaults .socket).isSome = true) := by
    simpa [noFaults] using plain
  have removed : s.remove noFaults ifname mss =
      ({ s with kernel, done := s.done ++ [.delElem (setName mss) (ifKey ifname)] } :
        SharedMssTable).setGroup mss { group with refcount := group.refcount - 1 } := by
    rw [remove, if_neg goesOn, found]
    dsimp only
    rw [(consistent.named mss group found).1, exchangeBatch_ok executed]
  rw [removed]
  exact ⟨rfl, set, rfl⟩

/-- Destroying the table forgets what has been left behind. -/
theorem add_after_destroy {faults : Faults} {ifname : Bytes} (consistent : s.Consistent)
    (opens : faults .socket = none) (plain : 0 ∉ ifname) :
    ∃ t, (s.destroy faults).add noFaults ifname mss = (.ok ⟨ifname, mss⟩, t) := by
  have forgotten : (s.destroy faults).inner.tableExists = false ∧
      ∀ mss, (s.destroy faults).inner.groups mss = none := by
    rw [destroy, opens]
    split_ifs with unopened
    · have closed : s.inner.tableExists = false := by
        simpa using unopened
      exact ⟨closed, consistent.closed closed⟩
    · exact ⟨rfl, fun _ => rfl⟩
  have free : ¬(s.destroy faults).Stranded mss := by
    intro stranded
    rw [Stranded, forgotten.1] at stranded
    cases stranded.1
  rcases add_noFaults (consistent_of_closed forgotten.1 forgotten.2) free plain with ⟨t, added, -⟩
  exact ⟨t, added⟩

/-- A session at segment size 1383 whose chain cannot be created, for lack of memory. -/
def chainFails : Call :=
  .add (fun op => if op = .createChain then some (.kernel 12) else none)
    [0x70, 0x70, 0x70, 0x30] 1383

/-- What such a session leaves behind does not outlive the table. -/
theorem add_after_destroy_chainFails :
    (finalState step (new none) [chainFails]).Stranded 1383 ∧
      ∃ t, ((finalState step (new none) [chainFails]).destroy noFaults).add noFaults
        [0x70, 0x70, 0x70, 0x31] 1383 = (.ok ⟨[0x70, 0x70, 0x70, 0x31], 1383⟩, t) :=
  ⟨⟨rfl, rfl, rfl⟩,
    add_after_destroy (run_sound (consistent_new none) [chainFails]).1 rfl (by decide)⟩

/-- After calls with failures of any kind, a call without failures succeeds, and leaves one rule
for each direction, exactly if no call for the segment size has failed between its set and its
last rule. -/
theorem add_recovers_iff (kernel : Kernel) (calls : List Call) (ifname : Bytes) (mss : UInt16) :
    let further := (finalState step (new kernel) calls).add noFaults ifname mss
    further.1 = .ok ⟨ifname, mss⟩ ∧ further.2.kernel.chain mss = some (clampRules mss) ↔
      0 ∉ ifname ∧ ∀ visit ∈ visits step (new kernel) calls, ¬visit.2.strands mss visit.1 := by
  rcases run_sound (consistent_new kernel) calls with ⟨consistent, stranded⟩
  have free : (finalState step (new kernel) calls).Stranded mss ↔
      ∃ visit ∈ visits step (new kernel) calls, visit.2.strands mss visit.1 :=
    (stranded mss).trans (or_iff_right (not_stranded_new kernel mss))
  dsimp only
  generalize finalState step (new kernel) calls = s at consistent free ⊢
  constructor
  · rintro ⟨succeeded, -⟩
    constructor
    · intro nul
      rw [add, if_pos nul] at succeeded
      cases succeeded
    · intro visit visited strands
      exact add_of_stranded consistent (free.mpr ⟨visit, visited, strands⟩) succeeded
  · rintro ⟨plain, never⟩
    have free' : ¬s.Stranded mss := by
      rw [free]
      rintro ⟨visit, visited, strands⟩
      exact never visit visited strands
    rcases add_noFaults consistent free' plain with ⟨t, succeeded, -⟩
    have result : (s.add noFaults ifname mss).1 = .ok ⟨ifname, mss⟩ := by
      rw [succeeded]
    have kept := (sound_add noFaults ifname mss consistent).1
    exact ⟨result, (kept.complete mss (created_of_add result)).2⟩

/-- The next session at this segment size is rejected, although nothing fails any more: its first
request creates a set that is there already. -/
theorem add_rejected_after_chainFails :
    ((finalState step (new none) [chainFails]).add noFaults [0x70, 0x70, 0x70, 0x31] 1383).1 =
      .error (.kernel .createSet eexist) := by
  rfl

end SharedMssTable

end SstpServer.Shape
