import SstpServer.Shape.MssTable

/-!
# Sessions in the shared table

A session that comes up adds its interface to the shared table and keeps a handle; dropping the
handle removes the interface.  Calls are serialized by the lock of the table, so the sessions of a
process are a sequence of additions and drops in some order.

When no request fails, the table is a faithful account of the handles that are live.  The group of
a segment size is created in the kernel once, however often it empties and is used again.
-/

namespace SstpServer.Shape

open SstpServer.Wire
open SstpServer.Transition

/-! ## Interface names -/

/-- A name that the kernel gives to an interface. -/
structure IfName where
  bytes : Bytes
  plain : 0 ∉ bytes
  short : bytes.length < 16
  deriving DecidableEq

/-- The name that an element of a set stands for. -/
def nameOf (key : IfKey) : Bytes :=
  key.toList.takeWhile (· ≠ 0)

theorem nameOf_ifKey (ifname : IfName) : nameOf (ifKey ifname.bytes) = ifname.bytes := by
  have padded : (ifKey ifname.bytes).toList =
      ifname.bytes ++ List.replicate (16 - ifname.bytes.length) 0 := by
    have short := ifname.short
    change ((ifname.bytes ++ [0]) ++ List.replicate 16 0).take 16 = _
    rw [List.append_assoc, List.take_append, List.take_of_length_le short.le]
    refine congrArg (ifname.bytes ++ ·) ?_
    change (List.replicate 17 (0 : UInt8)).take (16 - ifname.bytes.length) = _
    rw [List.take_replicate, Nat.min_eq_left (by omega)]
  have named : ∀ byte ∈ ifname.bytes, (decide (byte ≠ 0)) = true := by
    intro byte member
    apply decide_eq_true
    rintro rfl
    exact ifname.plain member
  rw [nameOf, padded, List.takeWhile_append_of_pos named]
  have rest : (List.replicate (16 - ifname.bytes.length) (0 : UInt8)).takeWhile (· ≠ 0) = [] := by
    rw [List.takeWhile_replicate]
    rfl
  rw [rest, List.append_nil]

theorem ifKey_injective {first second : IfName} (same : ifKey first.bytes = ifKey second.bytes) :
    first = second := by
  have bytes : first.bytes = second.bytes := by
    rw [← nameOf_ifKey first, same, nameOf_ifKey]
  cases first
  cases second
  cases bytes
  rfl

/-! ## Handles -/

/-- A handle: the interface that it removes when it is dropped. -/
structure SharedMssHandle where
  ifname : IfName
  mss : UInt16
  deriving DecidableEq

/-- A session comes up or goes down.  It drops its handle before its interface goes, so no two
live handles have one name. -/
inductive HandleEvent where
  | add (ifname : IfName) (mss : UInt16)
  | drop (ifname : IfName)

/-- The handles that the sessions of a process hold. -/
def liveStep (live : List SharedMssHandle) : HandleEvent → List SharedMssHandle
  | .add ifname mss =>
      if ∃ handle ∈ live, handle.ifname = ifname then live else live ++ [⟨ifname, mss⟩]
  | .drop ifname => live.eraseP fun handle => handle.ifname = ifname

/-- The table, with the handles that it has given out. -/
structure Handles where
  table : SharedMssTable
  live : List SharedMssHandle

namespace Handles

def new (kernel : Kernel) : Handles :=
  ⟨.new kernel, []⟩

def step (s : Handles) : HandleEvent → Handles
  | .add ifname mss =>
      if ∃ handle ∈ s.live, handle.ifname = ifname then s
      else
        match s.table.add noFaults ifname.bytes mss with
        | (.ok _, table) => ⟨table, s.live ++ [⟨ifname, mss⟩]⟩
        | (.error _, table) => { s with table }
  | .drop ifname =>
      match s.live.find? fun handle => handle.ifname = ifname with
      | some handle =>
          ⟨s.table.remove noFaults handle.ifname.bytes handle.mss,
            s.live.eraseP fun handle => handle.ifname = ifname⟩
      | none => s

/-- The live handles of a segment size. -/
def liveAt (s : Handles) (mss : UInt16) : List SharedMssHandle :=
  s.live.filter fun handle => handle.mss = mss

/-- The elements that stand for handles. -/
def keysOf (handles : List SharedMssHandle) : List IfKey :=
  handles.map fun handle => ifKey handle.ifname.bytes

/-- The account of a segment size that has a group. -/
structure Kept (s : Handles) (mss : UInt16) (group : MssGroup) : Prop where
  created : group.kernelCreated = true
  refcount : group.refcount = (s.liveAt mss).length
  set : ∃ keys, s.table.kernel.set mss = some keys ∧ keys.Perm (keysOf (s.liveAt mss))
  once : ∀ batch ∈ creationBatches mss, s.table.done.count batch = 1

/-- The account of a segment size that has never been used. -/
structure Unused (s : Handles) (mss : UInt16) : Prop where
  live : s.liveAt mss = []
  never : ∀ batch ∈ creationBatches mss, s.table.done.count batch = 0

structure Accounted (s : Handles) : Prop where
  consistent : s.table.Consistent
  free : ∀ mss, ¬s.table.Stranded mss
  unique : (s.live.map SharedMssHandle.ifname).Nodup
  kept : ∀ mss group, s.table.inner.groups mss = some group → s.Kept mss group
  unused : ∀ mss, s.table.inner.groups mss = none → s.Unused mss

theorem accounted_new (kernel : Kernel) : (new kernel).Accounted where
  consistent := SharedMssTable.consistent_new kernel
  free := SharedMssTable.not_stranded_new kernel
  unique := List.nodup_nil
  kept := nofun
  unused _ _ := ⟨rfl, fun _ _ => rfl⟩

/-! ## Transactions -/

theorem count_creationBatches {mss : UInt16} {batch : Batch} (member : batch ∈ creationBatches mss)
    (other : UInt16) :
    (creationBatches other).count batch = if other = mss then 1 else 0 := by
  by_cases equal : other = mss
  · subst equal
    rw [if_pos rfl]
    have distinct : (creationBatches other).Nodup := by
      simp [creationBatches, clampRule]
    exact List.count_eq_one_of_mem distinct member
  · rw [if_neg equal]
    apply List.count_eq_zero.mpr
    intro also
    have sets : setName mss ≠ setName other := setName_injective.ne (Ne.symm equal)
    have chains : chainName mss ≠ chainName other := chainName_injective.ne (Ne.symm equal)
    simp only [creationBatches, List.mem_cons, List.not_mem_nil, or_false] at member
    rcases member with rfl | rfl | rfl | rfl <;> simp [creationBatches, sets, chains] at also

/-- Transactions of other kinds, between those that create groups. -/
theorem count_other {mss : UInt16} {batch : Batch} (member : batch ∈ creationBatches mss)
    {others : List Batch}
    (kinds : ∀ other ∈ others, other = .createTable ∨ other = .deleteTable ∨
      ∃ name key, other = .addElem name key ∨ other = .delElem name key) :
    others.count batch = 0 := by
  apply List.count_eq_zero.mpr
  intro also
  simp only [creationBatches, List.mem_cons, List.not_mem_nil, or_false] at member
  rcases kinds batch also with rfl | rfl | ⟨name, key, rfl | rfl⟩ <;>
    rcases member with same | same | same | same <;> cases same

/-! ## The account of a segment size -/

section Steps

variable {s : Handles} {mss : UInt16}

theorem mem_keysOf {ifname : IfName} {handles : List SharedMssHandle} :
    ifKey ifname.bytes ∈ keysOf handles ↔ ∃ handle ∈ handles, handle.ifname = ifname := by
  rw [keysOf, List.mem_map]
  constructor
  · rintro ⟨handle, member, same⟩
    exact ⟨handle, member, ifKey_injective same⟩
  · rintro ⟨handle, member, rfl⟩
    exact ⟨handle, member, rfl⟩

theorem Accounted.created_iff (accounted : s.Accounted) (mss : UInt16) :
    s.table.created mss = (s.table.inner.groups mss).isSome := by
  rw [SharedMssTable.created]
  cases found : s.table.inner.groups mss with
  | none => rfl
  | some group => exact (accounted.kept mss group found).created

theorem Accounted.refcount_group (accounted : s.Accounted) (mss : UInt16) :
    (s.table.group mss).refcount = (s.liveAt mss).length := by
  rw [SharedMssTable.group]
  cases found : s.table.inner.groups mss with
  | none =>
      rw [(accounted.unused mss found).live]
      rfl
  | some group => exact (accounted.kept mss group found).refcount

/-- The elements of a set, none for a segment size that has not been used. -/
theorem Accounted.keys_perm (accounted : s.Accounted) (mss : UInt16) :
    ((if s.table.created mss then s.table.kernel.set mss else none).getD []).Perm
      (keysOf (s.liveAt mss)) := by
  rw [accounted.created_iff]
  cases found : s.table.inner.groups mss with
  | none =>
      rw [(accounted.unused mss found).live]
      exact .nil
  | some group =>
      rcases (accounted.kept mss group found).set with ⟨keys, isSet, perm⟩
      rw [Option.isSome_some, if_pos rfl, isSet]
      exact perm

theorem Accounted.count_done (accounted : s.Accounted) {batch : Batch}
    (member : batch ∈ creationBatches mss) :
    s.table.done.count batch = if s.table.created mss then 1 else 0 := by
  rw [accounted.created_iff]
  cases found : s.table.inner.groups mss with
  | none => exact (accounted.unused mss found).never batch member
  | some group => exact (accounted.kept mss group found).once batch member

/-- An event for one segment size leaves the account of every other one as it was. -/
theorem Accounted.of_kept {t : Handles} {group : MssGroup} (accounted : s.Accounted)
    (consistent : t.table.Consistent) (free : ∀ other, ¬t.table.Stranded other)
    (unique : (t.live.map SharedMssHandle.ifname).Nodup)
    (groups : t.table.inner.groups = Function.update s.table.inner.groups mss (some group))
    (here : t.Kept mss group)
    (set : s.table.inner.tableExists = true → ∀ other, other ≠ mss →
      t.table.kernel.set other = s.table.kernel.set other)
    (live : ∀ other, other ≠ mss → (s.liveAt other).Perm (t.liveAt other))
    (counts : ∀ other, other ≠ mss → ∀ batch ∈ creationBatches other,
      t.table.done.count batch = s.table.done.count batch) : t.Accounted := by
  refine ⟨consistent, free, unique, fun other found present => ?_, fun other absent => ?_⟩
  · by_cases equal : other = mss
    · subst equal
      rw [groups, Function.update_self] at present
      cases present
      exact here
    · rw [groups, Function.update_of_ne equal] at present
      have kept := accounted.kept other found present
      rcases kept.set with ⟨keys, isSet, perm⟩
      have opened := SharedMssTable.tableExists_of_group accounted.consistent present
      refine ⟨kept.created, kept.refcount.trans (live other equal).length_eq,
        ⟨keys, (set opened other equal).trans isSet, perm.trans ((live other equal).map _)⟩,
        fun batch member => ?_⟩
      rw [counts other equal batch member, kept.once batch member]
  · by_cases equal : other = mss
    · subst equal
      rw [groups, Function.update_self] at absent
      cases absent
    · rw [groups, Function.update_of_ne equal] at absent
      have unused := accounted.unused other absent
      have none := live other equal
      rw [unused.live] at none
      refine ⟨none.nil_eq.symm, fun batch member => ?_⟩
      rw [counts other equal batch member, unused.never batch member]

/-! ## Additions -/

theorem step_add (accounted : s.Accounted) {ifname : IfName} (mss : UInt16)
    (fresh : ¬∃ handle ∈ s.live, handle.ifname = ifname) :
    ∃ table, s.step (.add ifname mss) = ⟨table, s.live ++ [⟨ifname, mss⟩]⟩ ∧
      table.Consistent ∧ (∀ other, ¬table.Stranded other) ∧
      SharedMssTable.Added ifname.bytes mss s.table table := by
  rcases SharedMssTable.add_noFaults accounted.consistent (accounted.free mss) ifname.plain with
    ⟨table, added, spec⟩
  have sound := SharedMssTable.sound_add noFaults ifname.bytes mss accounted.consistent
  rw [added] at sound
  refine ⟨table, ?_, sound.1, fun other stranded => ?_, spec⟩
  · rw [step, if_neg fresh, added]
  · rcases (sound.2 other).mp stranded with before | late
    · exact accounted.free other before
    · exact not_late_ok _ late.2

/-- The transactions of an addition create the group of its segment size if there is none. -/
theorem count_added (accounted : s.Accounted) {ifname : IfName} {table : SharedMssTable}
    (spec : SharedMssTable.Added ifname.bytes mss s.table table) {other : UInt16} {batch : Batch}
    (member : batch ∈ creationBatches other) :
    table.done.count batch = if other = mss ∨ s.table.created other then 1 else 0 := by
  rcases spec.done with ⟨before, tables, done⟩
  have first : before.count batch = 0 :=
    count_other member fun other' kind => (tables other' kind).imp_right .inl
  have last : [Batch.addElem (setName mss) (ifKey ifname.bytes)].count batch = 0 :=
    count_other member fun other' kind =>
      .inr (.inr ⟨_, _, .inl (List.mem_singleton.mp kind)⟩)
  rw [done, List.count_append, List.count_append, List.count_append, first, last,
    accounted.count_done member]
  cases recorded : s.table.created mss with
  | true =>
      by_cases equal : other = mss
      · subst equal
        simp [recorded]
      · simp [equal]
  | false =>
      have made := count_creationBatches member mss
      by_cases equal : other = mss
      · subst equal
        simp [recorded, made]
      · simp [equal, made, Ne.symm equal]

theorem liveAt_add (live : List SharedMssHandle) (table : SharedMssTable) (ifname : IfName)
    (mss other : UInt16) :
    (Handles.mk table (live ++ [⟨ifname, mss⟩])).liveAt other =
      live.filter (fun handle => handle.mss = other) ++
        if other = mss then [⟨ifname, mss⟩] else [] := by
  rw [liveAt, List.filter_append]
  by_cases equal : other = mss
  · subst equal
    simp
  · simp [equal, Ne.symm equal]

/-- The account of the segment size that a handle is added to. -/
theorem kept_added (accounted : s.Accounted) {ifname : IfName} {table : SharedMssTable}
    (fresh : ¬∃ handle ∈ s.live, handle.ifname = ifname)
    (spec : SharedMssTable.Added ifname.bytes mss s.table table) :
    (Handles.mk table (s.live ++ [⟨ifname, mss⟩])).Kept mss
      { s.table.group mss with
        refcount := (s.table.group mss).refcount + 1, kernelCreated := true } := by
  have live := liveAt_add s.live table ifname mss mss
  rw [if_pos rfl] at live
  have perm := accounted.keys_perm mss
  have newKey : ifKey ifname.bytes ∉
      (if s.table.created mss then s.table.kernel.set mss else none).getD [] := by
    intro member
    rcases mem_keysOf.mp (perm.mem_iff.mp member) with ⟨handle, member, named⟩
    exact fresh ⟨handle, (List.mem_filter.mp member).1, named⟩
  refine ⟨rfl, ?_, ⟨_, spec.set, ?_⟩, fun batch member => ?_⟩
  · rw [live, List.length_append, accounted.refcount_group]
    rfl
  · rw [live, List.insert_of_not_mem newKey, keysOf, List.map_append]
    exact (perm.cons _).trans (List.perm_append_singleton _ _).symm
  · rw [count_added accounted spec member, if_pos (.inl rfl)]

theorem accounted_add (accounted : s.Accounted) (ifname : IfName) (mss : UInt16) :
    (s.step (.add ifname mss)).Accounted ∧
      (s.step (.add ifname mss)).live = liveStep s.live (.add ifname mss) := by
  by_cases taken : ∃ handle ∈ s.live, handle.ifname = ifname
  · have stays : s.step (.add ifname mss) = s := by
      rw [step, if_pos taken]
    rw [stays, liveStep, if_pos taken]
    exact ⟨accounted, rfl⟩
  · rcases step_add accounted mss taken with ⟨table, stepped, consistent, free, spec⟩
    rw [stepped, liveStep, if_neg taken]
    refine ⟨accounted.of_kept consistent free ?_ spec.groups (kept_added accounted taken spec)
      spec.others (fun other differs => ?_) (fun other differs batch member => ?_), rfl⟩
    · rw [List.map_append, List.map_singleton]
      refine List.nodup_append.mpr ⟨accounted.unique, List.nodup_singleton _, ?_⟩
      intro name member name' member' same
      rcases List.mem_map.mp member with ⟨handle, live, rfl⟩
      exact taken ⟨handle, live, same.trans (List.mem_singleton.mp member')⟩
    · rw [liveAt_add, if_neg differs, List.append_nil]
      exact .refl _
    · rw [count_added accounted spec member, accounted.count_done member]
      simp [differs]

/-! ## Drops -/

/-- A handle that is dropped, brought to the front of the live ones. -/
theorem live_perm {ifname : IfName} {handle : SharedMssHandle}
    (found : s.live.find? (fun handle => handle.ifname = ifname) = some handle) :
    handle.ifname = ifname ∧
      s.live.Perm (handle :: s.live.eraseP fun handle => handle.ifname = ifname) := by
  rcases List.find?_eq_some_iff_append.mp found with ⟨named, before, after, split, earlier⟩
  have isName : handle.ifname = ifname := by
    simpa using named
  have others : ∀ other ∈ before, ¬(decide (other.ifname = ifname)) = true := by
    intro other member
    simpa using earlier other member
  refine ⟨isName, ?_⟩
  have removed : (handle :: after).eraseP (fun handle => handle.ifname = ifname) = after :=
    List.eraseP_cons_of_pos (decide_eq_true isName)
  rw [split, List.eraseP_append_right _ others, removed]
  exact List.perm_middle

/-- The live handles of a segment size after a drop. -/
theorem liveAt_perm {ifname : IfName} {handle : SharedMssHandle} (table : SharedMssTable)
    (found : s.live.find? (fun handle => handle.ifname = ifname) = some handle) (other : UInt16) :
    (s.liveAt other).Perm
      ((if other = handle.mss then [handle] else []) ++
        (Handles.mk table (s.live.eraseP fun handle => handle.ifname = ifname)).liveAt other) := by
  have perm := (live_perm found).2.filter fun handle => handle.mss = other
  rw [List.filter_cons] at perm
  by_cases equal : other = handle.mss
  · subst equal
    simpa [liveAt] using perm
  · simpa [liveAt, equal, Ne.symm equal] using perm

/-- The transactions of a drop create nothing. -/
theorem count_removed {table : SharedMssTable} {key : IfKey}
    (done : table.done = s.table.done ++ [.delElem (setName mss) key]) {other : UInt16}
    {batch : Batch} (member : batch ∈ creationBatches other) :
    table.done.count batch = s.table.done.count batch := by
  have last : [Batch.delElem (setName mss) key].count batch = 0 :=
    count_other member fun other' kind =>
      .inr (.inr ⟨_, _, .inr (List.mem_singleton.mp kind)⟩)
  rw [done, List.count_append, last, Nat.add_zero]

/-- A live handle has a group, and its interface is in the set. -/
theorem Accounted.kept_of_live (accounted : s.Accounted) {handle : SharedMssHandle}
    (live : handle ∈ s.live) :
    ∃ group keys, s.table.inner.groups handle.mss = some group ∧ s.Kept handle.mss group ∧
      s.table.kernel.set handle.mss = some keys ∧ keys.Perm (keysOf (s.liveAt handle.mss)) ∧
      ifKey handle.ifname.bytes ∈ keys := by
  have liveHere : handle ∈ s.liveAt handle.mss :=
    List.mem_filter.mpr ⟨live, decide_eq_true rfl⟩
  cases grouped : s.table.inner.groups handle.mss with
  | none =>
      rw [(accounted.unused handle.mss grouped).live] at liveHere
      cases liveHere
  | some group =>
      have kept := accounted.kept handle.mss group grouped
      rcases kept.set with ⟨keys, isSet, perm⟩
      exact ⟨group, keys, rfl, kept, isSet, perm,
        perm.mem_iff.mpr (mem_keysOf.mpr ⟨handle, liveHere, rfl⟩)⟩

theorem accounted_drop (accounted : s.Accounted) (ifname : IfName) :
    (s.step (.drop ifname)).Accounted ∧
      (s.step (.drop ifname)).live = liveStep s.live (.drop ifname) := by
  cases found : s.live.find? (fun handle => handle.ifname = ifname) with
  | none =>
      have stays : s.step (.drop ifname) = s := by
        rw [step, found]
      have absent : ∀ handle ∈ s.live, ¬(decide (handle.ifname = ifname)) = true :=
        fun handle member => List.find?_eq_none.mp found handle member
      rw [stays, liveStep, List.eraseP_of_forall_not absent]
      exact ⟨accounted, rfl⟩
  | some handle =>
      have stepped : s.step (.drop ifname) =
          ⟨s.table.remove noFaults handle.ifname.bytes handle.mss,
            s.live.eraseP fun handle => handle.ifname = ifname⟩ := by
        rw [step, found]
      rcases accounted.kept_of_live (List.mem_of_find?_eq_some found) with
        ⟨group, keys, grouped, kept, isSet, perm, member⟩
      rcases SharedMssTable.remove_noFaults accounted.consistent grouped isSet
        handle.ifname.plain member with ⟨groups, set, done⟩
      have sound := SharedMssTable.sound_remove noFaults handle.ifname.bytes handle.mss
        accounted.consistent
      rw [stepped]
      have drops := liveAt_perm (s.table.remove noFaults handle.ifname.bytes handle.mss) found
      generalize s.table.remove noFaults handle.ifname.bytes handle.mss = table at *
      refine ⟨accounted.of_kept sound.1
        (fun other stranded => accounted.free other ((sound.2 other).mp stranded))
        (accounted.unique.sublist (List.eraseP_sublist.map _)) groups ?_
        (fun _ other differs => ?_) (fun other differs => ?_)
        (fun other differs batch member => count_removed done member), rfl⟩
      · have drop := drops handle.mss
        rw [if_pos rfl] at drop
        refine ⟨kept.created, ?_, ⟨_, by rw [set, Function.update_self], ?_⟩,
          fun batch member => (count_removed done member).trans (kept.once batch member)⟩
        · have length := drop.length_eq
          rw [List.length_append, List.length_singleton] at length
          change group.refcount - 1 = _
          rw [kept.refcount]
          omega
        · have moved : keys.Perm (keysOf ([handle] ++ _)) := perm.trans (drop.map _)
          have erased := moved.erase (ifKey handle.ifname.bytes)
          rw [keysOf, List.map_append, List.map_singleton, List.singleton_append,
            List.erase_cons_head] at erased
          exact erased
      · rw [set, Function.update_of_ne differs]
      · have drop := drops other
        rwa [if_neg differs, List.nil_append] at drop

end Steps

/-! ## Runs -/

theorem accounted_step {s : Handles} (accounted : s.Accounted) (event : HandleEvent) :
    (s.step event).Accounted ∧ (s.step event).live = liveStep s.live event := by
  cases event with
  | add ifname mss => exact accounted_add accounted ifname mss
  | drop ifname => exact accounted_drop accounted ifname

theorem accounted_run {s : Handles} (accounted : s.Accounted) (events : List HandleEvent) :
    (finalState step s events).Accounted ∧
      (finalState step s events).live = finalState liveStep s.live events := by
  induction events generalizing s with
  | nil => exact ⟨accounted, rfl⟩
  | cons event rest ih =>
      rcases accounted_step accounted event with ⟨kept, live⟩
      rcases ih kept with ⟨final, liveFinal⟩
      rw [live] at liveFinal
      exact ⟨final, liveFinal⟩

/-- No count exceeds the number of live handles. -/
theorem Accounted.refcount_le {s : Handles} (accounted : s.Accounted) {mss : UInt16} {group : MssGroup}
    (found : s.table.inner.groups mss = some group) : group.refcount ≤ s.live.length := by
  rw [(accounted.kept mss group found).refcount]
  exact List.length_filter_le _ _

/-- When no request fails, every session gets its handle.  The set of a group holds the names of
its live handles, its count is their number and so never more than all live handles, and its set, its
chain and its rules have been created once.  A segment size without a group has no live handle, and
nothing has been created for it. -/
theorem handles_accounted (kernel : Kernel) (events : List HandleEvent) :
    let s := finalState step (new kernel) events
    s.live = finalState liveStep [] events ∧
      ∀ mss,
        (∀ group, s.table.inner.groups mss = some group →
          (∃ keys, s.table.kernel.set mss = some keys ∧
            (keys.map nameOf).Perm ((s.liveAt mss).map fun handle => handle.ifname.bytes)) ∧
          group.refcount = (s.liveAt mss).length ∧ group.refcount ≤ s.live.length ∧
          s.table.kernel.chain mss = some (clampRules mss) ∧
          ∀ batch ∈ creationBatches mss, s.table.done.count batch = 1) ∧
        (s.table.inner.groups mss = none →
          s.liveAt mss = [] ∧ ∀ batch ∈ creationBatches mss, s.table.done.count batch = 0) := by
  rcases accounted_run (accounted_new kernel) events with ⟨accounted, live⟩
  refine ⟨live, fun mss => ⟨fun group found => ?_, fun absent => ?_⟩⟩
  · have kept := accounted.kept mss group found
    rcases kept.set with ⟨keys, isSet, perm⟩
    refine ⟨⟨keys, isSet, ?_⟩, kept.refcount, accounted.refcount_le found, ?_, kept.once⟩
    · have names := perm.map nameOf
      rw [keysOf, List.map_map] at names
      have read : nameOf ∘ (fun handle : SharedMssHandle => ifKey handle.ifname.bytes) =
          fun handle => handle.ifname.bytes :=
        funext fun handle => nameOf_ifKey handle.ifname
      rwa [read] at names
    · have created : (finalState step (new kernel) events).table.created mss = true := by
        rw [accounted.created_iff, found]
        rfl
      exact (accounted.consistent.complete mss created).2
  · exact ⟨(accounted.unused mss absent).live, (accounted.unused mss absent).never⟩

end Handles

end SstpServer.Shape
