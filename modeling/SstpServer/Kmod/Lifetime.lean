import SstpServer.Kmod.Transmit
import SstpServer.Transition.Run

/-!
# The lifetime of a kernel session

A session is reached from five sides at once: by the thread that attaches it, by the callbacks
of its socket, by its two work items, by the PPP channel and by the file operations of its
descriptor.  The release of the descriptor takes these away one after another and then frees
the session.  Here every statement of the release and every access of the other sides is a
step of its own, and the steps come in any order.  An access to what the release has already
given back is recorded as a fault of the side that made it.
-/

namespace SstpServer.Kmod

open SstpServer.Transition

/-! ## The sides -/

/-- Where `sstp_do_attach` is, from the point where other threads can see the descriptor. -/
inductive AttachPc where
  | installed
  | copied
  | hooked
  | returned
  deriving DecidableEq

/-- The last statement of the release that has been executed, through `sstp_demux_shutdown`
and the final put. -/
inductive ClosePc where
  | opened
  | marked
  | unhooked
  | rxCancelled
  | txCancelled
  | purged
  | flushed
  | unregistered
  | destroyed
  | freed
  deriving DecidableEq

/-- How many statements of the release come before this point. -/
def ClosePc.rank : ClosePc → Nat
  | .opened => 0
  | .marked => 1
  | .unhooked => 2
  | .rxCancelled => 3
  | .txCancelled => 4
  | .purged => 5
  | .flushed => 6
  | .unregistered => 7
  | .destroyed => 8
  | .freed => 9

/-- The two work items of a session. -/
inductive WorkItem where
  | rx
  | tx
  deriving DecidableEq

/-- Where the function of a work item is: about to read `closing`, or in the body of its loop
or behind it. -/
inductive WorkPc where
  | idle
  | started
  | inside
  deriving DecidableEq

/-- A work item: whether the workqueue has it, and where its function is. -/
structure Work where
  queued : Bool := false
  pc : WorkPc := .idle
  deriving DecidableEq

/-- Where a socket callback is after it has loaded `sk_user_data`. -/
inductive CallbackPc where
  | loaded
  | checked
  | chaining
  deriving DecidableEq

/-- A socket callback in flight: `sstp_sk_data_ready` queues the receive worker and
`sstp_sk_write_space` the transmit worker. -/
structure Callback where
  item : WorkItem
  pc : CallbackPc := .loaded
  deriving DecidableEq

/-- Where `sstp_chan_start_xmit` is. -/
inductive XmitPc where
  | idle
  | entered
  | checked
  | queued
  deriving DecidableEq

/-- The skbs that a call of `start_xmit` may still queue. -/
def XmitPc.pending : XmitPc → Nat
  | .checked => 1
  | .idle | .entered | .queued => 0

theorem XmitPc.pending_le_one (pc : XmitPc) : pc.pending ≤ 1 := by
  cases pc <;> decide

/-- The sides that use a session. -/
inductive Accessor where
  | attach
  | callback
  | worker (item : WorkItem)
  | xmit
  | file
  deriving DecidableEq

/-- A session from the point where its descriptor is installed.  `users` counts the file
operations that are running and `txQ` the skbs on the transmit queue. -/
structure SessionLife where
  attach : AttachPc := .installed
  close : ClosePc := .opened
  closing : Bool := false
  cbInstalled : Bool := false
  rxWork : Work := {}
  txWork : Work := {}
  callbacks : List Callback := []
  xmit : XmitPc := .idle
  users : Nat := 0
  txQ : Nat := 0
  faults : List Accessor := []
  deriving DecidableEq

/-- What the function of a work item does in its body. -/
inductive WorkAct where
  | channel
  | echo
  | drain (left : Nat)
  | abort
  | requeue
  | loop
  | exit
  deriving DecidableEq

/-- A step of one of the sides. -/
inductive LifeMove where
  | attach (copied : Bool)
  | release
  | shutdown
  | load (item : WorkItem)
  | callback (i : Nat)
  | start (item : WorkItem)
  | enter (item : WorkItem)
  | work (item : WorkItem) (act : WorkAct)
  | startXmit
  | xmit (fits : Bool)
  | call
  | access (abort : Bool)
  | finish
  deriving DecidableEq

namespace SessionLife

/-! ## Accesses -/

/-- The release has executed everything up to this point. -/
def Past (s : SessionLife) (pc : ClosePc) : Prop :=
  pc.rank ≤ s.close.rank

instance (s : SessionLife) (pc : ClosePc) : Decidable (s.Past pc) :=
  inferInstanceAs (Decidable (_ ≤ _))

/-- A use of what the release gives back at `pc`. -/
def use (pc : ClosePc) (accessor : Accessor) (s : SessionLife) : SessionLife :=
  if s.Past pc then { s with faults := s.faults ++ [accessor] } else s

/-- A read or write of the session itself. -/
def touch (accessor : Accessor) (s : SessionLife) : SessionLife :=
  s.use .freed accessor

def work (s : SessionLife) : WorkItem → Work
  | .rx => s.rxWork
  | .tx => s.txWork

def setWork (s : SessionLife) (item : WorkItem) (work : Work) : SessionLife :=
  match item with
  | .rx => { s with rxWork := work }
  | .tx => { s with txWork := work }

/-- `queue_work` on the session's workqueue. -/
def queueWork (accessor : Accessor) (item : WorkItem) (s : SessionLife) : SessionLife :=
  if s.Past .destroyed then s.use .destroyed accessor
  else s.setWork item { s.work item with queued := true }

/-! ## The steps of each side -/

/-- `sstp_session_release`, which runs when no file operation does: mark the session. -/
def release (s : SessionLife) : SessionLife :=
  if s.close = .opened ∧ s.users = 0 then { s with close := .marked, closing := true } else s

/-- The rest of `sstp_do_attach`.  A result that cannot be copied closes the descriptor
again. -/
def attachStep (copied : Bool) (s : SessionLife) : SessionLife :=
  match s.attach with
  | .installed =>
      if copied then { s with attach := .copied }
      else { s.release with attach := .returned }
  | .copied => { s.touch .attach with attach := .hooked, cbInstalled := true }
  | .hooked => { (s.touch .attach).queueWork .attach .rx with attach := .returned }
  | .returned => s

/-- The next statement of the release.  `cancel_work_sync` waits for the function of its item,
`flush_workqueue` and `destroy_workqueue` for both items, and `ppp_unregister_channel` for a
call of `start_xmit`. -/
def shutdown (s : SessionLife) : SessionLife :=
  match s.close with
  | .opened => s
  | .marked => { s with close := .unhooked, cbInstalled := false }
  | .unhooked =>
      if s.rxWork.pc = .idle then { s with close := .rxCancelled, rxWork := {} } else s
  | .rxCancelled =>
      if s.txWork.pc = .idle then { s with close := .txCancelled, txWork := {} } else s
  | .txCancelled => { s with close := .purged, txQ := 0 }
  | .purged =>
      if s.rxWork = {} ∧ s.txWork = {} then { s with close := .flushed } else s
  | .flushed => if s.xmit = .idle then { s with close := .unregistered } else s
  | .unregistered =>
      if s.rxWork = {} ∧ s.txWork = {} then { s with close := .destroyed } else s
  | .destroyed => { s with close := .freed }
  | .freed => s

/-- A socket callback starts and loads the session from the socket. -/
def load (item : WorkItem) (s : SessionLife) : SessionLife :=
  if s.cbInstalled then { s with callbacks := s.callbacks ++ [{ item := item }] } else s

/-- A callback behind its last use of the workqueue: only `sstp_sk_write_space` goes on, to the
handler it has replaced. -/
def chain (i : Nat) (item : WorkItem) (s : SessionLife) : SessionLife :=
  match item with
  | .rx => { s with callbacks := s.callbacks.eraseIdx i }
  | .tx => { s with callbacks := s.callbacks.set i { item := .tx, pc := .chaining } }

/-- The next statement of a callback in flight. -/
def callbackStep (i : Nat) (s : SessionLife) : SessionLife :=
  match s.callbacks[i]? with
  | none => s
  | some c =>
      match c.pc with
      | .loaded =>
          if s.closing then (s.touch .callback).chain i c.item
          else { s.touch .callback with callbacks := s.callbacks.set i { c with pc := .checked } }
      | .checked => ((s.touch .callback).queueWork .callback c.item).chain i c.item
      | .chaining => { s.touch .callback with callbacks := s.callbacks.eraseIdx i }

/-- The workqueue takes an item; an item never runs twice at a time. -/
def start (item : WorkItem) (s : SessionLife) : SessionLife :=
  if (s.work item).queued ∧ (s.work item).pc = .idle then
    s.setWork item { queued := false, pc := .started }
  else s

/-- The function of an item reads `closing`. -/
def enter (item : WorkItem) (s : SessionLife) : SessionLife :=
  if (s.work item).pc = .started then
    (s.touch (.worker item)).setWork item
      { s.work item with pc := if s.closing then .idle else .inside }
  else s

/-- One action of a function in its body: it calls into the PPP channel, the receive worker
queues an echo reply, the transmit worker takes skbs off the queue or puts them back, it
aborts the session, queues its own item again, goes round its loop or returns. -/
def act (item : WorkItem) (s : SessionLife) : WorkAct → SessionLife
  | .channel => s.use .unregistered (.worker item)
  | .echo =>
      if item = .rx then { s with txQ := s.txQ + 1 }.queueWork (.worker item) .tx else s
  | .drain left => if item = .tx then { s with txQ := left } else s
  | .abort => { s with closing := true }
  | .requeue => s.queueWork (.worker item) item
  | .loop => s.setWork item { s.work item with pc := .started }
  | .exit => s.setWork item { s.work item with pc := .idle }

def workStep (item : WorkItem) (action : WorkAct) (s : SessionLife) : SessionLife :=
  if (s.work item).pc = .inside then (s.touch (.worker item)).act item action else s

/-- The channel calls `start_xmit`, one call at a time, while it is registered. -/
def startXmit (s : SessionLife) : SessionLife :=
  if s.xmit = .idle ∧ ¬ s.Past .unregistered then { s with xmit := .entered } else s

/-- The next statement of `sstp_chan_start_xmit`.  A packet does not fit when it is too long
or the queue is full. -/
def xmitStep (fits : Bool) (s : SessionLife) : SessionLife :=
  match s.xmit with
  | .idle => s
  | .entered =>
      { s.touch .xmit with xmit := if s.closing then .idle else .checked }
  | .checked =>
      if fits then { s.touch .xmit with xmit := .queued, txQ := s.txQ + 1 }
      else { s.touch .xmit with xmit := .idle }
  | .queued => { s.touch .xmit with xmit := .idle }.queueWork .xmit .tx

/-- A `read`, `poll` or `ioctl` on the descriptor starts. -/
def call (s : SessionLife) : SessionLife :=
  if s.close = .opened then { s with users := s.users + 1 } else s

/-- A running file operation uses the session; `SSTP_IOC_DETACH` and a failed
`SSTP_IOC_SEND_CONTROL` set `closing`. -/
def access (abort : Bool) (s : SessionLife) : SessionLife :=
  if 0 < s.users then { s.touch .file with closing := s.closing || abort } else s

def finish (s : SessionLife) : SessionLife :=
  { s with users := s.users - 1 }

def step (s : SessionLife) : LifeMove → SessionLife
  | .attach copied => s.attachStep copied
  | .release => s.release
  | .shutdown => s.shutdown
  | .load item => s.load item
  | .callback i => s.callbackStep i
  | .start item => s.start item
  | .enter item => s.enter item
  | .work item action => s.workStep item action
  | .startXmit => s.startXmit
  | .xmit fits => s.xmitStep fits
  | .call => s.call
  | .access abort => s.access abort
  | .finish => s.finish

/-- The session after a run, from the installation of its descriptor. -/
def run (moves : List LifeMove) : SessionLife :=
  finalState step {} moves

/-! ## What the release guarantees at each point -/

/-- What holds of a session once the release has come to each of its points, when only the sides
that are `exempt` have made faults. -/
@[mk_iff]
structure Orderly (exempt : Accessor → Prop) (s : SessionLife) : Prop where
  closing : s.Past .marked → s.closing = true
  users : s.Past .marked → s.users = 0
  rx : s.Past .rxCancelled → s.rxWork.pc ≠ .inside
  tx : s.Past .txCancelled → s.txWork.pc ≠ .inside
  left : s.Past .purged → s.txQ + s.xmit.pending ≤ 1
  xmit : s.Past .unregistered → s.xmit = .idle
  works : s.Past .destroyed → s.rxWork = {} ∧ s.txWork = {}
  faults : ∀ accessor ∈ s.faults, exempt accessor

theorem Past.mono {s : SessionLife} {first second : ClosePc} (past : s.Past second)
    (le : first.rank ≤ second.rank) : s.Past first :=
  le.trans past

theorem touch_of_not_past {s : SessionLife} {pc : ClosePc} {accessor : Accessor}
    (before : ¬ s.Past pc) : s.touch accessor = s :=
  if_neg fun past => before (past.mono (by cases pc <;> decide))

@[simp]
theorem close_use (s : SessionLife) (pc : ClosePc) (accessor : Accessor) :
    (s.use pc accessor).close = s.close := by
  unfold use
  split <;> rfl

theorem past_touch {s : SessionLife} {pc : ClosePc} {accessor : Accessor} :
    (s.touch accessor).Past pc ↔ s.Past pc := by
  simp [Past, touch]

namespace Orderly

variable {exempt : Accessor → Prop} {s : SessionLife} {accessor : Accessor} {item : WorkItem}

theorem use {pc : ClosePc} (orderly : s.Orderly exempt)
    (allowed : s.Past pc → exempt accessor) :
    (s.use pc accessor).Orderly exempt := by
  unfold SessionLife.use
  split
  · rename_i past
    refine { orderly with faults := ?_ }
    intro other member
    rcases List.mem_append.mp member with earlier | new
    · exact orderly.faults other earlier
    · rw [List.mem_singleton.mp new]
      exact allowed past
  · exact orderly

/-- An item that is not in its body may change in any way before the workqueue is gone. -/
theorem setWork {work : Work} (orderly : s.Orderly exempt) (before : ¬ s.Past .destroyed)
    (inside : work.pc = .inside → (s.work item).pc = .inside ∨ ¬ s.Past .marked) :
    (s.setWork item work).Orderly exempt := by
  have outside {pc : ClosePc} (later : ClosePc.marked.rank ≤ pc.rank) (past : s.Past pc)
      (earlier : (s.work item).pc ≠ .inside) : work.pc ≠ .inside := by
    intro entered
    rcases inside entered with already | early
    · exact earlier already
    · exact early (past.mono later)
  cases item with
  | rx =>
      exact { orderly with
        rx := fun past => outside (by decide) past (orderly.rx past)
        works := fun past => absurd past before }
  | tx =>
      exact { orderly with
        tx := fun past => outside (by decide) past (orderly.tx past)
        works := fun past => absurd past before }

theorem queueWork (orderly : s.Orderly exempt)
    (allowed : s.Past .destroyed → exempt accessor) :
    (s.queueWork accessor item).Orderly exempt := by
  unfold SessionLife.queueWork
  split
  · exact orderly.use allowed
  · rename_i before
    exact orderly.setWork before fun entered => Or.inl entered

theorem touch (orderly : s.Orderly exempt) (allowed : s.Past .destroyed → exempt accessor) :
    (s.touch accessor).Orderly exempt :=
  orderly.use fun past => allowed (past.mono (by decide))

theorem release (orderly : s.Orderly exempt) : s.release.Orderly exempt := by
  unfold SessionLife.release
  split
  · rename_i guard
    have faults := orderly.faults
    rw [orderly_iff]
    simp_all [Past, ClosePc.rank]
  · exact orderly

/-- The next statement of the release establishes what holds from its point on. -/
theorem shutdown (orderly : s.Orderly exempt) : s.shutdown.Orderly exempt := by
  have waits := s.xmit.pending_le_one
  rcases orderly with ⟨closing, users, rx, tx, left, xmit, works, faults⟩
  rw [orderly_iff]
  unfold SessionLife.shutdown
  -- one case for each statement; those that wait have a second one, where they go on waiting
  split <;> try split
  all_goals simp_all [Past, ClosePc.rank, XmitPc.pending]

theorem attachStep {copied : Bool} (orderly : s.Orderly exempt)
    (allowed : s.attach ≠ .returned → s.Past .destroyed → exempt .attach) :
    (s.attachStep copied).Orderly exempt := by
  unfold SessionLife.attachStep
  split
  · split
    · exact { orderly with }
    · exact { orderly.release with }
  · rename_i point
    have touched : (s.touch .attach).Orderly exempt := orderly.touch (allowed (by simp [point]))
    exact { touched with }
  · rename_i point
    have late := allowed (by simp [point])
    have queued : ((s.touch .attach).queueWork .attach .rx).Orderly exempt :=
      (orderly.touch late).queueWork fun past => late (past_touch.mp past)
    exact { queued with }
  · exact orderly

theorem load (orderly : s.Orderly exempt) : (s.load item).Orderly exempt := by
  unfold SessionLife.load
  split
  · exact { orderly with }
  · exact orderly

theorem chain {i : Nat} (orderly : s.Orderly exempt) : (s.chain i item).Orderly exempt := by
  cases item <;> exact { orderly with }

theorem callbackStep {i : Nat} (orderly : s.Orderly exempt)
    (allowed : s.callbacks ≠ [] → s.Past .destroyed → exempt .callback) :
    (s.callbackStep i).Orderly exempt := by
  unfold SessionLife.callbackStep
  split
  · exact orderly
  · rename_i found
    have late := allowed (by rintro none; simp [none] at found)
    have touched : (s.touch .callback).Orderly exempt := orderly.touch late
    split
    · split
      · exact touched.chain
      · exact { touched with }
    · exact (touched.queueWork fun past => late (past_touch.mp past)).chain
    · exact { touched with }

/-- A work item that runs holds up the end of its workqueue. -/
theorem not_past_destroyed (orderly : s.Orderly exempt) (running : s.work item ≠ {}) :
    ¬ s.Past .destroyed := by
  intro past
  cases item with
  | rx => exact running (orderly.works past).1
  | tx => exact running (orderly.works past).2

theorem work_ne_of_pc {pc : WorkPc} (running : (s.work item).pc = pc) (busy : pc ≠ .idle) :
    s.work item ≠ {} := by
  intro empty
  rw [empty] at running
  exact busy running.symm

theorem start (orderly : s.Orderly exempt) : (s.start item).Orderly exempt := by
  unfold SessionLife.start
  split
  · rename_i guard
    have waiting : s.work item ≠ {} := by
      intro empty
      rw [empty] at guard
      exact absurd guard.1 (by decide)
    exact orderly.setWork (orderly.not_past_destroyed waiting) fun entered => by cases entered
  · exact orderly

theorem enter (orderly : s.Orderly exempt) : (s.enter item).Orderly exempt := by
  unfold SessionLife.enter
  split
  · rename_i running
    have before := orderly.not_past_destroyed (work_ne_of_pc running (by decide))
    rw [touch_of_not_past before]
    apply orderly.setWork before
    intro entered
    right
    intro past
    simp [orderly.closing past] at entered
  · exact orderly

/-- The release waits for a function in its body before it purges the queue. -/
theorem not_past_txCancelled (orderly : s.Orderly exempt) (inside : (s.work item).pc = .inside) :
    ¬ s.Past .txCancelled := by
  intro past
  cases item with
  | rx => exact orderly.rx (past.mono (by decide)) inside
  | tx => exact orderly.tx past inside

theorem setTxQ {txQ : Nat} (orderly : s.Orderly exempt) (before : ¬ s.Past .txCancelled) :
    { s with txQ := txQ }.Orderly exempt :=
  { orderly with left := fun past => absurd (past.mono (by decide)) before }

theorem workStep {action : WorkAct} (orderly : s.Orderly exempt) :
    (s.workStep item action).Orderly exempt := by
  unfold SessionLife.workStep
  split
  · rename_i inside
    have early := orderly.not_past_txCancelled inside
    have before : ¬ s.Past .destroyed := fun past => early (past.mono (by decide))
    rw [touch_of_not_past before]
    cases action with
    | channel => exact orderly.use fun past => absurd (past.mono (by decide)) early
    | echo =>
        simp only [act]
        split
        · exact (orderly.setTxQ early).queueWork fun past => absurd past before
        · exact orderly
    | drain left =>
        simp only [act]
        split
        · exact orderly.setTxQ early
        · exact orderly
    | abort => exact { orderly with closing := fun _ => rfl }
    | requeue => exact orderly.queueWork fun past => absurd past before
    | loop => exact orderly.setWork before fun entered => by cases entered
    | exit => exact orderly.setWork before fun entered => by cases entered
  · exact orderly

theorem startXmit (orderly : s.Orderly exempt) : s.startXmit.Orderly exempt := by
  unfold SessionLife.startXmit
  split
  · rename_i guard
    have left : s.Past .purged → s.txQ + XmitPc.entered.pending ≤ 1 := by
      intro past
      have bound := orderly.left past
      rwa [guard.1] at bound
    exact { orderly with left := left, xmit := fun past => absurd past guard.2 }
  · exact orderly

/-- A call of `start_xmit` holds up the end of the channel. -/
theorem not_past_unregistered (orderly : s.Orderly exempt) (running : s.xmit ≠ .idle) :
    ¬ s.Past .unregistered :=
  fun past => running (orderly.xmit past)

/-- A call of `start_xmit` goes on; what it queues it could queue before. -/
theorem setXmit {xmit : XmitPc} {txQ : Nat} (orderly : s.Orderly exempt)
    (running : s.xmit ≠ .idle)
    (left : s.Past .purged → txQ + xmit.pending ≤ s.txQ + s.xmit.pending) :
    { s with xmit := xmit, txQ := txQ }.Orderly exempt :=
  { orderly with
    left := fun past => (left past).trans (orderly.left past)
    xmit := fun past => absurd past (orderly.not_past_unregistered running) }

theorem xmitStep {fits : Bool} (orderly : s.Orderly exempt) : (s.xmitStep fits).Orderly exempt := by
  unfold SessionLife.xmitStep
  split
  · exact orderly
  all_goals
    rename_i point
    have running : s.xmit ≠ .idle := by simp [point]
    have before := orderly.not_past_unregistered running
    rw [touch_of_not_past before]
  · apply orderly.setXmit running
    intro past
    simp [orderly.closing (past.mono (by decide)), XmitPc.pending]
  · split
    · exact orderly.setXmit running fun _ => by simp [point, XmitPc.pending]
    · exact orderly.setXmit running fun _ => by simp [XmitPc.pending]
  · have returned : { s with xmit := .idle }.Orderly exempt :=
      orderly.setXmit running fun _ => by simp [XmitPc.pending]
    exact returned.queueWork fun past => absurd (past.mono (by decide)) before

theorem call (orderly : s.Orderly exempt) : s.call.Orderly exempt := by
  unfold SessionLife.call
  split
  · rename_i opened
    have early : ¬ s.Past .marked := by simp [Past, opened, ClosePc.rank]
    exact { orderly with users := fun past => absurd past early }
  · exact orderly

theorem access {abort : Bool} (orderly : s.Orderly exempt) : (s.access abort).Orderly exempt := by
  unfold SessionLife.access
  split
  · rename_i running
    have early : ¬ s.Past .marked := fun past => by simp [orderly.users past] at running
    rw [touch_of_not_past early]
    exact { orderly with closing := fun past => absurd past early }
  · exact orderly

theorem finish (orderly : s.Orderly exempt) : s.finish.Orderly exempt :=
  { orderly with users := fun past => by simp [SessionLife.finish, orderly.users past] }

/-- Only the attaching thread and the callbacks, which the release does not wait for, can come
too late. -/
theorem step (orderly : s.Orderly exempt)
    (attach : s.attach ≠ .returned → s.Past .destroyed → exempt .attach)
    (callback : s.callbacks ≠ [] → s.Past .destroyed → exempt .callback) (move : LifeMove) :
    (s.step move).Orderly exempt := by
  cases move with
  | attach copied => exact orderly.attachStep attach
  | release => exact orderly.release
  | shutdown => exact orderly.shutdown
  | load item => exact orderly.load
  | callback i => exact orderly.callbackStep callback
  | start item => exact orderly.start
  | enter item => exact orderly.enter
  | work item action => exact orderly.workStep
  | startXmit => exact orderly.startXmit
  | xmit fits => exact orderly.xmitStep
  | call => exact orderly.call
  | access abort => exact orderly.access
  | finish => exact orderly.finish

theorem initial : Orderly exempt {} := by
  rw [orderly_iff]
  simp [Past, ClosePc.rank, XmitPc.pending]

end Orderly

/-! ## Every run -/

/-- The sides that the release does not wait for. -/
def Unawaited (accessor : Accessor) : Prop :=
  accessor = .attach ∨ accessor = .callback

theorem orderly_run (moves : List LifeMove) : (run moves).Orderly Unawaited :=
  finalState_invariant
    (fun _ move orderly =>
      orderly.step (fun _ _ => Or.inl rfl) (fun _ _ => Or.inr rfl) move)
    Orderly.initial moves

/-- Whatever order the sides run in, the workers, the channel and the file operations never
use the session, its workqueue or its channel after the release has given it back. -/
theorem unawaited_of_mem_faults (moves : List LifeMove) {accessor : Accessor}
    (fault : accessor ∈ (run moves).faults) : accessor = .attach ∨ accessor = .callback :=
  (orderly_run moves).faults accessor fault

/-- The attaching thread returns, and the release runs to its end. -/
def attached : List LifeMove :=
  [.attach true, .attach true, .attach true]

def released : List LifeMove :=
  .release :: List.replicate 8 .shutdown

/-- A callback that has loaded the session before its hook is removed reads the freed
session. -/
theorem unawaited_of_lateCallback :
    (run (attached ++ [.load .rx] ++ released ++ [.callback 0])).faults = [.callback] ∧
      (Accessor.callback = .attach ∨ Accessor.callback = .callback) :=
  ⟨by decide, unawaited_of_mem_faults
    (attached ++ [.load .rx] ++ released ++ [.callback 0]) (by decide)⟩

-- Another thread closes the descriptor before the attaching thread has hooked the socket.
example : (run ([.attach true] ++ released ++ [.attach true])).faults = [.attach] := by decide

/-- When a session is freed none of the sides that the release waits for is left in it, and of
the packets that the channel has handed over at most one is lost with the queue. -/
theorem left_of_freed (moves : List LifeMove) (freed : (run moves).close = .freed) :
    (run moves).rxWork = {} ∧ (run moves).txWork = {} ∧ (run moves).xmit = .idle ∧
      (run moves).users = 0 ∧ (run moves).txQ ≤ 1 := by
  have orderly := orderly_run moves
  have past (pc : ClosePc) : (run moves).Past pc := by
    rw [Past, freed]
    cases pc <;> decide
  have works := orderly.works (past _)
  have left := orderly.left (past _)
  exact ⟨works.1, works.2, orderly.xmit (past _), orderly.users (past _), by omega⟩

/-- A call of `start_xmit` that has read `closing` before the release sets it queues its packet
after the release has purged the queue. -/
def straddlingXmit : List LifeMove :=
  [.startXmit, .xmit true, .release, .shutdown, .shutdown, .shutdown, .shutdown, .xmit true,
    .shutdown, .xmit true, .shutdown, .start .tx, .enter .tx, .shutdown, .shutdown]

theorem left_of_straddlingXmit :
    (run straddlingXmit).txQ = 1 ∧ (run straddlingXmit).rxWork = {} ∧
      (run straddlingXmit).txWork = {} ∧ (run straddlingXmit).xmit = .idle ∧
      (run straddlingXmit).users = 0 ∧ (run straddlingXmit).txQ ≤ 1 :=
  ⟨by decide, left_of_freed straddlingXmit (by decide)⟩

/-! ## Runs without faults -/

/-- The two orders that the module does not enforce: the descriptor is closed after the
attaching thread has returned, and no callback is in flight when the workqueue goes. -/
def InOrder (s : SessionLife) (move : LifeMove) : Prop :=
  (move = .release → s.attach = .returned) ∧
    (move = .shutdown → s.close = .unregistered → s.callbacks = [])

instance (s : SessionLife) (move : LifeMove) : Decidable (s.InOrder move) :=
  inferInstanceAs (Decidable (_ ∧ _))

/-- What those orders give: nothing is left that could come too late. -/
structure Quiet (s : SessionLife) : Prop where
  orderly : s.Orderly fun _ => False
  attached : s.Past .marked → s.attach = .returned
  unhooked : s.Past .unhooked → s.cbInstalled = false
  callbacks : s.Past .destroyed → s.callbacks = []

/-- What the attaching thread and the release share. -/
def frame (s : SessionLife) : AttachPc × ClosePc × Bool :=
  (s.attach, s.close, s.cbInstalled)

/-- What they share with the callbacks. -/
def hooks (s : SessionLife) : (AttachPc × ClosePc × Bool) × List Callback :=
  (s.frame, s.callbacks)

@[simp]
theorem hooks_use (s : SessionLife) (pc : ClosePc) (accessor : Accessor) :
    (s.use pc accessor).hooks = s.hooks := by
  unfold use
  split <;> rfl

@[simp]
theorem hooks_touch (s : SessionLife) (accessor : Accessor) :
    (s.touch accessor).hooks = s.hooks :=
  s.hooks_use .freed accessor

@[simp]
theorem hooks_setWork (s : SessionLife) (item : WorkItem) (work : Work) :
    (s.setWork item work).hooks = s.hooks := by
  cases item <;> rfl

@[simp]
theorem hooks_queueWork (s : SessionLife) (accessor : Accessor) (item : WorkItem) :
    (s.queueWork accessor item).hooks = s.hooks := by
  unfold queueWork
  split <;> simp

theorem frame_chain (s : SessionLife) (i : Nat) (item : WorkItem) :
    (s.chain i item).frame = s.frame := by
  cases item <;> rfl

theorem frame_callbackStep (s : SessionLife) (i : Nat) : (s.callbackStep i).frame = s.frame := by
  have touched : (s.touch .callback).frame = s.frame := congrArg Prod.fst (hooks_touch s _)
  unfold callbackStep
  split
  · rfl
  · split
    · split
      · exact (frame_chain ..).trans touched
      · exact touched
    · exact (frame_chain ..).trans ((congrArg Prod.fst (hooks_queueWork ..)).trans touched)
    · exact touched

theorem hooks_workStep (s : SessionLife) (item : WorkItem) (action : WorkAct) :
    (s.workStep item action).hooks = s.hooks := by
  unfold workStep
  split
  · cases action with
    | channel => simp [act]
    | echo =>
        simp only [act]
        split
        · rw [hooks_queueWork]
          exact hooks_touch s _
        · simp
    | drain left =>
        simp only [act]
        split
        · exact hooks_touch s _
        · simp
    | abort => exact hooks_touch s _
    | requeue => simp [act]
    | loop => simp [act]
    | exit => simp [act]
  · rfl

theorem hooks_xmitStep (s : SessionLife) (fits : Bool) : (s.xmitStep fits).hooks = s.hooks := by
  unfold xmitStep
  split
  · rfl
  · exact hooks_touch s _
  · split <;> exact hooks_touch s _
  · rw [hooks_queueWork]
    exact hooks_touch s _

namespace Quiet

variable {s s' : SessionLife}

theorem of_frame (quiet : s.Quiet) (orderly : s'.Orderly fun _ => False)
    (same : s'.frame = s.frame) (callbacks : s.Past .destroyed → s'.callbacks = s.callbacks) :
    s'.Quiet := by
  simp only [frame, Prod.mk.injEq] at same
  rcases same with ⟨attach, close, cbInstalled⟩
  have past {pc : ClosePc} (later : s'.Past pc) : s.Past pc := by
    rwa [Past, close] at later
  exact {
    orderly := orderly
    attached := fun later => attach.trans (quiet.attached (past later))
    unhooked := fun later => cbInstalled.trans (quiet.unhooked (past later))
    callbacks := fun later => (callbacks (past later)).trans (quiet.callbacks (past later)) }

theorem of_hooks (quiet : s.Quiet) (orderly : s'.Orderly fun _ => False)
    (same : s'.hooks = s.hooks) : s'.Quiet :=
  quiet.of_frame orderly (congrArg Prod.fst same) fun _ => congrArg Prod.snd same

/-- A session whose release has at most begun is quiet once the attaching thread has
returned. -/
theorem of_early (orderly : s'.Orderly fun _ => False)
    (early : s'.close = .opened ∨ s'.close = .marked ∧ s'.attach = .returned) : s'.Quiet := by
  have least : s'.close.rank ≤ ClosePc.marked.rank := by
    rcases early with opened | ⟨marked, _⟩
    · simp [opened, ClosePc.rank]
    · rw [marked]
  refine ⟨orderly, ?_, fun past => absurd (past.trans least) (by decide),
    fun past => absurd (past.trans least) (by decide)⟩
  intro past
  rcases early with opened | ⟨_, returned⟩
  · simp [Past, opened, ClosePc.rank] at past
  · exact returned

/-- The attaching thread is at work only before the release. -/
theorem opened_of_attach (quiet : s.Quiet) (running : s.attach ≠ .returned) :
    s.close = .opened := by
  by_contra closed
  apply running
  apply quiet.attached
  revert closed
  unfold Past
  cases s.close <;> decide

theorem attachStep (quiet : s.Quiet) {copied : Bool}
    (orderly : (s.attachStep copied).Orderly fun _ => False) : (s.attachStep copied).Quiet := by
  by_cases returned : s.attach = .returned
  · apply quiet.of_hooks orderly
    simp [SessionLife.attachStep, returned]
  · have opened := quiet.opened_of_attach returned
    apply of_early orderly
    unfold SessionLife.attachStep SessionLife.release
    split <;> try split
    · exact Or.inl opened
    · split
      · exact Or.inr ⟨rfl, rfl⟩
      · exact Or.inl opened
    · exact Or.inl ((close_use s _ _).trans opened)
    · have same := congrArg (·.1.2.1) (hooks_queueWork (s.touch .attach) .attach .rx)
      exact Or.inl (same.trans ((close_use s _ _).trans opened))
    · exact absurd ‹_› returned

theorem release (quiet : s.Quiet) (returned : s.attach = .returned) : s.release.Quiet := by
  have orderly := quiet.orderly.release
  unfold SessionLife.release at orderly ⊢
  split
  · rename_i guard
    rw [if_pos guard] at orderly
    exact of_early orderly (Or.inr ⟨rfl, returned⟩)
  · exact quiet

theorem load (quiet : s.Quiet) {item : WorkItem} : (s.load item).Quiet := by
  have orderly : (s.load item).Orderly fun _ => False := quiet.orderly.load
  unfold SessionLife.load at orderly ⊢
  split
  · rename_i installed
    rw [if_pos installed] at orderly
    have early : ¬ s.Past .unhooked := fun past => by simp [quiet.unhooked past] at installed
    exact { quiet with
      orderly := orderly
      callbacks := fun past => absurd (Past.mono past (by decide)) early }
  · exact quiet

/-- A callback in flight means that the workqueue stands. -/
theorem callbackStep (quiet : s.Quiet) {i : Nat}
    (orderly : (s.callbackStep i).Orderly fun _ => False) : (s.callbackStep i).Quiet := by
  cases found : s.callbacks[i]? with
  | none =>
      apply quiet.of_hooks orderly
      simp [SessionLife.callbackStep, found]
  | some c =>
      apply quiet.of_frame orderly (frame_callbackStep s i)
      intro past
      simp [quiet.callbacks past] at found

theorem shutdown (quiet : s.Quiet) (landed : s.close = .unregistered → s.callbacks = []) :
    s.shutdown.Quiet := by
  rcases quiet with ⟨orderly, attached, unhooked, callbacks⟩
  refine ⟨orderly.shutdown, ?_, ?_, ?_⟩
  all_goals
    unfold SessionLife.shutdown
    split <;> try split
    all_goals simp_all [Past, ClosePc.rank]

theorem step (quiet : s.Quiet) {move : LifeMove} (inOrder : s.InOrder move) :
    (s.step move).Quiet := by
  have orderly : (s.step move).Orderly fun _ => False :=
    quiet.orderly.step
      (fun running past => running (quiet.attached (past.mono (by decide))))
      (fun inFlight past => inFlight (quiet.callbacks past)) move
  cases move with
  | attach copied => exact quiet.attachStep orderly
  | release => exact quiet.release (inOrder.1 rfl)
  | shutdown => exact quiet.shutdown (inOrder.2 rfl)
  | load item => exact quiet.load
  | callback i => exact quiet.callbackStep orderly
  | start item | enter item =>
      apply quiet.of_hooks orderly
      simp only [SessionLife.step, SessionLife.start, SessionLife.enter]
      split <;> simp
  | work item action => exact quiet.of_hooks orderly (hooks_workStep s item action)
  | startXmit | call =>
      apply quiet.of_hooks orderly
      simp only [SessionLife.step, SessionLife.startXmit, SessionLife.call]
      split <;> rfl
  | xmit fits => exact quiet.of_hooks orderly (hooks_xmitStep s fits)
  | access abort =>
      apply quiet.of_hooks orderly
      simp only [SessionLife.step, SessionLife.access]
      split
      · exact hooks_touch s _
      · rfl
  | finish => exact quiet.of_hooks orderly rfl

theorem initial : Quiet {} where
  orderly := Orderly.initial
  attached past := absurd past (by decide)
  unhooked _ := rfl
  callbacks _ := rfl

end Quiet

/-- A session whose descriptor is closed after the attaching thread has returned, and whose
socket has no callback in flight when the workqueue is destroyed, is never used after it is
given back, whatever else runs in between. -/
theorem faults_eq_nil_of_inOrder (moves : List LifeMove)
    (inOrder : ∀ visit ∈ visits step {} moves, visit.1.InOrder visit.2) :
    (run moves).faults = [] := by
  have quiet : (run moves).Quiet :=
    finalState_of_guarded (fun _ _ quiet inOrder => quiet.step inOrder) Quiet.initial inOrder
  exact List.eq_nil_iff_forall_not_mem.mpr quiet.orderly.faults

/-- A callback that is in flight while the hook is removed still queues its worker, which then
sees the mark. -/
def landedCallback : List LifeMove :=
  attached ++ [.load .rx, .callback 0, .release, .shutdown, .shutdown, .callback 0, .start .rx,
    .enter .rx] ++ List.replicate 6 .shutdown

theorem faults_of_landedCallback :
    (run landedCallback).close = .freed ∧ (run landedCallback).faults = [] :=
  ⟨by decide, faults_eq_nil_of_inOrder landedCallback (by decide)⟩

end SessionLife

end SstpServer.Kmod
