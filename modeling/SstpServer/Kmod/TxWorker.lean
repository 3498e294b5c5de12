import SstpServer.Kmod.Transmit

/-!
# The transmit worker among its producers

The PPP channel and the receive worker append to the transmit queue while the transmit
worker takes batches off its head.  Here every access to the queue is a step of its own, and
the steps of the three parties may come in any order.  The channel lock serialises
`start_xmit` with the wakeup that the worker sends to the channel.
-/

namespace SstpServer.Kmod

open SstpServer.Wire
open SstpServer.Sstp
open SstpServer.Transition

/-! ## The parties -/

/-- Most batches in one run of the worker. -/
def sstpTxLoops : Nat := 8

/-- Where a producer of skbs is. -/
inductive ProducerPc where
  | idle
  | entered (skb : Bytes)
  | sized (skb : Bytes)
  | room (skb : Bytes)
  | queued
  | full
  deriving DecidableEq, Repr

/-- Where the worker is, with the locals of the run: whether it has sent a batch, how many it
has sent, the batch in hand and its size in bytes. -/
inductive TxPc where
  | idle
  | loop (drained : Bool) (loops : Nat)
  | fill (drained : Bool) (loops : Nat) (batch : List Bytes) (total : Nat)
  | fit (drained : Bool) (loops : Nat) (batch : List Bytes) (total : Nat) (skb : Bytes)
  | send (drained : Bool) (loops : Nat) (batch : List Bytes)
  | rehead (drained : Bool) (batch : List Bytes)
  | check (drained : Bool)
  | wake
  deriving DecidableEq, Repr

/-- The skbs that a run has taken off the queue and not sent yet. -/
def TxPc.batch : TxPc → List Bytes
  | .fill _ _ batch _ | .send _ _ batch | .rehead _ batch => batch
  | .fit _ _ batch _ skb => batch ++ [skb]
  | .idle | .loop _ _ | .check _ | .wake => []

/-- A run has sent a batch and has not finished its last statement, which checks the queue and
wakes the channel. -/
def TxPc.YetToWake : TxPc → Prop
  | .loop drained _ | .fill drained _ _ _ | .fit drained _ _ _ _ | .send drained _ _
  | .rehead drained _ | .check drained => drained = true
  | .wake => True
  | .idle => False

/-- The transmit side of a kernel session between two accesses to it.  `workQueued` says that
the workqueue has the worker's item, `held` that `start_xmit` has returned 0 since the last
wakeup; `accepted` and `sent` list the skbs that were ever queued and sent. -/
structure TxState where
  txQ : List Bytes := []
  closing : Bool := false
  workQueued : Bool := false
  worker : TxPc := .idle
  xmit : ProducerPc := .idle
  echo : ProducerPc := .idle
  held : Bool := false
  accepted : List Bytes := []
  sent : List Bytes := []
  deriving DecidableEq, Repr

/-- A step of one of the parties, or the socket reporting room. -/
inductive TxMove where
  | startXmit (skb : Bytes)
  | xmit
  | deliverPpp (payload : Bytes)
  | echo
  | schedule
  | worker (result : SendResult)
  | writeSpace
  | close
  deriving DecidableEq, Repr

namespace TxState

def queueTail (skb : Bytes) (s : TxState) : TxState :=
  { s with txQ := s.txQ ++ [skb], accepted := s.accepted ++ [skb] }

/-- The next step of `start_xmit`.  On a full queue the channel keeps the skb. -/
def stepXmit (s : TxState) : TxState :=
  match s.xmit with
  | .idle => s
  | .entered skb =>
      if s.closing ∨ sstpMaxPacketLen < sstpHeaderLen + 2 + skb.length then
        { s with xmit := .idle }
      else { s with xmit := .sized skb }
  | .sized skb =>
      if sstpTxQCap ≤ s.txQ.length then { s with xmit := .full } else { s with xmit := .room skb }
  | .room skb => { s.queueTail skb with xmit := .queued }
  | .queued => { s with xmit := .idle, workQueued := true }
  | .full => { s with xmit := .idle, held := true }

/-- The next step of the echo handler.  On a full queue the reply is dropped. -/
def stepEcho (s : TxState) : TxState :=
  match s.echo with
  | .idle => s
  | .entered reply => { s with echo := if s.closing then .idle else .sized reply }
  | .sized reply =>
      if sstpTxQCap ≤ s.txQ.length then { s with echo := .full } else { s with echo := .room reply }
  | .room reply => { s.queueTail reply with echo := .queued }
  | .queued => { s with echo := .idle, workQueued := true }
  | .full => { s with echo := .idle }

/-- The next step of the worker. -/
def stepWorker (result : SendResult) (s : TxState) : TxState :=
  match s.worker with
  | .idle => s
  | .loop drained loops =>
      { s with worker := if s.closing then .check drained else .fill drained loops [] 0 }
  | .fill drained loops batch total =>
      if batch.length < sstpTxBatchMax then
        match s.txQ with
        | skb :: rest => { s with txQ := rest, worker := .fit drained loops batch total skb }
        | [] => { s with worker := if batch = [] then .check drained else .send drained loops batch }
      else { s with worker := .send drained loops batch }
  | .fit drained loops batch total skb =>
      let frame := sstpTxHdrStride + skb.length
      if batch ≠ [] ∧ sstpTxBatchBytesMax < total + frame then
        { s with txQ := skb :: s.txQ, worker := .send drained loops batch }
      else { s with worker := .fill drained loops (batch ++ [skb]) (total + frame) }
  | .send drained loops batch =>
      match result with
      | .sent =>
          if sstpTxLoops ≤ loops + 1 then
            { s with sent := s.sent ++ batch, workQueued := true, worker := .check true }
          else { s with sent := s.sent ++ batch, worker := .loop true (loops + 1) }
      | .again => { s with worker := .rehead drained batch }
      | .failed => { s with closing := true, worker := .check drained }
  | .rehead drained batch =>
      match batch.getLast? with
      | some skb => { s with txQ := skb :: s.txQ, worker := .rehead drained batch.dropLast }
      | none => { s with worker := .check drained }
  | .check drained =>
      { s with worker := if drained ∧ s.txQ.length < sstpTxQCap / 2 then .wake else .idle }
  | .wake =>
      -- The wakeup needs the channel lock, which `start_xmit` holds while it runs.
      if s.xmit = .idle then { s with held := false, worker := .idle } else s

def step (s : TxState) (move : TxMove) : TxState :=
  match move with
  | .startXmit skb => if s.xmit = .idle then { s with xmit := .entered skb } else s
  | .xmit => s.stepXmit
  | .deliverPpp payload =>
      match lcpEchoReply (stripAllStations payload) with
      | some reply => if s.echo = .idle then { s with echo := .entered reply } else s
      | none => s
  | .echo => s.stepEcho
  | .schedule =>
      if s.workQueued ∧ s.worker = .idle then
        { s with workQueued := false, worker := .loop false 0 }
      else s
  | .worker result => s.stepWorker result
  | .writeSpace => if s.closing then s else { s with workQueued := true }
  | .close => { s with closing := true }

/-! ## What a step does -/

/-- The steps of the worker. -/
inductive WorkerTurn (s : TxState) : SendResult → TxState → Prop where
  | rests (result : SendResult) (blocked : s.worker = .idle ∨ s.worker = .wake) :
      WorkerTurn s result s
  | leaves (result : SendResult) (drained : Bool) (loops : Nat)
      (pc : s.worker = .loop drained loops) (closing : s.closing = true) :
      WorkerTurn s result { s with worker := .check drained }
  | begins (result : SendResult) (drained : Bool) (loops : Nat)
      (pc : s.worker = .loop drained loops) :
      WorkerTurn s result { s with worker := .fill drained loops [] 0 }
  | takes (result : SendResult) (drained : Bool) (loops : Nat) (batch : List Bytes) (total : Nat)
      (skb : Bytes) (rest : List Bytes) (pc : s.worker = .fill drained loops batch total)
      (queue : s.txQ = skb :: rest) :
      WorkerTurn s result { s with txQ := rest, worker := .fit drained loops batch total skb }
  | ends (result : SendResult) (drained : Bool) (loops total : Nat)
      (pc : s.worker = .fill drained loops [] total) (queue : s.txQ = []) :
      WorkerTurn s result { s with worker := .check drained }
  | fills (result : SendResult) (drained : Bool) (loops : Nat) (batch : List Bytes) (total : Nat)
      (pc : s.worker = .fill drained loops batch total) :
      WorkerTurn s result { s with worker := .send drained loops batch }
  | defers (result : SendResult) (drained : Bool) (loops : Nat) (batch : List Bytes) (total : Nat)
      (skb : Bytes) (pc : s.worker = .fit drained loops batch total skb) :
      WorkerTurn s result { s with txQ := skb :: s.txQ, worker := .send drained loops batch }
  | packs (result : SendResult) (drained : Bool) (loops : Nat) (batch : List Bytes)
      (total total' : Nat) (skb : Bytes) (pc : s.worker = .fit drained loops batch total skb) :
      WorkerTurn s result { s with worker := .fill drained loops (batch ++ [skb]) total' }
  | sends (drained : Bool) (loops : Nat) (batch : List Bytes)
      (pc : s.worker = .send drained loops batch) :
      WorkerTurn s .sent { s with sent := s.sent ++ batch, worker := .loop true (loops + 1) }
  | pauses (drained : Bool) (loops : Nat) (batch : List Bytes)
      (pc : s.worker = .send drained loops batch) :
      WorkerTurn s .sent
        { s with sent := s.sent ++ batch, workQueued := true, worker := .check true }
  | retries (drained : Bool) (loops : Nat) (batch : List Bytes)
      (pc : s.worker = .send drained loops batch) :
      WorkerTurn s .again { s with worker := .rehead drained batch }
  | fails (drained : Bool) (loops : Nat) (batch : List Bytes)
      (pc : s.worker = .send drained loops batch) :
      WorkerTurn s .failed { s with closing := true, worker := .check drained }
  | reheads (result : SendResult) (drained : Bool) (batch : List Bytes) (skb : Bytes)
      (pc : s.worker = .rehead drained (batch ++ [skb])) :
      WorkerTurn s result { s with txQ := skb :: s.txQ, worker := .rehead drained batch }
  | reheaded (result : SendResult) (drained : Bool) (pc : s.worker = .rehead drained []) :
      WorkerTurn s result { s with worker := .check drained }
  | wakes (result : SendResult) (pc : s.worker = .check true) :
      WorkerTurn s result { s with worker := .wake }
  | stops (result : SendResult) (drained : Bool) (pc : s.worker = .check drained)
      (filled : drained = true → sstpTxQCap / 2 ≤ s.txQ.length) :
      WorkerTurn s result { s with worker := .idle }
  | woken (result : SendResult) (pc : s.worker = .wake) (unlocked : s.xmit = .idle) :
      WorkerTurn s result { s with held := false, worker := .idle }

theorem workerTurn (result : SendResult) (s : TxState) :
    WorkerTurn s result (s.stepWorker result) := by
  unfold stepWorker
  cases pc : s.worker with
  | idle => exact .rests result (.inl pc)
  | loop drained loops =>
      dsimp only
      split_ifs with closing
      · exact .leaves result drained loops pc closing
      · exact .begins result drained loops pc
  | fill drained loops batch total =>
      dsimp only
      by_cases slots : batch.length < sstpTxBatchMax
      · rw [if_pos slots]
        cases queue : s.txQ with
        | cons skb rest => exact .takes result drained loops batch total skb rest pc queue
        | nil =>
            dsimp only
            split_ifs with empty
            · rw [empty] at pc
              simpa only [queue] using WorkerTurn.ends result drained loops total pc queue
            · simpa only [queue] using WorkerTurn.fills result drained loops batch total pc
      · rw [if_neg slots]
        exact .fills result drained loops batch total pc
  | fit drained loops batch total skb =>
      dsimp only
      split_ifs
      · exact .defers result drained loops batch total skb pc
      · exact .packs result drained loops batch total _ skb pc
  | send drained loops batch =>
      cases result with
      | sent =>
          dsimp only
          split_ifs
          · exact .pauses drained loops batch pc
          · exact .sends drained loops batch pc
      | again => exact .retries drained loops batch pc
      | failed => exact .fails drained loops batch pc
  | rehead drained batch =>
      rcases List.eq_nil_or_concat batch with rfl | ⟨before, skb, rfl⟩
      · exact .reheaded result drained pc
      · rw [List.concat_eq_append] at pc ⊢
        simpa using WorkerTurn.reheads result drained before skb pc
  | check drained =>
      dsimp only
      split_ifs with wakes
      · rw [wakes.1] at pc
        exact .wakes result pc
      · apply WorkerTurn.stops result drained pc
        intro sent
        exact Nat.le_of_not_lt fun short => wakes ⟨sent, short⟩
  | wake =>
      dsimp only
      split_ifs with unlocked
      · exact .woken result pc unlocked
      · exact .rests result (.inr pc)

/-- The steps of all parties. -/
inductive Turn (s : TxState) : TxState → Prop where
  | rests : Turn s s
  | worker (result : SendResult) (s' : TxState) (turn : WorkerTurn s result s') : Turn s s'
  | xmitMoves (pc : ProducerPc) (room : pc ≠ .full) : Turn s { s with xmit := pc }
  | xmitRefuses (filled : sstpTxQCap ≤ s.txQ.length) : Turn s { s with xmit := .full }
  | xmitHolds (refused : s.xmit = .full) : Turn s { s with xmit := .idle, held := true }
  | xmitQueues (skb : Bytes) : Turn s { s.queueTail skb with xmit := .queued }
  | xmitKicks : Turn s { s with xmit := .idle, workQueued := true }
  | echoMoves (pc : ProducerPc) : Turn s { s with echo := pc }
  | echoQueues (reply : Bytes) : Turn s { s.queueTail reply with echo := .queued }
  | echoKicks : Turn s { s with echo := .idle, workQueued := true }
  | schedules (pc : s.worker = .idle) :
      Turn s { s with workQueued := false, worker := .loop false 0 }
  | kicks : Turn s { s with workQueued := true }
  | closes : Turn s { s with closing := true }

theorem turn_stepXmit (s : TxState) : Turn s s.stepXmit := by
  unfold stepXmit
  cases pc : s.xmit with
  | idle => exact .rests
  | entered skb =>
      dsimp only
      split_ifs
      · exact .xmitMoves _ (by intro gone; cases gone)
      · exact .xmitMoves _ (by intro gone; cases gone)
  | sized skb =>
      dsimp only
      split_ifs with filled
      · exact .xmitRefuses filled
      · exact .xmitMoves _ (by intro gone; cases gone)
  | room skb => exact .xmitQueues skb
  | queued => exact .xmitKicks
  | full => exact .xmitHolds pc

theorem turn_stepEcho (s : TxState) : Turn s s.stepEcho := by
  unfold stepEcho
  cases s.echo with
  | idle => exact .rests
  | entered reply => exact .echoMoves _
  | sized reply =>
      dsimp only
      split_ifs
      · exact .echoMoves _
      · exact .echoMoves _
  | room reply => exact .echoQueues reply
  | queued => exact .echoKicks
  | full => exact .echoMoves _

theorem turn_step (s : TxState) (move : TxMove) : Turn s (s.step move) := by
  cases move with
  | startXmit skb =>
      by_cases unlocked : s.xmit = .idle
      · rw [TxState.step, if_pos unlocked]
        exact .xmitMoves _ (by intro gone; cases gone)
      · rw [TxState.step, if_neg unlocked]
        exact .rests
  | xmit => exact turn_stepXmit s
  | deliverPpp payload =>
      rw [TxState.step]
      split
      · split_ifs
        · exact .echoMoves _
        · exact .rests
      · exact .rests
  | echo => exact turn_stepEcho s
  | schedule =>
      by_cases starts : s.workQueued = true ∧ s.worker = .idle
      · rw [TxState.step, if_pos starts]
        exact .schedules starts.2
      · rw [TxState.step, if_neg starts]
        exact .rests
  | worker result => exact .worker result _ (workerTurn result s)
  | writeSpace =>
      rw [TxState.step]
      split_ifs
      · exact .rests
      · exact .kicks
  | close => exact .closes

/-! ## Order -/

/-- What was sent, the batch in hand and the queue, in this order. -/
def line (s : TxState) : List Bytes :=
  s.sent ++ s.worker.batch ++ s.txQ

/-- The skbs in the line are those that were accepted. -/
def Ordered (s : TxState) : Prop :=
  s.closing = false → s.line = s.accepted

theorem line_queueTail (skb : Bytes) (s : TxState) :
    (s.queueTail skb).line = s.line ++ [skb] :=
  (List.append_assoc _ _ _).symm

/-- The worker only moves skbs along the line, unless a failed send closes the session. -/
theorem WorkerTurn.ordered {s s' : TxState} {result : SendResult}
    (turn : WorkerTurn s result s') (ordered : s.Ordered) : s'.Ordered := by
  intro opened
  cases turn with
  | fails => cases opened
  | rests => exact ordered opened
  | _ => simpa [line, TxPc.batch, *] using ordered opened

theorem Turn.ordered {s s' : TxState} (turn : Turn s s') (ordered : s.Ordered) : s'.Ordered := by
  cases turn with
  | worker result _ turn => exact turn.ordered ordered
  | xmitQueues skb | echoQueues skb =>
      intro opened
      calc
        (s.queueTail skb).line = s.line ++ [skb] := line_queueTail skb s
        _ = s.accepted ++ [skb] := congrArg (· ++ [skb]) (ordered opened)
  | schedules pc =>
      intro opened
      simpa [line, pc, TxPc.batch] using ordered opened
  | closes => intro opened; cases opened
  | _ => exact ordered

/-- Until the session closes, what was sent, then the batch in hand, then the queue, are the
accepted skbs in the order in which they were queued. -/
theorem sent_append_batch_append_txQ (moves : List TxMove)
    (opened : (finalState step {} moves).closing = false) :
    (finalState step {} moves).sent ++ (finalState step {} moves).worker.batch ++
        (finalState step {} moves).txQ =
      (finalState step {} moves).accepted := by
  have ordered : (finalState step {} moves).Ordered :=
    finalState_invariant (fun s move ordered => (turn_step s move).ordered ordered)
      (fun _ => rfl) moves
  exact ordered opened

/-- Two skbs, of which the first is on its way back to the queue while the second is put
behind it. -/
def reheadedRun : List TxMove :=
  [.startXmit [1], .xmit, .xmit, .xmit, .xmit, .schedule, .worker .again, .worker .again,
    .worker .again, .worker .again, .worker .again, .startXmit [2], .xmit, .xmit, .xmit]

theorem sent_append_batch_append_txQ_reheadedRun :
    (finalState step {} reheadedRun).sent ++ (finalState step {} reheadedRun).worker.batch ++
        (finalState step {} reheadedRun).txQ =
      (finalState step {} reheadedRun).accepted :=
  sent_append_batch_append_txQ reheadedRun (by decide)

/-! ## Wakeups -/

/-- The channel holds an skb back, or is about to. -/
def Awaits (s : TxState) : Prop :=
  s.held = true ∨ s.xmit = .full

/-- A wakeup is not due yet, or is on its way. -/
def WakeupPending (s : TxState) : Prop :=
  sstpTxQCap / 2 ≤ s.txQ.length + s.worker.batch.length ∨ s.worker.YetToWake

/-- A channel that holds an skb back will be woken. -/
def Wakeful (s : TxState) : Prop :=
  s.closing = false → s.Awaits → s.WakeupPending

theorem WakeupPending.of_le {s s' : TxState} (pending : s.WakeupPending)
    (kept : s.txQ.length + s.worker.batch.length ≤ s'.txQ.length + s'.worker.batch.length)
    (runs : s.worker.YetToWake → s'.worker.YetToWake) : s'.WakeupPending := by
  rcases pending with backlog | sent
  · exact .inl (backlog.trans kept)
  · exact .inr (runs sent)

theorem WakeupPending.queueTail {s : TxState} (pending : s.WakeupPending) (skb : Bytes) :
    (s.queueTail skb).WakeupPending := by
  apply pending.of_le
  · exact Nat.add_le_add_right (List.length_append.symm ▸ Nat.le_add_right _ _) _
  · exact id

theorem WorkerTurn.wakeful {s s' : TxState} {result : SendResult}
    (turn : WorkerTurn s result s') (wakeful : s.Wakeful) : s'.Wakeful := by
  intro opened awaits
  cases turn with
  | fails => cases opened
  | rests => exact wakeful opened awaits
  | leaves _ _ _ _ closing => exact absurd closing (Bool.eq_false_iff.mp opened)
  | sends => exact .inr rfl
  | pauses => exact .inr rfl
  | wakes => exact .inr trivial
  | stops _ drained pc filled =>
      rcases wakeful opened awaits with backlog | sent
      · left
        simpa [pc, TxPc.batch] using backlog
      · rw [pc] at sent
        exact .inl (filled sent)
  | woken _ pc unlocked =>
      rcases awaits with held | refused
      · cases held
      · rw [unlocked] at refused
        cases refused
  | _ =>
      -- The skbs change places between the queue and the batch.
      apply (wakeful opened awaits).of_le
      · simp [TxPc.batch, Nat.add_comm, Nat.add_left_comm, *]
      · simp [TxPc.YetToWake, *]

theorem Turn.wakeful {s s' : TxState} (turn : Turn s s') (wakeful : s.Wakeful) : s'.Wakeful := by
  intro opened awaits
  cases turn with
  | rests | echoMoves | echoKicks | kicks => exact wakeful opened awaits
  | worker result _ turn => exact turn.wakeful wakeful opened awaits
  | xmitMoves pc room =>
      rcases awaits with held | refused
      · exact wakeful opened (.inl held)
      · exact absurd refused room
  | xmitRefuses filled =>
      left
      exact (Nat.div_le_self _ _).trans (filled.trans (Nat.le_add_right _ _))
  | xmitHolds refused => exact wakeful opened (.inr refused)
  | xmitQueues skb =>
      rcases awaits with held | refused
      · exact (wakeful opened (.inl held)).queueTail skb
      · cases refused
  | xmitKicks =>
      rcases awaits with held | refused
      · exact wakeful opened (.inl held)
      · cases refused
  | echoQueues reply => exact (wakeful opened awaits).queueTail reply
  | schedules pc =>
      apply (wakeful opened awaits).of_le
      · simp [pc, TxPc.batch]
      · simp [pc, TxPc.YetToWake]
  | closes => cases opened

/-- While `start_xmit` has returned 0 and the channel has not been woken since, half of the
queue's capacity is still to be sent, or a run that has sent a batch is yet to wake the
channel. -/
theorem backlog_or_yetToWake (moves : List TxMove)
    (opened : (finalState step {} moves).closing = false)
    (held : (finalState step {} moves).held = true) :
    sstpTxQCap / 2 ≤ (finalState step {} moves).txQ.length +
        (finalState step {} moves).worker.batch.length ∨
      (finalState step {} moves).worker.YetToWake := by
  have wakeful : (finalState step {} moves).Wakeful := by
    apply finalState_invariant fun s move wakeful => (turn_step s move).wakeful wakeful
    intro _ awaits
    rcases awaits with held | refused
    · cases held
    · cases refused
  exact wakeful opened (.inl held)

/-- The channel fills the queue and holds one skb back while the worker sends a batch. -/
def backlogRun : List TxMove :=
  (List.replicate sstpTxQCap [.startXmit [1], .xmit, .xmit, .xmit, .xmit]).flatten ++
    [.startXmit [2], .xmit, .xmit, .xmit, .schedule] ++ List.replicate 19 (.worker .sent)

theorem backlog_or_yetToWake_backlogRun :
    (finalState step {} backlogRun).held = true ∧
      (sstpTxQCap / 2 ≤ (finalState step {} backlogRun).txQ.length +
          (finalState step {} backlogRun).worker.batch.length ∨
        (finalState step {} backlogRun).worker.YetToWake) := by
  have opened : (finalState step {} backlogRun).closing = false := by decide +kernel
  have held : (finalState step {} backlogRun).held = true := by decide +kernel
  exact ⟨held, backlog_or_yetToWake backlogRun opened held⟩

/-! ## A turn without interference -/

/-- The session as the coarser model sees it. -/
def session (s : TxState) : TxSession :=
  { txQ := s.txQ, closing := s.closing, enqueued := s.accepted, written := s.sent.map .data }

/-- The worker gets from the first state to the second by its own steps. -/
def WorkerReaches (result : SendResult) : TxState → TxState → Prop :=
  Relation.ReflTransGen fun s s' => s.stepWorker result = s'

theorem WorkerReaches.step {result : SendResult} {s s' : TxState}
    (moved : s.stepWorker result = s') : WorkerReaches result s s' :=
  .single moved

theorem WorkerReaches.trans {result : SendResult} {s middle s' : TxState}
    (first : WorkerReaches result s middle) (second : WorkerReaches result middle s') :
    WorkerReaches result s s' :=
  Relation.ReflTransGen.trans first second

theorem workerReaches_send (result : SendResult) (drained : Bool) (loops slots : Nat)
    {batch : List Bytes} {total : Nat} {s : TxState}
    (pc : s.worker = .fill drained loops batch total)
    (left : batch.length + slots = sstpTxBatchMax) (some : batch = [] → s.txQ ≠ []) :
    WorkerReaches result s
      { s with
        txQ := (takeBatch slots total s.txQ).2
        worker := .send drained loops (batch ++ (takeBatch slots total s.txQ).1) } := by
  induction slots generalizing batch total s with
  | zero =>
      apply WorkerReaches.step
      have filled : ¬batch.length < sstpTxBatchMax := by omega
      simp [stepWorker, pc, filled, takeBatch]
  | succ slots ih =>
      have room : batch.length < sstpTxBatchMax := by omega
      cases queue : s.txQ with
      | nil =>
          apply WorkerReaches.step
          have nonempty : batch ≠ [] := fun empty => some empty queue
          simp [stepWorker, pc, room, queue, nonempty, takeBatch]
      | cons skb rest =>
          have taken : s.stepWorker result =
              { s with txQ := rest, worker := .fit drained loops batch total skb } := by
            simp [stepWorker, pc, room, queue]
          -- A batch that is not empty has fewer slots left than there are in all.
          have begun : slots + 1 < sstpTxBatchMax ↔ batch ≠ [] := by
            rw [← List.length_pos_iff]
            omega
          by_cases tooLong : batch ≠ [] ∧ sstpTxBatchBytesMax < total + (sstpTxHdrStride + skb.length)
          · apply (WorkerReaches.step taken).trans (WorkerReaches.step _)
            simp [stepWorker, takeBatch, begun, tooLong]
          · let packed : TxState :=
              { s with
                txQ := rest
                worker := .fill drained loops (batch ++ [skb])
                  (total + (sstpTxHdrStride + skb.length)) }
            have packs : WorkerReaches result s packed := by
              apply (WorkerReaches.step taken).trans (WorkerReaches.step _)
              simp only [stepWorker, if_neg tooLong, packed]
            have fills := ih (s := packed) rfl (by simp; omega) (by simp)
            simpa [packed, takeBatch, begun, tooLong] using packs.trans fills

theorem workerReaches_check (result : SendResult) (drained : Bool) {batch : List Bytes}
    {s : TxState} (pc : s.worker = .rehead drained batch) :
    WorkerReaches result s { s with txQ := batch ++ s.txQ, worker := .check drained } := by
  induction batch using List.reverseRecOn generalizing s with
  | nil =>
      apply WorkerReaches.step
      simp [stepWorker, pc]
  | append_singleton batch skb ih =>
      have moved : s.stepWorker result =
          { s with txQ := skb :: s.txQ, worker := .rehead drained batch } := by
        simp [stepWorker, pc]
      simpa using (WorkerReaches.step moved).trans (ih rfl)

/-- From the top of its loop, a worker that nobody interferes with does what one turn of the
coarser model does, and has no skb in hand afterwards. -/
theorem exists_workerReaches_txWorker (result : SendResult) {drained : Bool} {loops : Nat}
    {s : TxState} (pc : s.worker = .loop drained loops) :
    ∃ s', WorkerReaches result (s.stepWorker result) s' ∧ s'.worker.batch = [] ∧
      s'.session = s.session.txWorker result := by
  cases closing : s.closing with
  | true =>
      have left : s.stepWorker result = { s with worker := .check drained } := by
        simp [stepWorker, pc, closing]
      rw [left]
      refine ⟨_, .refl, rfl, ?_⟩
      simp [session, TxSession.txWorker, closing]
  | false =>
      have begun : s.stepWorker result = { s with worker := .fill drained loops [] 0 } := by
        simp [stepWorker, pc, closing]
      rw [begun]
      cases queue : s.txQ with
      | nil =>
          refine ⟨{ s with worker := .check drained }, .step ?_, rfl, ?_⟩
          · simp [stepWorker, queue, sstpTxBatchMax]
          · simp [session, TxSession.txWorker, closing, queue, takeBatch]
      | cons skb rest =>
          have fills := workerReaches_send result drained loops sstpTxBatchMax
            (s := { s with worker := .fill drained loops [] 0 }) rfl rfl (by simp [queue])
          rcases takeBatch_cons skb rest with ⟨batch, first⟩
          rcases taken : takeBatch sstpTxBatchMax 0 (skb :: rest) with ⟨_, left⟩
          rw [taken] at first
          cases first
          simp only [queue, taken, List.nil_append] at fills
          cases result with
          | sent =>
              refine ⟨_, fills.trans (.step rfl), ?_⟩
              simp only [stepWorker]
              split_ifs <;> simp [session, TxSession.txWorker, closing, queue, taken, TxPc.batch]
          | again =>
              refine ⟨_, (fills.trans (.step rfl)).trans (workerReaches_check _ drained rfl), rfl, ?_⟩
              simp [session, TxSession.txWorker, closing, queue, taken, stepWorker]
          | failed =>
              refine ⟨_, fills.trans (.step rfl), rfl, ?_⟩
              simp [session, TxSession.txWorker, closing, queue, taken, stepWorker]

/-- A worker at the top of its loop, with one skb on the queue. -/
def oneSkb : TxState := { txQ := [[0x21]], worker := .loop false 0 }

theorem exists_workerReaches_oneSkb :
    ∃ s', WorkerReaches .again (oneSkb.stepWorker .again) s' ∧ s'.worker.batch = [] ∧
      s'.session = oneSkb.session.txWorker .again :=
  exists_workerReaches_txWorker .again rfl

end TxState

end SstpServer.Kmod
