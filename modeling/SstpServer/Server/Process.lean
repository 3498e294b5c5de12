import SstpServer.Session.Lifecycle

/-!
# The workers of the server

Each worker thread runs an accept loop and the tasks of the connections it accepted.  The
workers, the main task and the control socket share the registry of sessions and the shutdown
signal.  The tasks of a worker run only where its accept loop waits; another thread may come
between any two accesses to what is shared, so the accept loop and the main task are cut into
steps at those accesses.
-/

namespace SstpServer.Server

open SstpServer.Session SstpServer.Transition

/-! ## Connections -/

/-- How far a connection has come.  The registry gets its entry before the task is spawned; the
guard that takes the entry out again is made when the task is first polled. -/
inductive Stage where
  | registered
  | spawned
  | started
  | unregistered
  | dropped
  deriving DecidableEq

/-- An accepted connection: its session id, the worker that accepted it, and its task with the
control channel. -/
structure Connection where
  id : Nat
  worker : Nat
  stage : Stage
  task : Task

/-- What a task does when its worker polls it. -/
inductive Poll where
  | handshake (result : Option Bool)
  | preamble (accepted : Bool) (env : Env)
  | turn (input : Session.Input)

def Poll.input : Poll → Task.Input
  | .handshake result => .handshake result
  | .preamble accepted env => .preamble accepted env
  | .turn input => .turn input

namespace Connection

/-- The task has a receiver of the shutdown signal. -/
def subscribed (c : Connection) : Bool :=
  c.stage = .spawned || c.stage = .started

/-- The receiver of the control channel has not been dropped. -/
def isOpen (c : Connection) : Bool :=
  c.task.live && c.stage ≠ .unregistered && c.stage ≠ .dropped

/-- The task of the connection gets an input; all tasks have the same settings but for the id. -/
def give (config : Config) (input : Task.Input) (c : Connection) : Connection :=
  { c with task := c.task.step { config with id := c.id } input }

/-- Send on the control channel. -/
def trySend (config : Config) (input : Task.Input) (c : Connection) : Connection :=
  if c.isOpen then c.give config input else c

/-- The shutdown signal is sent. -/
def hear (config : Config) (c : Connection) : Connection :=
  if c.subscribed then c.give config .drain else c

/-- The task is polled, for the first time perhaps. -/
def poll (config : Config) (poll : Poll) (c : Connection) : Connection :=
  { c.give config poll.input with stage := .started }

/-- The task is dropped with its worker; the guard, if there is one, takes the entry out of the
registry. -/
def discard (c : Connection) : Connection :=
  { c with stage := if c.stage = .started then .unregistered else .dropped }

end Connection

/-! ## Workers and the main task -/

/-- Where an accept loop is.  `polled` is inside the `select`, after the shutdown signal was
found unchanged; `ticking` is the loop that sends the tick; `accepting` has a session id and
`handing` a registered connection without a task. -/
inductive LoopPc where
  | select
  | polled
  | ticking (rest : List Nat)
  | accepting (id : Nat)
  | handing (connection : Nat)
  | draining
  | exited
  deriving DecidableEq

/-- The accept loop waits, so that the tasks of its worker can run. -/
def LoopPc.waits : LoopPc → Bool
  | .select | .draining => true
  | _ => false

structure Worker where
  pc : LoopPc := .select
  tickSenders : List Nat := []

/-- Where the main task is. -/
inductive MainPc where
  | waiting
  | signalled
  | broadcasting
  | notifying (rest : List Nat)
  | done
  deriving DecidableEq

structure Process where
  next : Nat := 1
  signalled : Bool := false
  registry : List (Nat × Nat) := []
  connections : List Connection := []
  workers : List Worker
  main : MainPc := .waiting

/-- The branch of the `select` that is ready after the shutdown signal. -/
inductive Ready where
  | nothing
  | tick
  | connection

inductive Move where
  | poll (connection : Nat) (poll : Poll)
  | leave (connection : Nat)
  | work (worker : Nat) (ready : Ready)
  | discard (connection : Nat)
  | shutdown
  | command (id : Nat) (command : ControlCommand)
  | drain

namespace Process

/-- A server with `count` workers. -/
def start (count : Nat) : Process :=
  { workers := List.replicate count {} }

def update (k : Nat) (change : Connection → Connection) (s : Process) : Process :=
  { s with connections := s.connections.modify k change }

def setWorker (w : Nat) (worker : Worker) (s : Process) : Process :=
  { s with workers := s.workers.set w worker }

/-- `Registry::register`; the map holds one handle for each id. -/
def register (id k : Nat) (s : Process) : Process :=
  { s with registry := s.registry.filter (fun entry => entry.1 ≠ id) ++ [(id, k)] }

/-- `Registry::unregister`. -/
def unregister (id : Nat) (s : Process) : Process :=
  { s with registry := s.registry.filter fun entry => entry.1 ≠ id }

/-- `Registry::get`. -/
def get (id : Nat) (s : Process) : Option Nat :=
  (s.registry.find? fun entry => entry.1 = id).map Prod.snd

/-- A connection with a fresh control channel; its task is not spawned yet. -/
def accept (id w : Nat) (s : Process) : Process :=
  { s with
    connections := s.connections ++ [{ id, worker := w, stage := .registered, task := Task.new }] }

def isOpen (s : Process) (k : Nat) : Bool :=
  s.connections[k]?.any Connection.isOpen

/-- The worker of a connection waits, so that the task can be polled. -/
def idle (s : Process) (c : Connection) : Bool :=
  s.workers[c.worker]?.any fun worker => worker.pc.waits

def exited (s : Process) (c : Connection) : Bool :=
  s.workers[c.worker]?.any fun worker => worker.pc = .exited

/-- `shutdown_tx.send(true)`: every receiver there is sees a change. -/
def signal (config : Config) (s : Process) : Process :=
  { s with signalled := true, connections := s.connections.map (Connection.hear config) }

/-- One step of an accept loop. -/
def work (config : Config) (w : Nat) (worker : Worker) (ready : Ready) (s : Process) : Process :=
  match worker.pc with
  | .select => s.setWorker w { worker with pc := if s.signalled then .draining else .polled }
  | .polled =>
      match ready with
      | .nothing => s.setWorker w { worker with pc := .select }
      | .tick =>
          let tickSenders := worker.tickSenders.filter s.isOpen
          s.setWorker w { tickSenders, pc := .ticking tickSenders }
      | .connection =>
          { s with next := (s.next + 1) % 2 ^ 64 }.setWorker w
            { worker with pc := .accepting s.next }
  | .ticking [] => s.setWorker w { worker with pc := .select }
  | .ticking (k :: rest) =>
      (s.update k (Connection.trySend config .tick)).setWorker w { worker with pc := .ticking rest }
  | .accepting id =>
      let k := s.connections.length
      ((s.accept id w).register id k).setWorker w { worker with pc := .handing k }
  | .handing k =>
      (s.update k fun c => { c with stage := .spawned }).setWorker w
        { tickSenders := worker.tickSenders ++ [k], pc := .select }
  | .draining => s.setWorker w { worker with pc := .exited }
  | .exited => s

/-- One step of the main task after the wait for a signal. -/
def mainStep (config : Config) (s : Process) : Process :=
  match s.main with
  | .waiting => { s.signal config with main := .signalled }
  | .signalled => { s with main := if s.registry.isEmpty then .done else .broadcasting }
  | .broadcasting => { s with main := .notifying (s.registry.map Prod.snd) }
  | .notifying (k :: rest) =>
      { s.update k (Connection.trySend config (.send (.disconnect .serverShutdown))) with
        main := .notifying rest }
  | .notifying [] => { s with main := .done }
  | .done => s

def step (config : Config) (s : Process) : Move → Process
  | .poll k poll =>
      match s.connections[k]? with
      | some c =>
          if c.subscribed && c.task.live && s.idle c then s.update k (Connection.poll config poll)
          else s
      | none => s
  | .leave k =>
      match s.connections[k]? with
      | some c =>
          -- the task has returned, and its guard is dropped
          if c.stage = .started && !c.task.live then
            (s.update k fun c => { c with stage := .unregistered }).unregister c.id
          else s
      | none => s
  | .work w ready =>
      match s.workers[w]? with
      | some worker => s.work config w worker ready
      | none => s
  | .discard k =>
      match s.connections[k]? with
      | some c =>
          if c.subscribed && s.exited c then
            let s' := s.update k Connection.discard
            if c.stage = .started then s'.unregister c.id else s'
          else s
      | none => s
  | .shutdown => s.signal config
  | .command id command =>
      match s.get id with
      | some k => s.update k (Connection.trySend config (.send command))
      | none => s
  | .drain => s.mainStep config

/-- The move sends the shutdown signal. -/
def Signals (s : Process) : Move → Prop
  | .shutdown => True
  | .drain => s.main = .waiting
  | _ => False

/-- The server after a run of steps. -/
def run (config : Config) (count : Nat) (moves : List Move) : Process :=
  finalState (step config) (start count) moves

/-! ## What a move does -/

/-- An accept loop goes on without an access to anything but the shutdown signal. -/
inductive Turn (s : Process) : LoopPc → LoopPc → Prop where
  | stops (signalled : s.signalled = true) : Turn s .select .draining
  | passes (quiet : s.signalled = false) : Turn s .select .polled
  | waits : Turn s .polled .select
  | ticked : Turn s (.ticking []) .select
  | exits : Turn s .draining .exited

/-- What a move does.  A move that is not possible leaves the server as it is. -/
inductive Effect (config : Config) (s : Process) : Move → Process → Prop where
  | stays (move : Move) : Effect config s move s
  | polls {k : Nat} {c : Connection} {poll : Poll} (found : s.connections[k]? = some c)
      (subscribed : c.subscribed = true) (live : c.task.live = true) (idle : s.idle c = true) :
      Effect config s (.poll k poll) (s.update k (Connection.poll config poll))
  | leaves {k : Nat} {c : Connection} (found : s.connections[k]? = some c)
      (started : c.stage = .started) (ended : c.task.live = false) :
      Effect config s (.leave k)
        ((s.update k fun c => { c with stage := .unregistered }).unregister c.id)
  | turns {w : Nat} {worker : Worker} {pc : LoopPc} (ready : Ready)
      (found : s.workers[w]? = some worker) (turn : Turn s worker.pc pc) :
      Effect config s (.work w ready) (s.setWorker w { worker with pc })
  | ticks {w : Nat} {worker : Worker} (found : s.workers[w]? = some worker)
      (polled : worker.pc = .polled) :
      Effect config s (.work w .tick)
        (s.setWorker w ⟨.ticking (worker.tickSenders.filter s.isOpen),
          worker.tickSenders.filter s.isOpen⟩)
  | allocates {w : Nat} {worker : Worker} (found : s.workers[w]? = some worker)
      (polled : worker.pc = .polled) :
      Effect config s (.work w .connection)
        ({ s with next := (s.next + 1) % 2 ^ 64 }.setWorker w
          { worker with pc := .accepting s.next })
  | fans {w k : Nat} {worker : Worker} {rest : List Nat} (ready : Ready)
      (found : s.workers[w]? = some worker) (ticking : worker.pc = .ticking (k :: rest)) :
      Effect config s (.work w ready)
        ((s.update k (Connection.trySend config .tick)).setWorker w
          { worker with pc := .ticking rest })
  | registers {w id : Nat} {worker : Worker} (ready : Ready) (found : s.workers[w]? = some worker)
      (accepting : worker.pc = .accepting id) :
      Effect config s (.work w ready)
        (((s.accept id w).register id s.connections.length).setWorker w
          { worker with pc := .handing s.connections.length })
  | hands {w k : Nat} {worker : Worker} (ready : Ready) (found : s.workers[w]? = some worker)
      (handing : worker.pc = .handing k) :
      Effect config s (.work w ready)
        ((s.update k fun c => { c with stage := .spawned }).setWorker w
          ⟨.select, worker.tickSenders ++ [k]⟩)
  | discards {k : Nat} {c : Connection} (found : s.connections[k]? = some c)
      (spawned : c.stage = .spawned) (exited : s.exited c = true) :
      Effect config s (.discard k) (s.update k Connection.discard)
  | unwinds {k : Nat} {c : Connection} (found : s.connections[k]? = some c)
      (started : c.stage = .started) (exited : s.exited c = true) :
      Effect config s (.discard k) ((s.update k Connection.discard).unregister c.id)
  | signals {move : Move} (main : MainPc) (signals : s.Signals move) :
      Effect config s move { s.signal config with main }
  | commands {id k : Nat} (command : ControlCommand) (found : s.get id = some k) :
      Effect config s (.command id command)
        (s.update k (Connection.trySend config (.send command)))
  | tells (k : Nat) (main : MainPc) :
      Effect config s .drain
        { s.update k (Connection.trySend config (.send (.disconnect .serverShutdown))) with main }
  | mains (main : MainPc) : Effect config s .drain { s with main }

theorem effect_work (config : Config) {s : Process} {w : Nat} {worker : Worker} (ready : Ready)
    (found : s.workers[w]? = some worker) :
    Effect config s (.work w ready) (s.work config w worker ready) := by
  unfold work
  split
  case h_1 selecting =>
      split_ifs with signalled
      · exact .turns ready found (selecting ▸ .stops signalled)
      · exact .turns ready found (selecting ▸ .passes (Bool.eq_false_iff.mpr signalled))
  case h_2 polled =>
      cases ready with
      | nothing => exact .turns .nothing found (polled ▸ .waits)
      | tick => exact .ticks found polled
      | connection => exact .allocates found polled
  case h_3 ticking => exact .turns ready found (ticking ▸ .ticked)
  case h_4 ticking => exact .fans ready found ticking
  case h_5 accepting => exact .registers ready found accepting
  case h_6 handing => exact .hands ready found handing
  case h_7 draining => exact .turns ready found (draining ▸ .exits)
  case h_8 => exact .stays _

theorem effect_mainStep (config : Config) (s : Process) :
    Effect config s .drain (s.mainStep config) := by
  unfold mainStep
  split
  case h_1 waiting => exact .signals .signalled waiting
  case h_2 => exact .mains _
  case h_3 => exact .mains _
  case h_4 => exact .tells _ _
  case h_5 => exact .mains _
  case h_6 => exact .stays _

theorem effect_step (config : Config) (s : Process) (move : Move) :
    Effect config s move (s.step config move) := by
  cases move with
  | poll k poll =>
      simp only [step]
      split
      · split_ifs with possible
        · simp only [Bool.and_eq_true] at possible
          exact .polls ‹_› possible.1.1 possible.1.2 possible.2
        · exact .stays _
      · exact .stays _
  | leave k =>
      simp only [step]
      split
      · split_ifs with possible
        · simp only [Bool.and_eq_true, decide_eq_true_eq, Bool.not_eq_true'] at possible
          exact .leaves ‹_› possible.1 possible.2
        · exact .stays _
      · exact .stays _
  | work w ready =>
      simp only [step]
      split
      · exact effect_work config ready ‹_›
      · exact .stays _
  | discard k =>
      simp only [step]
      split
      · split_ifs with possible started
        · exact .unwinds ‹_› started (Bool.and_eq_true_iff.mp possible).2
        · simp only [Bool.and_eq_true, Connection.subscribed, Bool.or_eq_true,
            decide_eq_true_eq] at possible
          exact .discards ‹_› (possible.1.resolve_right started) possible.2
        · exact .stays _
      · exact .stays _
  | shutdown => exact .signals s.main trivial
  | command id command =>
      simp only [step]
      split
      · exact .commands command ‹_›
      · exact .stays _
  | drain => exact effect_mainStep config s

end Process

end SstpServer.Server
