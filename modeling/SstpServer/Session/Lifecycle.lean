import SstpServer.Session.Driver

/-!
# The life of a session task

A task first waits for the TLS handshake, then for the HTTPS preamble, and then drives the
session.  Two parties send it commands through one bounded channel: the worker, which sends
a tick to each of its tasks every second, and the registry.  The task takes commands off the
channel while it waits for the TLS handshake and at the `select` of the session, where they
come before everything but the drain signal.
-/

namespace SstpServer.Session

open SstpServer.Transition

/-- Depth of the control channel. -/
def controlChannelDepth : Nat := 4

/-- How a task ends. -/
inductive Outcome where
  | drained
  | commanded
  | handshakeFailed
  | preambleFailed
  | session (s : Session)

/-- Where a task is. -/
inductive Phase where
  | tlsHandshake
  | preamble
  | driving (s : Session)
  | ended (outcome : Outcome)

/-- A command on the channel; `early` records that it came while the task could not take
it. -/
structure Queued where
  command : ControlCommand
  early : Bool
  deriving DecidableEq

/-- A task with its control channel and the drain signal it has not seen yet. -/
structure Task where
  phase : Phase
  queue : List Queued
  draining : Bool

namespace Task

/-- What can happen to a task. -/
inductive Input where
  | tick
  | send (command : ControlCommand)
  | drain
  | handshake (result : Option Bool)
  | preamble (accepted : Bool) (env : Env)
  | turn (input : Session.Input)

/-- A task for an accepted connection. -/
def new : Task :=
  ⟨.tlsHandshake, [], false⟩

/-- The task has not returned. -/
def live (t : Task) : Bool :=
  match t.phase with
  | .ended _ => false
  | _ => true

/-- The task is in the TLS handshake, in the preamble, or works off packets, which includes
the wait for an authentication verdict. -/
def waits (t : Task) : Bool :=
  match t.phase with
  | .tlsHandshake | .preamble => true
  | .driving s => s.point ≠ .select
  | .ended _ => false

/-- The channel takes one more command. -/
def room (t : Task) : Bool :=
  t.live && t.queue.length < controlChannelDepth

/-- Send without waiting; a command that finds no room is dropped. -/
def trySend (t : Task) (queued : Queued) : Task :=
  if t.room then { t with queue := t.queue ++ [queued] } else t

/-- Go on with the session, or return with it. -/
def drive (t : Task) (s : Session) : Task :=
  { t with phase := if s.running then .driving s else .ended (.session s) }

/-- The wait for the TLS handshake is polled; any command ends the task. -/
def onHandshake (t : Task) (result : Option Bool) : Task :=
  match t.phase with
  | .tlsHandshake =>
      if t.draining then { t with phase := .ended .drained }
      else if t.queue ≠ [] then { t with phase := .ended .commanded }
      else
        match result with
        | none => t
        | some true => { t with phase := .preamble }
        | some false => { t with phase := .ended .handshakeFailed }
  | _ => t

/-- The preamble is over. -/
def onPreamble (config : Config) (t : Task) (accepted : Bool) (env : Env) : Task :=
  match t.phase with
  | .preamble =>
      if accepted then t.drive (start config env)
      else { t with phase := .ended .preambleFailed }
  | _ => t

/-- Commands and the drain signal reach the session through the task only. -/
def isChannelEvent : Move → Bool
  | .event .drain | .event (.control _) => true
  | _ => false

/-- The session takes a step.  At the `select` the drain signal comes first, then the
commands on the channel, then everything else. -/
def onTurn (config : Config) (t : Task) (input : Session.Input) : Task :=
  match t.phase with
  | .driving s =>
      if s.point = .select then
        if t.draining then
          { t with draining := false }.drive (s.step config ⟨.event .drain, input.env⟩)
        else
          match t.queue with
          | next :: rest =>
              { t with queue := rest }.drive
                (s.step config ⟨.event (.control (some next.command)), input.env⟩)
          | [] => if isChannelEvent input.move then t else t.drive (s.step config input)
      else t.drive (s.step config input)
  | _ => t

/-- A step of the task or of the parties around it. -/
def step (config : Config) (t : Task) (input : Input) : Task :=
  match input with
  | .tick => t.trySend ⟨.periodicTick, t.waits⟩
  | .send command => t.trySend ⟨command, false⟩
  | .drain => { t with draining := true }
  | .handshake result => t.onHandshake result
  | .preamble accepted env => t.onPreamble config accepted env
  | .turn input => t.onTurn config input

end Task

/-- The task after a run of steps. -/
def taskAfter (config : Config) (inputs : List Task.Input) : Task :=
  finalState (Task.step config) Task.new inputs

end SstpServer.Session
