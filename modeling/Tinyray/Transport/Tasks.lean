import Tinyray.Foundation.Notify
import Tinyray.Transport.Guards
import Tinyray.Transport.Reader

/-!
# The tasks of a client connection

Every connection has three tasks: one writes, one reads, and one waits for the
connection to be idle long enough.  Each of them looks for `shutdown` only
where it waits: a waiter is created at the start of the wait, and what is
notified before that is lost on it.

A call of `poison` is not tied to the task that has made it, so a task may
also go on before its own call has returned.  `activity` is notified by many
others; whoever it is may do so at any time.
-/

namespace Tinyray.Transport

open Std Foundation

/-- The tasks of a connection. -/
inductive ClientTask where
  | writer
  | reader
  | idle
deriving DecidableEq

/-- How far the writer is. -/
inductive WriterTask where
  /-- In its loop, and not waiting. -/
  | busy
  | waiting
  /-- The loop is left, and the half of the socket will be dropped. -/
  | leaving
  /-- The reader will be notified. -/
  | finished
  | ended
deriving DecidableEq

/-- How far the reader is. -/
inductive ReaderTask where
  /-- In its loop, about to wait. -/
  | top
  | waiting
  /-- It has got a frame, or an error. -/
  | handling
  /-- The loop is left; it will see whether the writer has finished. -/
  | leaving
  /-- Waiting for the writer. -/
  | joining
  /-- What the connection holds will be given back. -/
  | releasing
  | ended
deriving DecidableEq

/-- How far the idle task is. -/
inductive IdleTask where
  /-- It will see whether the connection is poisoned. -/
  | top
  /-- It will see whether the connection is in use. -/
  | checked
  /-- It will wait, for a deadline if the connection is not in use. -/
  | decided (timed : Bool)
  | waiting (timed : Bool)
  /-- The deadline has passed. -/
  | expired
  | ended
deriving DecidableEq

/-- What the call of `poison` that has emptied the table did since. -/
inductive Waking where
  /-- Nobody has emptied the table yet. -/
  | none
  /-- It will notify `shutdown`. -/
  | shutdown
  /-- It will notify `activity`. -/
  | activity
  | done
deriving DecidableEq

/-- A connection with its tasks. -/
structure ConnectionTasks where
  connection : ClientConnection := {}
  shutdown : Notify ClientTask := {}
  activity : Notify ClientTask := {}
  waking : Waking := .none
  writer : WriterTask := .busy
  reader : ReaderTask := .top
  idle : IdleTask := .top
  writerFinished : Bool := false
  /-- `writer_done` has been notified, and nobody has taken it. -/
  writerDone : Bool := false
  /-- The half of the socket that the writer holds. -/
  writeHalf : Bool := true
  readHalf : Bool := true
  /-- The descriptor is tracked. -/
  tracking : Bool := true
  /-- The permit of the process for one more connection. -/
  admission : Bool := true

/-- What the tasks do. -/
inductive TaskEvent where
  /-- A step of the connection itself. -/
  | act (action : Action)
  | wait (task : ClientTask)
  /-- The reader gets a frame, or an error. -/
  | frame
  | notifyShutdown
  | notifyActivity
  /-- Somebody else notifies `activity`. -/
  | stir
  /-- The writer drops its half of the socket and says that it has finished. -/
  | drop
  | notifyDone
  | join
  | joined
  | release
  | check
  | look
  | timer
  /-- The deadline has passed, but the connection is in use. -/
  | inUse
  /-- The idle task hears of `activity`. -/
  | stirred
  /-- The idle task hears of `shutdown`. -/
  | shut

namespace ClientConnection

/-- `is_quiescent` -/
def isQuiescent (connection : ClientConnection) : Bool :=
  connection.pending.isEmpty && connection.guardedReplies.isEmpty

/-- `is_idle` -/
def isIdle (connection : ClientConnection) : Bool := !connection.poisoned && connection.isQuiescent

end ClientConnection

namespace ConnectionTasks

/-- The task that makes a step of the connection is there. -/
def permits (tasks : ConnectionTasks) : Action → Bool
  | .recv => tasks.writer = .waiting
  | .halt => tasks.writer = .waiting && tasks.shutdown.heard .writer
  | .read _ | .lose _ => tasks.reader = .handling
  | .leave => tasks.reader = .waiting && tasks.shutdown.heard .reader
  | .expire => tasks.idle = .expired
  | _ => true

/-- What a step of the connection means for the tasks. -/
def follow (tasks : ConnectionTasks) (next : ClientConnection) : Action → ConnectionTasks
  | .recv =>
    { tasks with
      connection := next
      shutdown := tasks.shutdown.forget .writer
      writer := .busy }
  | .halt =>
    { tasks with
      connection := next
      shutdown := tasks.shutdown.forget .writer
      writer := .leaving }
  | .fail => { tasks with connection := next, writer := .leaving }
  | .read _ =>
    { tasks with
      connection := next
      reader := if next.reading then .top else .leaving }
  | .lose _ => { tasks with connection := next, reader := .leaving }
  | .leave =>
    { tasks with
      connection := next
      shutdown := tasks.shutdown.forget .reader
      reader := .leaving }
  | .expire => { tasks with connection := next, idle := .ended }
  | .drain => { tasks with connection := next, waking := .shutdown }
  | _ => { tasks with connection := next }

/-- A task begins to wait. -/
def waitStep (tasks : ConnectionTasks) : ClientTask → Option ConnectionTasks
  | .writer =>
    if tasks.writer = .busy ∧ tasks.connection.writer = .idle then
      some
        { tasks with
          shutdown := tasks.shutdown.notified .writer
          writer := .waiting }
    else none
  | .reader =>
    if tasks.reader = .top then
      some
        { tasks with
          shutdown := tasks.shutdown.notified .reader
          reader := .waiting }
    else none
  | .idle =>
    match tasks.idle with
    | .decided timed =>
      some
        { tasks with
          shutdown := tasks.shutdown.notified .idle
          activity := tasks.activity.notified .idle
          idle := .waiting timed }
    | _ => none

/-- The idle task wakes up. -/
def rouse (tasks : ConnectionTasks) (idle : IdleTask) : ConnectionTasks :=
  { tasks with
    shutdown := tasks.shutdown.forget .idle
    activity := tasks.activity.forget .idle
    idle := idle }

/-- Steps of the idle task. -/
def idleStep (tasks : ConnectionTasks) : TaskEvent → Option ConnectionTasks
  | .check =>
    if tasks.idle = .top then
      some
        { tasks with idle := if tasks.connection.poisoned then .ended else .checked }
    else none
  | .look =>
    if tasks.idle = .checked then
      some
        { tasks with idle := .decided tasks.connection.isQuiescent }
    else none
  | .timer =>
    if tasks.idle = .waiting true then some (tasks.rouse .expired)
    else none
  | .inUse =>
    if tasks.idle = .expired ∧ tasks.connection.isIdle = false then some { tasks with idle := .top }
    else none
  | .stirred =>
    match tasks.idle with
    | .waiting _ =>
      if tasks.activity.heard .idle then some (tasks.rouse .top)
      else none
    | _ => none
  | .shut =>
    match tasks.idle with
    | .waiting _ =>
      if tasks.shutdown.heard .idle then some (tasks.rouse .ended)
      else none
    | _ => none
  | _ => none

/-- What the writer and the reader do after their loops. -/
def closeStep (tasks : ConnectionTasks) : TaskEvent → Option ConnectionTasks
  | .drop =>
    if tasks.writer = .leaving then
      some
        { tasks with
          writeHalf := false
          writerFinished := true
          writer := .finished }
    else none
  | .notifyDone =>
    if tasks.writer = .finished then some { tasks with writerDone := true, writer := .ended }
    else none
  | .join =>
    if tasks.reader = .leaving then
      some
        { tasks with reader := if tasks.writerFinished then .releasing else .joining }
    else none
  | .joined =>
    if tasks.reader = .joining ∧ tasks.writerDone then
      some { tasks with writerDone := false, reader := .leaving }
    else none
  | .release =>
    if tasks.reader = .releasing then
      some
        { tasks with
          tracking := false
          admission := false
          readHalf := false
          reader := .ended }
    else none
  | _ => none

/-- One step of the tasks. -/
def step (tasks : ConnectionTasks) (event : TaskEvent) : Option ConnectionTasks :=
  match event with
  | .act action =>
    if tasks.permits action then do
      let next ← tasks.connection.step action
      some (tasks.follow next action)
    else none
  | .wait task => tasks.waitStep task
  | .frame =>
    if tasks.reader = .waiting then
      some
        { tasks with
          shutdown := tasks.shutdown.forget .reader
          reader := .handling }
    else none
  | .notifyShutdown =>
    if tasks.waking = .shutdown then
      some
        { tasks with
          shutdown := tasks.shutdown.notifyWaiters
          waking := .activity }
    else none
  | .notifyActivity =>
    if tasks.waking = .activity then
      some
        { tasks with
          activity := tasks.activity.notifyWaiters
          waking := .done }
    else none
  | .stir => some { tasks with activity := tasks.activity.notifyWaiters }
  | .drop | .notifyDone | .join | .joined | .release => tasks.closeStep event
  | .check | .look | .timer | .inUse | .stirred | .shut => tasks.idleStep event

/-! ## Waiting in vain -/

/-- `shutdown` was notified. -/
def shutdownSent (tasks : ConnectionTasks) : Bool :=
  tasks.waking = .activity || tasks.waking = .done

/--
The connection is poisoned, and the task waits for something that nobody is
going to do.  A reader that gets one more frame leaves, since nobody knows
the reply; a command for the writer makes it wait again.
-/
def waitsInVain (tasks : ConnectionTasks) : ClientTask → Bool
  | .writer => tasks.writer = .waiting && tasks.shutdownSent && !tasks.shutdown.heard .writer
  | .reader =>
    (tasks.reader = .waiting && tasks.shutdownSent && !tasks.shutdown.heard .reader &&
        tasks.connection.inbound.isEmpty) ||
      (tasks.reader = .joining && tasks.writer = .ended && !tasks.writerDone)
  | .idle =>
    tasks.idle = .waiting false && tasks.waking = .done &&
      !tasks.shutdown.heard .idle && !tasks.activity.heard .idle

/-- Nothing of the connection is held any more. -/
def released (tasks : ConnectionTasks) : Bool :=
  !tasks.writeHalf && !tasks.readHalf && !tasks.tracking && !tasks.admission

/-- All three have ended. -/
def ended (tasks : ConnectionTasks) : Bool :=
  tasks.writer = .ended && tasks.reader = .ended && tasks.idle = .ended

/--
`shutdown` is notified when the writer waits and the reader is not about to,
`activity` when the idle task is not about to wait without a deadline, and a
writer that was notified does not take a command instead.
-/
def attentive (tasks : ConnectionTasks) : TaskEvent → Bool
  | .notifyShutdown => tasks.writer ≠ .busy && tasks.reader ≠ .top
  | .notifyActivity => tasks.idle ≠ .decided false
  | .act .recv => !tasks.shutdown.heard .writer
  | _ => true

end ConnectionTasks

/-- A step that a task or a call of `poison` takes by itself. -/
def TaskEvent.own : TaskEvent → Bool
  | .act action =>
    match action with
    | .recv | .mark | .write | .fail | .settle | .halt | .read _
    | .lose _ | .leave | .expire | .drain => true
    | _ => false
  | .frame | .stir => false
  | _ => true

end Tinyray.Transport
