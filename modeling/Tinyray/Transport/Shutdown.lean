import Tinyray.Transport.Tasks

/-!
# The end of a poisoned connection

A task that is not waiting when `shutdown` is notified does not hear of it: a
writer in the middle of a frame, or a reader that has just routed a reply,
waits again afterwards, and nobody notifies it.  If no task is caught in such
a moment, all of them end, and the reader gives back what the connection holds.

`Orderly` is what holds of the tasks in every run, `Roused` what holds if no
task was caught.  `remaining` counts the steps that are left.
-/

namespace Tinyray.Transport

open Std Foundation

/-- The writer works on a command. -/
def Action.works : Action → Bool
  | .mark | .write | .fail | .settle => true
  | _ => false

namespace ClientConnection

variable {connection next : ClientConnection} {action : Action}

/-! ## An emptied connection -/

/-- No call is left. -/
structure Emptied (connection : ClientConnection) : Prop where
  pending : connection.pending = ∅
  abandoned : connection.abandoned = ∅
  guardedReplies : connection.guardedReplies = []

theorem Emptied.isQuiescent (emptied : connection.Emptied) : connection.isQuiescent = true := by
  rw [ClientConnection.isQuiescent, emptied.pending, emptied.guardedReplies]
  simp

/-- No call is abandoned any more. -/
theorem Effect.abandoned_of_empty
    (effect : Effect connection action next) (pending : connection.pending = ∅)
    (abandoned : connection.abandoned = ∅) :
    next.abandoned = ∅ := by
  cases effect with
  | quiet quiet | reserve _ quiet | advance _ _ quiet
  | unsent _ _ quiet => exact quiet.abandoned.trans abandoned
  | take found takes quiet =>
    refine quiet.abandoned.trans ?_
    rw [without, pending]
    simpa using abandoned
  | read queue quiet =>
    refine quiet.abandoned.trans ?_
    rw [routed, pending]
    simp [forget, abandoned]
  | drain won => rfl
  | _ => exact abandoned

/-- What is emptied stays empty. -/
theorem Emptied.step
    (emptied : connection.Emptied) (poisoned : connection.poisoned = true)
    (stepped : connection.step action = some next) :
    next.Emptied := by
  have effect := step_effect stepped
  refine ⟨?_, ?_, ?_⟩
  · have fewer := effect.fewer_of_poisoned poisoned
    rw [emptied.pending] at fewer
    exact fewer.eq_empty
  · exact effect.abandoned_of_empty emptied.pending emptied.abandoned
  · rw [List.eq_nil_iff_forall_not_mem]
    intro requestId guarded
    rcases (step_guarding stepped).guardedReplies guarded with before | waits
    · rw [emptied.guardedReplies] at before
      cases before
    · rw [emptied.pending] at waits
      simp at waits

theorem emptied_drain (cause : Poison) : (connection.drain cause).Emptied := ⟨rfl, rfl, rfl⟩

theorem Emptied.read
    (emptied : connection.Emptied) {full : Bool}
    (stepped : connection.step (.read full) = some next) :
    next.reading = false := by
  cases step_stepped stepped with
  | read reading queue =>
    simp only [route, emptied.pending, emptied.abandoned, ExtTreeMap.getElem?_empty]
    rfl

/-! ## Steps that leave a task alone -/

/-- A writer at rest stays so. -/
theorem Effect.writer_eq
    (effect : Effect connection action next)
    (rests : connection.writer = .idle ∨ connection.writer = .finished)
    (takes : action ≠ .recv) (halts : action ≠ .halt) :
    next.writer = connection.writer := by
  cases effect with
  | quiet quiet | reserve _ quiet | advance _ _ quiet
  | unsent _ _ quiet => exact quiet.writer
  | take found goes quiet =>
    refine quiet.writer.trans ?_
    unfold without
    split <;> rfl
  | read queue quiet =>
    refine quiet.writer.trans ?_
    unfold routed
    split <;> rfl
  | recv => exact absurd rfl takes
  | halt => exact absurd rfl halts
  | skip works | mark works | begin works | write works | fail works
  | settle works | rest works =>
    rw [works] at rests
    rcases rests with rests | rests <;> cases rests
  | _ => rfl

theorem step_reading
    (stepped : connection.step action = some next) (reads : ∀ full, action ≠ .read full)
    (loses : ∀ error, action ≠ .lose error) (leaves : action ≠ .leave) :
    next.reading = connection.reading := by
  have steadfast := (step_stepped stepped).steadfast
  cases step_stepped stepped with
  | read => exact absurd rfl (reads _)
  | lose => exact absurd rfl (loses _)
  | leave => exact absurd rfl leaves
  | late | swap => rfl
  | _ => exact (steadfast rfl).reading

/-- The connection is poisoned, and its table was emptied. -/
def shut (connection : ClientConnection) : Bool := connection.poisoned && connection.draining.isNone

/-- Nothing but `drain` shuts it. -/
theorem step_shut
    (stepped : connection.step action = some next) (drains : action ≠ .drain) :
    next.shut = connection.shut := by
  by_cases swaps : ∃ cause, action = .swap cause
  · rcases swaps with ⟨cause, rfl⟩
    cases step_stepped stepped with
    | late called poisoned => rfl
    | swap called unpoisoned => simp [shut, unpoisoned]
  · have effect := step_effect stepped
    rcases effect.flags with ⟨poisoned, draining⟩ | ⟨won, _⟩ | ⟨same, _⟩
    · rw [shut, shut, poisoned, draining]
    · exact absurd won swaps
    · exact absurd same drains

theorem step_works
    (stepped : connection.step action = some next) (works : action.works = true) :
    connection.writer ≠ .idle ∧ connection.writer ≠ .finished := by
  cases step_stepped stepped with
  | skip held | mark held | begin held | write held | fail held
  | settle held | rest held =>
    rw [held]
    exact ⟨Writer.noConfusion, Writer.noConfusion⟩
  | _ => cases works

end ClientConnection

/-- The reader has not left its loop. -/
def ReaderTask.inLoop : ReaderTask → Bool
  | .top | .waiting | .handling => true
  | _ => false

/-- The writer has left its loop. -/
def WriterTask.left : WriterTask → Bool
  | .busy | .waiting => false
  | _ => true

/-- The writer has dropped its half of the socket. -/
def WriterTask.dropped : WriterTask → Bool
  | .finished | .ended => true
  | _ => false

namespace ConnectionTasks

variable {tasks next : ConnectionTasks} {connection : ClientConnection}
  {action : Action}

/-! ## The tasks and their connection -/

/-- Each task is where the connection has it. -/
structure Aligned (tasks : ConnectionTasks) : Prop where
  closing : tasks.connection.Closing
  shut : tasks.connection.shut = true ↔ tasks.waking ≠ .none
  emptied : tasks.waking ≠ .none → tasks.connection.Emptied
  waits : tasks.writer = .waiting → tasks.connection.writer = .idle
  left : tasks.writer.left = true → tasks.connection.writer = .finished
  reads : tasks.reader.inLoop = true → tasks.connection.reading = true

theorem aligned_new : Aligned {} where
  closing := ClientConnection.closing_new
  shut := by simp [ClientConnection.shut]
  emptied := by simp
  waits := by simp
  left := by simp [WriterTask.left]
  reads := by simp

theorem Aligned.poisoned
    (aligned : tasks.Aligned) (begun : tasks.waking ≠ .none) :
    tasks.connection.poisoned = true := by
  have shut := aligned.shut.mpr begun
  rw [ClientConnection.shut, Bool.and_eq_true] at shut
  exact shut.1

/-- Only `drain` changes the books. -/
theorem Aligned.books
    (aligned : tasks.Aligned) (stepped : tasks.connection.step action = some connection)
    (drains : action ≠ .drain) :
    connection.Closing ∧ (connection.shut = true ↔ tasks.waking ≠ .none) ∧
      (tasks.waking ≠ .none → connection.Emptied) := by
  refine ⟨?_, ?_, ?_⟩
  · exact (ClientConnection.step_effect stepped).closing aligned.closing
  · rw [ClientConnection.step_shut stepped drains]
    exact aligned.shut
  · intro begun
    exact (aligned.emptied begun).step (aligned.poisoned begun) stepped

/-- The writer's task fits its state. -/
theorem Aligned.writer_eq
    (aligned : tasks.Aligned) (stepped : tasks.connection.step action = some connection)
    (takes : action ≠ .recv) (halts : action ≠ .halt) :
    (tasks.writer = .waiting → connection.writer = .idle) ∧
      (tasks.writer.left = true → connection.writer = .finished) := by
  have effect := ClientConnection.step_effect stepped
  constructor
  · intro waiting
    have idle := aligned.waits waiting
    rw [effect.writer_eq (Or.inl idle) takes halts]
    exact idle
  · intro left
    have finished := aligned.left left
    rw [effect.writer_eq (Or.inr finished) takes halts]
    exact finished

/-- The connection's steps keep it aligned. -/
theorem Aligned.act
    (aligned : tasks.Aligned) (stepped : tasks.connection.step action = some connection) :
    (tasks.follow connection action).Aligned := by
  cases action with
  | drain =>
    cases ClientConnection.step_stepped stepped with
    | @drain cause won =>
      have poisoned : tasks.connection.poisoned = true := aligned.closing.won (by rw [won]; rfl)
      refine ⟨?_, ?_, ?_, aligned.waits, aligned.left, aligned.reads⟩
      · exact (ClientConnection.Effect.drain won).closing aligned.closing
      · simp [follow, ClientConnection.shut, ClientConnection.drain, poisoned]
      · exact fun _ => ClientConnection.emptied_drain cause
  | recv =>
    rcases aligned.books stepped (by simp) with ⟨closing, shut, emptied⟩
    have reads := ClientConnection.step_reading stepped (by simp) (by simp) (by simp)
    refine ⟨closing, shut, emptied, by simp [follow], ?_, ?_⟩
    · simp [follow, WriterTask.left]
    · exact fun inLoop => reads.trans (aligned.reads inLoop)
  | halt =>
    rcases aligned.books stepped (by simp) with ⟨closing, shut, emptied⟩
    have reads := ClientConnection.step_reading stepped (by simp) (by simp) (by simp)
    refine ⟨closing, shut, emptied, by simp [follow], ?_, ?_⟩
    · intro _
      cases ClientConnection.step_stepped stepped with
      | halt idle => rfl
    · exact fun inLoop => reads.trans (aligned.reads inLoop)
  | fail =>
    rcases aligned.books stepped (by simp) with ⟨closing, shut, emptied⟩
    have reads := ClientConnection.step_reading stepped (by simp) (by simp) (by simp)
    refine ⟨closing, shut, emptied, by simp [follow], ?_, ?_⟩
    · intro _
      cases ClientConnection.step_stepped stepped with
      | fail writing => rfl
    · exact fun inLoop => reads.trans (aligned.reads inLoop)
  | read full =>
    rcases aligned.books stepped (by simp) with ⟨closing, shut, emptied⟩
    rcases aligned.writer_eq stepped (by simp) (by simp) with ⟨waits, left⟩
    refine ⟨closing, shut, emptied, waits, left, ?_⟩
    intro inLoop
    simp only [follow] at inLoop ⊢
    split_ifs at inLoop with reading
    · exact reading
    · cases inLoop
  | lose error | leave =>
    rcases aligned.books stepped (by simp) with ⟨closing, shut, emptied⟩
    rcases aligned.writer_eq stepped (by simp) (by simp) with ⟨waits, left⟩
    exact ⟨closing, shut, emptied, waits, left, by simp [follow, ReaderTask.inLoop]⟩
  | _ =>
    rcases aligned.books stepped (by simp) with ⟨closing, shut, emptied⟩
    rcases aligned.writer_eq stepped (by simp) (by simp) with ⟨waits, left⟩
    have reads := ClientConnection.step_reading stepped (by simp) (by simp) (by simp)
    exact ⟨closing, shut, emptied, waits, left, fun inLoop => reads.trans (aligned.reads inLoop)⟩

/-! ## Steps of the tasks -/

/-- What each event changes. -/
inductive Moved (tasks : ConnectionTasks) : TaskEvent → ConnectionTasks → Prop where
  | act {action : Action} {connection : ClientConnection} :
      tasks.permits action = true → tasks.connection.step action = some connection →
        Moved tasks (.act action) (tasks.follow connection action)
  | waitWriter :
      tasks.writer = .busy → tasks.connection.writer = .idle →
        Moved tasks (.wait .writer)
          { tasks with
            shutdown := tasks.shutdown.notified .writer
            writer := .waiting }
  | waitReader :
      tasks.reader = .top →
        Moved tasks (.wait .reader)
          { tasks with
            shutdown := tasks.shutdown.notified .reader
            reader := .waiting }
  | waitIdle {timed : Bool} :
      tasks.idle = .decided timed →
        Moved tasks (.wait .idle)
          { tasks with
            shutdown := tasks.shutdown.notified .idle
            activity := tasks.activity.notified .idle
            idle := .waiting timed }
  | frame :
      tasks.reader = .waiting →
        Moved tasks .frame
          { tasks with
            shutdown := tasks.shutdown.forget .reader
            reader := .handling }
  | notifyShutdown :
      tasks.waking = .shutdown →
        Moved tasks .notifyShutdown
          { tasks with
            shutdown := tasks.shutdown.notifyWaiters
            waking := .activity }
  | notifyActivity :
      tasks.waking = .activity →
        Moved tasks .notifyActivity
          { tasks with
            activity := tasks.activity.notifyWaiters
            waking := .done }
  | stir :
      Moved tasks .stir
        { tasks with activity := tasks.activity.notifyWaiters }
  | drop :
      tasks.writer = .leaving →
        Moved tasks .drop
          { tasks with
            writeHalf := false
            writerFinished := true
            writer := .finished }
  | notifyDone :
      tasks.writer = .finished →
        Moved tasks .notifyDone
          { tasks with writerDone := true, writer := .ended }
  | join :
      tasks.reader = .leaving →
        Moved tasks .join
          { tasks with reader := if tasks.writerFinished then .releasing else .joining }
  | joined :
      tasks.reader = .joining → tasks.writerDone = true →
        Moved tasks .joined
          { tasks with writerDone := false, reader := .leaving }
  | release :
      tasks.reader = .releasing →
        Moved tasks .release
          { tasks with
            tracking := false
            admission := false
            readHalf := false
            reader := .ended }
  | check :
      tasks.idle = .top →
        Moved tasks .check
          { tasks with idle := if tasks.connection.poisoned then .ended else .checked }
  | look :
      tasks.idle = .checked →
        Moved tasks .look
          { tasks with idle := .decided tasks.connection.isQuiescent }
  | timer : tasks.idle = .waiting true → Moved tasks .timer (tasks.rouse .expired)
  | inUse :
      tasks.idle = .expired → tasks.connection.isIdle = false →
        Moved tasks .inUse { tasks with idle := .top }
  | stirred {timed : Bool} :
      tasks.idle = .waiting timed → tasks.activity.heard .idle = true →
        Moved tasks .stirred (tasks.rouse .top)
  | shut {timed : Bool} :
      tasks.idle = .waiting timed → tasks.shutdown.heard .idle = true →
        Moved tasks .shut (tasks.rouse .ended)

/-- A task begins to wait. -/
theorem waitStep_moved
    {task : ClientTask} (stepped : tasks.waitStep task = some next) :
    Moved tasks (.wait task) next := by
  cases task with
  | writer =>
    simp only [waitStep] at stepped
    split_ifs at stepped with busy
    cases stepped
    exact .waitWriter busy.1 busy.2
  | reader =>
    simp only [waitStep] at stepped
    split_ifs at stepped with top
    cases stepped
    exact .waitReader top
  | idle =>
    simp only [waitStep] at stepped
    split at stepped
    · rename_i timed decided
      cases stepped
      exact .waitIdle decided
    · cases stepped

variable {event : TaskEvent} {shutdown : Notify ClientTask} {idle : IdleTask}

theorem closeStep_moved (stepped : tasks.closeStep event = some next) : Moved tasks event next := by
  cases event <;>
    simp only [closeStep, reduceCtorEq, Option.ite_none_right_eq_some,
      Option.some.injEq] at stepped <;>
    rcases stepped with ⟨met, rfl⟩
  · exact .drop met
  · exact .notifyDone met
  · exact .join met
  · exact .joined met.1 met.2
  · exact .release met

/-- The idle task's steps. -/
theorem idleStep_moved (stepped : tasks.idleStep event = some next) : Moved tasks event next := by
  cases event <;>
    simp only [idleStep, reduceCtorEq, Option.ite_none_right_eq_some, Option.some.injEq] at stepped
  case check =>
    rcases stepped with ⟨top, rfl⟩
    exact .check top
  case look =>
    rcases stepped with ⟨checked, rfl⟩
    exact .look checked
  case timer =>
    rcases stepped with ⟨waiting, rfl⟩
    exact .timer waiting
  case inUse =>
    rcases stepped with ⟨expired, rfl⟩
    exact .inUse expired.1 expired.2
  case stirred =>
    split at stepped
    · rename_i timed waiting
      simp only [Option.ite_none_right_eq_some, Option.some.injEq] at stepped
      rcases stepped with ⟨heard, rfl⟩
      exact .stirred waiting heard
    · cases stepped
  case shut =>
    split at stepped
    · rename_i timed waiting
      simp only [Option.ite_none_right_eq_some, Option.some.injEq] at stepped
      rcases stepped with ⟨heard, rfl⟩
      exact .shut waiting heard
    · cases stepped

/-- The steps of the tasks are those that `Moved` lists. -/
theorem step_moved (stepped : tasks.step event = some next) : Moved tasks event next := by
  cases event with
  | act action =>
    simp only [step, Option.bind_eq_bind] at stepped
    split_ifs at stepped with permitted
    rw [Option.bind_eq_some_iff] at stepped
    rcases stepped with ⟨connection, moved, rest⟩
    cases rest
    exact .act permitted moved
  | wait task => exact waitStep_moved stepped
  | frame =>
    simp only [step] at stepped
    split_ifs at stepped with waiting
    cases stepped
    exact .frame waiting
  | notifyShutdown =>
    simp only [step] at stepped
    split_ifs at stepped with due
    cases stepped
    exact .notifyShutdown due
  | notifyActivity =>
    simp only [step] at stepped
    split_ifs at stepped with due
    cases stepped
    exact .notifyActivity due
  | stir =>
    cases stepped
    exact .stir
  | drop | notifyDone | join | joined | release =>
    exact closeStep_moved stepped
  | check | look | timer | inUse | stirred | shut =>
    exact idleStep_moved stepped

/-- One step keeps the tasks aligned. -/
theorem Moved.aligned
    (moved : Moved tasks event next) (aligned : tasks.Aligned) :
    next.Aligned := by
  cases moved with
  | act permitted stepped => exact aligned.act stepped
  | waitWriter busy idle =>
    exact { aligned with waits := fun _ => idle, left := by simp [WriterTask.left] }
  | waitReader top =>
    exact { aligned with reads := fun _ => aligned.reads (by rw [top]; rfl) }
  | frame waiting =>
    exact
      { aligned with reads := fun _ => aligned.reads (by rw [waiting]; rfl) }
  | notifyShutdown due | notifyActivity due =>
    have begun : tasks.waking ≠ .none := by simp [due]
    exact
      { aligned with
        shut := by simpa [begun] using aligned.shut
        emptied := fun _ => aligned.emptied begun }
  | drop leaving =>
    exact
      { aligned with
        waits := by simp
        left := fun _ => aligned.left (by rw [leaving]; rfl) }
  | notifyDone finished =>
    exact
      { aligned with
        waits := by simp
        left := fun _ => aligned.left (by rw [finished]; rfl) }
  | join leaving =>
    refine { aligned with reads := ?_ }
    intro inLoop
    simp only at inLoop
    split_ifs at inLoop <;> cases inLoop
  | joined joining done | release releasing =>
    exact { aligned with reads := by simp [ReaderTask.inLoop] }
  | _ => exact { aligned with }

/-! ## What the tasks hold -/

/-- Waiters are there while their tasks wait, and nothing is kept too long. -/
structure Held (tasks : ConnectionTasks) : Prop where
  writer : tasks.writer = .waiting → tasks.shutdown.created .writer = true
  reader : tasks.reader = .waiting → tasks.shutdown.created .reader = true
  idle : ∀ timed, tasks.idle = .waiting timed → tasks.activity.created .idle = true
  finished : tasks.writerFinished = tasks.writer.dropped
  dropped : tasks.writer.dropped = true → tasks.writeHalf = false
  told : tasks.writerDone = true → tasks.writer = .ended
  joining : tasks.reader = .joining → tasks.writer = .ended → tasks.writerDone = true
  closed :
    tasks.reader = .ended →
      tasks.readHalf = false ∧ tasks.tracking = false ∧ tasks.admission = false

theorem held_new : Held {} where
  writer := by simp
  reader := by simp
  idle := by simp
  finished := rfl
  dropped := by simp [WriterTask.dropped]
  told := by simp
  joining := by simp
  closed := by simp

theorem Aligned.busy
    (aligned : tasks.Aligned) (works : action.works = true)
    (stepped : tasks.connection.step action = some connection) :
    tasks.writer = .busy := by
  have working := ClientConnection.step_works stepped works
  cases stands : tasks.writer with
  | busy => rfl
  | waiting => exact absurd (aligned.waits stands) working.1
  | _ => exact absurd (aligned.left (by rw [stands]; rfl)) working.2

/-- The writer goes on or leaves. -/
theorem Held.turn
    (held : tasks.Held) (present : tasks.writer.left = false)
    {writer : WriterTask} (turns : writer = .busy ∨ writer = .leaving)
    (kept : shutdown.created .reader = tasks.shutdown.created .reader) :
    Held
      { tasks with
        connection := connection
        shutdown := shutdown
        writer := writer } := by
  have away : writer ≠ .waiting ∧ writer.dropped = false ∧ writer ≠ .ended := by
    rcases turns with rfl | rfl <;> simp [WriterTask.dropped]
  have undropped : tasks.writer.dropped = false := by
    cases stands : tasks.writer <;> rw [stands] at present <;>
      first
      | rfl
      | cases present
  refine
    { held with
      writer := fun same => absurd same away.1
      reader := fun waiting => kept.trans (held.reader waiting)
      finished := (held.finished.trans undropped).trans away.2.1.symm
      dropped := fun drops => absurd drops (by rw [away.2.1]; simp)
      told := ?_
      joining := fun _ same => absurd same away.2.2 }
  intro done
  have ended := held.told done
  rw [ended] at present
  cases present

/-- The reader moves, but neither to the writer's end nor to its own. -/
theorem Held.turnReader
    (held : tasks.Held) {reader : ReaderTask}
    (kept : shutdown.created .writer = tasks.shutdown.created .writer)
    (waits : reader = .waiting → shutdown.created .reader = true)
    (stays : reader ≠ .joining ∧ reader ≠ .ended) :
    Held
      { tasks with
        connection := connection
        shutdown := shutdown
        reader := reader } :=
  { held with
    writer := fun waiting => kept.trans (held.writer waiting)
    reader := waits
    joining := fun same => absurd same stays.1
    closed := fun same => absurd same stays.2 }

theorem Held.turnIdle
    (held : tasks.Held) (moves : ∀ timed, idle ≠ .waiting timed) :
    Held { tasks with connection := connection, idle := idle } :=
  { held with idle := fun timed same => absurd same (moves timed) }

/-- The connection's steps keep it held. -/
theorem Held.act
    (held : tasks.Held) (aligned : tasks.Aligned) (permitted : tasks.permits action = true)
    (stepped : tasks.connection.step action = some connection) :
    (tasks.follow connection action).Held := by
  cases action with
  | recv =>
    simp only [permits, decide_eq_true_eq] at permitted
    exact held.turn (by rw [permitted]; rfl) (.inl rfl) (Notify.forget_created_of_ne (by decide))
  | halt =>
    simp only [permits, Bool.and_eq_true, decide_eq_true_eq] at permitted
    exact held.turn (by rw [permitted.1]; rfl) (.inr rfl) (Notify.forget_created_of_ne (by decide))
  | fail =>
    have busy := aligned.busy rfl stepped
    exact held.turn (by rw [busy]; rfl) (.inr rfl) rfl
  | read full =>
    refine held.turnReader rfl ?_ ?_ <;> split_ifs <;> simp
  | lose error => exact held.turnReader rfl (by simp) (by simp)
  | leave =>
    exact held.turnReader (Notify.forget_created_of_ne (by decide)) (by simp) (by simp)
  | expire => exact held.turnIdle (by simp)
  | _ => exact { held with }

theorem Held.rouse
    (held : tasks.Held) (moves : ∀ timed, idle ≠ .waiting timed) :
    (tasks.rouse idle).Held where
  writer := by simpa [ConnectionTasks.rouse] using held.writer
  reader := by simpa [ConnectionTasks.rouse] using held.reader
  idle := fun timed same => absurd same (moves timed)
  finished := held.finished
  dropped := held.dropped
  told := held.told
  joining := held.joining
  closed := held.closed

/-- The writer begins to wait. -/
theorem Held.waitWriter (held : tasks.Held) (busy : tasks.writer = .busy) :
    Held
      { tasks with
        shutdown := tasks.shutdown.notified .writer
        writer := .waiting } := by
  have finished := held.finished
  have told := held.told
  rw [busy] at finished told
  exact
    { held with
      writer := by simp
      reader := by simpa using held.reader
      finished := finished
      dropped := by simp [WriterTask.dropped]
      told := fun done => by cases told done
      joining := by simp }

/-- The writer closes its half and says that it has finished. -/
theorem Held.drop (held : tasks.Held) (leaving : tasks.writer = .leaving) :
    Held
      { tasks with
        writeHalf := false
        writerFinished := true
        writer := .finished } := by
  have told := held.told
  rw [leaving] at told
  exact
    { held with
      writer := by simp
      finished := rfl
      dropped := fun _ => rfl
      told := fun done => by cases told done
      joining := by simp }

/-- The writer says it is done. -/
theorem Held.notifyDone
    (held : tasks.Held) (ends : tasks.writer = .finished) :
    Held { tasks with writerDone := true, writer := .ended } := by
  have finished := held.finished
  have dropped := held.dropped
  rw [ends] at finished dropped
  exact
    { held with
      writer := by simp
      finished := finished
      dropped := dropped
      told := fun _ => rfl
      joining := fun _ _ => rfl }

/-- A reader joins a writer only that has not finished. -/
theorem Held.join (held : tasks.Held) :
    Held
      { tasks with reader := if tasks.writerFinished then .releasing else .joining } := by
  have finished := held.finished
  refine { held with reader := ?_, joining := ?_, closed := ?_ }
  · simp only
    split_ifs <;> simp
  · intro joins ended
    simp only at joins ended
    rw [ended] at finished
    rw [finished] at joins
    cases joins
  · simp only
    split_ifs <;> simp

/-- What the tasks hold is kept by every step of them. -/
theorem Moved.held
    (moved : Moved tasks event next) (aligned : tasks.Aligned) (held : tasks.Held) :
    next.Held := by
  cases moved with
  | act permitted stepped => exact held.act aligned permitted stepped
  | waitWriter busy idle => exact held.waitWriter busy
  | waitReader top => exact held.turnReader (by simp) (by simp) (by simp)
  | waitIdle decided =>
    exact
      { held with
        writer := by simpa using held.writer
        reader := by simpa using held.reader
        idle := by simp }
  | frame waiting => exact held.turnReader (by simp) (by simp) (by simp)
  | notifyShutdown due =>
    exact
      { held with
        writer := by simpa using held.writer
        reader := by simpa using held.reader }
  | notifyActivity due | stir =>
    exact
      { held with idle := fun timed waiting => by simpa using held.idle timed waiting }
  | drop leaving => exact held.drop leaving
  | notifyDone finished => exact held.notifyDone finished
  | join leaving => exact held.join
  | joined joining done =>
    exact
      { held with
        reader := by simp
        told := by simp
        joining := by simp
        closed := by simp }
  | release releasing =>
    exact
      { held with
        reader := by simp
        joining := by simp
        closed := fun _ => ⟨rfl, rfl, rfl⟩ }
  | check top =>
    refine held.turnIdle ?_
    split_ifs <;> simp
  | look checked => exact held.turnIdle (by simp)
  | inUse expired busy => exact held.turnIdle (by simp)
  | timer waiting => exact held.rouse (by simp)
  | stirred waiting heard => exact held.rouse (by simp)
  | shut waiting heard => exact held.rouse (by simp)

end ConnectionTasks

end Tinyray.Transport
