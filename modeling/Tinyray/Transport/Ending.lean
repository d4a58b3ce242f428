import Tinyray.Transport.Shutdown

/-!
# The end of a poisoned connection

A waiter hears what is notified while it is there.  Where `shutdown` and
`activity` are notified at moments at which no task is about to wait, every
task has heard or is on its way out.  From then on each step that a task takes
by itself brings it nearer to its end, and while something is still held one of
them can be taken.
-/

namespace Tinyray.Transport

open Std Foundation

/-- Steps the writer has left. -/
def WriterTask.remaining : WriterTask → Nat
  | .busy => 4
  | .waiting => 3
  | .leaving => 2
  | .finished => 1
  | .ended => 0

/-- A reader that leaves after the writer has finished does not join it. -/
def ReaderTask.remaining (writerFinished : Bool) : ReaderTask → Nat
  | .top => 8
  | .waiting => 7
  | .handling => 6
  | .leaving => if writerFinished then 2 else 5
  | .joining => 4
  | .releasing => 1
  | .ended => 0

theorem ReaderTask.leaving_remaining_le (writerFinished : Bool) :
    ReaderTask.leaving.remaining writerFinished ≤ 5 := by
  cases writerFinished <;> decide

theorem ReaderTask.remaining_finished_le
    (reader : ReaderTask) (writerFinished : Bool) :
    reader.remaining true ≤ reader.remaining writerFinished := by
  cases reader <;> cases writerFinished <;> decide

/-- At the start of its loop the task sees that the connection is poisoned. -/
def IdleTask.remaining : IdleTask → Nat
  | .checked => 5
  | .decided _ => 4
  | .waiting _ => 3
  | .expired => 2
  | .top => 1
  | .ended => 0

/-- Steps `poison` has left. -/
def Waking.remaining : Waking → Nat
  | .none => 3
  | .shutdown => 2
  | .activity => 1
  | .done => 0

namespace ConnectionTasks

variable {tasks next : ConnectionTasks} {connection : ClientConnection}
  {action : Action}

/-! ## No task is caught -/

/-- After the notifications every task has heard, or is on its way out. -/
structure Roused (tasks : ConnectionTasks) : Prop where
  writer :
    tasks.shutdownSent = true →
      tasks.writer ≠ .busy ∧ (tasks.writer = .waiting → tasks.shutdown.heard .writer = true)
  reader :
    tasks.shutdownSent = true →
      tasks.reader ≠ .top ∧ (tasks.reader = .waiting → tasks.shutdown.heard .reader = true)
  idle :
    tasks.waking = .done →
      tasks.idle ≠ .decided false ∧
        (tasks.idle = .waiting false →
          tasks.shutdown.heard .idle = true ∨ tasks.activity.heard .idle = true)

theorem roused_new : Roused {} where
  writer := by simp [shutdownSent]
  reader := by simp [shutdownSent]
  idle := by simp

theorem shutdownSent_begun (sent : tasks.shutdownSent = true) : tasks.waking ≠ .none := by
  intro none
  simp [shutdownSent, none] at sent

/-- The connection's steps keep it roused. -/
theorem Roused.act
    (roused : tasks.Roused) (aligned : tasks.Aligned) (permitted : tasks.permits action = true)
    (met : tasks.attentive (.act action) = true)
    (stepped : tasks.connection.step action = some connection) :
    (tasks.follow connection action).Roused := by
  cases action with
  | recv =>
    simp only [permits, decide_eq_true_eq] at permitted
    simp only [attentive, Bool.not_eq_true'] at met
    have silent : tasks.shutdownSent = false := by
      rw [Bool.eq_false_iff]
      intro sent
      have heard := (roused.writer sent).2 permitted
      rw [met] at heard
      cases heard
    have early : tasks.waking ≠ .done := by
      intro done
      simp [shutdownSent, done] at silent
    refine ⟨?_, ?_, ?_⟩
    · intro sent
      exact absurd sent (Bool.eq_false_iff.mp silent)
    · intro sent
      exact absurd sent (Bool.eq_false_iff.mp silent)
    · intro done
      exact absurd done early
  | halt =>
    exact
      { writer := by simp [follow]
        reader := fun sent => by simpa [follow] using roused.reader sent
        idle := fun done => by simpa [follow] using roused.idle done }
  | fail => exact { roused with writer := by simp [follow] }
  | read full =>
    refine { roused with reader := ?_ }
    intro sent
    have left := (aligned.emptied (shutdownSent_begun sent)).read stepped
    simp [follow, left]
  | lose error => exact { roused with reader := by simp [follow] }
  | leave =>
    exact
      { writer := fun sent => by simpa [follow] using roused.writer sent
        reader := by simp [follow]
        idle := fun done => by simpa [follow] using roused.idle done }
  | expire => exact { roused with idle := by simp [follow] }
  | drain =>
    exact ⟨by simp [follow, shutdownSent], by simp [follow, shutdownSent], by simp [follow]⟩
  | _ => exact { roused with }

theorem Roused.rouse
    (roused : tasks.Roused) {idle : IdleTask} (moves : ∀ timed, idle ≠ .waiting timed)
    (decides : ∀ timed, idle ≠ .decided timed) :
    (tasks.rouse idle).Roused where
  writer := fun sent => by
    simpa [ConnectionTasks.rouse] using roused.writer sent
  reader := fun sent => by
    simpa [ConnectionTasks.rouse] using roused.reader sent
  idle := fun _ => ⟨decides false, fun same => absurd same (moves false)⟩

/-- `shutdown` reaches who waits for it. -/
theorem Held.rousedByShutdown
    (held : tasks.Held) (writer : tasks.writer ≠ .busy) (reader : tasks.reader ≠ .top) :
    Roused { tasks with shutdown := tasks.shutdown.notifyWaiters, waking := .activity } where
  writer := fun _ => ⟨writer, fun waiting => by simpa using held.writer waiting⟩
  reader := fun _ => ⟨reader, fun waiting => by simpa using held.reader waiting⟩
  idle := by simp

/-- `activity` reaches an idle task that waits. -/
theorem Held.idle_heard (held : tasks.Held) (waiting : tasks.idle = .waiting false) :
    tasks.shutdown.heard .idle = true ∨ tasks.activity.notifyWaiters.heard .idle = true := by
  right
  simp only [Notify.notifyWaiters_heard]
  exact held.idle false waiting

variable {event : TaskEvent}

/-- One step keeps it roused. -/
theorem Moved.roused
    (moved : Moved tasks event next) (aligned : tasks.Aligned) (held : tasks.Held)
    (met : tasks.attentive event = true) (roused : tasks.Roused) :
    next.Roused := by
  cases moved with
  | act permitted stepped => exact roused.act aligned permitted met stepped
  | waitWriter busy idle =>
    exact
      { writer := fun sent => absurd busy (roused.writer sent).1
        reader := fun sent => absurd busy (roused.writer sent).1
        idle := fun done => by simpa using roused.idle done }
  | waitReader top =>
    exact
      { writer := fun sent => absurd top (roused.reader sent).1
        reader := fun sent => absurd top (roused.reader sent).1
        idle := fun done => by simpa using roused.idle done }
  | @waitIdle timed decided =>
    refine
      { writer := fun sent => by simpa using roused.writer sent
        reader := fun sent => by simpa using roused.reader sent
        idle := ?_ }
    intro done
    cases timed with
    | false => exact absurd decided (roused.idle done).1
    | true => simp
  | frame waiting =>
    exact
      { writer := fun sent => by simpa using roused.writer sent
        reader := by simp
        idle := fun done => by simpa using roused.idle done }
  | notifyShutdown due =>
    simp only [attentive, ne_eq, decide_not, Bool.and_eq_true,
      Bool.not_eq_true', decide_eq_false_iff_not] at met
    exact held.rousedByShutdown met.1 met.2
  | notifyActivity due =>
    simp only [attentive, ne_eq, decide_not, Bool.not_eq_true', decide_eq_false_iff_not] at met
    have sent : tasks.shutdownSent = true := by simp [shutdownSent, due]
    exact ⟨fun _ => roused.writer sent, fun _ => roused.reader sent, fun _ => ⟨met, held.idle_heard⟩⟩
  | stir =>
    exact { roused with idle := fun done => ⟨(roused.idle done).1, held.idle_heard⟩ }
  | drop leaving | notifyDone finished =>
    exact { roused with writer := by simp }
  | join leaving =>
    refine { roused with reader := ?_ }
    intro _
    simp only
    split_ifs <;> simp
  | joined joining done | release releasing =>
    exact { roused with reader := by simp }
  | check top =>
    refine { roused with idle := ?_ }
    intro _
    simp only
    split_ifs <;> simp
  | look checked =>
    refine { roused with idle := ?_ }
    intro done
    have begun : tasks.waking ≠ .none := by
      simp only at done
      simp [done]
    simp [(aligned.emptied begun).isQuiescent]
  | timer waiting => exact roused.rouse (by simp) (by simp)
  | inUse expired busy => exact { roused with idle := by simp }
  | stirred waiting heard | shut waiting heard =>
    exact roused.rouse (by simp) (by simp)

/-! ## Whole runs -/

/-- The invariants of the tasks. -/
structure Orderly (tasks : ConnectionTasks) : Prop where
  aligned : tasks.Aligned
  held : tasks.Held
  roused : tasks.Roused

theorem orderly_new : Orderly {} := ⟨aligned_new, held_new, roused_new⟩

theorem step_orderly
    (stepped : tasks.step event = some next)
    (met : tasks.attentive event = true) (orderly : tasks.Orderly) :
    next.Orderly := by
  have moved := step_moved stepped
  exact
    ⟨moved.aligned orderly.aligned, moved.held orderly.aligned orderly.held,
      moved.roused orderly.aligned orderly.held met orderly.roused⟩

/-- Nobody waits in vain. -/
theorem Orderly.not_in_vain (orderly : tasks.Orderly) (task : ClientTask) :
    tasks.waitsInVain task = false := by
  rw [Bool.eq_false_iff]
  intro vain
  cases task with
  | writer =>
    simp only [waitsInVain, Bool.and_eq_true, decide_eq_true_eq, Bool.not_eq_true'] at vain
    rcases vain with ⟨⟨waiting, sent⟩, unheard⟩
    have heard := (orderly.roused.writer sent).2 waiting
    rw [unheard] at heard
    cases heard
  | reader =>
    simp only [waitsInVain, Bool.or_eq_true, Bool.and_eq_true,
      decide_eq_true_eq, Bool.not_eq_true'] at vain
    rcases vain with ⟨⟨⟨waiting, sent⟩, unheard⟩, _⟩ | ⟨⟨joining, ended⟩, silent⟩
    · have heard := (orderly.roused.reader sent).2 waiting
      rw [unheard] at heard
      cases heard
    · have told := orderly.held.joining joining ended
      rw [silent] at told
      cases told
  | idle =>
    simp only [waitsInVain, Bool.and_eq_true, decide_eq_true_eq, Bool.not_eq_true'] at vain
    rcases vain with ⟨⟨⟨waiting, done⟩, deaf⟩, unheard⟩
    rcases (orderly.roused.idle done).2 waiting with heard | heard
    · rw [deaf] at heard
      cases heard
    · rw [unheard] at heard
      cases heard

/-! ## How far the tasks have to go -/

/-- Steps that are left. -/
def remaining (tasks : ConnectionTasks) : Nat :=
  tasks.writer.remaining + tasks.reader.remaining tasks.writerFinished +
    tasks.idle.remaining + tasks.waking.remaining

theorem Aligned.drain_none
    (aligned : tasks.Aligned) (begun : tasks.waking ≠ .none) :
    tasks.connection.step .drain = none := by
  have shut := aligned.shut.mpr begun
  simp only [ClientConnection.shut, Bool.and_eq_true, Option.isNone_iff_eq_none] at shut
  simp [ClientConnection.step, ClientConnection.wireStep, shut.2]

/-- The connection's steps come closer. -/
theorem Orderly.act_remaining
    (orderly : tasks.Orderly) (sent : tasks.shutdownSent = true)
    (permitted : tasks.permits action = true) (met : tasks.attentive (.act action) = true)
    (stepped : tasks.connection.step action = some connection) :
    (tasks.follow connection action).remaining +
        (TaskEvent.act action).own.toNat ≤ tasks.remaining := by
  have begun := shutdownSent_begun sent
  have present := (orderly.roused.writer sent).1
  cases action with
  | recv =>
    simp only [permits, decide_eq_true_eq] at permitted
    simp only [attentive, Bool.not_eq_true'] at met
    have heard := (orderly.roused.writer sent).2 permitted
    rw [met] at heard
    cases heard
  | halt =>
    simp only [permits, Bool.and_eq_true, decide_eq_true_eq] at permitted
    simp only [follow, remaining, permitted.1, WriterTask.remaining, TaskEvent.own, Bool.toNat_true]
    omega
  | fail | mark | write | settle =>
    exact absurd (orderly.aligned.busy rfl stepped) present
  | read full =>
    simp only [permits, decide_eq_true_eq] at permitted
    have left := (orderly.aligned.emptied begun).read stepped
    have near := ReaderTask.leaving_remaining_le tasks.writerFinished
    have far : ReaderTask.handling.remaining tasks.writerFinished = 6 := rfl
    simp only [follow, left, remaining, permitted, TaskEvent.own,
      Bool.toNat_true, Bool.false_eq_true, if_false]
    omega
  | lose error =>
    simp only [permits, decide_eq_true_eq] at permitted
    have near := ReaderTask.leaving_remaining_le tasks.writerFinished
    have far : ReaderTask.handling.remaining tasks.writerFinished = 6 := rfl
    simp only [follow, remaining, permitted, TaskEvent.own, Bool.toNat_true]
    omega
  | leave =>
    simp only [permits, Bool.and_eq_true, decide_eq_true_eq] at permitted
    have near := ReaderTask.leaving_remaining_le tasks.writerFinished
    have far : ReaderTask.waiting.remaining tasks.writerFinished = 7 := rfl
    simp only [follow, remaining, permitted.1, TaskEvent.own, Bool.toNat_true]
    omega
  | expire =>
    simp only [permits, decide_eq_true_eq] at permitted
    simp only [follow, remaining, permitted, IdleTask.remaining, TaskEvent.own, Bool.toNat_true]
    omega
  | drain =>
    rw [orderly.aligned.drain_none begun] at stepped
    cases stepped
  | _ => exact Nat.le_refl _

/-- Each step that is taken by itself brings the tasks nearer to their end. -/
theorem Orderly.remaining_le
    (orderly : tasks.Orderly) (sent : tasks.shutdownSent = true)
    (met : tasks.attentive event = true) (stepped : tasks.step event = some next) :
    next.remaining + event.own.toNat ≤ tasks.remaining := by
  have begun := shutdownSent_begun sent
  cases step_moved stepped with
  | act permitted moved =>
    exact orderly.act_remaining sent permitted met moved
  | waitWriter busy idle => exact absurd busy (orderly.roused.writer sent).1
  | waitReader top => exact absurd top (orderly.roused.reader sent).1
  | notifyShutdown due => simp [shutdownSent, due] at sent
  | stir => exact Nat.le_refl _
  | drop leaving =>
    have near := tasks.reader.remaining_finished_le tasks.writerFinished
    simp only [remaining, leaving, WriterTask.remaining, TaskEvent.own, Bool.toNat_true]
    omega
  | check top =>
    simp only [remaining, top, orderly.aligned.poisoned begun,
      IdleTask.remaining, TaskEvent.own, Bool.toNat_true, if_true]
    omega
  | join leaving =>
    simp only [remaining, leaving, TaskEvent.own, Bool.toNat_true]
    cases tasks.writerFinished with
    | false =>
      simp only [ReaderTask.remaining, Bool.false_eq_true, if_false]
      omega
    | true =>
      simp only [ReaderTask.remaining, if_true]
      omega
  | joined joining done =>
    have finished := orderly.held.finished
    rw [orderly.held.told done] at finished
    simp only [remaining, joining, finished, WriterTask.dropped,
      ReaderTask.remaining, TaskEvent.own, Bool.toNat_true, if_true]
    omega
  | notifyDone reached =>
    simp only [remaining, reached, WriterTask.remaining, TaskEvent.own, Bool.toNat_true]
    omega
  | notifyActivity reached =>
    simp only [remaining, reached, Waking.remaining, TaskEvent.own, Bool.toNat_true]
    omega
  | frame reached | release reached =>
    simp only [remaining, reached, ReaderTask.remaining, TaskEvent.own,
      Bool.toNat_true, Bool.toNat_false]
    omega
  | look reached | inUse reached idle | waitIdle reached =>
    simp only [remaining, reached, IdleTask.remaining, TaskEvent.own, Bool.toNat_true]
    omega
  | timer reached | stirred reached heard | shut reached heard =>
    simp only [remaining, rouse, reached, IdleTask.remaining, TaskEvent.own, Bool.toNat_true]
    omega

/-- Sixteen steps at most. -/
theorem Orderly.remaining_le_sixteen
    (orderly : tasks.Orderly) (sent : tasks.shutdownSent = true) :
    tasks.remaining ≤ 16 := by
  have writer : tasks.writer.remaining ≤ 3 := by
    have present := (orderly.roused.writer sent).1
    cases stands : tasks.writer with
    | busy => exact absurd stands present
    | _ => decide
  have reader : tasks.reader.remaining tasks.writerFinished ≤ 7 := by
    have away := (orderly.roused.reader sent).1
    have near := ReaderTask.leaving_remaining_le tasks.writerFinished
    cases stands : tasks.reader with
    | top => exact absurd stands away
    | leaving => omega
    | _ => simp [ReaderTask.remaining]
  have idle : tasks.idle.remaining ≤ 5 := by
    cases tasks.idle <;> simp [IdleTask.remaining]
  have waking : tasks.waking.remaining ≤ 1 := by
    cases stands : tasks.waking with
    | none | shutdown => simp [shutdownSent, stands] at sent
    | _ => decide
  rw [remaining]
  omega

/-- A notification is not taken back. -/
theorem step_shutdownSent
    (aligned : tasks.Aligned) (stepped : tasks.step event = some next)
    (sent : tasks.shutdownSent = true) :
    next.shutdownSent = true := by
  have begun := shutdownSent_begun sent
  cases step_moved stepped with
  | @act action _ permitted moved =>
    cases action with
    | drain =>
      rw [aligned.drain_none begun] at moved
      cases moved
    | _ => exact sent
  | notifyShutdown due => simp [shutdownSent]
  | notifyActivity due => simp [shutdownSent]
  | _ => exact sent

theorem step_told
    (stepped : tasks.step event = some next) (met : tasks.attentive event = true)
    (told : tasks.Orderly ∧ tasks.shutdownSent = true) :
    next.Orderly ∧ next.shutdownSent = true :=
  ⟨step_orderly stepped met told.1, step_shutdownSent told.1.aligned stepped told.2⟩

/-! ## While something is held, somebody has a step to take -/

section

variable (orderly : tasks.Orderly)
    (poisoned : tasks.connection.poisoned = true)
    (rests : ∀ event : TaskEvent, event.own = true → tasks.step event = none)

include orderly poisoned rests

/-- The waking is over. -/
theorem Orderly.woken : tasks.connection.draining = none ∧ tasks.waking = .done := by
  have drained : tasks.connection.draining = none := by
    cases draining : tasks.connection.draining with
    | none => rfl
    | some cause =>
      have rested := rests (.act .drain) rfl
      simp [step, permits, ClientConnection.step, ClientConnection.wireStep, draining] at rested
  refine ⟨drained, ?_⟩
  have begun : tasks.waking ≠ .none := by
    rw [← orderly.aligned.shut]
    simp [ClientConnection.shut, poisoned, drained]
  cases waking : tasks.waking with
  | none => exact absurd waking begun
  | shutdown =>
    have rested := rests .notifyShutdown rfl
    simp [step, waking] at rested
  | activity =>
    have rested := rests .notifyActivity rfl
    simp [step, waking] at rested
  | done => rfl

/-- The writer has ended. -/
theorem Orderly.writer_ended : tasks.writer = .ended := by
  rcases orderly.woken poisoned rests with ⟨drained, done⟩
  have sent : tasks.shutdownSent = true := by simp [shutdownSent, done]
  cases writer : tasks.writer with
  | busy => exact absurd writer (orderly.roused.writer sent).1
  | waiting =>
    have heard := (orderly.roused.writer sent).2 writer
    have idle := orderly.aligned.waits writer
    have rested := rests (.act .halt) rfl
    simp [step, permits, ClientConnection.step,
      ClientConnection.writerStep, writer, heard, poisoned, drained, idle] at rested
  | leaving =>
    have rested := rests .drop rfl
    simp [step, closeStep, writer] at rested
  | finished =>
    have rested := rests .notifyDone rfl
    simp [step, closeStep, writer] at rested
  | ended => rfl

/-- The reader has ended. -/
theorem Orderly.reader_ended : tasks.reader = .ended := by
  rcases orderly.woken poisoned rests with ⟨drained, done⟩
  have sent : tasks.shutdownSent = true := by simp [shutdownSent, done]
  cases reader : tasks.reader with
  | top => exact absurd reader (orderly.roused.reader sent).1
  | waiting =>
    have heard := (orderly.roused.reader sent).2 reader
    have rested := rests (.act .leave) rfl
    simp [step, permits, ClientConnection.step,
      ClientConnection.wireStep, reader, heard, poisoned] at rested
  | handling =>
    have reads := orderly.aligned.reads (by rw [reader]; rfl)
    have rested := rests (.act (.lose .peerClosed)) rfl
    simp [step, permits, ClientConnection.step, ClientConnection.wireStep, reader, reads] at rested
  | leaving =>
    have rested := rests .join rfl
    simp [step, closeStep, reader] at rested
  | joining =>
    have ended := orderly.writer_ended poisoned rests
    have told := orderly.held.joining reader ended
    have rested := rests .joined rfl
    simp [step, closeStep, reader, told] at rested
  | releasing =>
    have rested := rests .release rfl
    simp [step, closeStep, reader] at rested
  | ended => rfl

/-- The idle task has ended. -/
theorem Orderly.idle_ended : tasks.idle = .ended := by
  rcases orderly.woken poisoned rests with ⟨drained, done⟩
  cases idle : tasks.idle with
  | top =>
    have rested := rests .check rfl
    simp [step, idleStep, idle] at rested
  | checked =>
    have rested := rests .look rfl
    simp [step, idleStep, idle] at rested
  | decided timed =>
    have rested := rests (.wait .idle) rfl
    simp [step, waitStep, idle] at rested
  | waiting timed =>
    cases timed with
    | true =>
      have rested := rests .timer rfl
      simp [step, idleStep, idle] at rested
    | false =>
      rcases (orderly.roused.idle done).2 idle with heard | heard
      · have rested := rests .shut rfl
        simp [step, idleStep, idle, heard] at rested
      · have rested := rests .stirred rfl
        simp [step, idleStep, idle, heard] at rested
  | expired =>
    have rested := rests .inUse rfl
    simp [step, idleStep, idle, ClientConnection.isIdle, poisoned] at rested
  | ended => rfl

end

/--
In a run in which no task is about to wait when it is notified: a task of a
poisoned connection does not wait in vain; while something of the connection is
held, a task or the call of `poison` has a step to take; and from the
notification of `shutdown` on there are no more than sixteen of them.
-/
theorem poison_ends_tasks
    {events : List TaskEvent} {tasks : ConnectionTasks}
    (ran : execute step {} events = some tasks) (met : obeys step attentive {} events = true)
    (poisoned : tasks.connection.poisoned = true) :
    (∀ task, tasks.waitsInVain task = false) ∧
      ((∀ event : TaskEvent, event.own = true → tasks.step event = none) →
        tasks.ended = true ∧ tasks.released = true) ∧
      (tasks.shutdownSent = true →
        ∀ (more : List TaskEvent) (final : ConnectionTasks),
          execute step tasks more = some final →
            obeys step attentive tasks more = true → more.countP TaskEvent.own ≤ 16) := by
  have orderly := execute_invariant step_orderly ran met orderly_new
  refine ⟨orderly.not_in_vain, ?_, ?_⟩
  · intro rests
    have writer := orderly.writer_ended poisoned rests
    have reader := orderly.reader_ended poisoned rests
    have idle := orderly.idle_ended poisoned rests
    have dropped := orderly.held.dropped (by rw [writer]; rfl)
    have closed := orderly.held.closed reader
    refine ⟨?_, ?_⟩
    · simp [ended, writer, reader, idle]
    · simp [released, dropped, closed]
  · intro sent more final continued obeyed
    have counted : more.countP TaskEvent.own + final.remaining ≤ tasks.remaining :=
      execute_countP_le step_told
        (fun stepped met told => Orderly.remaining_le told.1 told.2 met stepped)
        continued obeyed ⟨orderly, sent⟩
    have bound := orderly.remaining_le_sixteen sent
    omega

/-- The pool is dropped while every task waits. -/
theorem dropped_pool_ends_tasks :
    ∃ tasks : ConnectionTasks,
      execute step {}
          [.wait .writer, .wait .reader, .check, .look, .wait .idle,
            .act .close, .act (.swap .poolClosed), .act .drain,
            .notifyShutdown, .notifyActivity] = some tasks ∧
        tasks.connection.poisoned = true ∧ (∀ task, tasks.waitsInVain task = false) ∧
        ∀ (more : List TaskEvent) (final : ConnectionTasks),
          execute step tasks more = some final →
            obeys step attentive tasks more = true → more.countP TaskEvent.own ≤ 16 := by
  refine ⟨Option.get _ ?_, (Option.some_get _).symm, ?_, ?_, ?_⟩
  · decide +kernel
  · decide +kernel
  · exact (poison_ends_tasks (Option.some_get _).symm (by decide +kernel) (by decide +kernel)).1
  · exact
      (poison_ends_tasks (Option.some_get _).symm (by decide +kernel)
        (by decide +kernel)).2.2 (by decide +kernel)

/--
The reader poisons the connection itself, since too many are idle, and then
waits for more; the writer is caught in the middle of a write by a call that
times out; and the idle task has seen a call that is pending.
-/
theorem poison_missed :
    (execute step {}
        [.act (.reserve 1 "a"), .act (.register 1), .act (.arm 1),
          .act (.send 1), .wait .writer, .act .recv, .act .mark,
          .act .write, .act .settle, .wait .writer,
          .act (.answer 1 false false), .wait .reader, .frame,
          .act (.read true), .act (.swap .idleCap), .act .drain,
          .notifyShutdown, .notifyActivity, .act .halt, .drop, .notifyDone, .wait .reader]).map
        (fun tasks =>
          (tasks.connection.poisoned, tasks.waitsInVain .reader,
            tasks.released)) = some (true, true, false) ∧
      (execute step {}
          [.act (.reserve 1 "a"), .act (.register 1), .act (.arm 1),
            .act (.send 1), .wait .writer, .act .recv, .act .mark,
            .wait .reader, .act (.timeout 1 false),
            .act (.swap .timedOut), .act .drain, .notifyShutdown,
            .notifyActivity, .act .leave, .join, .act .write, .act .settle, .wait .writer]).map
          (fun tasks =>
            (tasks.connection.poisoned, tasks.waitsInVain .writer,
              tasks.released)) = some (true, true, false) ∧
      (execute step {}
          [.act (.reserve 1 "a"), .act (.register 1), .check, .look,
            .act .close, .act (.swap .poolClosed), .act .drain,
            .notifyShutdown, .notifyActivity, .wait .idle]).map
          (fun tasks => (tasks.connection.poisoned, tasks.waitsInVain .idle)) =
        some (true, true) := by
  decide +kernel

end ConnectionTasks

end Tinyray.Transport
