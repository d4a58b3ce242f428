import Tinyray.Foundation.MapFold
import Tinyray.Foundation.Notify
import Tinyray.Foundation.Run

/-!
# Cancellation tokens

A handler can wait until its caller is gone.  `cancelled` looks at the flag,
and if it is not set creates a waiter; `cancel` sets the flag, and the call
that was first to do so notifies the waiters.

A step is one access to the token: between any two of them other tasks may
run.  A waiting task may be dropped at any time.
-/

namespace Tinyray.Service

open Std Foundation

/-- How far a call of `cancelled` is. -/
inductive CancelledCall where
  /-- It will look at the flag. -/
  | entered
  /-- The flag was not set; the waiter is still to be created. -/
  | passed
  | waiting
deriving DecidableEq

/-- `CancellationToken` -/
structure CancellationToken where
  cancelled : Bool := false
  notify : Notify Nat := {}
  /-- The call of `cancel` that has set the flag will notify the waiters. -/
  notifying : Bool := false
  calls : ExtTreeMap Nat CancelledCall := ∅

/-- What happens to a token. -/
inductive CancellationEvent where
  | enter (task : Nat)
  | check (task : Nat)
  | wait (task : Nat)
  | resume (task : Nat)
  | drop (task : Nat)
  | cancel
  | notifyWaiters

namespace CancellationToken

/-- `is_cancelled` -/
def isCancelled (token : CancellationToken) : Bool := token.cancelled

/-- One step of a token. -/
def step (token : CancellationToken) : CancellationEvent → Option CancellationToken
  | .enter task =>
    if token.calls.contains task then none
    else some { token with calls := token.calls.insert task .entered }
  | .check task =>
    if token.calls[task]? = some .entered then
      some
        { token with
          calls :=
            if token.isCancelled then token.calls.erase task
            else token.calls.insert task .passed }
    else none
  | .wait task =>
    if token.calls[task]? = some .passed then
      some
        { token with
          notify := token.notify.notified task
          calls := token.calls.insert task .waiting }
    else none
  | .resume task =>
    if token.calls[task]? = some .waiting ∧ token.notify.heard task then
      some
        { token with
          notify := token.notify.forget task
          calls := token.calls.erase task }
    else none
  | .drop task =>
    some
      { token with
        notify := token.notify.forget task
        calls := token.calls.erase task }
  | .cancel =>
    if token.cancelled then some token
    else some { token with cancelled := true, notifying := true }
  | .notifyWaiters =>
    if token.notifying then
      some
        { token with
          notify := token.notify.notifyWaiters
          notifying := false }
    else none

/-- The task waits, and nobody is going to notify it. -/
def stranded (token : CancellationToken) (task : Nat) : Bool :=
  token.calls[task]? == some .waiting && !token.notify.heard task && !token.notifying

/-- The waiters are notified when no task is on its way to create one. -/
def attended (token : CancellationToken) : CancellationEvent → Bool
  | .notifyWaiters => token.calls.toList.all fun entry => entry.2 != .passed
  | _ => true

/-! ## Steps -/

variable {token next : CancellationToken}

/-- Every waiting call has a waiter, and after a cancellation has heard. -/
structure Reached (token : CancellationToken) : Prop where
  created : ∀ task, token.calls[task]? = some .waiting → token.notify.created task = true
  heard :
    token.cancelled = true → token.notifying = false →
      ∀ task, token.calls[task]? ≠ some .passed ∧
        (token.calls[task]? = some .waiting → token.notify.heard task = true)

theorem reached_new : Reached {} where
  created := by simp
  heard := by simp

/-- A call that moves on. -/
theorem Reached.move
    {task : Nat} {call : CancelledCall} (reached : token.Reached) (waits : call ≠ .waiting)
    (passes : call = .passed → token.cancelled = false) :
    Reached { token with calls := token.calls.insert task call } where
  created := by
    intro other found
    rcases getElem?_insert_cases found with ⟨_, same⟩ | ⟨_, found⟩
    · exact absurd same waits
    · exact reached.created other found
  heard := by
    intro cancelled silent other
    have before := reached.heard cancelled silent other
    constructor
    · intro found
      rcases getElem?_insert_cases found with ⟨_, same⟩ | ⟨_, found⟩
      · rw [passes same] at cancelled
        cases cancelled
      · exact before.1 found
    · intro found
      rcases getElem?_insert_cases found with ⟨_, same⟩ | ⟨_, found⟩
      · exact absurd same waits
      · exact before.2 found

/-- A call that leaves. -/
theorem Reached.leave
    {task : Nat} {notify : Notify Nat} (reached : token.Reached)
    (created : ∀ other, other ≠ task → notify.created other = token.notify.created other)
    (heard : ∀ other, other ≠ task → notify.heard other = token.notify.heard other) :
    Reached
      { token with notify := notify, calls := token.calls.erase task } where
  created := by
    intro other found
    rcases getElem?_erase_cases found with ⟨apart, found⟩
    rw [created other (Ne.symm apart)]
    exact reached.created other found
  heard := by
    intro cancelled silent other
    have before := reached.heard cancelled silent other
    constructor
    · intro found
      exact before.1 (getElem?_erase_cases found).2
    · intro found
      rcases getElem?_erase_cases found with ⟨apart, found⟩
      rw [heard other (Ne.symm apart)]
      exact before.2 found

theorem Reached.forget
    (task : Nat) (reached : token.Reached) :
    Reached
      { token with
        notify := token.notify.forget task
        calls := token.calls.erase task } :=
  reached.leave (fun _ => Notify.forget_created_of_ne) (fun _ => Notify.forget_heard_of_ne)

/-- A call that begins to wait. -/
theorem Reached.wait
    {task : Nat} (reached : token.Reached) (passed : token.calls[task]? = some .passed) :
    Reached
      { token with
        notify := token.notify.notified task
        calls := token.calls.insert task .waiting } where
  created := by
    intro other found
    rcases getElem?_insert_cases found with ⟨rfl, _⟩ | ⟨apart, found⟩
    · exact Notify.notified_created_self _ _
    · rw [Notify.notified_created_of_ne (Ne.symm apart)]
      exact reached.created other found
  heard := by
    intro cancelled silent
    exact absurd passed (reached.heard cancelled silent task).1

/-- Everybody who waits is notified. -/
theorem Reached.notifyWaiters
    (reached : token.Reached) (met : token.attended .notifyWaiters = true) :
    Reached
      { token with
        notify := token.notify.notifyWaiters
        notifying := false } where
  created := by
    intro task found
    rw [Notify.notifyWaiters_created]
    exact reached.created task found
  heard := by
    intro _ _ task
    simp only [attended, List.all_eq_true, bne_iff_ne, ne_eq] at met
    constructor
    · intro found
      exact met (task, .passed) (ExtTreeMap.mem_toList_iff_getElem?_eq_some.mpr found) rfl
    · intro found
      rw [Notify.notifyWaiters_heard]
      exact reached.created task found

/-- One step keeps them reached. -/
theorem step_reached
    {event : CancellationEvent} (stepped : token.step event = some next)
    (met : token.attended event = true) (reached : token.Reached) :
    next.Reached := by
  cases event with
  | enter task =>
    simp only [step] at stepped
    split_ifs at stepped
    cases stepped
    exact reached.move (by simp) (by simp)
  | check task =>
    rw [step] at stepped
    split at stepped
    · cases stepped
      cases cancelled : token.cancelled with
      | true =>
        simp only [isCancelled, cancelled, if_true]
        rw [← cancelled]
        exact reached.leave (fun _ _ => rfl) (fun _ _ => rfl)
      | false =>
        simp only [isCancelled, cancelled, Bool.false_eq_true, if_false]
        rw [← cancelled]
        exact reached.move (by simp) (fun _ => cancelled)
    · cases stepped
  | wait task =>
    simp only [step] at stepped
    split_ifs at stepped with passed
    cases stepped
    exact reached.wait passed
  | resume task =>
    simp only [step] at stepped
    split_ifs at stepped
    cases stepped
    exact reached.forget task
  | drop task =>
    cases stepped
    exact reached.forget task
  | cancel =>
    simp only [step] at stepped
    split_ifs at stepped with cancelled
    · cases stepped
      exact reached
    · cases stepped
      exact ⟨reached.created, by simp⟩
  | notifyWaiters =>
    simp only [step] at stepped
    split_ifs at stepped
    cases stepped
    exact reached.notifyWaiters met

end CancellationToken

/--
If the waiters are notified only when no task stands between its look at the
flag and its waiter, no task is left waiting after a cancellation.
-/
theorem cancellation_reaches_every_waiter
    (events : List CancellationEvent) (final : CancellationToken)
    (ran : execute CancellationToken.step {} events = some final)
    (met : obeys CancellationToken.step CancellationToken.attended {} events = true)
    (cancelled : final.isCancelled = true) (task : Nat) :
    final.stranded task = false := by
  have reached : final.Reached :=
    execute_invariant CancellationToken.step_reached ran met CancellationToken.reached_new
  by_contra left
  simp only [CancellationToken.stranded, Bool.not_eq_false,
    Bool.and_eq_true, beq_iff_eq, Bool.not_eq_true'] at left
  rcases left with ⟨⟨waiting, unheard⟩, silent⟩
  have heard := (reached.heard cancelled silent task).2 waiting
  rw [unheard] at heard
  cases heard

/-- One task waits, another looks at the flag after it was set. -/
theorem cancellation_reaches_two_tasks :
    ∃ final : CancellationToken,
      execute CancellationToken.step {}
          [.enter 0, .check 0, .wait 0, .enter 1, .cancel, .check 1, .notifyWaiters] = some final ∧
        final.isCancelled = true ∧ final.calls[(0 : Nat)]? = some .waiting ∧
        final.stranded 0 = false := by
  refine ⟨Option.get _ ?_, (Option.some_get _).symm, ?_, ?_, ?_⟩
  · decide +kernel
  · decide +kernel
  · decide +kernel
  · exact
      cancellation_reaches_every_waiter _ _ (Option.some_get _).symm
        (by decide +kernel) (by decide +kernel) 0

/-- The token is cancelled between the look at the flag and the waiter. -/
theorem cancelled_before_waiter :
    (execute CancellationToken.step {}
        [.enter 0, .check 0, .cancel, .notifyWaiters, .wait 0]).map
        (fun final => (final.isCancelled, final.stranded 0)) =
      some (true, true) := by
  decide +kernel

end Tinyray.Service
