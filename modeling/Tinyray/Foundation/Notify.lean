import Mathlib.Logic.Function.Basic

/-!
# Waiting to be notified

A `Notify` without permits: `notifyWaiters` reaches the waiters that are there
when it is called, and leaves nothing for those that come later.
-/

namespace Tinyray.Foundation

/-- The waiters that were created, and whether each has been notified. -/
structure Notify (ι : Type*) where
  waiters : ι → Option Bool := fun _ => none

namespace Notify

variable {ι : Type*}

/-- The task has a waiter. -/
def created (notify : Notify ι) (task : ι) : Bool := (notify.waiters task).isSome

/-- The waiter was notified. -/
def heard (notify : Notify ι) (task : ι) : Bool := (notify.waiters task).getD false

/-- `notify_waiters` -/
def notifyWaiters (notify : Notify ι) : Notify ι where
  waiters := fun task => (notify.waiters task).map fun _ => true

@[simp]
theorem notifyWaiters_created (notify : Notify ι) (task : ι) :
    notify.notifyWaiters.created task = notify.created task := by
  simp [created, notifyWaiters]

/-- Every waiter that is there hears. -/
@[simp]
theorem notifyWaiters_heard (notify : Notify ι) (task : ι) :
    notify.notifyWaiters.heard task = notify.created task := by
  unfold heard created notifyWaiters
  cases waiter : notify.waiters task <;> simp [waiter]

variable [DecidableEq ι]

/-- A new waiter, which has heard nothing of what was before. -/
def notified (notify : Notify ι) (task : ι) : Notify ι where
  waiters := Function.update notify.waiters task (some false)

/-- The waiter is dropped. -/
def forget (notify : Notify ι) (task : ι) : Notify ι where
  waiters := Function.update notify.waiters task none

@[simp]
theorem notified_created_self (notify : Notify ι) (task : ι) :
    (notify.notified task).created task = true := by
  simp [created, notified]

variable {notify : Notify ι} {task other : ι}

@[simp]
theorem notified_created_of_ne (apart : other ≠ task) :
    (notify.notified task).created other = notify.created other := by
  simp [created, notified, apart]

@[simp]
theorem notified_heard_of_ne (apart : other ≠ task) :
    (notify.notified task).heard other = notify.heard other := by
  simp [heard, notified, apart]

@[simp]
theorem forget_created_of_ne (apart : other ≠ task) :
    (notify.forget task).created other = notify.created other := by
  simp [created, forget, apart]

@[simp]
theorem forget_heard_of_ne (apart : other ≠ task) :
    (notify.forget task).heard other = notify.heard other := by
  simp [heard, forget, apart]

end Notify

end Tinyray.Foundation
