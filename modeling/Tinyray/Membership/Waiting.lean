import Tinyray.Membership.Epoch
import Tinyray.Membership.Identity
import Tinyray.Membership.Lookup

/-!
# Waiting for a pool

A caller can wait for so many members, for a member to leave or for a seat to
change hands, in a blocking loop or in an async one.  Both loops look at the
cache each time they are woken up; `Observation` is what one look finds.  A
loop that is shown a list of these returns a result, or none if it is still
waiting at the end of the list.

The two loops put their checks in a different order.
-/

namespace Tinyray

open Std Foundation

/-- What a wait returns. -/
structure WaitResult where
  status : WaitStatus
  view : Option FrozenPool
  matched : Nat
  total : Nat
  version : Nat

/-- Who has to give way, once somebody has been seen in the seat. -/
inductive ReplacementBaseline where
  | capture
  | watching (previous : Option String)

/-- What is waited for. -/
inductive WaitCondition where
  | count (filter : Value) (target : Int)
  | departure (identity : String)
  | replacement (slot : Nat) (baseline : ReplacementBaseline)

/-- `CacheWaiter` -/
structure CacheWaiter where
  pool : String
  condition : WaitCondition

/-- What one look finds: the pool, the two flags and the clock. -/
structure Observation where
  cached : Option LookupPool
  accepted : Bool
  closed : Bool
  now : Nat

/-- The member that an identity names. -/
def LookupPool.get (pool : LookupPool) (name identity : String) : Option Member :=
  match identityParts identity with
  | none => none
  | some (named, key, incarnation) =>
    if named ≠ name then none
    else
      let seated :=
        pool.view.copy.slots[key]?.bind fun ids =>
          ids.toList.findSome? fun id =>
            pool.view.copy.members[id]?.filter fun member => member.incarnation == incarnation
      match seated with
      | some member => some member
      | none =>
        pool.view.copy.members[key]?.filter fun member =>
          member.slot.isNone && member.incarnation == incarnation

namespace CacheWaiter

variable (order : HashOrder)

/-- How many members the copy has. -/
def total (cached : Option LookupPool) : Nat :=
  (cached.map fun pool => (pool.ids false).1.length).getD 0

/-- The copy's version, or zero. -/
def version (cached : Option LookupPool) : Nat :=
  (cached.map fun pool => pool.view.copy.version).getD 0

/-- A result without members. -/
def withStatus (seen : Observation) (status : WaitStatus) : WaitResult where
  status := status
  view := none
  matched := 0
  total := total seen.cached
  version := version seen.cached

/-- `CacheWaiter::observe` -/
def observe (waiter : CacheWaiter) (seen : Observation) : WaitResult × CacheWaiter :=
  let result (status : WaitStatus) (view : Option FrozenPool) (matched : Nat) : WaitResult :=
    { status, view, matched
      total := total seen.cached
      version := version seen.cached }
  match waiter.condition with
  | .count filter target =>
    let matched : Nat := (seen.cached.map fun pool => (pool.count order filter true).1).getD 0
    let ready := seen.cached.isSome && decide (target ≤ matched)
    (result (if ready then .ready else .pending)
        ((seen.cached.filter fun _ => ready).map fun pool => (pool.filtered order filter true).1)
        matched,
      waiter)
  | .departure identity =>
    let departed := seen.cached.any fun pool => (pool.get waiter.pool identity).isNone
    (result (if departed then .ready else .pending) none (if departed then 0 else 1), waiter)
  | .replacement slot baseline =>
    match seen.cached with
    | none => (result .pending none 0, waiter)
    | some pool =>
      let current := pool.slot slot false
      match baseline with
      | .capture =>
        (result .pending none (if current.isSome then 1 else 0),
          { waiter with
            condition := .replacement slot (.watching (current.map (memberIdentity waiter.pool))) })
      | .watching previous =>
        let replacement :=
          current.filter fun member =>
            previous.all fun identity => !identityMatches waiter.pool member identity
        (result (if replacement.isSome then .ready else .pending)
            (replacement.map fun _ => (pool.frozen false).1)
            (if replacement.isSome then 1 else 0),
          waiter)

/-- One look of the async loop. -/
def check (waiter : CacheWaiter) (initial : Bool) (seen : Observation) : WaitResult × CacheWaiter :=
  if seen.closed then (withStatus seen .closed, waiter)
  else if !initial && !seen.accepted then (withStatus seen .fenced, waiter)
  else
    let observed := waiter.observe order seen
    if observed.1.status = .ready then observed
    else if initial && !seen.accepted then (withStatus seen .fenced, observed.2)
    else observed

/-- How one round of a loop ends. -/
inductive Round where
  | returned (result : WaitResult)
  | waiting (waiter : CacheWaiter)

/-- The deadline has passed. -/
def late (deadline : Option Nat) (seen : Observation) : Bool :=
  deadline.any fun deadline => decide (deadline ≤ seen.now)

/-- One round of `wait`. -/
def waitRound (deadline : Option Nat) (initial : Bool)
    (waiter : CacheWaiter) (seen : Observation) : Round :=
  if seen.closed then .returned (withStatus seen .closed)
  else if initial then
    let observed := waiter.observe order seen
    if observed.1.status = .ready then .returned observed.1
    else if !seen.accepted then .returned (withStatus seen .fenced)
    else if late deadline seen then .returned (withStatus seen .timeout)
    else .waiting observed.2
  else if !seen.accepted then .returned (withStatus seen .fenced)
  else if late deadline seen then .returned (withStatus seen .timeout)
  else
    let observed := waiter.observe order seen
    if observed.1.status = .ready then .returned observed.1
    else if late deadline seen then .returned (withStatus seen .timeout)
    else .waiting observed.2

/--
One round of `wait_async`.  Its timer ends the wait without another look, so
a round that starts late ends with a timeout whether the timer or a
notification has woken it up.
-/
def waitAsyncRound (deadline : Option Nat) (initial : Bool)
    (waiter : CacheWaiter) (seen : Observation) : Round :=
  if !initial && late deadline seen then .returned (withStatus seen .timeout)
  else
    let checked := waiter.check order initial seen
    if checked.1.status ≠ .pending then .returned checked.1
    else if late deadline seen then .returned (withStatus seen .timeout)
    else .waiting checked.2

/-- Round after round, until one returns. -/
def rounds (round : Bool → CacheWaiter → Observation → Round) :
    Bool → CacheWaiter → List Observation → Option WaitResult
  | _, _, [] => none
  | initial, waiter, seen :: later =>
    match round initial waiter seen with
    | .returned result => some result
    | .waiting next => rounds round false next later

/-- `CacheWaiter::wait` -/
def wait (waiter : CacheWaiter) (started : Nat) (timeout : Option Nat)
    (initial : Bool) (observations : List Observation) : Option WaitResult :=
  rounds (waitRound order (timeout.map (started + ·))) initial waiter observations

/-- `CacheWaiter::wait_async` -/
def waitAsync (waiter : CacheWaiter) (started : Nat)
    (timeout : Option Nat) (initial : Bool) (observations : List Observation) :
    Option WaitResult :=
  rounds (waitAsyncRound order (timeout.map (started + ·))) initial waiter observations

/-! ## Where the loops agree -/

/-- A look never ends in failure. -/
theorem observe_status (waiter : CacheWaiter) (seen : Observation) :
    (waiter.observe order seen).1.status = .ready ∨
      (waiter.observe order seen).1.status = .pending := by
  unfold observe
  cases waiter.condition with
  | count filter target | departure identity =>
    simp only
    split
    · exact .inl rfl
    · exact .inr rfl
  | replacement slot baseline =>
    cases seen.cached with
    | none => exact .inr rfl
    | some pool =>
      cases baseline with
      | capture => exact .inr rfl
      | watching previous =>
        simp only
        split
        · exact .inl rfl
        · exact .inr rfl

variable {order}

/-- Late rounds see nothing else that ends them. -/
def Prompt (deadline : Option Nat) (initial : Bool) (seen : Observation) : Prop :=
  initial = false → late deadline seen = true → seen.accepted = true ∧ seen.closed = false

/-- When a round of both loops agrees. -/
theorem waitRound_eq_iff (deadline : Option Nat) (initial : Bool)
    (waiter : CacheWaiter) (seen : Observation) :
    waitRound order deadline initial waiter seen =
        waitAsyncRound order deadline initial waiter seen ↔
      Prompt deadline initial seen := by
  have status := waiter.observe_status order seen
  unfold waitRound waitAsyncRound check Prompt
  cases initial <;> cases lateness : late deadline seen <;>
    cases seen.closed <;> cases seen.accepted <;>
    rcases status with status | status <;>
    simp [status, withStatus]

variable {deadline : Option Nat} {initial : Bool} {waiter : CacheWaiter}
  {seen : Observation}

/-- Otherwise the loops end differently. -/
theorem statuses_differ_of_not_prompt
    (tardy : ¬Prompt deadline initial seen) :
    ∃ blocking async,
      waitRound order deadline initial waiter seen = .returned blocking ∧
        waitAsyncRound order deadline initial waiter seen = .returned async ∧
        blocking.status ≠ async.status := by
  unfold Prompt at tardy
  unfold waitRound waitAsyncRound
  cases initial with
  | true => simp at tardy
  | false =>
    cases lateness : late deadline seen with
    | false => simp [lateness] at tardy
    | true =>
      refine
        ⟨withStatus seen (if seen.closed then .closed else .fenced),
          withStatus seen .timeout, ?_, by simp, ?_⟩
      · cases closed : seen.closed <;> cases accepted : seen.accepted <;>
          simp_all
      · unfold withStatus
        split <;> simp

/-- A look that leaves the waiter waiting. -/
structure Undecided (order : HashOrder) (deadline : Option Nat)
    (waiter : CacheWaiter) (seen : Observation) : Prop where
  unclosed : seen.closed = false
  accepted : seen.accepted = true
  early : late deadline seen = false
  pending : (waiter.observe order seen).1.status = .pending

theorem waitRound_of_undecided
    (undecided : Undecided order deadline waiter seen) (initial : Bool) :
    waitRound order deadline initial waiter seen = .waiting (waiter.observe order seen).2 := by
  unfold waitRound
  cases initial <;>
    simp [undecided.unclosed, undecided.accepted, undecided.early, undecided.pending]

/-- A loop that goes on has not decided. -/
theorem undecided_of_waitRound
    {next : CacheWaiter} (waits : waitRound order deadline initial waiter seen = .waiting next) :
    Undecided order deadline waiter seen := by
  unfold waitRound at waits
  rcases waiter.observe_status order seen with ready | pending
  · simp only [ready, if_true] at waits
    split_ifs at waits
  · cases closed : seen.closed with
    | true => simp [closed] at waits
    | false =>
      cases accepted : seen.accepted with
      | false =>
        cases initial <;> simp [closed, accepted, pending] at waits
      | true =>
        cases lateness : late deadline seen with
        | true =>
          cases initial <;>
            simp [closed, accepted, lateness, pending] at waits
        | false => exact ⟨closed, accepted, lateness, pending⟩

/-- Every look that the loops get to meets the condition. -/
def AllPrompt (order : HashOrder) (deadline : Option Nat) :
    Bool → CacheWaiter → List Observation → Prop
  | _, _, [] => True
  | initial, waiter, seen :: later =>
    Prompt deadline initial seen ∧
      (Undecided order deadline waiter seen →
        AllPrompt order deadline false (waiter.observe order seen).2 later)

/-- Both loops agree if all rounds do. -/
theorem rounds_status_eq_iff
    {observations : List Observation} :
    (rounds (waitRound order deadline) initial waiter observations).map WaitResult.status =
        (rounds (waitAsyncRound order deadline) initial waiter observations).map WaitResult.status ↔
      AllPrompt order deadline initial waiter observations := by
  induction observations generalizing initial waiter with
  | nil => exact iff_of_true rfl trivial
  | cons seen later hypothesis =>
    rw [rounds, rounds, AllPrompt]
    by_cases prompt : Prompt deadline initial seen
    · rw [← (waitRound_eq_iff deadline initial waiter seen).2 prompt]
      cases round : waitRound order deadline initial waiter seen with
      | returned result =>
        refine iff_of_true rfl ⟨prompt, fun undecided => ?_⟩
        rw [waitRound_of_undecided undecided initial] at round
        cases round
      | waiting next =>
        have undecided := undecided_of_waitRound round
        rw [waitRound_of_undecided undecided initial] at round
        cases round
        exact hypothesis.trans ⟨fun rest => ⟨prompt, fun _ => rest⟩, fun rest => rest.2 undecided⟩
    · rcases statuses_differ_of_not_prompt prompt with
        ⟨blocking, async, blockingRound, asyncRound, differ⟩
      refine iff_of_false ?_ fun both => prompt both.1
      rw [blockingRound, asyncRound]
      exact fun same => differ (Option.some.inj same)

/--
The two loops return the same status exactly if no look that they get to,
other than the first one, is late for a waiter that is closed or a member that
is fenced.
-/
theorem waits_agree
    (order : HashOrder) (waiter : CacheWaiter) (started : Nat)
    (timeout : Option Nat) (initial : Bool) (observations : List Observation) :
    (waiter.wait order started timeout initial observations).map WaitResult.status =
        (waiter.waitAsync order started timeout initial observations).map WaitResult.status ↔
      AllPrompt order (timeout.map (started + ·)) initial waiter
        observations :=
  rounds_status_eq_iff

/-- A wait for so many members. -/
private def waitingFor (target : Int) : CacheWaiter := ⟨"env", .count .null target⟩

/-- Fenced while it waits: one loop says so, the other one times out. -/
theorem waits_differ_when_fenced_late :
    ((waitingFor 1).wait .insertion 0 (some 100) true
          [⟨none, true, false, 0⟩, ⟨none, false, false, 100⟩]).map
          WaitResult.status = some .fenced ∧
      ((waitingFor 1).waitAsync .insertion 0 (some 100) true
          [⟨none, true, false, 0⟩, ⟨none, false, false, 100⟩]).map
          WaitResult.status = some .timeout := by
  decide

end CacheWaiter

end Tinyray
