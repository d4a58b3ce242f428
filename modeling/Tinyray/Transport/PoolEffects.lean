import Tinyray.Foundation.MapFold
import Tinyray.Foundation.Run
import Tinyray.Transport.ConnectionPool

/-!
# What one step of a client can do

In a step at most one call acts, and only on its own pool; the others see no
more of it than a notification.  `Acts` lists what the acting call may do, and
`step_effect` says that the list is complete.
-/

namespace Tinyray.Transport

open Std Tinyray.Foundation

/-- The call executes `connect` and has yet to clear the flag. -/
def Stage.attempting : Stage → Bool
  | .entered | .resolving | .choosing .. | .dialing .. => true
  | _ => false

/-- The attempt has ended. -/
def Stage.finished : Stage → Bool
  | .finishing .. => true
  | _ => false

/-- The call has the attempt. -/
def Stage.connecting : Stage → Bool
  | .claiming _ => true
  | stage => stage.attempting || stage.finished

/-- The call waits, and nobody has notified it. -/
def Stage.unnotified (stage : Stage) : Bool := stage = .waiting false

/-- A call moves on and leaves its pool alone. -/
structure Stage.Passes (before after : Stage) : Prop where
  attempting : after.attempting = before.attempting
  unnotified : after.unnotified = false
  finished : before.finished = false

namespace ClientInner

/-! ## Calls and pools -/

/-- The pool is connecting. -/
def Flagged (allocated : ExtTreeMap Nat ConnectionPool)
    (number : Nat) : Prop :=
  ∃ pool, allocated[number]? = some pool ∧ pool.connecting = true

/-- Some call is at such a stage. -/
def Has (calls : ExtTreeMap Nat PoolCall) (number : Nat)
    (kind : Stage → Bool) : Prop :=
  ∃ (call : Nat) (current : PoolCall),
    calls[call]? = some current ∧ current.pool = number ∧ kind current.stage = true

@[simp]
theorem notify_pool (current : PoolCall) (number : Nat) :
    (current.notify number).pool = current.pool := by
  unfold PoolCall.notify
  split <;> rfl

@[simp]
theorem notify_attempting (current : PoolCall) (number : Nat) :
    (current.notify number).stage.attempting = current.stage.attempting := by
  unfold PoolCall.notify
  split
  · cases current.stage <;> rfl
  · rfl

@[simp]
theorem notify_finished (current : PoolCall) (number : Nat) :
    (current.notify number).stage.finished = current.stage.finished := by
  unfold PoolCall.notify
  split
  · cases current.stage <;> rfl
  · rfl

theorem notify_unnotified
    {current : PoolCall} {number : Nat}
    (unnotified : (current.notify number).stage.unnotified = true) :
    current.pool ≠ number ∧ current.stage.unnotified = true := by
  unfold PoolCall.notify at unnotified
  split_ifs at unnotified with here
  · cases stage : current.stage <;>
      simp [stage, Stage.notify, Stage.unnotified] at unnotified
  · exact ⟨here, unnotified⟩

theorem getElem?_notifyWaiters (client : ClientInner) (number call : Nat) :
    (client.notifyWaiters number).calls[call]? =
      client.calls[call]?.map fun current => current.notify number :=
  ExtTreeMap.getElem?_map

/-- What a call may see of the steps of others. -/
structure Kept (before after : PoolCall) : Prop where
  pool : after.pool = before.pool
  attempting : after.stage.attempting = before.stage.attempting
  finished : after.stage.finished = before.stage.finished
  unnotified : after.stage.unnotified = true → before.stage.unnotified = true

theorem Kept.refl (current : PoolCall) : Kept current current := ⟨rfl, rfl, rfl, id⟩

theorem kept_notify (current : PoolCall) (number : Nat) : Kept current (current.notify number) :=
  ⟨notify_pool _ _, notify_attempting _ _, notify_finished _ _,
    fun unnotified => (notify_unnotified unnotified).2⟩

/-- The call did not act. -/
def Unmoved (client next : ClientInner) (call : Nat) : Prop :=
  Option.Rel Kept client.calls[call]? next.calls[call]?

variable {client next : ClientInner} {call : Nat} {action : ClientAction}

theorem unmoved_of_eq
    (same : next.calls[call]? = client.calls[call]?) :
    Unmoved client next call := by
  unfold Unmoved
  rw [same]
  cases client.calls[call]? with
  | none => exact .none
  | some current => exact .some (.refl current)

theorem unmoved_notifyWaiters (client : ClientInner) (number call : Nat) :
    Unmoved client (client.notifyWaiters number) call := by
  unfold Unmoved
  rw [getElem?_notifyWaiters]
  cases client.calls[call]? with
  | none => exact .none
  | some current => exact .some (kept_notify current number)

theorem Unmoved.before
    {after : PoolCall} (unmoved : Unmoved client next call)
    (present : next.calls[call]? = some after) :
    ∃ before, client.calls[call]? = some before ∧ Kept before after := by
  unfold Unmoved at unmoved
  rw [present] at unmoved
  generalize client.calls[call]? = before at unmoved ⊢
  cases unmoved with
  | some kept => exact ⟨_, rfl, kept⟩

theorem Unmoved.after
    {before : PoolCall} (unmoved : Unmoved client next call)
    (present : client.calls[call]? = some before) :
    ∃ after, next.calls[call]? = some after ∧ Kept before after := by
  unfold Unmoved at unmoved
  rw [present] at unmoved
  generalize next.calls[call]? = after at unmoved ⊢
  cases unmoved with
  | some kept => exact ⟨_, rfl, kept⟩

/-! ## What one step can do -/

/-- What `reserve` decides, given the flag and the connections in use. -/
inductive Decides (notified connecting : Bool) (inUse : Nat) : Bool → Stage → Prop where
  | create :
      connecting = false → inUse < maxConnectionsPerEndpoint →
        Decides notified connecting inUse true .entered
  | wait : connecting = true → Decides notified connecting inUse true (.waiting notified)
  | settle {stage : Stage} :
      stage.connecting = false → stage.unnotified = false →
        Decides notified connecting inUse connecting stage

/-- How the pools change when a call starts. -/
inductive Finds (client : ClientInner) (call : Nat) : ExtTreeMap Nat ConnectionPool → Prop where
  | used {number tick : Nat} :
      Finds client call
        (client.allocated.modify number fun pool =>
          { pool with lastUsed := tick })
  | made {endpoint : String} {tick : Nat} :
      Finds client call
        (client.allocated.insert call
          { endpoint := endpoint, lastUsed := tick })

/-- What the acting call does to itself and to its pool. -/
inductive Acts (client next : ClientInner) (call : Nat) : ClientAction → Prop where
  | start {action : ClientAction} {entry : PoolCall} :
      client.calls[call]? = none → next.calls[call]? = some entry → entry.stage.connecting = false →
        entry.stage.unnotified = false → Finds client call next.allocated →
        Acts client next call action
  | pass {action : ClientAction} {current : PoolCall} {stage : Stage} :
      client.calls[call]? = some current →
        next.calls[call]? = some { current with stage := stage } → current.stage.Passes stage →
        next.allocated = client.allocated → Acts client next call action
  | look {order kept : List Nat} {current : PoolCall}
      {notified flag : Bool} {stage : Stage} {pool : ConnectionPool} :
      client.calls[call]? = some current →
        next.calls[call]? = some { current with stage := stage } →
        current.stage = .looking notified → client.allocated[current.pool]? = some pool →
        kept.length ≤ pool.connections.length →
        Decides notified pool.connecting kept.length flag stage →
        next.allocated =
          client.allocated.insert current.pool
            { pool with connections := kept, connecting := flag } →
        Acts client next call (.look call order)
  | finish {action : ClientAction} {current : PoolCall}
      {admission : Bool} {result : Except String Nat} :
      client.calls[call]? = some current →
        next.calls[call]? = some { current with stage := .finishing admission result } →
        current.stage.attempting = true →
        next.allocated =
          (client.allocated.modify current.pool fun pool =>
            { pool with
              connecting := false
              connections := pool.connections ++ result.toOption.toList }) →
        Acts client next call action
  | notify {action : ClientAction} {current : PoolCall} {stage : Stage} :
      client.calls[call]? = some current →
        next.calls[call]? = some { current with stage := stage } →
        stage.attempting = false → stage.unnotified = false → current.stage.finished = true →
        next.allocated = client.allocated →
        -- whoever waits is notified
        ¬ Has next.calls current.pool Stage.unnotified → Acts client next call action
  | drop {current : PoolCall} :
      client.calls[call]? = some current →
        next.calls[call]? = some { current with stage := .dropped } →
        current.stage.finished = false → next.allocated = client.allocated →
        Acts client next call (.drop call)

/-- What one step does, whoever acts. -/
inductive Effect (client next : ClientInner) : ClientAction → Prop where
  | rest {action : ClientAction} :
      (∀ call, Unmoved client next call) → next.allocated = client.allocated →
        Effect client next action
  | act {action : ClientAction} (call : Nat) :
      (∀ other, other ≠ call → Unmoved client next other) → Acts client next call action →
        Effect client next action

variable {client next : ClientInner}

theorem pool_finds (client : ClientInner) (call : Nat) (endpoint : String) :
    Finds client call (client.pool call endpoint).1.allocated ∧
      (client.pool call endpoint).1.calls = client.calls := by
  unfold pool
  cases client.pools[endpoint]? with
  | some number => exact ⟨.used, rfl⟩
  | none => exact ⟨.made, rfl⟩

theorem tryReserve_some
    {number : Nat} {current : PoolCall}
    (reserved : client.tryReserve call current number = some next) :
    next.calls =
        client.calls.insert call
          { current with stage := .reserved number } ∧
      next.allocated = client.allocated := by
  simp only [tryReserve, bind_some_iff, Option.some.injEq] at reserved
  rcases reserved with ⟨opened, found, connection, stepped, rfl⟩
  exact ⟨rfl, rfl⟩

theorem scale_room {order : List Nat} (scale : client.scale order = true) :
    order.length < maxConnectionsPerEndpoint := by
  cases order with
  | nil => decide
  | cons first rest =>
    simp only [ClientInner.scale, Bool.and_eq_true, decide_eq_true_eq] at scale
    exact scale.2

/-- What a reservation comes to. -/
theorem reserve_decides
    (client : ClientInner) (call : Nat) (current : PoolCall)
    (notified : Bool) (pool : ConnectionPool) {order : List Nat}
    (listed : order.length = pool.connections.length) :
    ∃ flag stage,
      Decides notified pool.connecting pool.connections.length flag stage ∧
        (client.reserve call current notified pool order).calls =
          client.calls.insert call { current with stage := stage } ∧
        (client.reserve call current notified pool order).allocated =
          client.allocated.insert current.pool
            { pool with connecting := flag } := by
  have waits :
      pool.connecting = true →
        client.allocated.insert current.pool pool =
          client.allocated.insert current.pool
            { pool with connecting := true } := by
    intro connecting
    rw [← connecting]
  unfold reserve
  by_cases scales : client.scale order = true
  · have room := listed ▸ scale_room scales
    cases connecting : pool.connecting with
    | false =>
      rw [if_pos ⟨scales, rfl⟩]
      exact ⟨true, .entered, .create rfl room, rfl, rfl⟩
    | true =>
      simp only [scales, Bool.true_eq_false, and_false, if_false, if_true]
      exact ⟨true, _, .wait rfl, rfl, waits connecting⟩
  · rw [if_neg fun both => scales both.1, if_neg scales]
    split
    · rename_i reserved found
      rcases List.exists_of_findSome?_eq_some found with ⟨number, _, reserved⟩
      rcases tryReserve_some reserved with ⟨calls, allocated⟩
      exact ⟨_, _, .settle rfl rfl, calls, allocated⟩
    · split_ifs with creates connecting
      · exact ⟨true, .entered, .create creates.2 (listed ▸ creates.1), rfl, rfl⟩
      · exact ⟨true, _, .wait connecting, rfl, waits connecting⟩
      · exact ⟨_, _, .settle rfl rfl, rfl, rfl⟩

theorem unmoved_insert
    {entry : PoolCall} (calls : next.calls = client.calls.insert call entry) :
    ∀ other, other ≠ call → Unmoved client next other := by
  intro other different
  apply unmoved_of_eq
  rw [calls, getElem?_insert_ne different.symm]

theorem rest_effect
    (calls : next.calls = client.calls) (allocated : next.allocated = client.allocated) :
    Effect client next action :=
  .rest (fun _ => unmoved_of_eq (by rw [calls])) allocated

section Moved

variable {action : ClientAction} {call : Nat} {current : PoolCall}
  {stage : Stage} (found : client.calls[call]? = some current)

include found

theorem pass_effect
    (passes : current.stage.Passes stage)
    (calls : next.calls = client.calls.insert call { current with stage := stage })
    (allocated : next.allocated = client.allocated) :
    Effect client next action := by
  refine .act _ (unmoved_insert calls) (.pass found ?_ passes allocated)
  rw [calls, ExtTreeMap.getElem?_insert_self]

theorem finish_effect
    {admission : Bool} {result : Except String Nat}
    (attempting : current.stage.attempting = true)
    (calls : next.calls = (client.finishConnect call current admission result).calls)
    (allocated : next.allocated = (client.finishConnect call current admission result).allocated) :
    Effect client next action := by
  have moved : next.calls[call]? = some { current with stage := .finishing admission result } := by
    rw [calls]
    exact ExtTreeMap.getElem?_insert_self
  exact .act _ (unmoved_insert calls) (.finish found moved attempting allocated)

theorem drop_effect
    (unfinished : current.stage.finished = false)
    (calls : next.calls = client.calls.insert call { current with stage := .dropped })
    (allocated : next.allocated = client.allocated) :
    Effect client next (.drop call) := by
  refine .act _ (unmoved_insert calls) (.drop found ?_ unfinished allocated)
  rw [calls, ExtTreeMap.getElem?_insert_self]

/-- Finishing notifies all. -/
theorem notify_effect
    (finished : current.stage.finished = true) (idle : stage.attempting = false)
    (unnotified : stage.unnotified = false)
    (calls :
      next.calls =
        (client.notifyWaiters current.pool).calls.insert call
          { current with stage := stage })
    (allocated : next.allocated = client.allocated) :
    Effect client next action := by
  refine .act _ ?_ (.notify found ?_ idle unnotified finished allocated ?_)
  · intro other different
    have same : next.calls[other]? = (client.notifyWaiters current.pool).calls[other]? := by
      rw [calls, getElem?_insert_ne different.symm]
    unfold Unmoved
    rw [same]
    exact unmoved_notifyWaiters client current.pool other
  · rw [calls, ExtTreeMap.getElem?_insert_self]
  · rintro ⟨other, waiting, present, here, waits⟩
    rw [calls] at present
    rcases getElem?_insert_cases present with ⟨_, rfl⟩ | ⟨_, present⟩
    · rw [unnotified] at waits
      cases waits
    · rw [getElem?_notifyWaiters, Option.map_eq_some_iff] at present
      rcases present with ⟨before, _, rfl⟩
      rw [notify_pool] at here
      exact (notify_unnotified waits).1 here

end Moved

/-- The effect up to a reservation. -/
theorem reserveStep_effect (stepped : client.reserveStep action = some next) :
    Effect client next action := by
  cases action with
  | start call endpoint requestId admitted =>
    simp only [reserveStep] at stepped
    by_cases known : client.calls.contains call = true
    · rw [if_pos known] at stepped
      cases stepped
    · rw [if_neg known] at stepped
      cases stepped
      have fresh : client.calls[call]? = none := by
        apply ExtTreeMap.getElem?_eq_none
        rw [← ExtTreeMap.contains_iff_mem]
        exact known
      rcases pool_finds client call endpoint with ⟨finds, calls⟩
      refine
        .act _ (unmoved_insert (by rw [setCall, calls]))
          (.start fresh ExtTreeMap.getElem?_insert_self ?_ ?_ finds)
      · cases admitted <;> rfl
      · cases admitted <;> rfl
  | look call order =>
    simp only [reserveStep, bind_some_iff] at stepped
    rcases stepped with ⟨current, found, pool, pooled, stepped⟩
    split at stepped
    · rename_i notified looking
      split_ifs at stepped with inOrder
      cases stepped
      simp only [sorted, Bool.and_eq_true, List.isPerm_iff] at inOrder
      rcases
        reserve_decides client call current notified
          { pool with
            connections := pool.connections.filter fun number => !client.isPoisoned number }
          inOrder.1.length_eq with
        ⟨flag, stage, decides, calls, allocated⟩
      have moved := (congrArg (·[call]?) calls).trans ExtTreeMap.getElem?_insert_self
      exact
        .act _ (unmoved_insert calls)
          (.look found moved looking pooled (List.length_filter_le _ _) decides allocated)
    · cases stepped
  | wake call | expire call =>
    simp only [reserveStep, bind_some_iff] at stepped
    rcases stepped with ⟨current, found, stepped⟩
    split at stepped
    · rename_i waiting
      cases stepped
      exact pass_effect found (waiting ▸ ⟨rfl, rfl, rfl⟩) rfl rfl
    · cases stepped
  | drop call =>
    simp only [reserveStep, bind_some_iff] at stepped
    rcases stepped with ⟨current, found, stepped⟩
    split at stepped
    · rename_i waiting
      cases stepped
      exact drop_effect found (waiting ▸ rfl) rfl rfl
    · rename_i resolving
      cases stepped
      exact drop_effect found (resolving ▸ rfl) rfl rfl
    · rename_i dialing
      cases stepped
      exact drop_effect found (dialing ▸ rfl) rfl rfl
    · cases stepped
  | _ => cases stepped

/-- The effect of an attempt. -/
theorem connectStep_effect (stepped : client.connectStep action = some next) :
    Effect client next action := by
  -- every action but these is refused, and these look up their call first
  cases action <;>
    simp only [connectStep, bind_some_iff, reduceCtorEq] at stepped
  case enter call =>
    rcases stepped with ⟨current, found, stepped⟩
    split at stepped
    · rename_i entered
      split_ifs at stepped
      · cases stepped
        exact finish_effect found (entered ▸ rfl) rfl rfl
      · cases stepped
        exact pass_effect found (entered ▸ ⟨rfl, rfl, rfl⟩) rfl rfl
    · cases stepped
  case resolve call lookup =>
    rcases stepped with ⟨current, found, stepped⟩
    split at stepped
    · rename_i resolving
      cases stepped
      exact pass_effect found (resolving ▸ ⟨rfl, rfl, rfl⟩) rfl rfl
    · rename_i resolving
      cases stepped
      exact finish_effect found (resolving ▸ rfl) rfl rfl
    · rename_i resolving
      cases stepped
      exact finish_effect found (resolving ▸ rfl) rfl rfl
    · cases stepped
  case choose call error =>
    rcases stepped with ⟨current, found, stepped⟩
    split at stepped
    · rename_i choosing
      cases stepped
      exact pass_effect found (choosing ▸ ⟨rfl, rfl, rfl⟩) rfl rfl
    · rename_i choosing
      cases stepped
      exact pass_effect found (choosing ▸ ⟨rfl, rfl, rfl⟩) rfl rfl
    · cases stepped
  case exhaust call =>
    rcases stepped with ⟨current, found, stepped⟩
    split at stepped
    · rename_i choosing
      cases stepped
      exact finish_effect found (choosing ▸ rfl) rfl rfl
    · cases stepped
  case dial call result =>
    rcases stepped with ⟨current, found, stepped⟩
    split at stepped
    · rename_i dialing
      cases stepped
      exact finish_effect found (dialing ▸ rfl) rfl rfl
    · rename_i dialing
      cases stepped
      exact finish_effect found (dialing ▸ rfl) rfl rfl
    · rename_i dialing
      cases stepped
      exact pass_effect found (dialing ▸ ⟨rfl, rfl, rfl⟩) rfl rfl
    · rename_i dialing
      cases stepped
      exact finish_effect found (dialing ▸ rfl) rfl rfl
    · cases stepped
  case notify call =>
    rcases stepped with ⟨current, found, stepped⟩
    split at stepped
    · rename_i finishing
      cases stepped
      exact notify_effect found (finishing ▸ rfl) rfl rfl rfl rfl
    · rename_i finishing
      cases stepped
      exact notify_effect found (finishing ▸ rfl) rfl rfl rfl rfl
    · cases stepped
  case claim call =>
    rcases stepped with ⟨current, found, stepped⟩
    split at stepped
    · rename_i connection claiming
      cases stepped
      cases reserved : client.tryReserve call current connection with
      | none => exact pass_effect found (claiming ▸ ⟨rfl, rfl, rfl⟩) rfl rfl
      | some reserving =>
        rcases tryReserve_some reserved with ⟨calls, allocated⟩
        exact pass_effect found (claiming ▸ ⟨rfl, rfl, rfl⟩) calls allocated
    · cases stepped

/-- The effect of other steps. -/
theorem otherStep_effect (stepped : client.otherStep action = some next) :
    Effect client next action := by
  cases action with
  | announce number =>
    cases stepped
    exact .rest (unmoved_notifyWaiters client number) rfl
  | act number action =>
    simp only [otherStep, bind_some_iff] at stepped
    rcases stepped with ⟨opened, found, stepped⟩
    split at stepped
    · cases stepped
    · rw [bind_some_iff] at stepped
      rcases stepped with ⟨connection, acted, stepped⟩
      cases stepped
      exact rest_effect rfl rfl
  | retire number =>
    simp only [otherStep, bind_some_iff] at stepped
    rcases stepped with ⟨opened, found, stepped⟩
    split_ifs at stepped
    cases stepped
    exact rest_effect rfl rfl
  | dropEndpoint endpoint | clearPools =>
    cases stepped
    exact rest_effect rfl rfl
  | _ => cases stepped

theorem step_effect (stepped : client.step action = some next) : Effect client next action := by
  cases action with
  | start | look | wake | expire | drop =>
    exact reserveStep_effect stepped
  | enter | resolve | choose | exhaust | dial | notify | claim =>
    exact connectStep_effect stepped
  | _ => exact otherStep_effect stepped

end ClientInner

end Tinyray.Transport
