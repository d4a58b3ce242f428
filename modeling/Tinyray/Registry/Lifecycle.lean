import Tinyray.Registry.State
import Tinyray.Registry.Receive

/-!
# A registry is a family of independent pools

Apart from the cached deltas and the parked callers, what a registry step
does to a pool depends on that pool alone.  `PoolEvent` has the two kinds of
steps a pool can see, `Event.at` projects a registry step to a pool, and
whole runs are projected step by step.
-/

namespace Tinyray

open Std Foundation

/-- A step as one pool sees it; `stateBytes` was measured on admission. -/
inductive PoolEvent where
  | beat (now : Nat) (beat : Beat) (stateBytes : Nat)
  | sweep (now : Nat) (order : IterationOrder) (alive : Bell → Bool)

namespace Pool

/-- The pool without its cached deltas and parked callers. -/
def core (pool : Pool) : Pool :=
  { pool with waiters := [], cache := {} }

/-- One step of a pool. -/
def step (ttl : Nat) (pool : Pool) : PoolEvent → Pool
  | .beat now beat stateBytes => (pool.receive now ttl beat stateBytes).pool
  | .sweep now order alive => pool.sweep order now alive

/-- A run of a pool. -/
def run (ttl : Nat) (pool : Pool) (events : List PoolEvent) : Pool := events.foldl (step ttl) pool

/-! ## Steps do not look at the cache -/

@[simp]
theorem core_members (pool : Pool) : pool.core.members = pool.members := rfl

@[simp]
theorem core_version (pool : Pool) : pool.core.version = pool.version := rfl

@[simp]
theorem core_roster (pool : Pool) : pool.core.roster = pool.roster := rfl

@[simp]
theorem core_log (pool : Pool) : pool.core.log = pool.log := rfl

/-- The core has the same shape. -/
theorem core_shape (pool : Pool) (beat : Beat) :
    pool.core.shape beat = (pool.shape beat).map core := by
  unfold shape
  simp only [core_members]
  split
  · split
    · rename_i differs
      rw [if_pos (by simpa [core] using differs)]
      rfl
    · rename_i differs
      rw [if_neg (by simpa [core] using differs)]
      rfl
  · have sameWord : disagreement pool.core beat = disagreement pool beat := rfl
    rw [sameWord]
    split
    · rfl
    · split
      · rename_i learns
        rw [if_pos (by simpa [core] using learns)]
        rfl
      · rename_i learns
        rw [if_neg (by simpa [core] using learns)]
        rfl

theorem core_settled
    (pool : Pool) (now ttl : Nat) (beat : Beat) (stateBytes : Nat) :
    pool.core.settled now ttl beat stateBytes = (pool.settled now ttl beat stateBytes).core := rfl

theorem core_enroll
    (pool : Pool) (now ttl : Nat) (beat : Beat) (stateBytes : Nat) :
    (pool.core.enroll now ttl beat stateBytes).1.core =
      (pool.enroll now ttl beat stateBytes).1.core := by
  have sameMoves : pool.core.moves beat = pool.moves beat := rfl
  rw [enroll_eq, enroll_eq, sameMoves, core_settled]
  split <;> rfl

theorem core_raise
    (pool : Pool) (watermark : Nat) (beat : Beat) :
    (pool.raise watermark beat).core = pool.core.raise watermark beat := by
  unfold raise
  split <;> rfl

/-- The core takes beats alike. -/
theorem core_receive
    (pool : Pool) (now ttl : Nat) (beat : Beat) (stateBytes : Nat) :
    (pool.core.receive now ttl beat stateBytes).pool.core =
        (pool.receive now ttl beat stateBytes).pool.core ∧
      (pool.core.receive now ttl beat stateBytes).accepted =
        (pool.receive now ttl beat stateBytes).accepted := by
  unfold receive
  rw [core_shape]
  cases pool.shape beat with
  | error why => exact ⟨rfl, rfl⟩
  | ok shaped =>
    have sameDecision : shaped.core.superseded beat = shaped.superseded beat := rfl
    have sameMark : shaped.core.watermark beat.id = shaped.watermark beat.id := rfl
    simp only [Except.map, sameDecision, sameMark]
    split
    · exact ⟨rfl, rfl⟩
    · exact ⟨by rw [core_raise, core_enroll, ← core_raise], rfl⟩

theorem core_expire (pool : Pool) (id : Nat) :
    (pool.expire id).core = (pool.core.expire id).core := by
  unfold expire
  rw [core_members]
  split <;> rfl

theorem core_foldl_expire
    (ids : List Nat) {left right : Pool} (alike : left.core = right.core) :
    (ids.foldl expire left).core = (ids.foldl expire right).core := by
  induction ids generalizing left right with
  | nil => exact alike
  | cons id rest hypothesis =>
    apply hypothesis
    rw [core_expire left, core_expire right, alike]

theorem core_sweep
    (order : IterationOrder) (now : Nat) (alive : Bell → Bool) (pool : Pool) :
    (pool.core.sweep order now alive).core = (pool.sweep order now alive).core := by
  have sameDead : pool.core.dead order now = pool.dead order now := rfl
  unfold sweep
  rw [sameDead]
  exact core_foldl_expire _ rfl

/-- Sweeping nothing does nothing. -/
theorem core_sweep_empty
    (order : IterationOrder) (now : Nat) (alive : Bell → Bool) :
    (({} : Pool).sweep order now alive).core = ({} : Pool).core := by
  have noKeys : ({} : Pool).members.keys = [] := ExtTreeMap.keys_eq_nil_iff.mpr rfl
  have noDead : ({} : Pool).dead order now = [] := by
    unfold dead
    rw [noKeys, (order.perm []).eq_nil]
    rfl
  have noGone : ({} : Pool).gone.filter (fun _ departed => departed.2 > now) = ∅ := by
    apply ExtTreeMap.ext_getElem?
    intro id
    simp [ExtTreeMap.getElem?_filter]
  unfold sweep
  rw [noDead]
  simp only [List.foldl_nil, forget, core, noGone]

theorem core_step (ttl : Nat) (pool : Pool) (event : PoolEvent) :
    (pool.core.step ttl event).core = (pool.step ttl event).core := by
  cases event with
  | beat now beat stateBytes =>
    exact (core_receive pool now ttl beat stateBytes).1
  | sweep now order alive =>
    exact core_sweep order now alive pool

/-- The pool without its cached deltas. -/
def uncached (pool : Pool) : Pool :=
  { pool with cache := {} }

theorem delta_uncached (order : IterationOrder) (pool : Pool)
    (seen : Option Nat) :
    (pool.delta order seen).2.uncached = pool.uncached := by
  unfold delta
  split
  · rfl
  · split <;> rfl

end Pool

/-! ## Projecting a registry step to a pool -/

section

variable [FloatFormat]

/-- What a registry step means for one pool. -/
def Event.at (name : String) : Event → Option PoolEvent
  | .beat now _ sent =>
    if sent.pool = name then
      (Registry.admissible sent).map fun stateBytes => .beat now sent stateBytes
    else none
  | .sweep now order alive => some (.sweep now (order name) alive)
  | .query _ _ => none
  | .park _ _ => none

end

namespace Registry

/-- Two maps of pools that differ in cached deltas and callers at most. -/
def SameCores (left right : ExtTreeMap String Pool) : Prop :=
  ∀ name : String, left[name]?.map Pool.core = right[name]?.map Pool.core

/-- Collecting touches caches only. -/
theorem collectOne_uncached
    (order : String → IterationOrder) (beat : Beat)
    (progress : Collecting) (watched name : String) :
    (collectOne order beat progress watched).1[name]?.map Pool.uncached =
      progress.1[name]?.map Pool.uncached := by
  unfold collectOne
  cases present : progress.1[watched]? with
  | none => rfl
  | some pool =>
    have unchanged := Pool.delta_uncached (order watched) pool beat.seen[watched]?
    simp only
    split
    · rfl
    · rename_i delta cached answer
      rw [answer] at unchanged
      simp only [ExtTreeMap.getElem?_insert]
      split_ifs with same
      · rw [Std.compare_eq_iff_eq] at same
        subst same
        rw [present]
        exact congrArg some unchanged
      · rfl

theorem collect_uncached
    (order : String → IterationOrder) (beat : Beat)
    (pools : ExtTreeMap String Pool) (name : String) :
    (collect order beat pools).1[name]?.map Pool.uncached = pools[name]?.map Pool.uncached := by
  unfold collect
  refine List.foldlRecOn beat.watch (collectOne order beat)
    (motive := fun progress =>
      progress.1[name]?.map Pool.uncached = pools[name]?.map Pool.uncached) ?_ ?_
  · rfl
  intro progress alike watched _
  exact (collectOne_uncached order beat progress watched name).trans alike

theorem core_of_uncached
    {left right : Option Pool} (alike : left.map Pool.uncached = right.map Pool.uncached) :
    left.map Pool.core = right.map Pool.core := by
  have cores := congrArg (Option.map Pool.core) alike
  rw [Option.map_map, Option.map_map] at cores
  exact cores

theorem collectOne_sameCores
    (order : String → IterationOrder) (beat : Beat) (progress : Collecting) (watched : String) :
    SameCores (collectOne order beat progress watched).1 progress.1 :=
  fun name => core_of_uncached (collectOne_uncached order beat progress watched name)

theorem collect_sameCores
    (order : String → IterationOrder) (beat : Beat) (pools : ExtTreeMap String Pool) :
    SameCores (collect order beat pools).1 pools :=
  fun name => core_of_uncached (collect_uncached order beat pools name)

theorem collect_core
    (order : String → IterationOrder) (beat : Beat)
    (pools : ExtTreeMap String Pool) (name : String) :
    ((collect order beat pools).1.getD name {}).core = (pools.getD name {}).core := by
  have alike := collect_sameCores order beat pools name
  simp only [ExtTreeMap.getD_eq_getD_getElem?]
  revert alike
  cases (collect order beat pools).1[name]? <;>
    cases pools[name]? <;> simp

/-- Parking touches bells only. -/
theorem pool_park
    (registry : Registry) (watch : List String) (bell : Bell) (name : String) :
    ((registry.park watch bell).pool name).core = (registry.pool name).core := by
  unfold park pool
  simp only
  generalize registry.pools = pools
  induction watch generalizing pools with
  | nil => rfl
  | cons watched rest hypothesis =>
    rw [List.foldl_cons, hypothesis, ExtTreeMap.getD_insert]
    by_cases same : watched = name
    · subst same
      simp only [compare_self, if_true]
      rfl
    · simp [same]

theorem pool_sweep
    (registry : Registry) (now : Nat) (order : String → IterationOrder)
    (alive : Bell → Bool) (name : String) :
    ((registry.sweep now order alive).registry.pool name).core =
      ((registry.pool name).sweep (order name) now alive).core := by
  unfold sweep pool
  simp only [ExtTreeMap.getD_eq_getD_getElem?, ExtTreeMap.getElem?_map]
  cases registry.pools[name]? with
  | some pool => rfl
  | none => exact (Pool.core_sweep_empty (order name) now alive).symm

variable [FloatFormat]

/-- A beat is for its own pool. -/
theorem pool_beat
    (registry : Registry) (now : Nat) (order : String → IterationOrder)
    (beat : Beat) (name : String) :
    ((registry.beatShared now order beat).registry.pool name).core = match admissible beat with
      | none => (registry.pool name).core
      | some stateBytes =>
        if beat.pool = name then
          ((registry.pool name).receive now registry.ttl beat stateBytes).pool.core
        else (registry.pool name).core := by
  unfold beatShared
  cases admissible beat with
  | none => rfl
  | some stateBytes =>
    have inserted :
        ((registry.pools.insert beat.pool
            ((registry.pool beat.pool).receive now registry.ttl beat
              stateBytes).pool).getD name {}).core =
          if beat.pool = name then
            ((registry.pool name).receive now registry.ttl beat stateBytes).pool.core
          else (registry.pool name).core := by
      rw [ExtTreeMap.getD_insert]
      by_cases same : beat.pool = name
      · subst same
        simp
      · simp [same, pool]
    dsimp only
    split
    · exact inserted
    · exact (collect_core order beat _ name).trans inserted

/-- The lease never changes. -/
@[simp]
theorem step_ttl (registry : Registry) (event : Event) :
    (registry.step event).ttl = registry.ttl := by
  cases event with
  | beat now order sent =>
    unfold step beatShared
    simp only
    split
    · rfl
    · split <;> rfl
  | sweep now order alive => rfl
  | query order sent => rfl
  | park watch bell => rfl

/-- The epoch never changes. -/
@[simp]
theorem step_epoch (registry : Registry) (event : Event) :
    (registry.step event).epoch = registry.epoch := by
  cases event with
  | beat now order sent =>
    unfold step beatShared
    simp only
    split
    · rfl
    · split <;> rfl
  | sweep now order alive => rfl
  | query order sent => rfl
  | park watch bell => rfl

theorem run_append
    (registry : Registry) (events later : List Event) :
    registry.run (events ++ later) = (registry.run events).run later :=
  List.foldl_append

@[simp]
theorem run_ttl (registry : Registry) (events : List Event) :
    (registry.run events).ttl = registry.ttl := by
  unfold run
  induction events generalizing registry with
  | nil => rfl
  | cons event rest hypothesis =>
    rw [List.foldl_cons, hypothesis, step_ttl]

@[simp]
theorem run_epoch (registry : Registry) (events : List Event) :
    (registry.run events).epoch = registry.epoch := by
  unfold run
  induction events generalizing registry with
  | nil => rfl
  | cons event rest hypothesis =>
    rw [List.foldl_cons, hypothesis, step_epoch]

/-- A step, pool by pool. -/
theorem step_core
    (registry : Registry) (event : Event) (name : String) :
    ((registry.step event).pool name).core = match event.at name with
      | none => (registry.pool name).core
      | some seen => ((registry.pool name).step registry.ttl seen).core := by
  cases event with
  | beat now order sent =>
    unfold step Event.at
    simp only
    rw [pool_beat]
    cases admissible sent with
    | none => split <;> simp_all
    | some stateBytes =>
      by_cases same : sent.pool = name
      · simp [same, Pool.step]
      · simp [same]
  | sweep now order alive =>
    exact pool_sweep registry now order alive name
  | query order sent =>
    exact collect_core order sent registry.pools name
  | park watch bell =>
    exact pool_park registry watch bell name

/-- A whole run, seen from one pool. -/
theorem run_core
    (registry : Registry) (events : List Event) (name : String) :
    ((registry.run events).pool name).core =
      ((registry.pool name).run registry.ttl (events.filterMap (Event.at name))).core := by
  suffices general :
      ∀ pool : Pool, pool.core = (registry.pool name).core →
        ((registry.run events).pool name).core =
          (pool.run registry.ttl (events.filterMap (Event.at name))).core from
    general _ rfl
  induction events generalizing registry with
  | nil =>
    intro pool alike
    exact alike.symm
  | cons event rest hypothesis =>
    intro pool alike
    have stepped := step_core registry event name
    have later := hypothesis (registry.step event)
    rw [step_ttl] at later
    cases seen : event.at name with
    | none =>
      rw [seen] at stepped
      rw [List.filterMap_cons_none seen]
      exact later pool (alike.trans stepped.symm)
    | some poolEvent =>
      rw [seen] at stepped
      rw [List.filterMap_cons_some seen]
      refine later (pool.step registry.ttl poolEvent) ?_
      rw [stepped, ← Pool.core_step, alike, Pool.core_step]

/-- Who accepts a beat. -/
theorem accepts_eq
    (registry : Registry) (now : Nat) (order : String → IterationOrder) (beat : Beat) :
    registry.accepts now order beat = match admissible beat with
      | none => false
      | some stateBytes =>
        ((registry.pool beat.pool).receive now registry.ttl beat stateBytes).accepted := by
  unfold accepts beatShared
  cases admissible beat with
  | none => rfl
  | some stateBytes =>
    simp only
    split
    · rename_i why refused
      rcases Pool.receive_cases (registry.pool beat.pool) now registry.ttl beat stateBytes with
        ⟨_, _, exit⟩ | ⟨_, _, _, exit⟩ | ⟨_, _, _, exit⟩
      · rw [exit]
      · exact absurd refused (by
          rw [← Registry.pool, exit]
          simp)
      · exact absurd refused (by
          rw [← Registry.pool, exit]
          simp)
    · rfl

end Registry

end Tinyray
