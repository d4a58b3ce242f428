import Tinyray.Membership.Cache
import Tinyray.Registry.Answers

/-!
# Deltas bring a cache up to date

The registry and the client meet in the deltas.  `Pool.Answers.apply_full`
and `Pool.Answers.apply_patch` say what applying one of them to a cache
gives; what makes a patch right is that the pool remembers the state the
cache shows.  `delta_apply_exact` is the statement for whole registry runs.
-/

namespace Tinyray

open Std Foundation

/-! ## Sorting and removing duplicates keeps the ids -/

theorem mem_dedup (ids : List Nat) (id : Nat) : id ∈ dedup ids ↔ id ∈ ids := by
  fun_induction dedup ids with
  | case1 => simp
  | case2 => simp
  | case3 second rest hypothesis =>
    rw [hypothesis]
    simp
  | case4 first second rest distinct hypothesis =>
    rw [List.mem_cons, hypothesis, ← List.mem_cons]

theorem Pool.mem_changedIds (pool : Pool) (cursor id : Nat) :
    id ∈ pool.changedIds cursor ↔ id ∈ changedSince cursor pool.log := by
  rw [Pool.changedIds, mem_dedup, List.mem_insertionSort]

/-! ## The two kinds of deltas -/

/-- The client's copy shows a pool as it is. -/
structure CachedPool.Shows (cached : CachedPool) (pool : Pool) : Prop where
  members : cached.members = pool.roll
  version : cached.version = pool.version
  roster : cached.roster = pool.roster

namespace Pool

variable {pool : Pool} {since : Option Nat} {delta : PoolDelta}

theorem Answers.full_iff
    (answers : pool.Answers since delta) :
    delta.full = true ↔ since = none := by
  rcases answers with ⟨order, rfl⟩
  cases since <;> simp [buildDelta]

theorem Answers.version
    (answers : pool.Answers since delta) :
    delta.version = pool.version := by
  rcases answers with ⟨order, rfl⟩
  cases since <;> rfl

theorem Answers.roster
    (answers : pool.Answers since delta) :
    delta.roster = pool.roster := by
  rcases answers with ⟨order, rfl⟩
  cases since <;> rfl

theorem Keyed.reported_faithful (keyed : pool.Keyed) (ids : List Nat) :
    ∀ member ∈ ids.filterMap (fun id => pool.roll[id]?), pool.roll[member.id]? = some member := by
  intro member reported
  rcases List.mem_filterMap.mp reported with ⟨id, _, held⟩
  rw [keyed id member held]
  exact held

/-- Which ids are reported. -/
theorem Keyed.mem_reported_iff
    (keyed : pool.Keyed) (ids : List Nat) (id : Nat) :
    id ∈ (ids.filterMap fun id => pool.roll[id]?).map Member.id ↔
      id ∈ ids ∧ pool.roll[id]?.isSome := by
  simp only [List.mem_map, List.mem_filterMap]
  constructor
  · rintro ⟨member, ⟨other, listed, held⟩, rfl⟩
    rw [keyed other member held]
    exact ⟨listed, by rw [held]; rfl⟩
  · rintro ⟨listed, present⟩
    rcases Option.isSome_iff_exists.mp present with ⟨member, held⟩
    exact ⟨member, ⟨id, listed, held⟩, keyed id member held⟩

/-- A full answer is the pool. -/
theorem Answers.apply_full
    (keyed : pool.Keyed) (answers : pool.Answers none delta) (cached : CachedPool) :
    (cached.apply delta).members = pool.roll := by
  rcases answers with ⟨order, rfl⟩
  have reports :
      (pool.buildDelta order none).1.changed =
        (order.arrange pool.roll.keys).filterMap fun id => pool.roll[id]? :=
    map_member_records order pool
  have faithful := keyed.reported_faithful (order.arrange pool.roll.keys)
  rw [← reports] at faithful
  apply ExtTreeMap.ext_getElem?
  intro id
  rw [CachedPool.getElem?_apply_members faithful, reports]
  have listed : id ∈ order.arrange pool.roll.keys ↔ pool.roll[id]?.isSome := by
    rw [(order.perm pool.roll.keys).mem_iff, ExtTreeMap.mem_keys,
      ExtTreeMap.isSome_getElem?_iff_mem]
  simp only [keyed.mem_reported_iff, listed, and_self]
  cases pool.roll[id]? <;> simp [buildDelta]

/-- A patch changes the changed ids. -/
theorem Answers.apply_patch
    {cursor : Nat} (keyed : pool.Keyed) (answers : pool.Answers (some cursor) delta)
    (cached : CachedPool) :
    (fun id : Nat => (cached.apply delta).members[id]?) =
      patched (pool.changedIds cursor)
        (fun id => cached.members[id]?) (fun id => pool.roll[id]?) := by
  rcases answers with ⟨order, rfl⟩
  have reports :
      (pool.buildDelta order (some cursor)).1.changed =
        (pool.changedIds cursor).filterMap fun id => pool.roll[id]? := by
    simp only [buildDelta, getElem?_roll]
  have removes :
      (pool.buildDelta order (some cursor)).1.removed =
        (pool.changedIds cursor).filter fun id => pool.roll[id]?.isNone := by
    simp [buildDelta]
  have faithful := keyed.reported_faithful (pool.changedIds cursor)
  rw [← reports] at faithful
  funext id
  rw [CachedPool.getElem?_apply_members faithful, reports, removes]
  simp only [keyed.mem_reported_iff, List.mem_filter, patched]
  by_cases listed : id ∈ pool.changedIds cursor
  · cases pool.roll[id]? <;> simp [listed]
  · simp [listed, buildDelta]

/--
Applying the answer to a cursor gives the present pool, if the answer is a
snapshot or the cache shows a state at the cursor's version or later that the
pool remembers.
-/
theorem Answers.shows
    {seen : Option Nat} (answers : pool.Answers (pool.since seen) delta)
    (charted : pool.Charted) (journaled : pool.Journaled) (cached : CachedPool)
    (known :
      delta.full = true ∨
        ∃ past cursor,
          seen = some cursor ∧ cursor ≤ past.version ∧
            pool.Remembers past ∧ cached.members = past.roll) :
    (cached.apply delta).Shows pool := by
  refine ⟨?_, answers.version, answers.roster⟩
  cases source : pool.since seen with
  | none =>
    rw [source] at answers
    exact answers.apply_full charted.keyed cached
  | some cursor =>
    rw [source] at answers
    have incremental : ¬ delta.full = true := by
      rw [answers.full_iff]
      simp
    rcases known with full | ⟨past, sent, rfl, since, remembers, held⟩
    · exact absurd full incremental
    · simp only [Pool.since, Option.filter_eq_some_iff,
        Option.some.injEq, Bool.and_eq_true, decide_eq_true_eq] at source
      rcases source with ⟨rfl, behind, reaches⟩
      have patchedEq := answers.apply_patch charted.keyed cached
      rw [held] at patchedEq
      rw [patched_eq_of_recalls journaled remembers.recalls reaches
        since (pool.mem_changedIds sent)] at patchedEq
      apply ExtTreeMap.ext_getElem?
      intro id
      exact congrFun patchedEq id

theorem since_position
    (journaled : pool.Journaled) {seen : Option Nat}
    {cursor : Nat} (since : pool.since seen = some cursor) :
    cursor + 1 ≤ pool.version ∧ oldest pool.log ≤ cursor + 1 ∧
      cursor + 1 - oldest pool.log < pool.log.length := by
  simp only [Pool.since, Option.filter_eq_some_iff, Bool.and_eq_true, decide_eq_true_eq] at since
  rcases since with ⟨_, behind, reaches⟩
  exact ⟨behind, reaches, Contiguous.position_lt_length journaled (by decide) behind reaches⟩

end Pool

/-! ## Whole runs -/

namespace Registry

theorem pool_new (ttl nanos : Nat) (name : String) : (Registry.new ttl nanos).pool name = {} := by
  simp [Registry.new, Registry.pool]

variable [FloatFormat]

theorem history_new_leads
    {ttl nanos : Nat} {name : String} {events : List Event} {state : Pool}
    (visited : state ∈ (Registry.new ttl nanos).history name events) :
    Pool.Leads {} state ∧ state.Leads (((Registry.new ttl nanos).run events).pool name) := by
  have between := history_leads _ name events visited
  rw [pool_new] at between
  exact between

theorem run_new_leads
    (ttl nanos : Nat) (events : List Event) (name : String) :
    Pool.Leads {} (((Registry.new ttl nanos).run events).pool name) := by
  have reached := run_leads (Registry.new ttl nanos) events name
  rw [pool_new] at reached
  exact reached

/--
The delta protocol.  A watcher hears nothing exactly if its cursor is the
current version.  Otherwise the answer turns any cache, if it is a snapshot,
and a cache with the members of the cursor's version, if it is a patch, into
the present pool; every number up to the present one is such a version.  The
cursor of a patch lies inside the journal, and no counter reaches a number
above twice the beats received.
-/
theorem delta_apply_exact
    (ttl nanos : Nat) (events : List Event) (name : String)
    (order : IterationOrder) (seen : Option Nat) :
    let start := Registry.new ttl nanos
    let pool := (start.run events).pool name
    ((pool.delta order seen).1 = none ↔ seen = some pool.version) ∧
      (∀ delta, (pool.delta order seen).1 = some delta →
        ∀ cached : CachedPool,
          (delta.full = true ∨
            ∃ past ∈ start.history name events,
              seen = some past.version ∧ cached.members = past.roll) →
          (cached.apply delta).Shows pool) ∧
      (∀ number ≤ pool.version, ∃ past ∈ start.history name events, past.version = number) ∧
      (∀ cursor, pool.since seen = some cursor →
        cursor + 1 ≤ pool.version ∧ oldest pool.log ≤ cursor + 1 ∧
          cursor + 1 - oldest pool.log < pool.log.length) ∧
      pool.version ≤ 2 * events.countP Event.isBeat := by
  intro start pool
  have leads : Pool.Leads {} pool := run_new_leads ttl nanos events name
  have journaled := leads.journaled Pool.journaled_empty
  have charted := leads.charted Pool.charted_empty
  refine
    ⟨Pool.delta_eq_none_iff order pool seen, ?_, ?_,
      fun cursor => Pool.since_position journaled, ?_⟩
  · intro delta answered cached known
    have sound : pool.CacheSound := (run_cachesSound (new_cachesSound ttl nanos) events).getD name
    rcases Pool.delta_answers sound answered with ⟨_, answers⟩
    apply answers.shows charted journaled cached
    rcases known with full | ⟨past, visited, rfl, held⟩
    · exact Or.inl full
    · rcases history_new_leads visited with ⟨before, after⟩
      have remembers := after.remembers (before.journaled Pool.journaled_empty)
      exact Or.inr ⟨past, past.version, rfl, Nat.le_refl _, remembers, held⟩
  · intro number bounded
    apply history_covers start name events _ bounded
    change ((Registry.new ttl nanos).pool name).version ≤ number
    rw [pool_new]
    exact Nat.zero_le number
  · have effort := run_effort start events name
    have idle : (start.pool name).effort = 0 := by
      rw [pool_new]
      rfl
    rw [idle, Nat.zero_add] at effort
    exact (Nat.le_add_right _ _).trans effort

end Registry

end Tinyray
