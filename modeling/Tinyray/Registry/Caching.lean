import Tinyray.Registry.Answers

/-!
# The delta cache is invisible and bounded

Whatever has been asked of a registry before, what a pool answers is what it
would build now, up to the order in which a full snapshot has the members.
Nothing done to a pool leaves more in its cache than fits: a step either keeps
the cache, clears it, or inserts one delta that was not there.
-/

namespace Tinyray

open Std Foundation

/-- The same delta, up to the order of the members. -/
structure PoolDelta.Same (delta other : PoolDelta) : Prop where
  version : delta.version = other.version
  roster : delta.roster = other.roster
  policy : delta.policy = other.policy
  methods : delta.methods = other.methods
  size : delta.size = other.size
  changed : delta.changed.Perm other.changed
  removed : delta.removed = other.removed
  full : delta.full = other.full

namespace Pool

theorem records_perm
    (pool : Pool) (order other : IterationOrder) :
    (pool.records order).Perm (pool.records other) :=
  ((order.perm _).trans (other.perm _).symm).filterMap _

theorem Answers.same
    {pool : Pool} {since : Option Nat} {delta : PoolDelta}
    (answers : pool.Answers since delta) (order : IterationOrder) :
    delta.Same (pool.buildDelta order since).1 := by
  rcases answers with ⟨other, rfl⟩
  cases since with
  | none =>
    exact ⟨rfl, rfl, rfl, rfl, rfl, (pool.records_perm other order).map Record.member, rfl, rfl⟩
  | some cursor =>
    exact ⟨rfl, rfl, rfl, rfl, rfl, List.Perm.refl _, rfl, rfl⟩

/-! ## What a step does to the cache -/

theorem enroll_cache
    (pool : Pool) (now ttl : Nat) (beat : Beat) (stateBytes : Nat) :
    (pool.enroll now ttl beat stateBytes).1.cache = pool.cache ∨
      (pool.enroll now ttl beat stateBytes).1.cache = {} := by
  rw [enroll_eq]
  split
  · exact .inr rfl
  · exact .inl rfl

theorem raise_cache (pool : Pool) (watermark : Nat) (beat : Beat) :
    (pool.raise watermark beat).cache = pool.cache := by
  unfold raise
  split <;> rfl

theorem shape_cache
    {pool shaped : Pool} {beat : Beat} (ok : pool.shape beat = .ok shaped) :
    shaped.cache = pool.cache ∨ shaped.cache = {} := by
  rcases shape_ok ok with rfl | ⟨policy, size, methods, rfl⟩
  · exact .inl rfl
  · exact .inr rfl

/-- A beat keeps the cache or clears it. -/
theorem receive_cache
    (pool : Pool) (now ttl : Nat) (beat : Beat) (stateBytes : Nat) :
    (pool.receive now ttl beat stateBytes).pool.cache = pool.cache ∨
      (pool.receive now ttl beat stateBytes).pool.cache = {} := by
  rcases receive_cases pool now ttl beat stateBytes with
    ⟨why, _, exit⟩ | ⟨shaped, ok, _, exit⟩ | ⟨shaped, ok, _, exit⟩
  · rw [exit]
    exact .inl rfl
  · rw [exit]
    exact shape_cache ok
  · rw [exit]
    simp only [raise_cache]
    rcases shaped.enroll_cache now ttl beat stateBytes with kept | cleared
    · rw [kept]
      exact shape_cache ok
    · exact .inr cleared

/-- A departure keeps it or clears it. -/
theorem foldl_expire_cache (ids : List Nat) (pool : Pool) :
    (ids.foldl expire pool).cache = pool.cache ∨ (ids.foldl expire pool).cache = {} := by
  induction ids generalizing pool with
  | nil => exact .inl rfl
  | cons id rest hypothesis =>
    have once : (pool.expire id).cache = pool.cache ∨ (pool.expire id).cache = {} := by
      unfold expire
      split
      · exact .inr rfl
      · exact .inl rfl
    rcases hypothesis (pool.expire id) with kept | cleared
    · rw [List.foldl_cons, kept]
      exact once
    · exact .inr cleared

/-- The cache is within its bounds. -/
def CacheBounded (pool : Pool) : Prop := pool.cache.Bounded

theorem CacheBounded.of_kept_or_cleared
    {pool next : Pool} (bounded : pool.CacheBounded)
    (cache : next.cache = pool.cache ∨ next.cache = {}) :
    next.CacheBounded := by
  unfold CacheBounded
  rcases cache with kept | cleared
  · rw [kept]
    exact bounded
  · rw [cleared]
    exact DeltaCache.bounded_empty

theorem CacheBounded.delta
    {pool : Pool} (bounded : pool.CacheBounded) (order : IterationOrder) (seen : Option Nat) :
    (pool.delta order seen).2.CacheBounded := by
  unfold Pool.delta
  split_ifs
  · exact bounded
  · split
    · exact bounded
    · rename_i absent
      exact DeltaCache.Bounded.insert bounded absent _ _

theorem steady_cacheBounded : Registry.Steady CacheBounded where
  empty := DeltaCache.bounded_empty
  receive := fun now ttl beat stateBytes bounded =>
    bounded.of_kept_or_cleared (receive_cache _ now ttl beat stateBytes)
  sweep := fun _ _ _ bounded => bounded.of_kept_or_cleared (foldl_expire_cache _ _)
  delta := fun order seen bounded => bounded.delta order seen
  waiters := fun _ bounded => bounded

end Pool

/--
In every state that a registry gets into, what a pool answers is what it would
build now, and the cache has unique cursors, counts its bytes, is within its
limits and takes another delta without failing.
-/
theorem delta_cache_invisible [FloatFormat]
    (ttl nanos : Nat) (events : List Event) (name : String) :
    let pool := ((Registry.new ttl nanos).run events).pool name
    (∀ order seen, match (pool.delta order seen).1 with
        | none => seen = some pool.version
        | some delta =>
          seen ≠ some pool.version ∧ delta.Same (pool.buildDelta order (pool.since seen)).1) ∧
      (pool.cache.entries.map Cached.since).Nodup ∧
      pool.cache.bytes = (pool.cache.entries.map Cached.bytes).sum ∧ pool.cache.bytes ≤ cacheBytes ∧
      pool.cache.entries.length ≤ cacheEntries ∧
      ∀ since delta bytes,
        pool.cache.insertStrict since delta bytes = some (pool.cache.insert since delta bytes) := by
  intro pool
  have sound : pool.CacheSound :=
    (Registry.run_cachesSound (Registry.new_cachesSound ttl nanos) events).getD name
  have bounded : pool.CacheBounded :=
    Registry.Everywhere.getD
      (Pool.steady_cacheBounded.run (Registry.everywhere_new Pool.CacheBounded ttl nanos) events)
      Pool.steady_cacheBounded.empty name
  refine ⟨?_, bounded.unique, bounded.total, bounded.light, bounded.few, bounded.insertStrict_eq⟩
  intro order seen
  split
  · rename_i silent
    exact (Pool.delta_eq_none_iff order pool seen).mp silent
  · rename_i delta answered
    rcases Pool.delta_answers sound answered with ⟨moved, answers⟩
    exact ⟨moved, answers.same order⟩

end Tinyray
