import Tinyray.Proto.Types

/-!
# The delta cache of a pool

Watchers at the same position are sent the same delta, so a pool keeps the
last few deltas it built, keyed by cursor.  Both the number of entries and
an estimate of their bytes are bounded.
-/

namespace Tinyray

/-- `CACHE_ENTRIES` -/
def cacheEntries : Nat := 8

/-- `CACHE_BYTES` -/
def cacheBytes : Nat := 2 * 2 ^ 20

/-- A delta that is kept. -/
structure Cached where
  since : Option Nat
  delta : PoolDelta
  bytes : Nat

/-- `DeltaCache` -/
structure DeltaCache where
  entries : List Cached := []
  bytes : Nat := 0

instance : Inhabited DeltaCache := ⟨{}⟩

namespace DeltaCache

/-- `DeltaCache::get` -/
def get (cache : DeltaCache) (since : Option Nat) : Option PoolDelta :=
  (cache.entries.find? fun entry => entry.since == since).map Cached.delta

/-- The loop of `insert` that makes room for `incoming` more bytes. -/
def evict (incoming : Nat) : List Cached → Nat → List Cached × Nat
  -- the source unwraps the popped entry; the guard is false by then
  | [], bytes => ([], bytes)
  | old :: rest, bytes =>
    if (old :: rest).length ≥ cacheEntries ∨ bytes + incoming > cacheBytes then
      evict incoming rest (bytes - old.bytes)
    else (old :: rest, bytes)

/-- `DeltaCache::insert` -/
def insert (cache : DeltaCache) (since : Option Nat) (delta : PoolDelta)
    (bytes : Nat) : DeltaCache :=
  if bytes > cacheBytes then cache
  else
    let kept := evict bytes cache.entries cache.bytes
    { entries := kept.1 ++ [⟨since, delta, bytes⟩]
      bytes := kept.2 + bytes }

/-- `DeltaCache::clear` -/
def clear (_ : DeltaCache) : DeltaCache := {}

/-! ## What a cache may hold -/

variable {cache : DeltaCache} {since : Option Nat} {bytes : Nat}
  {delta : PoolDelta} {incoming : Nat} {entries : List Cached}
  {entry : Cached}

theorem mem_of_get (found : cache.get since = some delta) :
    ∃ entry ∈ cache.entries, entry.since = since ∧ entry.delta = delta := by
  simp only [get, Option.map_eq_some_iff] at found
  rcases found with ⟨entry, found, rfl⟩
  have key := List.find?_some found
  exact ⟨entry, List.mem_of_find?_eq_some found, by simpa using key, rfl⟩

theorem mem_of_mem_evict
    (member : entry ∈ (evict incoming entries bytes).1) :
    entry ∈ entries := by
  induction entries generalizing bytes with
  | nil => simp [evict] at member
  | cons old rest hypothesis =>
    rw [evict] at member
    split_ifs at member
    · exact List.mem_cons_of_mem _ (hypothesis member)
    · exact member

theorem mem_of_mem_insert
    (member : entry ∈ (cache.insert since delta bytes).entries) :
    entry ∈ cache.entries ∨ entry = ⟨since, delta, bytes⟩ := by
  rw [insert] at member
  split_ifs at member
  · exact Or.inl member
  · rcases List.mem_append.mp member with kept | fresh
    · exact Or.inl (mem_of_mem_evict kept)
    · exact Or.inr (List.mem_singleton.mp fresh)

/-! ## Bounds -/

/--
The loop with what would stop the process in the source: taking an entry from
an empty queue, and subtracting more bytes than are counted.
-/
def evictStrict (incoming : Nat) : List Cached → Nat → Option (List Cached × Nat)
  | [], bytes =>
    if 0 ≥ cacheEntries ∨ bytes + incoming > cacheBytes then none
    else some ([], bytes)
  | old :: rest, bytes =>
    if (old :: rest).length ≥ cacheEntries ∨ bytes + incoming > cacheBytes then
      if bytes < old.bytes then none
      else evictStrict incoming rest (bytes - old.bytes)
    else some (old :: rest, bytes)

/-- What the loop leaves, if all entries are counted. -/
structure Evicted (incoming : Nat) (entries : List Cached)
    (kept : List Cached × Nat) : Prop where
  suffix : kept.1 <:+ entries
  total : kept.2 = (kept.1.map Cached.bytes).sum
  light : kept.2 + incoming ≤ cacheBytes
  few : kept.1.length < cacheEntries

/-- Evicting makes room and ends. -/
theorem evict_spec
    (fits : incoming ≤ cacheBytes) (total : bytes = (entries.map Cached.bytes).sum) :
    Evicted incoming entries (evict incoming entries bytes) ∧
      evictStrict incoming entries bytes = some (evict incoming entries bytes) := by
  induction entries generalizing bytes with
  | nil =>
    cases total
    refine ⟨⟨List.suffix_rfl, rfl, by simpa [evict] using fits, Nat.zero_lt_succ 7⟩, ?_⟩
    simp [evictStrict, evict, cacheEntries, fits]
  | cons old rest hypothesis =>
    rw [List.map_cons, List.sum_cons] at total
    simp only [evict, evictStrict]
    split_ifs with full underflow
    · omega
    · have counted : bytes - old.bytes = (rest.map Cached.bytes).sum := by
        omega
      rcases hypothesis counted with ⟨evicted, strict⟩
      exact ⟨{ evicted with suffix := evicted.suffix.trans (List.suffix_cons _ _) }, strict⟩
    · refine ⟨⟨List.suffix_rfl, total, ?_, ?_⟩, rfl⟩
      · simp only
        omega
      · simp only
        omega

/-- Cursors are unique, all bytes are counted, and there are not too many. -/
structure Bounded (cache : DeltaCache) : Prop where
  unique : (cache.entries.map Cached.since).Nodup
  total : cache.bytes = (cache.entries.map Cached.bytes).sum
  light : cache.bytes ≤ cacheBytes
  few : cache.entries.length ≤ cacheEntries

theorem bounded_empty : Bounded {} := ⟨List.nodup_nil, rfl, Nat.zero_le _, Nat.zero_le _⟩

/-- A new entry stays within the bounds. -/
theorem Bounded.insert
    (bounded : cache.Bounded) (absent : cache.get since = none)
    (delta : PoolDelta) (bytes : Nat) :
    (cache.insert since delta bytes).Bounded := by
  unfold DeltaCache.insert
  split_ifs with large
  · exact bounded
  have evicted := (evict_spec (Nat.le_of_not_lt large) bounded.total).1
  have missing : since ∉ cache.entries.map Cached.since := by
    simp only [get, Option.map_eq_none_iff, List.find?_eq_none, beq_iff_eq] at absent
    intro member
    rcases List.mem_map.mp member with ⟨entry, member, same⟩
    exact absent entry member same
  have kept := evicted.suffix.map Cached.since
  refine ⟨?_, ?_, evicted.light, ?_⟩
  · rw [List.map_append, List.nodup_append]
    refine ⟨bounded.unique.sublist kept.sublist, by simp, ?_⟩
    intro first listed second new
    cases List.mem_singleton.mp new
    rintro rfl
    exact missing (kept.subset listed)
  · simp [evicted.total]
  · simpa using Nat.succ_le_of_lt evicted.few

/-- `insert`, with what would stop the process. -/
def insertStrict (cache : DeltaCache) (since : Option Nat)
    (delta : PoolDelta) (bytes : Nat) : Option DeltaCache :=
  if bytes > cacheBytes then some cache
  else do
    let kept ← evictStrict bytes cache.entries cache.bytes
    some
      { entries := kept.1 ++ [⟨since, delta, bytes⟩]
        bytes := kept.2 + bytes }

theorem Bounded.insertStrict_eq
    (bounded : cache.Bounded) (since : Option Nat) (delta : PoolDelta) (bytes : Nat) :
    cache.insertStrict since delta bytes = some (cache.insert since delta bytes) := by
  unfold insertStrict DeltaCache.insert
  split_ifs with large
  · rfl
  · rw [(evict_spec (Nat.le_of_not_lt large) bounded.total).2]
    rfl

end DeltaCache

end Tinyray
