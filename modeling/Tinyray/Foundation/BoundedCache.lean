import Mathlib.Algebra.BigOperators.Group.List.Basic
import Mathlib.Algebra.Ring.Nat
import Mathlib.Data.List.MinMax

/-!
# A cache of bounded size

A cache keeps values under keys, up to so many entries and so much weight.
Whoever reads an entry marks it with the time of a clock, and a new entry
makes room by evicting those that were used longest ago.  The clock is a
64-bit counter; when it wraps around, all entries become equally old.

Whatever is evicted, a cache shows only what was put into it: that is
`mem_contents_put`, and no other operation adds anything.
-/

namespace Tinyray.Foundation

/-- The order in which a hash table hands out what it holds. -/
structure HashOrder where
  list : {α : Type} → List α → List α
  perm : ∀ {α : Type} (items : List α), (list items).Perm items

/-- What it holds comes out in the order it came. -/
def HashOrder.insertion : HashOrder := ⟨fun items => items, fun _ => .refl _⟩

/-- A value, its weight and its last use. -/
structure CacheEntry (β : Type) where
  value : β
  weight : Nat
  lastUsed : Nat

/-- What a cache may hold. -/
structure CacheLimits where
  entries : Nat
  weight : Nat

/-- A cache with limits, and its counters. -/
structure BoundedCache (α β : Type) where
  entries : List (α × CacheEntry β) := []
  weight : Nat := 0
  clock : Nat := 0
  hits : Nat := 0
  builds : Nat := 0
  evictions : Nat := 0
  invalidations : Nat := 0
  fallbacks : Nat := 0
  uncached : Nat := 0

namespace BoundedCache

variable {α β : Type} [DecidableEq α]

/-- What is kept, without the bookkeeping. -/
def contents (cache : BoundedCache α β) : List (α × β) :=
  cache.entries.map fun entry => (entry.1, entry.2.value)

/-- Count a use; the clock wraps around. -/
def nextClock (cache : BoundedCache α β) : BoundedCache α β :=
  let clock := (cache.clock + 1) % 2 ^ 64
  if clock = 0 then
    { cache with
      clock := 1
      entries := cache.entries.map fun entry => (entry.1, { entry.2 with lastUsed := 0 }) }
  else { cache with clock := clock }

/-- The clock goes on even if nothing is found. -/
def get (cache : BoundedCache α β) (key : α) : Option β × BoundedCache α β :=
  let ticked := cache.nextClock
  match ticked.entries.find? fun entry => entry.1 = key with
  | none => (none, ticked)
  | some found =>
    (some found.2.value,
      { ticked with
        hits := ticked.hits + 1
        entries :=
          ticked.entries.map fun entry =>
            if entry.1 = key then (entry.1, { entry.2 with lastUsed := ticked.clock })
            else entry })

/-- Take out an entry and its weight. -/
def remove (cache : BoundedCache α β) (key : α) : BoundedCache α β :=
  match cache.entries.find? fun entry => entry.1 = key with
  | none => cache
  | some found =>
    { cache with
      entries := cache.entries.filter fun entry => entry.1 ≠ key
      weight := cache.weight - found.2.weight }

/-- Evict until the weight fits; every round takes out an entry. -/
def makeRoom (order : HashOrder) (limits : CacheLimits) (weight : Nat) :
    Nat → BoundedCache α β → BoundedCache α β
  | 0, cache => cache
  | rounds + 1, cache =>
    if limits.entries ≤ cache.entries.length ∨ limits.weight < cache.weight + weight then
      match (order.list cache.entries).argmin fun entry => entry.2.lastUsed with
      | none => cache
      | some oldest =>
        let evicted := cache.remove oldest.1
        makeRoom order limits weight rounds
          { evicted with evictions := evicted.evictions + 1 }
    else cache

/-- Keep a value unless it is too large, in which case nothing is evicted. -/
def put (order : HashOrder) (limits : CacheLimits) (admissible : Bool)
    (cache : BoundedCache α β) (key : α) (weight : Nat) (value : β) :
    BoundedCache α β :=
  let built := { cache with builds := cache.builds + 1 }
  if !admissible || limits.weight < weight then
    { built with uncached := built.uncached + 1 }
  else
    let replaced := built.remove key
    let roomy := makeRoom order limits weight replaced.entries.length replaced
    if limits.weight < roomy.weight + weight then
      { roomy with uncached := roomy.uncached + 1 }
    else
      let ticked := roomy.nextClock
      { ticked with
        weight := ticked.weight + weight
        entries := (key, ⟨value, weight, ticked.clock⟩) :: ticked.entries }

/-- Forget everything. -/
def invalidate (cache : BoundedCache α β) : BoundedCache α β :=
  { cache with
    entries := []
    weight := 0
    invalidations := cache.invalidations + 1 }

/-- Count an answer past the cache. -/
def fallback (cache : BoundedCache α β) : BoundedCache α β :=
  { cache with fallbacks := cache.fallbacks + 1 }

/-! ## What a cache shows -/

omit [DecidableEq α] in
@[simp]
theorem contents_nextClock (cache : BoundedCache α β) :
    cache.nextClock.contents = cache.contents := by
  unfold nextClock contents
  simp only
  split
  · simp [Function.comp_def]
  · rfl

/-- A lookup changes no contents. -/
@[simp]
theorem contents_get (cache : BoundedCache α β) (key : α) :
    (cache.get key).2.contents = cache.contents := by
  rw [← contents_nextClock cache]
  unfold get contents
  simp only
  split
  · rfl
  · simp only [List.map_map]
    apply List.map_congr_left
    intro entry _
    simp only [Function.comp]
    split <;> rfl

/-- What is found is the first entry that is shown for the key. -/
theorem get_eq (cache : BoundedCache α β) (key : α) :
    (cache.get key).1 = (cache.contents.find? fun item => item.1 = key).map Prod.snd := by
  rw [← contents_nextClock cache, contents, List.find?_map]
  unfold get
  simp only [Function.comp_def]
  split
  · rename_i absent
    rw [absent]
    rfl
  · rename_i held
    rw [held]
    rfl

variable {cache : BoundedCache α β} {key : α} {item : α × β}
  {limits : CacheLimits} {weight : Nat}

/-- What is found is in the cache. -/
theorem mem_contents_of_get
    {value : β} (found : (cache.get key).1 = some value) :
    (key, value) ∈ cache.contents := by
  rw [get_eq, Option.map_eq_some_iff] at found
  rcases found with ⟨item, held, rfl⟩
  have same : item.1 = key := by simpa using List.find?_some held
  rw [← same]
  exact List.mem_of_find?_eq_some held

theorem mem_contents_remove
    (member : item ∈ (cache.remove key).contents) :
    item ∈ cache.contents := by
  unfold remove at member
  split at member
  · exact member
  · rcases List.mem_map.1 member with ⟨entry, kept, rfl⟩
    exact List.mem_map.2 ⟨entry, List.mem_of_mem_filter kept, rfl⟩

/-- Making room adds nothing. -/
theorem mem_contents_makeRoom
    (order : HashOrder) (limits : CacheLimits) (weight rounds : Nat)
    (member : item ∈ (makeRoom order limits weight rounds cache).contents) :
    item ∈ cache.contents := by
  induction rounds generalizing cache with
  | zero => exact member
  | succ rounds hypothesis =>
    rw [makeRoom] at member
    split at member
    · split at member
      · exact member
      · rename_i oldest _
        have kept := hypothesis member
        change item ∈ (cache.remove oldest.1).contents at kept
        exact mem_contents_remove kept
    · exact member

/-- Putting adds what is put and nothing else. -/
theorem mem_contents_put
    {order : HashOrder} {admissible : Bool} {value : β}
    (member : item ∈ (cache.put order limits admissible key weight value).contents) :
    item = (key, value) ∨ item ∈ cache.contents := by
  have kept (built : BoundedCache α β)
      (rest : item ∈ (makeRoom order limits weight
        (built.remove key).entries.length (built.remove key)).contents) :
      item ∈ built.contents :=
    mem_contents_remove (mem_contents_makeRoom order limits weight _ rest)
  unfold put at member
  simp only at member
  split at member
  · exact .inr member
  · split at member
    · exact .inr (kept { cache with builds := cache.builds + 1 } member)
    · rcases List.mem_cons.1 member with rfl | later
      · exact .inl rfl
      · have roomy : item ∈ (nextClock _).contents := later
        rw [contents_nextClock] at roomy
        exact .inr (kept { cache with builds := cache.builds + 1 } roomy)

/-! ## Bounds -/

/-- Whether there is an entry for a key. -/
def holds (cache : BoundedCache α β) (key : α) : Bool :=
  cache.entries.any fun entry => entry.1 = key

/--
Take out an entry that has to be there, and whose weight has to be counted:
nothing where the subtraction would saturate.
-/
def takeStrict (cache : BoundedCache α β) (key : α) : Option (BoundedCache α β) := do
  let found ← cache.entries.find? fun entry => entry.1 = key
  if cache.weight < found.2.weight then none else some (cache.remove key)

/-- Take out an entry if there is one. -/
def removeStrict (cache : BoundedCache α β) (key : α) : Option (BoundedCache α β) :=
  if cache.holds key then cache.takeStrict key else some cache

/-- `makeRoom`, or nothing if the loop still goes on after so many rounds. -/
def makeRoomStrict (order : HashOrder) (limits : CacheLimits)
    (weight : Nat) :
    Nat → BoundedCache α β → Option (BoundedCache α β)
  | rounds, cache =>
    if limits.entries ≤ cache.entries.length ∨ limits.weight < cache.weight + weight then
      match (order.list cache.entries).argmin fun entry => entry.2.lastUsed with
      | none => some cache
      | some oldest =>
        match rounds with
        | 0 => none
        | rounds + 1 => do
          let evicted ← cache.takeStrict oldest.1
          makeRoomStrict order limits weight rounds
            { evicted with evictions := evicted.evictions + 1 }
    else some cache

/-- What `put` does with a value once there is room. -/
def store (limits : CacheLimits) (cache : BoundedCache α β) (key : α)
    (weight : Nat) (value : β) : BoundedCache α β :=
  if limits.weight < cache.weight + weight then
    { cache with uncached := cache.uncached + 1 }
  else
    let ticked := cache.nextClock
    { ticked with
      weight := ticked.weight + weight
      entries := (key, ⟨value, weight, ticked.clock⟩) :: ticked.entries }

/-- `put`, or nothing where a step of it is not as it should be. -/
def putStrict (order : HashOrder) (limits : CacheLimits)
    (admissible : Bool) (cache : BoundedCache α β) (key : α)
    (weight : Nat) (value : β) : Option (BoundedCache α β) :=
  let built := { cache with builds := cache.builds + 1 }
  if !admissible || limits.weight < weight then some { built with uncached := built.uncached + 1 }
  else do
    let replaced ← built.removeStrict key
    let roomy ← makeRoomStrict order limits weight replaced.entries.length replaced
    some (roomy.store limits key weight value)

/-- Keys are unique and all weights are counted. -/
structure Counted (cache : BoundedCache α β) : Prop where
  unique : (cache.entries.map Prod.fst).Nodup
  total : cache.weight = (cache.entries.map fun entry => entry.2.weight).sum

/-- All is counted and within the limits. -/
structure Balanced (limits : CacheLimits) (cache : BoundedCache α β) :
    Prop extends Counted cache where
  light : cache.weight ≤ limits.weight
  few : cache.entries.length ≤ limits.entries

/-- There is room for another entry of this weight. -/
structure Roomy (limits : CacheLimits) (weight : Nat)
    (cache : BoundedCache α β) : Prop extends Counted cache where
  light : cache.weight + weight ≤ limits.weight
  few : cache.entries.length < limits.entries

omit [DecidableEq α] in
theorem balanced_empty (limits : CacheLimits) (clock : Nat) :
    Balanced limits ({ clock := clock } : BoundedCache α β) :=
  ⟨⟨List.nodup_nil, rfl⟩, Nat.zero_le _, Nat.zero_le _⟩

/-- The keys with their weights. -/
def loads (cache : BoundedCache α β) : List (α × Nat) :=
  cache.entries.map fun entry => (entry.1, entry.2.weight)

omit [DecidableEq α] in
theorem counted_iff :
    cache.Counted ↔
      (cache.loads.map Prod.fst).Nodup ∧ cache.weight = (cache.loads.map Prod.snd).sum := by
  simp only [loads, List.map_map, Function.comp_def]
  exact ⟨fun counted => ⟨counted.unique, counted.total⟩, fun counted => ⟨counted.1, counted.2⟩⟩

omit [DecidableEq α] in
theorem Balanced.of_loads
    {next : BoundedCache α β}
    (balanced : cache.Balanced limits) (loads : next.loads = cache.loads)
    (weight : next.weight = cache.weight) :
    next.Balanced limits := by
  have counted := counted_iff.1 balanced.toCounted
  have length := congrArg List.length loads
  simp only [BoundedCache.loads, List.length_map] at length
  rw [← loads, ← weight] at counted
  exact ⟨counted_iff.2 counted, weight ▸ balanced.light, length ▸ balanced.few⟩

omit [DecidableEq α] in
@[simp]
theorem loads_nextClock (cache : BoundedCache α β) : cache.nextClock.loads = cache.loads := by
  unfold nextClock loads
  simp only
  split
  · simp [Function.comp_def]
  · rfl

omit [DecidableEq α] in
@[simp]
theorem weight_nextClock (cache : BoundedCache α β) : cache.nextClock.weight = cache.weight := by
  unfold nextClock
  simp only
  split <;> rfl

/-- A lookup keeps the balance. -/
theorem Balanced.get
    (balanced : cache.Balanced limits) (key : α) :
    (cache.get key).2.Balanced limits := by
  refine balanced.of_loads ?_ ?_
  · rw [← loads_nextClock cache]
    unfold BoundedCache.get loads
    simp only
    split
    · rfl
    · simp only [List.map_map]
      apply List.map_congr_left
      intro entry _
      simp only [Function.comp]
      split <;> rfl
  · rw [← weight_nextClock cache]
    unfold BoundedCache.get
    simp only
    split <;> rfl

omit [DecidableEq α] in
theorem Balanced.invalidate : cache.invalidate.Balanced limits :=
  ⟨⟨List.nodup_nil, rfl⟩, Nat.zero_le _, Nat.zero_le _⟩

omit [DecidableEq α] in
theorem Balanced.fallback
    (balanced : cache.Balanced limits) :
    cache.fallback.Balanced limits :=
  balanced.of_loads rfl rfl

/-! ### Taking an entry out -/

/-- With unique keys, the entry found is the only one that is taken out. -/
theorem perm_of_find
    {entries : List (α × CacheEntry β)} {found : α × CacheEntry β}
    (unique : (entries.map Prod.fst).Nodup)
    (held : entries.find? (fun entry => entry.1 = key) = some found) :
    entries.Perm (found :: entries.filter fun entry => entry.1 ≠ key) := by
  induction entries with
  | nil => cases held
  | cons entry rest hypothesis =>
    rw [List.map_cons, List.nodup_cons] at unique
    by_cases here : entry.1 = key
    · rw [List.find?_cons_of_pos (by simpa using here)] at held
      cases held
      rw [List.filter_cons_of_neg (by simpa using here)]
      refine List.Perm.cons _ (List.Perm.of_eq ?_)
      symm
      rw [List.filter_eq_self]
      intro other listed
      rw [decide_eq_true_iff]
      rintro same
      rw [here, ← same] at unique
      exact unique.1 (List.mem_map_of_mem listed)
    · rw [List.find?_cons_of_neg (by simpa using here)] at held
      rw [List.filter_cons_of_pos (by simpa using here)]
      exact ((hypothesis unique.2 held).cons entry).trans (List.Perm.swap _ _ _)

/-- What is left, if all was counted, when an entry is taken out. -/
theorem Counted.take
    {cache : BoundedCache α β} (counted : cache.Counted) {key : α} (held : cache.holds key) :
    cache.takeStrict key = some (cache.remove key) ∧ (cache.remove key).Counted ∧
      (cache.remove key).entries.length + 1 = cache.entries.length := by
  obtain ⟨found, found?⟩ :=
    Option.isSome_iff_exists.1 (List.find?_isSome.2 (List.any_eq_true.1 held))
  have perm := perm_of_find counted.unique found?
  have weights := (perm.map fun entry => entry.2.weight).sum_eq
  rw [← counted.total, List.map_cons, List.sum_cons] at weights
  have removed :
      cache.remove key =
        { cache with
          entries := cache.entries.filter fun entry => entry.1 ≠ key
          weight := cache.weight - found.2.weight } := by
    rw [remove, found?]
  refine ⟨?_, ?_, ?_⟩
  · rw [takeStrict, found?, Option.bind_eq_bind, Option.bind_some, if_neg (by omega)]
  · rw [removed]
    refine ⟨?_, ?_⟩
    · exact counted.unique.sublist (List.filter_sublist.map _)
    · simp only
      omega
  · rw [removed, perm.length_eq, List.length_cons]

theorem remove_of_not_holds (absent : ¬cache.holds key) : cache.remove key = cache := by
  have none : cache.entries.find? (fun entry => entry.1 = key) = none := by
    rw [List.find?_eq_none]
    intro entry listed same
    exact absent (List.any_eq_true.2 ⟨entry, listed, same⟩)
  rw [remove, none]

theorem Counted.remove (counted : cache.Counted) (key : α) :
    cache.removeStrict key = some (cache.remove key) ∧ (cache.remove key).Counted := by
  rw [removeStrict]
  split_ifs with held
  · exact ⟨(counted.take held).1, (counted.take held).2.1⟩
  · rw [remove_of_not_holds held]
    exact ⟨rfl, counted⟩

theorem not_holds_remove (cache : BoundedCache α β) (key : α) : ¬(cache.remove key).holds key := by
  intro held
  obtain ⟨entry, listed, same⟩ := List.any_eq_true.1 held
  rw [decide_eq_true_iff] at same
  unfold remove at listed
  split at listed
  · rename_i absent
    exact List.find?_eq_none.1 absent entry listed (by simpa using same)
  · simpa [same] using (List.mem_filter.1 listed).2

/-! ### Making room -/

/-- While the loop goes on there is an entry, so the oldest can be found. -/
theorem Counted.oldest
    (order : HashOrder) (positive : 0 < limits.entries)
    (fits : weight ≤ limits.weight) (counted : cache.Counted)
    (full : limits.entries ≤ cache.entries.length ∨ limits.weight < cache.weight + weight) :
    ∃ oldest,
      (order.list cache.entries).argmin (fun entry => entry.2.lastUsed) = some oldest ∧
        cache.holds oldest.1 := by
  cases found : (order.list cache.entries).argmin fun entry => entry.2.lastUsed with
  | none =>
    have listed := List.argmin_eq_none.1 found
    have perm := order.perm cache.entries
    rw [listed] at perm
    have total := counted.total
    rw [List.nil_perm.1 perm] at total full
    simp only [List.map_nil, List.sum_nil, List.length_nil] at total full
    omega
  | some oldest =>
    refine ⟨oldest, rfl, ?_⟩
    have listed := (order.perm cache.entries).subset (List.argmin_mem found)
    exact List.any_eq_true.2 ⟨oldest, listed, decide_eq_true rfl⟩

/-- The loop ends, and there is room where it ends. -/
theorem Counted.makeRoom
    (order : HashOrder) (positive : 0 < limits.entries)
    (fits : weight ≤ limits.weight) {rounds : Nat} (counted : cache.Counted)
    (enough : cache.entries.length ≤ rounds) :
    (makeRoom order limits weight rounds cache).Roomy limits weight ∧
      makeRoomStrict order limits weight rounds cache =
        some (makeRoom order limits weight rounds cache) := by
  induction rounds generalizing cache with
  | zero =>
    have empty : cache.entries = [] := List.eq_nil_of_length_eq_zero (Nat.le_zero.1 enough)
    have total := counted.total
    rw [empty, List.map_nil, List.sum_nil] at total
    have room :
        ¬(limits.entries ≤ cache.entries.length ∨ limits.weight < cache.weight + weight) := by
      rw [empty, List.length_nil]
      omega
    rw [makeRoomStrict, if_neg room, BoundedCache.makeRoom]
    exact ⟨⟨counted, by omega, by omega⟩, rfl⟩
  | succ rounds hypothesis =>
    rw [makeRoomStrict, BoundedCache.makeRoom]
    split_ifs with full
    · obtain ⟨oldest, found, held⟩ := counted.oldest order positive fits full
      obtain ⟨strict, left, shorter⟩ := counted.take held
      rw [found]
      simp only [strict, Option.bind_eq_bind, Option.bind_some]
      exact hypothesis ⟨left.unique, left.total⟩ (by
        simp only
        omega)
    · exact ⟨⟨counted, by omega, by omega⟩, rfl⟩

/-- Making room puts no key back. -/
theorem not_holds_makeRoom
    (order : HashOrder) (limits : CacheLimits) (weight rounds : Nat)
    (absent : ¬cache.holds key) :
    ¬(makeRoom order limits weight rounds cache).holds key := by
  intro held
  obtain ⟨entry, listed, same⟩ := List.any_eq_true.1 held
  have kept := mem_contents_makeRoom order limits weight rounds
    (List.mem_map_of_mem (f := fun entry => (entry.1, entry.2.value)) listed)
  obtain ⟨before, beforeListed, equal⟩ := List.mem_map.1 kept
  refine absent (List.any_eq_true.2 ⟨before, beforeListed, ?_⟩)
  rw [Prod.mk.injEq] at equal
  rwa [equal.1]

/-! ### Putting a value -/

/-- What `put` comes to. -/
theorem put_eq
    (order : HashOrder) (limits : CacheLimits) (admissible : Bool)
    (cache : BoundedCache α β) (key : α) (weight : Nat) (value : β) :
    let built := { cache with builds := cache.builds + 1 }
    cache.put order limits admissible key weight value =
      if !admissible || limits.weight < weight then
        { built with uncached := built.uncached + 1 }
      else
        (makeRoom order limits weight (built.remove key).entries.length
          (built.remove key)).store limits key weight value :=
  rfl

/-- A value goes in where there is room for it. -/
theorem Roomy.store
    (roomy : cache.Roomy limits weight) (absent : ¬cache.holds key) (value : β) :
    (cache.store limits key weight value).Balanced limits ∧
      (cache.store limits key weight value).contents = (key, value) :: cache.contents := by
  have light := roomy.light
  have counted := counted_iff.1 roomy.toCounted
  have length : cache.nextClock.loads.length = cache.loads.length := by
    rw [loads_nextClock]
  simp only [loads, List.length_map] at length
  have missing : key ∉ cache.loads.map Prod.fst := by
    intro listed
    obtain ⟨load, held, rfl⟩ := List.mem_map.1 listed
    obtain ⟨entry, kept, rfl⟩ := List.mem_map.1 held
    exact absent (List.any_eq_true.2 ⟨entry, kept, decide_eq_true rfl⟩)
  rw [BoundedCache.store, if_neg (by omega)]
  refine ⟨⟨counted_iff.2 ⟨?_, ?_⟩, ?_, ?_⟩, ?_⟩
  · change (key :: cache.nextClock.loads.map Prod.fst).Nodup
    rw [loads_nextClock]
    exact List.nodup_cons.2 ⟨missing, counted.1⟩
  · change cache.nextClock.weight + weight = weight + (cache.nextClock.loads.map Prod.snd).sum
    rw [loads_nextClock, weight_nextClock, counted.2, Nat.add_comm]
  · simp only [weight_nextClock]
    exact light
  · simp only [List.length_cons, length]
    exact roomy.few
  · change _ :: cache.nextClock.contents = _
    rw [contents_nextClock]

section Putting

variable (order : HashOrder) {limits : CacheLimits}
  {cache : BoundedCache α β}

/--
Nothing goes wrong when a value is put into a balanced cache, which stays
balanced, and the value is there afterwards unless it is too large by itself.
-/
theorem Balanced.put
    (positive : 0 < limits.entries) (balanced : cache.Balanced limits)
    (admissible : Bool) (key : α) (weight : Nat) (value : β) :
    (cache.put order limits admissible key weight value).Balanced limits ∧
      cache.putStrict order limits admissible key weight value =
        some (cache.put order limits admissible key weight value) ∧
      ((!admissible || decide (limits.weight < weight)) = true ∨
        ((cache.put order limits admissible key weight value).get key).1 = some value) := by
  rw [put_eq, putStrict]
  simp only
  by_cases large : (!admissible || decide (limits.weight < weight)) = true
  · rw [if_pos large, if_pos large]
    exact ⟨balanced.of_loads rfl rfl, rfl, .inl large⟩
  rw [if_neg large, if_neg large]
  have fits : weight ≤ limits.weight := by
    simp only [Bool.or_eq_true, decide_eq_true_eq, not_or] at large
    omega
  have counted : Counted ({ cache with builds := cache.builds + 1 } : BoundedCache α β) :=
    ⟨balanced.unique, balanced.total⟩
  generalize ({ cache with builds := cache.builds + 1 } : BoundedCache α β) = built at counted ⊢
  obtain ⟨replaced, left⟩ := counted.remove key
  obtain ⟨roomy, strict⟩ :=
    left.makeRoom order positive fits le_rfl
  have absent :=
    not_holds_makeRoom order limits weight
      (built.remove key).entries.length (not_holds_remove built key)
  obtain ⟨stored, shows⟩ := roomy.store absent value
  rw [replaced, Option.bind_eq_bind, Option.bind_some, strict, Option.bind_some, get_eq, shows,
    List.find?_cons_of_pos (by simp)]
  exact ⟨stored, rfl, .inr rfl⟩

end Putting

end BoundedCache

end Tinyray.Foundation
