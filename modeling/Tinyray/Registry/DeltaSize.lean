import Tinyray.Proto.Decimal
import Tinyray.Proto.Packing
import Tinyray.Registry.Caching
import Tinyray.Registry.Publication

/-!
# The size of a delta

`buildDelta` estimates how many bytes its delta takes.  The estimate of a
member is the length of the JSON text of its state and a fixed allowance,
although the delta is sent as MessagePack.  The allowance is 190 bytes more
than the rest of a member can take.  At most 64 of them go into the headers of
long strings, so 126 are left for doubles whose text is shorter than nine
bytes.  A state with many short doubles is underestimated.
-/

namespace Tinyray

open Std Foundation

/-! ## The estimate of one delta -/

/-- The estimate covers the state. -/
def Record.Covered (record : Record) : Prop :=
  record.member.state.packed.length ≤ record.stateBytes + 190

theorem Record.Covered.length_packed_le
    {record : Record} (covered : record.Covered) :
    record.member.packed.length ≤ record.deltaBytes := by
  have member := record.member.length_packed_le
  unfold Record.Covered at covered
  unfold Record.deltaBytes
  omega

namespace Pool

/-- Saturated sums are not too small. -/
theorem min_le_foldl_addBytes
    {α : Type} (cost : α → Nat) (items : List α) (start : Nat) :
    min (start + (items.map cost).sum) (2 ^ 64 - 1) ≤
      items.foldl (fun total item => addBytes total (cost item)) start := by
  induction items generalizing start with
  | nil => exact Nat.min_le_left _ _
  | cons item rest hypothesis =>
    have later := hypothesis (addBytes start (cost item))
    rw [List.foldl_cons, List.map_cons, List.sum_cons]
    refine Nat.le_trans ?_ later
    unfold addBytes
    omega

/-- It does for every member. -/
def Covered (pool : Pool) : Prop :=
  ∀ (id : Nat) (record : Record), pool.members[id]? = some record → record.Covered

variable {pool : Pool}

theorem Covered.of_records
    (covered : pool.Covered) {order : IterationOrder}
    {record : Record} (listed : record ∈ pool.records order) :
    record.Covered := by
  obtain ⟨id, -, present⟩ := List.mem_filterMap.1 listed
  exact covered id record present

/-- What is estimated for one changed id. -/
def changeCost (pool : Pool) (id : Nat) : Nat := (pool.members[id]?.map Record.deltaBytes).getD 21

/-- The estimate covers all changes. -/
theorem Covered.sum_changes_le (covered : pool.Covered) (ids : List Nat) :
    ((ids.filterMap fun id => pool.members[id]?.map Record.member).map
          fun member => member.packed.length).sum +
        ((ids.filter fun id => pool.members[id]?.isNone).map fun _ => 9).sum ≤
      (ids.map pool.changeCost).sum := by
  induction ids with
  | nil => exact Nat.le_refl _
  | cons id rest hypothesis =>
    simp only [List.filterMap_cons, List.filter_cons, List.map_cons, List.sum_cons, changeCost]
    cases present : pool.members[id]? with
    | none =>
      simp only [Option.map_none, Option.isNone_none, if_true,
        List.map_cons, List.sum_cons, Option.getD_none]
      omega
    | some record =>
      have paid := (covered id record present).length_packed_le
      simp only [Option.map_some, Option.isNone_some,
        Bool.false_eq_true, if_false, List.map_cons, List.sum_cons, Option.getD_some]
      omega

theorem addBytes_changeCost (pool : Pool) (total id : Nat) :
    addBytes total (pool.changeCost id) = match pool.members[id]? with
      | some record => addBytes total record.deltaBytes
      | none => addBytes total 21 := by
  unfold changeCost
  cases pool.members[id]? <;> rfl

/-- It covers the whole delta. -/
theorem Covered.length_buildDelta_le
    (covered : pool.Covered) (order : IterationOrder) (since : Option Nat) :
    min (pool.buildDelta order since).1.packed.length (2 ^ 64 - 1) ≤
      (pool.buildDelta order since).2 := by
  have packed := (pool.buildDelta order since).1.length_packed_le
  cases since with
  | none =>
    have estimate := min_le_foldl_addBytes Record.deltaBytes
      (pool.records order)
      (256 + pool.policy.utf8ByteSize * 6 +
        (pool.methods.map fun name => name.utf8ByteSize * 6 + 3).sum)
    have members :
        (((pool.records order).map Record.member).map
          fun member => member.packed.length).sum ≤
          ((pool.records order).map Record.deltaBytes).sum := by
      rw [List.map_map]
      exact List.sum_le_sum fun record listed => (covered.of_records listed).length_packed_le
    refine Nat.le_trans ?_ estimate
    simp only [buildDelta, List.map_nil, List.sum_nil] at packed ⊢
    omega
  | some cursor =>
    have estimate := min_le_foldl_addBytes pool.changeCost
      (pool.changedIds cursor)
      (256 + pool.policy.utf8ByteSize * 6 +
        (pool.methods.map fun name => name.utf8ByteSize * 6 + 3).sum)
    have changes := covered.sum_changes_le (pool.changedIds cursor)
    simp only [addBytes_changeCost] at estimate
    refine Nat.le_trans ?_ estimate
    simp only [buildDelta] at packed ⊢
    omega

/-! ## Which steps keep records covered -/

section

variable {pool : Pool} (covered : pool.Covered) (now ttl : Nat)
  {beat : Beat} {stateBytes : Nat}
  (paid : beat.state.packed.length ≤ stateBytes + 190)

include covered paid

/-- A new record is covered. -/
theorem Covered.seated : (pool.seated now ttl beat stateBytes).Covered := by
  unfold Pool.seated
  cases present : pool.members[beat.id]? with
  | none => exact paid
  | some record =>
    have before := covered beat.id record present
    simp only
    split
    · unfold renewed
      split
      · split
        · exact paid
        · exact before
      · exact before
    · exact paid

theorem Covered.settled : (pool.settled now ttl beat stateBytes).Covered := by
  intro id record present
  change
    (if beat.leaving then pool.members.erase beat.id
      else pool.members.insert beat.id (pool.seated now ttl beat stateBytes))[id]? =
      some record at present
  split_ifs at present
  · exact covered id record (getElem?_erase_cases present).2
  · rcases getElem?_insert_cases present with ⟨-, rfl⟩ | ⟨-, present⟩
    · exact covered.seated now ttl paid
    · exact covered id record present

/-- A beat keeps the pool covered. -/
theorem Covered.receive : (pool.receive now ttl beat stateBytes).pool.Covered := by
  have shapedCovered {shaped : Pool} (ok : pool.shape beat = .ok shaped) : shaped.Covered := by
    intro id record present
    rw [(shape_ok_fields ok).2.2.1] at present
    exact covered id record present
  rcases receive_cases pool now ttl beat stateBytes with
    ⟨why, _, exit⟩ | ⟨shaped, ok, _, exit⟩ | ⟨shaped, ok, _, exit⟩
  · rw [exit]
    exact covered
  · rw [exit]
    exact shapedCovered ok
  · have settled := (shapedCovered ok).settled now ttl paid
    have enrolled : (shaped.enroll now ttl beat stateBytes).1.Covered := by
      rw [enroll_eq]
      split
      · exact settled
      · exact settled
    rw [exit]
    unfold raise
    split
    · exact enrolled
    · exact enrolled

end

theorem Covered.sweep
    (covered : pool.Covered) (order : IterationOrder) (now : Nat) (alive : Bell → Bool) :
    (pool.sweep order now alive).Covered := by
  intro id record present
  rw [sweep_record, Option.filter_eq_some_iff] at present
  exact covered id record present.1

/-! ## The cache -/

/-- The cache counts enough. -/
def CacheCovered (pool : Pool) : Prop :=
  ∀ entry ∈ pool.cache.entries, min entry.delta.packed.length (2 ^ 64 - 1) ≤ entry.bytes

theorem CacheCovered.of_kept_or_cleared
    {next : Pool} (covered : pool.CacheCovered)
    (cache : next.cache = pool.cache ∨ next.cache = {}) :
    next.CacheCovered := by
  unfold CacheCovered
  rcases cache with kept | cleared
  · rw [kept]
    exact covered
  · rw [cleared]
    simp

/-- Answering keeps the cache covered. -/
theorem CacheCovered.delta
    (cached : pool.CacheCovered) (covered : pool.Covered)
    (order : IterationOrder) (seen : Option Nat) :
    (pool.delta order seen).2.CacheCovered := by
  unfold Pool.delta
  split_ifs
  · exact cached
  · split
    · exact cached
    · intro entry listed
      rcases DeltaCache.mem_of_mem_insert listed with old | rfl
      · exact cached entry old
      · exact covered.length_buildDelta_le order (pool.since seen)

theorem delta_members
    (pool : Pool) (order : IterationOrder) (seen : Option Nat) :
    (pool.delta order seen).2.members = pool.members := by
  unfold Pool.delta
  split_ifs
  · rfl
  · split <;> rfl

theorem length_packed_le_of_admissible [FloatFormat]
    {beat : Beat} {stateBytes : Nat} (modest : beat.state.shortfall ≤ 126)
    (admitted : Registry.admissible beat = some stateBytes) :
    beat.state.packed.length ≤ stateBytes + 190 := by
  have packed := beat.state.length_packed_le
  unfold Registry.admissible serializedLen at admitted
  split_ifs at admitted with _ fits
  cases admitted
  unfold maxState at fits
  omega

/-- Covered pools stay covered. -/
theorem steady_covered [FloatFormat] :
    Registry.SteadyUnder (fun beat => beat.state.shortfall ≤ 126)
      fun pool => pool.Covered ∧ pool.CacheCovered where
  empty := by
    constructor
    · intro id record present
      simp at present
    · intro entry listed
      cases listed
  receive := by
    rintro pool now ttl beat stateBytes modest admitted ⟨covered, cached⟩
    exact
      ⟨covered.receive now ttl (length_packed_le_of_admissible modest admitted),
        cached.of_kept_or_cleared (receive_cache pool now ttl beat stateBytes)⟩
  sweep := by
    rintro pool order now alive ⟨covered, cached⟩
    exact ⟨covered.sweep order now alive, cached.of_kept_or_cleared (foldl_expire_cache _ _)⟩
  delta := by
    rintro pool order seen ⟨covered, cached⟩
    refine ⟨?_, cached.delta covered order seen⟩
    intro id record present
    rw [delta_members] at present
    exact covered id record present
  waiters := fun _ covered => covered

end Pool

/--
If the doubles of every published state lack at most 126 bytes, then in every
state that a registry gets into each estimate is at least the length of its
delta, and the cached deltas together are no longer than the budget.
-/
theorem delta_estimate_conservative [FloatFormat]
    (ttl nanos : Nat) (events : List Event)
    (modest : ∀ now order beat, Event.beat now order beat ∈ events → beat.state.shortfall ≤ 126)
    (name : String) :
    let pool := ((Registry.new ttl nanos).run events).pool name
    (∀ order since, let built := pool.buildDelta order since
        built.1.packed.length < 2 ^ 64 → built.1.packed.length ≤ built.2) ∧
      (pool.cache.entries.map fun entry => entry.delta.packed.length).sum ≤ cacheBytes := by
  intro pool
  obtain ⟨covered, cached⟩ : pool.Covered ∧ pool.CacheCovered :=
    Registry.Everywhere.getD
      (Pool.steady_covered.run (Registry.everywhere_new _ ttl nanos) modest)
      Pool.steady_covered.empty name
  have bounded : pool.CacheBounded :=
    Registry.Everywhere.getD
      (Pool.steady_cacheBounded.run (Registry.everywhere_new Pool.CacheBounded ttl nanos) events)
      Pool.steady_cacheBounded.empty name
  constructor
  · intro order since built countable
    have estimate := covered.length_buildDelta_le order since
    change min built.1.packed.length _ ≤ built.2 at estimate
    omega
  · refine Nat.le_trans (List.sum_le_sum ?_) (bounded.total ▸ bounded.light)
    intro entry listed
    have counted := List.le_sum_of_mem (List.mem_map_of_mem (f := Cached.bytes) listed)
    have light := bounded.light
    have estimate := cached entry listed
    rw [bounded.total] at light
    unfold cacheBytes at light
    omega

section

attribute [local instance] FloatPrinter.plain

/-- A member that publishes so many zeros, as doubles. -/
private def zeros (count : Nat) : Event :=
  .beat 0 (fun _ => .ascending)
    { pool := "p", id := 1, incarnation := 1
      state := .object [("a", .array (List.replicate count (.number (.float ⟨0, by decide⟩))))] }

/-- A hundred doubles of three characters take more than is estimated. -/
theorem zeros_outgrow_estimate :
    let pool := ((Registry.new 1 1).run [zeros 100]).pool "p"
    let built := pool.buildDelta .ascending none
    built.2 < built.1.packed.length := by
  decide +kernel

theorem delta_estimate_conservative_for_zeros :
    let pool := ((Registry.new 1 1).run [zeros 20]).pool "p"
    let built := pool.buildDelta .ascending none
    built.1.packed.length ≤ built.2 := by
  refine (delta_estimate_conservative 1 1 [zeros 20] ?_ "p").1 .ascending none ?_
  · intro now order beat listed
    cases List.mem_singleton.1 listed
    decide +kernel
  · decide +kernel

end

end Tinyray
