import Tinyray.Membership.FilterIndex
import Tinyray.Membership.Frozen

/-!
# Lookups in a copy

A lookup in a pool goes through what earlier lookups have left behind: sorted
ids, an index of seats, frozen members, encoded snapshots, a digest, and an
index of filters that evicts.  `LookupPool` is a copy with all of them.

`BarePool` is what these stand for: the member map as the deltas make it,
scanned from the lowest id for each question.  Whatever was asked before, and
whatever the filter index has evicted, both give the same answers.
-/

namespace Tinyray

open Std Foundation

/-- Encoded members and their fingerprint. -/
abbrev SerializedMembers := List UInt8 × BitVec 64

/-- Members, encoded. -/
def encodeMembers (encode : List Member → List UInt8)
    (members : List Member) : SerializedMembers :=
  (encode members, members.foldl (fun roster member => roster ^^^ member.rosterHash) 0)

/-! ## The plain scan -/

/-- A pool as the deltas describe it. -/
structure BarePool where
  version : Nat := 0
  roster : BitVec 64 := 0
  methods : List String := []
  size : Option Nat := none
  members : ExtTreeMap Nat Member := ∅

namespace BarePool

/-- The copy after a delta. -/
def apply (bare : BarePool) (delta : PoolDelta) : BarePool where
  version := delta.version
  roster := delta.roster
  methods := delta.methods
  size := delta.size
  members :=
    delta.removed.foldl (fun members id => members.erase id)
      (delta.changed.foldl
        (fun members member => members.insert member.id member)
        (if delta.full then ∅ else bare.members))

/-- Who a filter is about, if only ready members are wanted or all. -/
def wanted (filter : Value) (requireReady : Bool) (member : Member) : Bool :=
  (!requireReady || member.ready) && member.matches filter

/-- The wanted members from the lowest id. -/
def selected (bare : BarePool) (filter : Value) (requireReady : Bool) : List (Nat × Member) :=
  bare.members.toList.filter fun entry => wanted filter requireReady entry.2

/-- A filter that finds everyone. -/
def everyone : Value := .null

/-- The ids in order. -/
def ids (bare : BarePool) (requireReady : Bool) : List Nat :=
  (bare.selected everyone requireReady).map Prod.fst

/-- How many match a filter. -/
def count (bare : BarePool) (filter : Value) (requireReady : Bool) : Nat :=
  (bare.selected filter requireReady).length

/-- The members that match, copied. -/
def filtered (bare : BarePool) (filter : Value) (requireReady : Bool) : FrozenPool where
  members := FrozenMembers.new ((bare.selected filter requireReady).map Prod.snd)
  roster := bare.roster
  version := bare.version
  size := bare.size
  methods := bare.methods

/-- The member with the lowest id in a seat. -/
def slot (bare : BarePool) (slot : Nat) (requireReady : Bool) : Option Member :=
  ((bare.selected everyone requireReady).find? fun entry => entry.2.slot == some slot).map Prod.snd

/-- The members, encoded. -/
def serialized (encode : List Member → List UInt8) (bare : BarePool)
    (requireReady : Bool) : SerializedMembers :=
  encodeMembers encode ((bare.selected everyone requireReady).map Prod.snd)

/-- Chosen fields of every member. -/
def fieldDigest (bare : BarePool) (fields : List String) : Digest :=
  (bare.selected everyone false).map fun entry =>
    (entry.2.id, entry.2.incarnation, fields.map entry.2.field)

end BarePool

/-! ## A copy with everything it remembers -/

/-- A source of random numbers: what it will draw, and how often it has. -/
structure Rng where
  draws : Nat → Nat
  drawn : Nat := 0

/-- A number below the bound. -/
def Rng.usize (rng : Rng) (bound : Nat) : Nat × Rng :=
  (rng.draws rng.drawn % bound, { rng with drawn := rng.drawn + 1 })

/-- `SNAPSHOT_BYTES` -/
def snapshotBytes : Nat := 1024 * 1024

/-- A copy with all its caches. -/
structure LookupPool where
  view : PoolView := {}
  /-- The encoded members, of all and of those that are ready. -/
  snapshot : Option SerializedMembers := none
  snapshotReady : Option SerializedMembers := none
  filterIndex : FilterIndexCache := {}

/-- A filter that is no object, or an empty one. -/
def Value.isUnfiltered : Value → Bool
  | .object fields => fields.isEmpty
  | _ => true

namespace LookupPool

/-- `CachedPool::apply` -/
def apply (pool : LookupPool) (delta : PoolDelta) : LookupPool :=
  if delta.full || !delta.changed.isEmpty || !delta.removed.isEmpty then
    { view := pool.view.apply delta
      filterIndex := pool.filterIndex.invalidate }
  else { pool with view := pool.view.apply delta }

/-- `CachedPool::ids` -/
def ids (pool : LookupPool) (requireReady : Bool) : List Nat × LookupPool :=
  let read := pool.view.readIds requireReady
  (read.1, { pool with view := read.2 })

/-- `CachedPool::frozen` -/
def frozen (pool : LookupPool) (requireReady : Bool) : FrozenPool × LookupPool :=
  let read := pool.view.readFrozen requireReady
  (read.1, { pool with view := read.2 })

/-- `CachedPool::field_digest` -/
def fieldDigest (pool : LookupPool) (fields : List String) : Digest × LookupPool :=
  let read := pool.view.readDigest fields
  (read.1, { pool with view := read.2 })

/-- `CachedPool::scan_ids` -/
def scanIds (pool : LookupPool) (filter : Value) (requireReady : Bool) : List Nat × LookupPool :=
  let read := pool.ids requireReady
  (read.1.filter fun id => pool.view.copy.members[id]?.any fun member => member.matches filter,
    read.2)

section Indexed

variable (order : HashOrder)

/-- Look for a key in the index. -/
def lookFor (pool : LookupPool) (key : IndexedFilterKey) : Option (List Nat) × LookupPool :=
  let found := pool.filterIndex.get key
  (found.1, { pool with filterIndex := found.2 })

/-- Scan for a filter that was not found and put the ids into the index. -/
def build (pool : LookupPool) (filter : Value) (requireReady : Bool)
    (key : IndexedFilterKey) (keyBytes : Nat) : List Nat × LookupPool :=
  let scanned := pool.scanIds filter requireReady
  (scanned.1,
    { scanned.2 with filterIndex := scanned.2.filterIndex.insert order key keyBytes scanned.1 })

/-- `CachedPool::matching_ids` -/
def matchingIds (pool : LookupPool) (filter : Value)
    (requireReady : Bool) : Option (List Nat) × LookupPool :=
  match IndexedFilterKey.fromFilter filter requireReady with
  | none => (none, { pool with filterIndex := pool.filterIndex.fallback })
  | some (key, keyBytes) =>
    let looked := pool.lookFor key
    match looked.1 with
    | some ids => (some ids, looked.2)
    | none =>
      let built := looked.2.build order filter requireReady key keyBytes
      (some built.1, built.2)

/-- The members as the hash table hands them out. -/
def values (pool : LookupPool) : List Member :=
  order.list (pool.view.copy.members.toList.map Prod.snd)

/-- `CachedPool::count` -/
def count (pool : LookupPool) (filter : Value) (requireReady : Bool) : Nat × LookupPool :=
  if filter.isUnfiltered then
    let read := pool.ids requireReady
    (read.1.length, read.2)
  else
    let found := pool.matchingIds order filter requireReady
    match found.1 with
    | some ids => (ids.length, found.2)
    | none =>
      (((found.2.values order).filter fun member =>
          (!requireReady || member.ready) && member.matches filter).length,
        found.2)

/-- A copy of some members. -/
def freeze (pool : LookupPool) (ids : List Nat) : FrozenPool where
  members := pool.view.copy.makeNative ids
  roster := pool.view.copy.roster
  version := pool.view.copy.version
  size := pool.view.copy.size
  methods := pool.view.copy.methods

/-- `CachedPool::filtered` -/
def filtered (pool : LookupPool) (filter : Value) (requireReady : Bool) : FrozenPool × LookupPool :=
  if filter.isUnfiltered then pool.frozen requireReady
  else
    let found := pool.matchingIds order filter requireReady
    match found.1 with
    | some ids => (found.2.freeze ids, found.2)
    | none =>
      let scanned := found.2.scanIds filter requireReady
      (scanned.2.freeze scanned.1, scanned.2)

/-- One of these, at random. -/
def pick (pool : LookupPool) (ids : List Nat) (rng : Rng) : Option Member × Rng :=
  if ids.isEmpty then (none, rng)
  else
    let drawn := rng.usize ids.length
    (ids[drawn.1]?.bind fun id => pool.view.copy.members[id]?, drawn.2)

/-- Keep the `n`th wanted member with one chance in `n`. -/
def sample (wanted : Member → Bool) : List Member → Option Member → Nat → Rng → Option Member × Rng
  | [], chosen, _, rng => (chosen, rng)
  | member :: rest, chosen, count, rng =>
    if wanted member then
      let drawn := rng.usize (count + 1)
      sample wanted rest (if drawn.1 = 0 then some member else chosen) (count + 1) drawn.2
    else sample wanted rest chosen count rng

/-- `CachedPool::choose` -/
def choose (pool : LookupPool) (filter : Value) (requireReady : Bool)
    (rng : Rng) : (Option Member × Rng) × LookupPool :=
  if filter.isUnfiltered then
    let read := pool.ids requireReady
    (read.2.pick read.1 rng, read.2)
  else
    let found := pool.matchingIds order filter requireReady
    match found.1 with
    | some ids => (found.2.pick ids rng, found.2)
    | none =>
      (sample
          (fun member => (!requireReady || member.ready) && member.matches filter)
          (found.2.values order) none 0 rng,
        found.2)

/-- The same code again, for callers that keep the member. -/
def chooseArc (pool : LookupPool) (filter : Value) (requireReady : Bool)
    (rng : Rng) : (Option Member × Rng) × LookupPool :=
  pool.choose order filter requireReady rng

end Indexed

/-- `CachedPool::slot` -/
def slot (pool : LookupPool) (slot : Nat) (requireReady : Bool) : Option Member :=
  pool.view.copy.slots[slot]?.bind fun ids =>
    ids.toList.findSome? fun id =>
      pool.view.copy.members[id]?.filter fun member => !requireReady || member.ready

/-- `CachedPool::serialized` -/
def serialized (encode : List Member → List UInt8) (pool : LookupPool)
    (requireReady : Bool) : SerializedMembers × LookupPool :=
  match if requireReady then pool.snapshotReady else pool.snapshot with
  | some cached => (cached, pool)
  | none =>
    let read := pool.ids requireReady
    let encoded := encodeMembers encode (read.1.filterMap fun id => read.2.view.copy.members[id]?)
    (encoded,
      if encoded.1.length ≤ snapshotBytes then
        if requireReady then
          { read.2 with snapshotReady := some encoded }
        else { read.2 with snapshot := some encoded }
      else read.2)

end LookupPool

/-! ## A copy and its members -/

namespace BarePool

variable {filter : Value} {left right : BarePool}

theorem getElem?_of_mem_selected
    {bare : BarePool} {requireReady : Bool} {entry : Nat × Member}
    (member : entry ∈ bare.selected filter requireReady) :
    bare.members[entry.1]? = some entry.2 :=
  ExtTreeMap.mem_toList_iff_getElem?_eq_some.1 (List.mem_of_mem_filter member)

theorem wanted_everyone (requireReady : Bool) (member : Member) :
    wanted everyone requireReady member = (!requireReady || member.ready) :=
  Bool.and_true _

theorem wanted_of_isUnfiltered
    (unfiltered : filter.isUnfiltered = true) (requireReady : Bool) (member : Member) :
    wanted filter requireReady member = wanted everyone requireReady member := by
  cases filter with
  | object fields =>
    cases List.isEmpty_iff.1 unfiltered
    rfl
  | _ => rfl

theorem selected_of_isUnfiltered
    (unfiltered : filter.isUnfiltered = true) (bare : BarePool) (requireReady : Bool) :
    bare.selected filter requireReady = bare.selected everyone requireReady := by
  unfold selected
  simp only [wanted_of_isUnfiltered unfiltered]

theorem selected_of_members
    (same : left.members = right.members) (filter : Value) (requireReady : Bool) :
    left.selected filter requireReady = right.selected filter requireReady := by
  unfold selected
  rw [same]

theorem serialized_of_members
    (same : left.members = right.members)
    (encode : List Member → List UInt8) (requireReady : Bool) :
    left.serialized encode requireReady = right.serialized encode requireReady := by
  unfold serialized
  rw [selected_of_members same]

theorem filterMap_selected
    (bare : BarePool) (filter : Value) (requireReady : Bool) :
    ((bare.selected filter requireReady).map Prod.fst).filterMap (fun id => bare.members[id]?) =
      (bare.selected filter requireReady).map Prod.snd :=
  filterMap_map_fst fun _ member => getElem?_of_mem_selected member

end BarePool

namespace CachedPool

/-- The copy without its indexes. -/
def bare (cached : CachedPool) : BarePool where
  version := cached.version
  roster := cached.roster
  methods := cached.methods
  size := cached.size
  members := cached.members

theorem bare_apply (cached : CachedPool) (delta : PoolDelta) :
    (cached.apply delta).bare = cached.bare.apply delta := by
  have members := apply_members cached delta
  unfold bare BarePool.apply
  rw [members]
  rfl

theorem bare_of_plain
    {left right : CachedPool} (same : left.plain = right.plain) :
    left.bare = right.bare := by
  have bares := congrArg CachedPool.bare same
  exact bares

theorem listed_eq (cached : CachedPool) (requireReady : Bool) :
    cached.listed requireReady = cached.bare.ids requireReady := by
  unfold listed BarePool.ids BarePool.selected
  simp only [BarePool.wanted_everyone]
  cases requireReady with
  | true => exact keys_filter cached.members Member.ready
  | false =>
    simp only [Bool.false_eq_true, if_false, Bool.not_false, Bool.true_or, List.filter_true]
    exact ExtTreeMap.map_fst_toList_eq_keys.symm

/-- Filtering ids is selecting members. -/
theorem filter_listed
    (cached : CachedPool) (filter : Value) (requireReady : Bool) :
    ((cached.listed requireReady).filter fun id =>
        cached.members[id]?.any fun member => member.matches filter) =
      (cached.bare.selected filter requireReady).map Prod.fst := by
  rw [listed_eq, BarePool.ids, List.filter_map, BarePool.selected, List.filter_filter]
  unfold BarePool.selected
  congr 1
  apply List.filter_congr
  rintro ⟨id, member⟩ listed
  rw [ExtTreeMap.mem_toList_iff_getElem?_eq_some] at listed
  change cached.members[id]? = some member at listed
  rw [Function.comp_apply, BarePool.wanted_everyone, BarePool.wanted, listed, Option.any_some]
  exact Bool.and_comm _ _

theorem makeNative_selected
    (cached : CachedPool) (filter : Value) (requireReady : Bool) :
    cached.makeNative ((cached.bare.selected filter requireReady).map Prod.fst) =
      (cached.bare.filtered filter requireReady).members :=
  congrArg FrozenMembers.new (cached.bare.filterMap_selected filter requireReady)

theorem frozen_eq (cached : CachedPool) (requireReady : Bool) :
    cached.frozen requireReady = cached.bare.filtered BarePool.everyone requireReady := by
  unfold frozen
  rw [listed_eq, BarePool.ids, makeNative_selected]
  rfl

theorem fieldDigest_eq (cached : CachedPool) (fields : List String) :
    cached.fieldDigest fields = cached.bare.fieldDigest fields := by
  unfold fieldDigest digestOf BarePool.fieldDigest
  rw [listed_eq, BarePool.ids]
  have members := cached.bare.filterMap_selected BarePool.everyone false
  change List.filterMap (fun id => cached.members[id]?) _ = _ at members
  rw [members, List.map_map]
  rfl

/-! ## The index of seats -/

/-- The ids in a slot. -/
def seated (cached : CachedPool) (slot : Nat) : ExtTreeSet Nat := cached.slots.getD slot ∅

/-- The index has each member under its seat and nobody else. -/
def SlotIndexed (cached : CachedPool) : Prop :=
  ∀ slot id : Nat, id ∈ cached.seated slot ↔ cached.members[id]?.bind Member.slot = some slot

theorem seated_eq (cached : CachedPool) (slot : Nat) :
    cached.seated slot = cached.slots[slot]?.getD ∅ :=
  ExtTreeMap.getD_eq_getD_getElem?

/-- A slot after a member left it. -/
theorem seated_unindex (cached : CachedPool) (slot id other : Nat) :
    (cached.unindex slot id).seated other = if slot = other then (cached.seated slot).erase id
      else cached.seated other := by
  simp only [seated_eq]
  unfold unindex
  cases held : cached.slots[slot]? with
  | none =>
    split_ifs with same
    · subst same
      simp [held]
    · rfl
  | some ids =>
    simp only [Option.getD_some]
    split_ifs with vacated same same
    · subst same
      rw [ExtTreeSet.isEmpty_iff] at vacated
      simp [vacated]
    · rw [ExtTreeMap.getElem?_erase, if_neg fun equal => same (LawfulEqCmp.eq_of_compare equal)]
    · subst same
      simp
    · rw [getElem?_insert_ne same]

theorem seated_index (cached : CachedPool) (slot id other : Nat) :
    (cached.index slot id).seated other = if slot = other then (cached.seated slot).insert id
      else cached.seated other := by
  simp only [seated_eq]
  unfold index
  split_ifs with same
  · subst same
    simp [ExtTreeMap.getD_eq_getD_getElem?]
  · rw [getElem?_insert_ne same]

theorem mem_seated_unindex (cached : CachedPool) (slot id other held : Nat) :
    held ∈ (cached.unindex slot id).seated other ↔
      held ∈ cached.seated other ∧ ¬(slot = other ∧ id = held) := by
  rw [seated_unindex]
  split_ifs with same
  · subst same
    simp [and_comm]
  · simp [same]

theorem mem_seated_index (cached : CachedPool) (slot id other held : Nat) :
    held ∈ (cached.index slot id).seated other ↔
      held ∈ cached.seated other ∨ (slot = other ∧ id = held) := by
  rw [seated_index]
  split_ifs with same
  · subst same
    simp [or_comm]
  · simp [same]

/-- Who is in a slot after a change. -/
theorem mem_seated_upsert (progress : Applying) (member : Member)
    (slot id : Nat) :
    id ∈ (upsert progress member).cached.seated slot ↔
      if progress.cached.members[member.id]?.bind Member.slot = member.slot then
        id ∈ progress.cached.seated slot
      else
        (id ∈ progress.cached.seated slot ∧
            ¬(progress.cached.members[member.id]?.bind Member.slot = some slot ∧ member.id = id)) ∨
          (member.slot = some slot ∧ member.id = id) := by
  have written (cached : CachedPool) (members : ExtTreeMap Nat Member) :
      { cached with members := members }.seated slot = cached.seated slot :=
    rfl
  unfold upsert
  simp only
  by_cases stays : progress.cached.members[member.id]?.bind Member.slot = member.slot
  · simp only [stays, ne_eq, not_true_eq_false, if_false, if_true]
    rw [written]
  · simp only [stays, ne_eq, not_false_eq_true, if_true, if_false]
    cases progress.cached.members[member.id]?.bind Member.slot <;>
      cases member.slot <;>
      simp [mem_seated_unindex, mem_seated_index, written]

variable {progress : Applying} {cached : CachedPool}

/-- A change keeps the slots indexed. -/
theorem upsert_slotIndexed
    (indexed : progress.cached.SlotIndexed) (member : Member) :
    (upsert progress member).cached.SlotIndexed := by
  intro slot id
  have before := indexed slot id
  rw [mem_seated_upsert, upsert_members]
  by_cases same : member.id = id
  · subst same
    rw [ExtTreeMap.getElem?_insert_self, before, Option.bind_some]
    split_ifs with stays
    · rw [stays]
    · simp only [and_true, and_not_self, false_or]
  · rw [getElem?_insert_ne same, before]
    simp only [same, and_false, not_false_eq_true, and_true, or_false, ite_self]

/-- A departure does, too. -/
theorem drop_slotIndexed
    (indexed : progress.cached.SlotIndexed) (id : Nat) :
    (drop progress id).cached.SlotIndexed := by
  intro slot other
  have before := indexed slot other
  have members : (drop progress id).cached.members = progress.cached.members.erase id :=
    remove_members progress.cached id
  -- whoever is removed was under its own seat only
  have seated :
      other ∈ (drop progress id).cached.seated slot ↔
        other ∈ progress.cached.seated slot ∧ id ≠ other := by
    change other ∈ (progress.cached.remove id).1.seated slot ↔ _
    unfold remove
    cases held : progress.cached.members[id]? with
    | none =>
      simp only
      constructor
      · intro listed
        refine ⟨listed, ?_⟩
        rintro rfl
        rw [before, held] at listed
        cases listed
      · exact fun listed => listed.1
    | some member =>
      have written (members : ExtTreeMap Nat Member) :
          { progress.cached with members := members }.seated slot = progress.cached.seated slot :=
        rfl
      simp only
      cases seat : member.slot with
      | none =>
        simp only [written]
        constructor
        · intro listed
          refine ⟨listed, ?_⟩
          rintro rfl
          rw [before, held, Option.bind_some, seat] at listed
          cases listed
        · exact fun listed => listed.1
      | some taken =>
        simp only [mem_seated_unindex, written]
        refine and_congr_right fun listed => not_congr ?_
        constructor
        · exact fun same => same.2
        · rintro rfl
          rw [before, held, Option.bind_some, seat] at listed
          exact ⟨Option.some.inj listed, rfl⟩
  rw [seated, members, before]
  by_cases same : id = other
  · subst same
    simp
  · rw [ExtTreeMap.getElem?_erase, if_neg fun equal => same (LawfulEqCmp.eq_of_compare equal)]
    simp [same]

/-- A delta keeps the slots indexed. -/
theorem apply_slotIndexed
    (indexed : cached.SlotIndexed) (delta : PoolDelta) :
    (cached.apply delta).SlotIndexed := by
  refine List.foldlRecOn delta.removed drop
    (motive := fun progress => progress.cached.SlotIndexed) ?_ ?_
  · refine List.foldlRecOn delta.changed upsert
      (motive := fun progress => progress.cached.SlotIndexed) ?_ ?_
    · cases delta.full with
      | true =>
        intro slot id
        simp [seated]
      | false => exact indexed
    · exact fun progress held member _ => upsert_slotIndexed held member
  · exact fun progress held id _ => drop_slotIndexed held id

/-- A slot's ids, in order. -/
theorem toList_seated (indexed : cached.SlotIndexed) (slot : Nat) :
    (cached.seated slot).toList =
      (cached.members.toList.filter fun entry => entry.2.slot == some slot).map Prod.fst := by
  have ascending {ids : List Nat}
      (ordered : ids.Pairwise fun left right => compare left right = .lt) :
      ids.Pairwise (· < ·) :=
    ordered.imp fun below => Nat.compare_eq_lt.1 below
  rw [← keys_filter cached.members fun member => member.slot == some slot]
  apply List.Pairwise.eq_of_mem_iff (r := (· < ·))
  · exact ascending ExtTreeSet.ordered_toList
  · exact (ascending ExtTreeMap.ordered_keys).filter _
  · intro id
    rw [ExtTreeSet.mem_toList, indexed slot id, List.mem_filter, ExtTreeMap.mem_keys]
    cases held : cached.members[id]? with
    | none => simp
    | some member =>
      have known : id ∈ cached.members := by
        rw [ExtTreeMap.mem_iff_isSome_getElem?, held]
        rfl
      simp [known]

end CachedPool

namespace LookupPool

/-- Looking ids up is searching members. -/
theorem findSome?_map_fst
    {members : ExtTreeMap Nat Member} {listed : List (Nat × Member)}
    (held : ∀ entry ∈ listed, members[entry.1]? = some entry.2) (suits : Member → Bool) :
    ((listed.map Prod.fst).findSome? fun id => members[id]?.filter suits) =
      (listed.find? fun entry => suits entry.2).map Prod.snd := by
  induction listed with
  | nil => rfl
  | cons entry rest hypothesis =>
    have first := held entry List.mem_cons_self
    have later := hypothesis fun other member => held other (List.mem_cons_of_mem _ member)
    rw [List.map_cons, List.findSome?_cons, List.find?_cons, first]
    cases fits : suits entry.2 with
    | true => simp [Option.filter, fits]
    | false => simpa [Option.filter, fits] using later

variable {pool : LookupPool}

/-- A slot's index is a search. -/
theorem findSome?_seated
    (indexed : pool.view.copy.SlotIndexed) (slot : Nat) (suits : Member → Bool) :
    (pool.view.copy.slots[slot]?.bind fun ids =>
        ids.toList.findSome? fun id => pool.view.copy.members[id]?.filter suits) =
      (pool.view.copy.members.toList.map Prod.snd).find? fun member =>
        member.slot == some slot && suits member := by
  have found :
      (pool.view.copy.slots[slot]?.bind fun ids =>
          ids.toList.findSome? fun id => pool.view.copy.members[id]?.filter suits) =
        (pool.view.copy.seated slot).toList.findSome? fun id =>
          pool.view.copy.members[id]?.filter suits := by
    rw [CachedPool.seated_eq]
    cases pool.view.copy.slots[slot]? with
    | none =>
      have nobody : (∅ : ExtTreeSet Nat).toList = [] := ExtTreeSet.toList_eq_nil_iff.2 rfl
      rw [Option.getD_none, nobody]
      rfl
    | some ids => rfl
  rw [found, CachedPool.toList_seated indexed slot, findSome?_map_fst]
  · rw [List.find?_filter, List.find?_map]
    congr 2
    funext entry
    rw [Bool.eq_iff_iff]
    simp
  · intro entry member
    exact ExtTreeMap.mem_toList_iff_getElem?_eq_some.1 (List.mem_of_mem_filter member)

/-- `slot` finds what a scan finds. -/
theorem slot_eq
    (indexed : pool.view.copy.SlotIndexed) (slot : Nat) (requireReady : Bool) :
    pool.slot slot requireReady = pool.view.copy.bare.slot slot requireReady := by
  have seated := findSome?_seated indexed slot fun member => !requireReady || member.ready
  unfold LookupPool.slot
  rw [seated, List.find?_map]
  unfold BarePool.slot BarePool.selected
  rw [List.find?_filter]
  simp only [BarePool.wanted_everyone]
  congr 2
  funext entry
  rw [Bool.eq_iff_iff]
  simp [and_comm]

end LookupPool

end Tinyray
