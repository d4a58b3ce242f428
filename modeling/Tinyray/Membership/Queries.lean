import Tinyray.Membership.Lookup

/-!
# Lookups are plain scans

Every lookup gives what a scan of the bare member map gives, whatever deltas
and lookups came before.  `Sound` says that all a pool remembers is what a
scan would give now; a delta and each lookup keep it, by one lemma each, and
the answer of the lookup is part of that lemma.
-/

namespace Tinyray

open Std Foundation

namespace LookupPool

/-! ## Drawing lots -/

/-- Filtering first draws the same. -/
theorem sample_filter
    (wanted : Member → Bool) (members : List Member)
    (chosen : Option Member) (count : Nat) (rng : Rng) :
    sample wanted members chosen count rng =
      sample (fun _ => true) (members.filter wanted) chosen count rng := by
  induction members generalizing chosen count rng with
  | nil => rfl
  | cons member rest hypothesis =>
    rw [sample, List.filter_cons]
    split_ifs with fits
    · rw [sample, if_pos rfl]
      exact hypothesis _ _ _
    · exact hypothesis _ _ _

variable {members : List Member} {chosen : Option Member} {rng : Rng}
  {pool : LookupPool}
  {member : Member} {listed : List (Nat × Member)} {view : PoolView}

/-- What is drawn was there. -/
theorem mem_of_sample
    {count : Nat} (drawn : (sample (fun _ => true) members chosen count rng).1 = some member) :
    chosen = some member ∨ member ∈ members := by
  induction members generalizing chosen count rng with
  | nil => exact .inl drawn
  | cons first rest hypothesis =>
    rw [sample, if_pos rfl] at drawn
    rcases hypothesis drawn with kept | later
    · split_ifs at kept
      · cases kept
        exact .inr List.mem_cons_self
      · exact .inl kept
    · exact .inr (List.mem_cons_of_mem _ later)

theorem isSome_sample
    {count : Nat} (held : chosen.isSome = true) :
    (sample (fun _ => true) members chosen count rng).1.isSome = true := by
  induction members generalizing chosen count rng with
  | nil => exact held
  | cons first rest hypothesis =>
    rw [sample, if_pos rfl]
    apply hypothesis
    split_ifs
    · rfl
    · exact held

/-- Nothing is drawn only from nothing. -/
theorem sample_eq_none_iff (members : List Member) (rng : Rng) :
    (sample (fun _ => true) members none 0 rng).1 = none ↔ members = [] := by
  cases members with
  | nil => simp [sample]
  | cons first rest =>
    have held : (sample (fun _ => true) (first :: rest) none 0 rng).1.isSome = true := by
      rw [sample, if_pos rfl]
      apply isSome_sample
      simp [Rng.usize, Nat.mod_one]
    rw [← Option.not_isSome_iff_eq_none, held]
    simp

/-- Ones keep the first choice. -/
theorem sample_of_ones
    {count : Nat} (positive : 0 < count)
    (ones : ∀ index, rng.drawn ≤ index → rng.draws index = 1) :
    (sample (fun _ => true) members chosen count rng).1 = chosen := by
  induction members generalizing count rng with
  | nil => rfl
  | cons first rest hypothesis =>
    have one : (rng.usize (count + 1)).1 = 1 := by
      change rng.draws rng.drawn % (count + 1) = 1
      rw [ones _ (Nat.le_refl _), Nat.mod_eq_of_lt (by omega)]
    rw [sample, if_pos rfl]
    simp only [one, Nat.one_ne_zero, if_false]
    apply hypothesis (Nat.succ_pos _)
    intro index later
    exact ones index (Nat.le_of_succ_le later)

/-- Zeros, then ones, choose a member. -/
theorem sample_of_zeros
    {before after : List Member} {count : Nat}
    (zeros : ∀ index, rng.drawn ≤ index → index ≤ rng.drawn + before.length → rng.draws index = 0)
    (ones : ∀ index, rng.drawn + before.length < index → rng.draws index = 1) :
    (sample (fun _ => true) (before ++ member :: after) chosen count rng).1 = some member := by
  induction before generalizing chosen count rng with
  | nil =>
    have zero : (rng.usize (count + 1)).1 = 0 := by
      change rng.draws rng.drawn % (count + 1) = 0
      rw [zeros _ (Nat.le_refl _) (Nat.le_refl _), Nat.zero_mod]
    rw [List.nil_append, sample, if_pos rfl]
    simp only [zero, if_true]
    exact sample_of_ones (Nat.succ_pos _) fun index later => ones index later
  | cons first rest hypothesis =>
    rw [List.cons_append, sample, if_pos rfl]
    apply hypothesis
    · intro index later within
      change rng.drawn + 1 ≤ index at later
      change index ≤ rng.drawn + 1 + rest.length at within
      exact zeros index (by omega) (by rw [List.length_cons]; omega)
    · intro index later
      change rng.drawn + 1 + rest.length < index at later
      exact ones index (by rw [List.length_cons]; omega)

/-- The lots fall on these members: on any of them, and on one if any. -/
structure DrawsFrom (outcome : Rng → Option Member)
    (members : List Member) : Prop where
  none_iff : ∀ rng, outcome rng = none ↔ members = []
  some_iff : ∀ member, (∃ rng, outcome rng = some member) ↔ member ∈ members

theorem DrawsFrom.of_perm
    {outcome : Rng → Option Member} {listed : List Member}
    (draws : DrawsFrom outcome members) (perm : members.Perm listed) :
    DrawsFrom outcome listed := by
  constructor
  · intro rng
    rw [draws.none_iff, ← List.length_eq_zero_iff, perm.length_eq, List.length_eq_zero_iff]
  · intro member
    rw [draws.some_iff, perm.mem_iff]

/-- Every match can be drawn. -/
theorem sample_draws (wanted : Member → Bool) (members : List Member) :
    DrawsFrom (fun rng => (sample wanted members none 0 rng).1) (members.filter wanted) := by
  have seen := sample_filter wanted members none 0
  simp only [seen]
  refine ⟨fun rng => sample_eq_none_iff _ rng, ?_⟩
  intro member
  constructor
  · rintro ⟨rng, drawn⟩
    rcases mem_of_sample drawn with nobody | listed
    · cases nobody
    · exact listed
  · intro listed
    rcases List.append_of_mem listed with ⟨before, after, split⟩
    rw [split]
    refine ⟨{ draws := fun index => if index ≤ before.length then 0 else 1 }, sample_of_zeros ?_ ?_⟩
    · intro index _ within
      exact if_pos (by simpa using within)
    · intro index later
      exact if_neg (by simpa using later)

/-- Which member is picked. -/
theorem pick_eq
    (held : ∀ entry ∈ listed, pool.view.copy.members[entry.1]? = some entry.2) (rng : Rng) :
    (pool.pick (listed.map Prod.fst) rng).1 =
      listed[rng.draws rng.drawn % listed.length]?.map Prod.snd := by
  unfold pick
  cases listed with
  | nil => rfl
  | cons first rest =>
    simp only [List.length_map, Rng.usize, List.getElem?_map, Option.bind_map]
    cases found : (first :: rest)[rng.draws rng.drawn % (first :: rest).length]? with
    | none => rfl
    | some entry => exact held entry (List.mem_of_getElem? found)

/-- Every listed member can be picked. -/
theorem pick_draws
    (held : ∀ entry ∈ listed, pool.view.copy.members[entry.1]? = some entry.2) :
    DrawsFrom (fun rng => (pool.pick (listed.map Prod.fst) rng).1) (listed.map Prod.snd) := by
  simp only [pick_eq held]
  constructor
  · intro rng
    rw [Option.map_eq_none_iff, List.getElem?_eq_none_iff,
      List.map_eq_nil_iff, ← List.length_eq_zero_iff]
    have within := Nat.mod_lt (rng.draws rng.drawn) (y := listed.length)
    omega
  · intro member
    rw [List.mem_map]
    constructor
    · rintro ⟨rng, drawn⟩
      rcases Option.map_eq_some_iff.1 drawn with ⟨entry, found, rfl⟩
      exact ⟨entry, List.mem_of_getElem? found, rfl⟩
    · rintro ⟨entry, member, rfl⟩
      rcases List.mem_iff_getElem?.1 member with ⟨index, found⟩
      have within : index < listed.length := (List.getElem?_eq_some_iff.1 found).1
      refine ⟨{ draws := fun _ => index }, ?_⟩
      simp only [Nat.mod_eq_of_lt within, found]
      rfl

/-! ## What is remembered -/

/-- The copy without its caches. -/
abbrev bare (pool : LookupPool) : BarePool := pool.view.copy.bare

variable (encode : List Member → List UInt8)

/-- Everything that is remembered is what a plain scan would give now. -/
structure Sound (pool : LookupPool) : Prop where
  view : pool.view.Sound
  slots : pool.view.copy.SlotIndexed
  snapshot : ∀ memo, pool.snapshot = some memo → memo = pool.bare.serialized encode false
  snapshotReady : ∀ memo, pool.snapshotReady = some memo → memo = pool.bare.serialized encode true
  filters :
    ∀ key ids, (key, ids) ∈ pool.filterIndex.contents →
      ∀ filter requireReady bytes,
        IndexedFilterKey.fromFilter filter requireReady = some (key, bytes) →
          ids = (pool.bare.selected filter requireReady).map Prod.fst

/-- A lookup may remember more, but it leaves the members alone. -/
structure Kept (pool next : LookupPool) : Prop where
  sound : next.Sound encode
  bare : next.bare = pool.bare

variable {encode}

theorem Kept.refl (sound : pool.Sound encode) : Kept encode pool pool := ⟨sound, rfl⟩

theorem Kept.trans
    {first second third : LookupPool} (left : Kept encode first second)
    (right : Kept encode second third) :
    Kept encode first third :=
  ⟨right.sound, right.bare.trans left.bare⟩

theorem empty_sound : Sound encode {} := by
  refine ⟨PoolView.empty_sound, ?_, ?_, ?_, ?_⟩
  · intro slot id
    simp [CachedPool.seated]
  · simp
  · simp
  · intro key ids member
    cases member

/-- Only the members matter. -/
theorem Sound.replace
    (sound : pool.Sound encode) (viewSound : view.Sound) (indexed : view.copy.SlotIndexed)
    (members : view.copy.members = pool.view.copy.members) :
    Sound encode { pool with view := view } := by
  have same : pool.bare.members = view.copy.bare.members := members.symm
  refine ⟨viewSound, indexed, ?_, ?_, ?_⟩
  · intro memo held
    rw [sound.snapshot memo held]
    exact BarePool.serialized_of_members same encode false
  · intro memo held
    rw [sound.snapshotReady memo held]
    exact BarePool.serialized_of_members same encode true
  · intro key ids member filter requireReady bytes made
    rw [sound.filters key ids member filter requireReady bytes made,
      BarePool.selected_of_members same]

theorem Sound.reread
    (sound : pool.Sound encode) (viewSound : view.Sound)
    (same : view.copy.plain = pool.view.copy.plain) :
    Kept encode pool { pool with view := view } := by
  have indexed : pool.view.copy.plain.SlotIndexed := sound.slots
  have members := congrArg CachedPool.members same
  rw [← same] at indexed
  exact ⟨sound.replace viewSound indexed members, CachedPool.bare_of_plain same⟩

/-- A delta keeps the caches sound. -/
theorem Sound.apply
    {pool : LookupPool} (sound : pool.Sound encode) (delta : PoolDelta) :
    (pool.apply delta).Sound encode ∧ (pool.apply delta).bare = pool.bare.apply delta := by
  have viewSound := sound.view.apply delta
  have copied : (pool.view.apply delta).copy = pool.view.copy.apply delta := by
    unfold PoolView.apply
    split <;> rfl
  have indexed : (pool.view.apply delta).copy.SlotIndexed := by
    rw [copied]
    exact CachedPool.apply_slotIndexed sound.slots delta
  have bare : (pool.view.apply delta).copy.bare = pool.bare.apply delta := by
    rw [copied]
    exact CachedPool.bare_apply _ delta
  unfold LookupPool.apply
  split_ifs with named
  · refine ⟨⟨viewSound, indexed, ?_, ?_, ?_⟩, bare⟩
    · simp
    · simp
    · intro key ids member
      cases member
  · -- a delta that names nobody leaves what is remembered valid
    simp only [Bool.or_eq_true, not_or, Bool.not_eq_true,
      Bool.not_eq_true', Bool.not_eq_false, List.isEmpty_iff] at named
    rcases named with ⟨⟨notFull, noChanges⟩, noRemovals⟩
    refine ⟨sound.replace viewSound indexed ?_, bare⟩
    rw [copied]
    exact CachedPool.apply_members_of_silent notFull noChanges noRemovals _

theorem Sound.ids (sound : pool.Sound encode) (requireReady : Bool) :
    (pool.ids requireReady).1 = pool.bare.ids requireReady ∧
      Kept encode pool (pool.ids requireReady).2 := by
  constructor
  · exact (sound.view.memoised.readIds_eq requireReady).trans (CachedPool.listed_eq _ _)
  · exact sound.reread (sound.view.readIds requireReady) (CachedPool.readIds_plain _ _)

theorem Sound.frozen (sound : pool.Sound encode) (requireReady : Bool) :
    (pool.frozen requireReady).1 = pool.bare.filtered BarePool.everyone requireReady ∧
      Kept encode pool (pool.frozen requireReady).2 := by
  constructor
  · exact (sound.view.readFrozen_eq requireReady).trans (CachedPool.frozen_eq _ _)
  · exact sound.reread (sound.view.readNative requireReady).2 (PoolView.readNative_plain _ _)

theorem Sound.fieldDigest
    (sound : pool.Sound encode) (fields : List String) :
    (pool.fieldDigest fields).1 = pool.bare.fieldDigest fields ∧
      Kept encode pool (pool.fieldDigest fields).2 := by
  constructor
  · exact (sound.view.readDigest fields).1.trans (CachedPool.fieldDigest_eq _ _)
  · exact sound.reread (sound.view.readDigest fields).2 (PoolView.readDigest_plain _ _)

theorem Sound.reindex
    (sound : pool.Sound encode) {filterIndex : FilterIndexCache}
    (shown :
      ∀ key ids, (key, ids) ∈ filterIndex.contents → (key, ids) ∈ pool.filterIndex.contents) :
    Kept encode pool { pool with filterIndex := filterIndex } :=
  ⟨⟨sound.view, sound.slots, sound.snapshot, sound.snapshotReady,
      fun key ids member => sound.filters key ids (shown key ids member)⟩,
    rfl⟩

theorem Sound.scanIds
    (sound : pool.Sound encode) (filter : Value) (requireReady : Bool) :
    (pool.scanIds filter requireReady).1 = (pool.bare.selected filter requireReady).map Prod.fst ∧
      Kept encode pool (pool.scanIds filter requireReady).2 := by
  refine ⟨?_, (sound.ids requireReady).2⟩
  have listed : (pool.ids requireReady).1 = pool.view.copy.listed requireReady :=
    sound.view.memoised.readIds_eq requireReady
  unfold LookupPool.scanIds
  simp only [listed]
  exact CachedPool.filter_listed _ _ _

theorem selected_of_key
    {left right : Value} {leftReady rightReady : Bool}
    {key : IndexedFilterKey} {leftBytes rightBytes : Nat}
    (leftMade : IndexedFilterKey.fromFilter left leftReady = some (key, leftBytes))
    (rightMade : IndexedFilterKey.fromFilter right rightReady = some (key, rightBytes))
    (bare : BarePool) :
    bare.selected left leftReady = bare.selected right rightReady := by
  rcases IndexedFilterKey.matches_of_key leftMade rightMade with ⟨rfl, finds⟩
  unfold BarePool.selected BarePool.wanted
  simp only [finds]

theorem Sound.lookFor
    (sound : pool.Sound encode) (key : IndexedFilterKey) :
    Kept encode pool (pool.lookFor key).2 := by
  apply sound.reindex
  intro other ids member
  rwa [BoundedCache.contents_get] at member

section Indexed

variable (order : HashOrder)
  {pool : LookupPool}

/-- A new entry of the index is right. -/
theorem Sound.build
    (sound : pool.Sound encode) {filter : Value}
    {requireReady : Bool} {key : IndexedFilterKey} {keyBytes : Nat}
    (made : IndexedFilterKey.fromFilter filter requireReady = some (key, keyBytes)) :
    (pool.build order filter requireReady key keyBytes).1 =
        (pool.bare.selected filter requireReady).map Prod.fst ∧
      Kept encode pool (pool.build order filter requireReady key keyBytes).2 := by
  rcases sound.scanIds filter requireReady with ⟨ids, scanned, bare⟩
  refine ⟨ids, ⟨?_, bare⟩⟩
  refine ⟨scanned.view, scanned.slots, scanned.snapshot, scanned.snapshotReady, ?_⟩
  intro other listed member wanted ready bytes wantedMade
  rcases BoundedCache.mem_contents_put member with new | old
  · cases new
    rw [ids, selected_of_key made wantedMade]
    exact congrArg (fun bare => (BarePool.selected bare wanted ready).map _) bare.symm
  · exact scanned.filters other listed old wanted ready bytes wantedMade

/-- The index finds what a scan finds. -/
theorem Sound.matchingIds
    (sound : pool.Sound encode) (filter : Value) (requireReady : Bool) :
    (∀ ids, (pool.matchingIds order filter requireReady).1 = some ids →
        ids = (pool.bare.selected filter requireReady).map Prod.fst) ∧
      Kept encode pool (pool.matchingIds order filter requireReady).2 := by
  unfold LookupPool.matchingIds
  cases made : IndexedFilterKey.fromFilter filter requireReady with
  | none =>
    refine ⟨by simp, sound.reindex ?_⟩
    exact fun key ids member => member
  | some keyed =>
    obtain ⟨key, keyBytes⟩ := keyed
    have looked := sound.lookFor key
    simp only
    cases found : (pool.lookFor key).1 with
    | some ids =>
      refine ⟨?_, looked⟩
      rintro _ ⟨⟩
      exact sound.filters key ids (BoundedCache.mem_contents_of_get found) _ _ _ made
    | none =>
      rcases looked.sound.build order made with ⟨ids, built⟩
      refine ⟨?_, looked.trans built⟩
      rintro _ ⟨⟩
      rw [ids, looked.bare]

/-- Scanning the map in any order. -/
theorem filter_values
    (pool : LookupPool) (filter : Value) (requireReady : Bool) :
    ((pool.values order).filter fun member =>
        (!requireReady || member.ready) && member.matches filter).Perm
      ((pool.bare.selected filter requireReady).map Prod.snd) := by
  have listed :
      (pool.bare.selected filter requireReady).map Prod.snd =
        (pool.view.copy.members.toList.map Prod.snd).filter
          (BarePool.wanted filter requireReady) := by
    rw [List.filter_map]
    rfl
  rw [listed]
  exact (order.perm _).filter _

/-- The count is right. -/
theorem Sound.count
    (sound : pool.Sound encode) (filter : Value) (requireReady : Bool) :
    (pool.count order filter requireReady).1 = pool.bare.count filter requireReady ∧
      Kept encode pool (pool.count order filter requireReady).2 := by
  unfold LookupPool.count BarePool.count
  split_ifs with unfiltered
  · rcases sound.ids requireReady with ⟨ids, kept⟩
    refine ⟨?_, kept⟩
    rw [BarePool.selected_of_isUnfiltered unfiltered]
    simp only [ids, BarePool.ids, List.length_map]
  · rcases sound.matchingIds order filter requireReady with ⟨ids, kept⟩
    simp only
    cases found : (pool.matchingIds order filter requireReady).1 with
    | some listed =>
      refine ⟨?_, kept⟩
      simp only [ids listed found, List.length_map]
    | none =>
      refine ⟨?_, kept⟩
      simp only [(filter_values order _ filter requireReady).length_eq, List.length_map, kept.bare]

theorem freeze_eq (pool : LookupPool) (filter : Value)
    (requireReady : Bool) :
    pool.freeze ((pool.bare.selected filter requireReady).map Prod.fst) =
      pool.bare.filtered filter requireReady := by
  unfold freeze
  rw [CachedPool.makeNative_selected]
  rfl

/-- The filtered members are right. -/
theorem Sound.filtered
    (sound : pool.Sound encode) (filter : Value) (requireReady : Bool) :
    (pool.filtered order filter requireReady).1 = pool.bare.filtered filter requireReady ∧
      Kept encode pool (pool.filtered order filter requireReady).2 := by
  unfold LookupPool.filtered
  split_ifs with unfiltered
  · rcases sound.frozen requireReady with ⟨frozen, kept⟩
    refine ⟨?_, kept⟩
    rw [frozen]
    unfold BarePool.filtered
    rw [BarePool.selected_of_isUnfiltered unfiltered]
  · rcases sound.matchingIds order filter requireReady with ⟨ids, kept⟩
    simp only
    cases found : (pool.matchingIds order filter requireReady).1 with
    | some listed =>
      refine ⟨?_, kept⟩
      simp only [ids listed found]
      rw [← kept.bare, freeze_eq]
    | none =>
      rcases kept.sound.scanIds filter requireReady with ⟨scannedIds, scanned⟩
      have all := kept.trans scanned
      refine ⟨?_, all⟩
      simp only [scannedIds]
      rw [← scanned.bare, freeze_eq, all.bare]

/-- The choice is among the matches. -/
theorem Sound.choose
    (sound : pool.Sound encode) (filter : Value) (requireReady : Bool) :
    DrawsFrom
        (fun rng => (pool.choose order filter requireReady rng).1.1)
        ((pool.bare.selected filter requireReady).map Prod.snd) ∧
      ∀ rng, Kept encode pool (pool.choose order filter requireReady rng).2 := by
  unfold LookupPool.choose
  split_ifs with unfiltered
  · rcases sound.ids requireReady with ⟨ids, kept⟩
    refine ⟨?_, fun _ => kept⟩
    rw [BarePool.selected_of_isUnfiltered unfiltered, ← kept.bare]
    simp only [ids, BarePool.ids, ← kept.bare]
    exact pick_draws fun _ => BarePool.getElem?_of_mem_selected
  · rcases sound.matchingIds order filter requireReady with ⟨ids, kept⟩
    simp only
    cases found : (pool.matchingIds order filter requireReady).1 with
    | some listed =>
      refine ⟨?_, fun _ => kept⟩
      simp only [ids listed found, ← kept.bare]
      exact pick_draws fun _ => BarePool.getElem?_of_mem_selected
    | none =>
      refine ⟨(sample_draws _ _).of_perm ?_, fun _ => kept⟩
      rw [← kept.bare]
      exact filter_values order _ filter requireReady

end Indexed

/-- The encoded members are right. -/
theorem Sound.serialized (sound : pool.Sound encode) (requireReady : Bool) :
    (pool.serialized encode requireReady).1 = pool.bare.serialized encode requireReady ∧
      Kept encode pool (pool.serialized encode requireReady).2 := by
  rcases sound.ids requireReady with ⟨ids, kept⟩
  have fresh :
      encodeMembers encode
          ((pool.ids requireReady).1.filterMap fun id =>
            (pool.ids requireReady).2.view.copy.members[id]?) =
        pool.bare.serialized encode requireReady := by
    rw [ids, ← kept.bare]
    exact congrArg (encodeMembers encode)
      ((pool.ids requireReady).2.bare.filterMap_selected BarePool.everyone requireReady)
  unfold LookupPool.serialized
  cases requireReady with
  | false =>
    simp only [Bool.false_eq_true, if_false]
    cases memo : pool.snapshot with
    | some cached => exact ⟨sound.snapshot cached memo, .refl sound⟩
    | none =>
      refine ⟨fresh, ?_⟩
      simp only
      split_ifs
      · refine ⟨⟨kept.sound.view, kept.sound.slots, ?_,
          kept.sound.snapshotReady, kept.sound.filters⟩, kept.bare⟩
        rintro _ ⟨⟩
        exact fresh.trans (by rw [← kept.bare])
      · exact kept
  | true =>
    simp only [if_true]
    cases memo : pool.snapshotReady with
    | some cached => exact ⟨sound.snapshotReady cached memo, .refl sound⟩
    | none =>
      refine ⟨fresh, ?_⟩
      simp only
      split_ifs
      · refine ⟨⟨kept.sound.view, kept.sound.slots,
          kept.sound.snapshot, ?_, kept.sound.filters⟩, kept.bare⟩
        rintro _ ⟨⟩
        exact fresh.trans (by rw [← kept.bare])
      · exact kept

/-! ## Any history of deltas and lookups -/

/--
What happens to a pool in a client's cache.  Readers share a pool, so one of
them may look for a filter, and store it only after others have done so.
-/
inductive Use where
  | apply (delta : PoolDelta)
  | ids (requireReady : Bool)
  | frozen (requireReady : Bool)
  | fieldDigest (fields : List String)
  | serialized (requireReady : Bool)
  | count (filter : Value) (requireReady : Bool)
  | filtered (filter : Value) (requireReady : Bool)
  | choose (filter : Value) (requireReady : Bool) (rng : Rng)
  | look (filter : Value) (requireReady : Bool)
  | build (filter : Value) (requireReady : Bool)
  | clearFilterIndex

/-- The delta of a use. -/
def Use.delta? : Use → Option PoolDelta
  | .apply delta => some delta
  | _ => none

/-- The pool after a use. -/
def use (order : HashOrder) (encode : List Member → List UInt8)
    (pool : LookupPool) : Use → LookupPool
  | .apply delta => pool.apply delta
  | .ids requireReady => (pool.ids requireReady).2
  | .frozen requireReady => (pool.frozen requireReady).2
  | .fieldDigest fields => (pool.fieldDigest fields).2
  | .serialized requireReady => (pool.serialized encode requireReady).2
  | .count filter requireReady => (pool.count order filter requireReady).2
  | .filtered filter requireReady => (pool.filtered order filter requireReady).2
  | .choose filter requireReady rng => (pool.choose order filter requireReady rng).2
  | .look filter requireReady =>
    match IndexedFilterKey.fromFilter filter requireReady with
    | some (key, _) => (pool.lookFor key).2
    | none => pool
  | .build filter requireReady =>
    match IndexedFilterKey.fromFilter filter requireReady with
    | some (key, keyBytes) => (pool.build order filter requireReady key keyBytes).2
    | none => pool
  | .clearFilterIndex =>
    { pool with filterIndex := pool.filterIndex.invalidate }

/-- Each use keeps the caches sound. -/
theorem Sound.use
    (order : HashOrder) (sound : pool.Sound encode) (use : Use) :
    (pool.use order encode use).Sound encode ∧
      (pool.use order encode use).bare = (use.delta?.map pool.bare.apply).getD pool.bare := by
  have kept {next : LookupPool} (kept : Kept encode pool next) :
      next.Sound encode ∧ next.bare = pool.bare :=
    ⟨kept.sound, kept.bare⟩
  cases use with
  | apply delta => exact sound.apply delta
  | ids requireReady => exact kept (sound.ids requireReady).2
  | frozen requireReady => exact kept (sound.frozen requireReady).2
  | fieldDigest fields => exact kept (sound.fieldDigest fields).2
  | serialized requireReady => exact kept (sound.serialized requireReady).2
  | count filter requireReady =>
    exact kept (sound.count order filter requireReady).2
  | filtered filter requireReady =>
    exact kept (sound.filtered order filter requireReady).2
  | choose filter requireReady rng =>
    exact kept ((sound.choose order filter requireReady).2 rng)
  | look filter requireReady =>
    rw [LookupPool.use]
    cases IndexedFilterKey.fromFilter filter requireReady with
    | none => exact kept (.refl sound)
    | some keyed => exact kept (sound.lookFor keyed.1)
  | build filter requireReady =>
    rw [LookupPool.use]
    cases made : IndexedFilterKey.fromFilter filter requireReady with
    | none => exact kept (.refl sound)
    | some keyed => exact kept (sound.build order made).2
  | clearFilterIndex =>
    refine kept (sound.reindex ?_)
    intro key ids member
    cases member

/-- All uses do, in any order. -/
theorem Sound.uses
    {order : HashOrder} (sound : pool.Sound encode) (uses : List Use) :
    (uses.foldl (LookupPool.use order encode) pool).Sound encode ∧
      (uses.foldl (LookupPool.use order encode) pool).bare =
        (uses.filterMap Use.delta?).foldl BarePool.apply pool.bare := by
  induction uses generalizing pool with
  | nil => exact ⟨sound, rfl⟩
  | cons first rest hypothesis =>
    rcases sound.use order first with ⟨next, bare⟩
    rcases hypothesis next with ⟨last, reached⟩
    refine ⟨last, ?_⟩
    rw [List.foldl_cons, reached, bare]
    cases delta : first.delta? with
    | none =>
      rw [List.filterMap_cons_none delta]
      rfl
    | some delta' =>
      rw [List.filterMap_cons_some delta]
      rfl

end LookupPool

namespace BarePool

/-- Every member is under its own id. -/
def Keyed (bare : BarePool) : Prop :=
  ∀ (id : Nat) (member : Member), bare.members[id]? = some member → member.id = id

variable {property : Nat → Member → Prop}

/-- What holds of members after a delta. -/
theorem forall_members_apply
    {bare : BarePool} {delta : PoolDelta}
    (held : ∀ (id : Nat) (member : Member), bare.members[id]? = some member → property id member)
    (brought : ∀ member ∈ delta.changed, property member.id member) (id : Nat) (member : Member)
    (found : (bare.apply delta).members[id]? = some member) :
    property id member := by
  revert id member
  refine List.foldlRecOn delta.removed _
    (motive := fun members : ExtTreeMap Nat Member =>
      ∀ (id : Nat) (member : Member), members[id]? = some member → property id member) ?_ ?_
  · refine List.foldlRecOn delta.changed _
      (motive := fun members : ExtTreeMap Nat Member =>
        ∀ (id : Nat) (member : Member), members[id]? = some member → property id member) ?_ ?_
    · cases delta.full with
      | true => simp
      | false => exact held
    · intro members held changed listed id member found
      rcases getElem?_insert_cases found with ⟨rfl, rfl⟩ | ⟨-, found⟩
      · exact brought changed listed
      · exact held id member found
  · intro members held removed _ id member found
    exact held id member (getElem?_erase_cases found).2

/-- The same after many deltas. -/
theorem forall_members_of_deltas
    {deltas : List PoolDelta}
    (brought : ∀ delta ∈ deltas, ∀ member ∈ delta.changed, property member.id member)
    (id : Nat) (member : Member) (found : (deltas.foldl apply {}).members[id]? = some member) :
    property id member := by
  revert id member
  refine List.foldlRecOn deltas apply
    (motive := fun bare : BarePool =>
      ∀ (id : Nat) (member : Member), bare.members[id]? = some member → property id member) ?_ ?_
  · intro id member found
    simp at found
  · exact fun bare held delta listed => forall_members_apply held (brought delta listed)

theorem keyed_of_deltas (deltas : List PoolDelta) : (deltas.foldl apply {}).Keyed :=
  forall_members_of_deltas fun _ _ _ _ => rfl

theorem selected_ascending
    (bare : BarePool) (filter : Value) (requireReady : Bool) :
    ((bare.selected filter requireReady).map Prod.fst).Pairwise (· < ·) := by
  rw [List.pairwise_map]
  refine List.Pairwise.filter _ ?_
  exact ExtTreeMap.ordered_keys_toList.imp fun below => Nat.compare_eq_lt.1 below

/-- The selected ids ascend. -/
theorem selected_ids_ascending
    {bare : BarePool} (keyed : bare.Keyed) (filter : Value) (requireReady : Bool) :
    ((bare.selected filter requireReady).map Prod.snd).Pairwise
      fun left right => left.id < right.id := by
  have ascending := bare.selected_ascending filter requireReady
  rw [List.pairwise_map] at ascending ⊢
  refine List.Pairwise.imp_of_mem ?_ ascending
  intro left right leftListed rightListed below
  rw [keyed _ _ (getElem?_of_mem_selected leftListed),
    keyed _ _ (getElem?_of_mem_selected rightListed)]
  exact below

theorem filtered_members
    {bare : BarePool} (keyed : bare.Keyed) (filter : Value) (requireReady : Bool) :
    (bare.filtered filter requireReady).members.members =
      (bare.selected filter requireReady).map Prod.snd := by
  unfold filtered
  rw [FrozenMembers.new_members]
  apply List.Pairwise.insertionSort_eq
  exact (selected_ids_ascending keyed filter requireReady).imp fun below => below.le

end BarePool

/--
After any deltas and any lookups in between, every lookup gives what a scan of
the bare members gives: the selected members by ascending id, all of them and
no others, whether or not the filter index knows the filter.
-/
theorem lookups_are_plain_scans
    (order : HashOrder) (encode : List Member → List UInt8) (uses : List LookupPool.Use) :
    let pool := uses.foldl (LookupPool.use order encode) {}
    let bare := (uses.filterMap LookupPool.Use.delta?).foldl BarePool.apply {}
    (∀ requireReady,
      (pool.ids requireReady).1 = bare.ids requireReady ∧
        (pool.frozen requireReady).1 = bare.filtered BarePool.everyone requireReady ∧
        (pool.serialized encode requireReady).1 = bare.serialized encode requireReady) ∧
      (∀ slot requireReady, pool.slot slot requireReady = bare.slot slot requireReady) ∧
      (∀ fields, (pool.fieldDigest fields).1 = bare.fieldDigest fields) ∧
      ∀ filter requireReady,
        (pool.count order filter requireReady).1 = bare.count filter requireReady ∧
          (pool.filtered order filter requireReady).1 = bare.filtered filter requireReady ∧
          (bare.filtered filter requireReady).members.members =
            (bare.selected filter requireReady).map Prod.snd ∧
          ((bare.selected filter requireReady).map Prod.fst).Pairwise (· < ·) ∧
          LookupPool.DrawsFrom
            (fun rng => (pool.choose order filter requireReady rng).1.1)
            ((bare.selected filter requireReady).map Prod.snd) ∧
          LookupPool.DrawsFrom
            (fun rng => (pool.chooseArc order filter requireReady rng).1.1)
            ((bare.selected filter requireReady).map Prod.snd) := by
  intro pool bare
  rcases LookupPool.empty_sound.uses uses with ⟨sound, reached⟩
  change pool.Sound encode at sound
  have same : pool.bare = bare := reached
  have keyed : bare.Keyed := BarePool.keyed_of_deltas _
  rw [← same] at keyed ⊢
  refine ⟨?_, ?_, ?_, ?_⟩
  · intro requireReady
    exact ⟨(sound.ids requireReady).1, (sound.frozen requireReady).1,
      (sound.serialized requireReady).1⟩
  · exact fun slot requireReady => LookupPool.slot_eq sound.slots slot requireReady
  · exact fun fields => (sound.fieldDigest fields).1
  · intro filter requireReady
    have chosen := (sound.choose order filter requireReady).1
    exact ⟨(sound.count order filter requireReady).1, (sound.filtered order filter requireReady).1,
      BarePool.filtered_members keyed filter requireReady,
      BarePool.selected_ascending _ filter requireReady, chosen, chosen⟩

end Tinyray
