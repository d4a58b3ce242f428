import Tinyray.Membership.Cache

/-!
# Views of a copy

Readers of a copy share what earlier readers have worked out: the sorted id
lists, the frozen members and the digest of some fields.  `PoolView` is a copy
with these memos, each function of it is written as the source has it, and
`Sound` says that every memo is what one would work out now.  Applying a delta
and reading keep it, so a reader gets what `CachedPool` says.

The encoded snapshots and the filter index are memos of the same kind; they
are added in `Lookup`.
-/

namespace Tinyray

open Std Foundation

/-- A pool that does not change any more. -/
structure FrozenPool where
  members : FrozenMembers
  roster : BitVec 64
  version : Nat
  size : Option Nat
  methods : List String

/-- A field of a member. -/
inductive FieldValue where
  | ready (ready : Bool)
  | url (url : Option String)
  | state (value : Option Value)
deriving DecidableEq

/-- What a digest is taken of: id, tenure and fields of every member. -/
abbrev Digest := List (Nat × Nat × List FieldValue)

/-- The field of this name. -/
def Member.field (member : Member) (name : String) : FieldValue :=
  if name = "ready" then .ready member.ready
  else if name = "url" then .url member.url
  else .state (member.state.get name)

namespace CachedPool

/-! ## What the members say -/

/-- The ids in ascending order, of all members or of those that are ready. -/
def listed (cached : CachedPool) (requireReady : Bool) : List Nat :=
  if requireReady then cached.members.keys.filter fun id => cached.members[id]?.any Member.ready
  else cached.members.keys

/-- `make_native` -/
def makeNative (cached : CachedPool) (ids : List Nat) : FrozenMembers :=
  FrozenMembers.new (ids.filterMap fun id => cached.members[id]?)

/-- `CachedPool::frozen` -/
def frozen (cached : CachedPool) (requireReady : Bool) : FrozenPool where
  members := cached.makeNative (cached.listed requireReady)
  roster := cached.roster
  version := cached.version
  size := cached.size
  methods := cached.methods

/-- The digest of these members. -/
def digestOf (cached : CachedPool) (ids : List Nat)
    (fields : List String) : Digest :=
  (ids.filterMap fun id => cached.members[id]?).map fun member =>
    (member.id, member.incarnation, fields.map member.field)

/-- `field_digest` -/
def fieldDigest (cached : CachedPool) (fields : List String) : Digest :=
  cached.digestOf (cached.listed false) fields

/-! ## The memoised id lists -/

/-- `ids`: the list, and the copy with it memoised. -/
def readIds (cached : CachedPool) (requireReady : Bool) : List Nat × CachedPool :=
  let ids := cached.ids.getD cached.members.keys
  let kept := { cached with ids := some ids }
  if requireReady then
    let readyIds := cached.readyIds.getD (ids.filter fun id => cached.members[id]?.any Member.ready)
    (readyIds, { kept with readyIds := some readyIds })
  else (ids, kept)

/-- The memoised id lists are those of the members. -/
structure Memoised (cached : CachedPool) : Prop where
  ids : ∀ ids, cached.ids = some ids → ids = cached.listed false
  readyIds : ∀ ids, cached.readyIds = some ids → ids = cached.listed true

/-- The copy without its memos. -/
def plain (cached : CachedPool) : CachedPool :=
  { cached with ids := none, readyIds := none }

theorem readIds_plain (cached : CachedPool) (requireReady : Bool) :
    (cached.readIds requireReady).2.plain = cached.plain := by
  unfold readIds
  simp only
  split <;> rfl

variable {cached start : CachedPool} {progress : Applying}

/-- Remembered ids are the listed ones. -/
theorem Memoised.readIds_eq
    (memoised : cached.Memoised) (requireReady : Bool) :
    (cached.readIds requireReady).1 = cached.listed requireReady := by
  have ids : cached.ids.getD cached.members.keys = cached.listed false := by
    cases memo : cached.ids with
    | none => rfl
    | some ids => exact memoised.ids ids memo
  unfold readIds
  simp only [ids]
  cases requireReady with
  | false => rfl
  | true =>
    simp only [if_true]
    cases memo : cached.readyIds with
    | none => rfl
    | some ids => exact memoised.readyIds ids memo

/-- Reading ids keeps the memo right. -/
theorem Memoised.readIds
    (memoised : cached.Memoised) (requireReady : Bool) :
    (cached.readIds requireReady).2.Memoised := by
  have all := memoised.readIds_eq false
  have some := memoised.readIds_eq requireReady
  cases requireReady with
  | false =>
    refine ⟨?_, memoised.readyIds⟩
    rintro ids ⟨⟩
    exact all
  | true =>
    refine ⟨?_, ?_⟩
    · rintro ids ⟨⟩
      exact all
    · rintro ids ⟨⟩
      exact some

/-! ## Memos across a delta -/

@[simp]
theorem unindex_memos (cached : CachedPool) (slot id : Nat) :
    (cached.unindex slot id).ids = cached.ids ∧
      (cached.unindex slot id).readyIds = cached.readyIds := by
  unfold unindex
  split
  · exact ⟨rfl, rfl⟩
  · split <;> exact ⟨rfl, rfl⟩

theorem upsert_memos (progress : Applying) (member : Member) :
    (upsert progress member).cached.ids = progress.cached.ids ∧
      (upsert progress member).cached.readyIds = progress.cached.readyIds := by
  unfold upsert
  simp only
  split
  · cases (progress.cached.members[member.id]?.bind Member.slot) <;>
      cases member.slot <;> simp [index]
  · exact ⟨rfl, rfl⟩

/-- What the two flags of a delta under way promise. -/
structure Applying.Tracks (start : CachedPool) (progress : Applying) : Prop where
  memos : progress.cached.ids = start.ids ∧ progress.cached.readyIds = start.readyIds
  ids :
    progress.membershipChanged = false →
      ∀ id : Nat, progress.cached.members[id]?.isSome = start.members[id]?.isSome
  readiness :
    progress.membershipChanged = false →
      progress.readinessChanged = false →
        ∀ id : Nat,
          progress.cached.members[id]?.map Member.ready = start.members[id]?.map Member.ready

/-- A member that comes is tracked. -/
theorem upsert_tracks
    (tracks : progress.Tracks start) (member : Member) :
    (upsert progress member).Tracks start := by
  have known (unchanged : (upsert progress member).membershipChanged = false) :
      progress.membershipChanged = false ∧
        ∃ old, progress.cached.members[member.id]? = some old := by
    simp only [upsert, Bool.or_eq_false_iff] at unchanged
    refine ⟨unchanged.1, ?_⟩
    cases held : progress.cached.members[member.id]? with
    | none => simp [held] at unchanged
    | some old => exact ⟨old, rfl⟩
  refine ⟨?_, ?_, ?_⟩
  · have kept := upsert_memos progress member
    exact ⟨kept.1.trans tracks.memos.1, kept.2.trans tracks.memos.2⟩
  · intro unchanged id
    rcases known unchanged with ⟨before, old, held⟩
    rw [upsert_members, ExtTreeMap.getElem?_insert, ← tracks.ids before]
    split_ifs with same
    · rw [Std.compare_eq_iff_eq] at same
      rw [← same, held]
      rfl
    · rfl
  · intro unchanged steady id
    rcases known unchanged with ⟨before, old, held⟩
    simp only [upsert, Bool.or_eq_false_iff, bne_eq_false_iff_eq] at steady
    rw [upsert_members, ExtTreeMap.getElem?_insert, ← tracks.readiness before steady.1]
    split_ifs with same
    · rw [Std.compare_eq_iff_eq] at same
      rw [← same]
      exact steady.2.symm
    · rfl

/-- A member that goes is tracked. -/
theorem drop_tracks
    (tracks : progress.Tracks start) (id : Nat) :
    (drop progress id).Tracks start := by
  -- a removal that found nobody has changed nothing
  have absent (unchanged : (drop progress id).membershipChanged = false) :
      progress.membershipChanged = false ∧ (drop progress id).cached = progress.cached := by
    simp only [drop, Bool.or_eq_false_iff] at unchanged
    refine ⟨unchanged.1, ?_⟩
    have found := unchanged.2
    unfold remove at found
    simp only [drop, remove]
    cases held : progress.cached.members[id]? with
    | none => rfl
    | some member => simp [held] at found
  refine ⟨?_, ?_, ?_⟩
  · have kept :
        (progress.cached.remove id).1.ids = progress.cached.ids ∧
          (progress.cached.remove id).1.readyIds = progress.cached.readyIds := by
      unfold remove
      split
      · exact ⟨rfl, rfl⟩
      · simp only
        split <;> simp
    exact ⟨kept.1.trans tracks.memos.1, kept.2.trans tracks.memos.2⟩
  · intro unchanged
    rcases absent unchanged with ⟨before, same⟩
    rw [same]
    exact tracks.ids before
  · intro unchanged steady
    rcases absent unchanged with ⟨before, same⟩
    rw [same]
    exact tracks.readiness before steady

/-- `apply` tracks what it changes. -/
theorem apply_tracks (cached : CachedPool) (delta : PoolDelta) :
    ∃ progress : Applying,
      progress.Tracks cached ∧ (cached.apply delta).members = progress.cached.members ∧
        (cached.apply delta).ids =
          (if progress.membershipChanged then none
            else progress.cached.ids) ∧
        (cached.apply delta).readyIds = if progress.membershipChanged || progress.readinessChanged
          then none else progress.cached.readyIds := by
  refine ⟨_, ?_, rfl, rfl, rfl⟩
  refine List.foldlRecOn delta.removed drop (motive := Applying.Tracks cached) ?_ ?_
  · refine List.foldlRecOn delta.changed upsert (motive := Applying.Tracks cached) ?_ ?_
    · cases full : delta.full with
      | true =>
        refine ⟨⟨rfl, rfl⟩, ?_, ?_⟩
        · intro changed
          cases changed
        · intro changed
          cases changed
      | false => exact ⟨⟨rfl, rfl⟩, fun _ _ => rfl, fun _ _ _ => rfl⟩
    · exact fun progress tracks member _ => upsert_tracks tracks member
  · exact fun progress tracks id _ => drop_tracks tracks id

/-- A delta keeps the memo right. -/
theorem Memoised.apply
    {cached : CachedPool} (memoised : cached.Memoised) (delta : PoolDelta) :
    (cached.apply delta).Memoised := by
  rcases apply_tracks cached delta with ⟨progress, tracks, members, ids, readyIds⟩
  constructor
  · intro listing memo
    rw [ids] at memo
    split_ifs at memo with changed
    rw [tracks.memos.1] at memo
    rw [memoised.ids listing memo]
    change cached.members.keys = (cached.apply delta).members.keys
    rw [members]
    exact (keys_of_isSome (tracks.ids (by simpa using changed))).symm
  · intro listing memo
    rw [readyIds] at memo
    split_ifs at memo with changed
    simp only [Bool.or_eq_true, not_or, Bool.not_eq_true] at changed
    rw [tracks.memos.2] at memo
    rw [memoised.readyIds listing memo]
    have keys := keys_of_isSome (tracks.ids changed.1)
    have ready := tracks.readiness changed.1 changed.2
    change
      (cached.members.keys.filter fun id =>
        cached.members[id]?.any Member.ready) =
        (cached.apply delta).members.keys.filter fun id =>
          (cached.apply delta).members[id]?.any Member.ready
    rw [members, keys]
    apply List.filter_congr
    intro id _
    have same := ready id
    revert same
    cases progress.cached.members[id]? <;> cases cached.members[id]? <;>
      simp +contextual

theorem apply_members_of_silent
    {delta : PoolDelta} (notFull : delta.full = false)
    (noChanges : delta.changed = []) (noRemovals : delta.removed = []) (cached : CachedPool) :
    (cached.apply delta).members = cached.members := by
  unfold apply
  simp [notFull, noChanges, noRemovals]

end CachedPool

/-! ## A copy with all its memos -/

/-- A copy with its memos. -/
structure PoolView where
  copy : CachedPool := {}
  /-- The frozen members, of all and of those that are ready. -/
  native : Option FrozenMembers := none
  nativeReady : Option FrozenMembers := none
  /-- The fields of the last digest, and the digest. -/
  digest : Option (List String × Digest) := none

namespace PoolView

/-- `apply`, which drops the memos. -/
def apply (view : PoolView) (delta : PoolDelta) : PoolView :=
  if delta.full || !delta.changed.isEmpty || !delta.removed.isEmpty then
    { copy := view.copy.apply delta }
  else { view with copy := view.copy.apply delta }

/-- `ids`, with its memo. -/
def readIds (view : PoolView) (requireReady : Bool) : List Nat × PoolView :=
  let read := view.copy.readIds requireReady
  (read.1, { view with copy := read.2 })

/-- `native`, with its memo. -/
def readNative (view : PoolView) (requireReady : Bool) : FrozenMembers × PoolView :=
  match if requireReady then view.nativeReady else view.native with
  | some frozen => (frozen, view)
  | none =>
    let read := view.readIds requireReady
    let frozen := read.2.copy.makeNative read.1
    (frozen, if requireReady then { read.2 with nativeReady := some frozen }
      else { read.2 with native := some frozen })

/-- `frozen`, with its memo. -/
def readFrozen (view : PoolView) (requireReady : Bool) : FrozenPool × PoolView :=
  let read := view.readNative requireReady
  ({ members := read.1
     roster := view.copy.roster
     version := view.copy.version
     size := view.copy.size
     methods := view.copy.methods },
    read.2)

/-- A digest that is remembered. -/
def memorable (fields : List String) : Bool :=
  fields.length ≤ 64 && (fields.map String.utf8ByteSize).sum ≤ 4096

/-- `field_digest`, with its memo. -/
def readDigest (view : PoolView) (fields : List String) : Digest × PoolView :=
  match view.digest.filter fun memo => memo.1 == fields with
  | some memo => (memo.2, view)
  | none =>
    let read := view.readIds false
    let digest := read.2.copy.digestOf read.1 fields
    (digest,
      if memorable fields then
        { read.2 with digest := some (fields, digest) }
      else read.2)

/-- Every memo is what one would work out now. -/
structure Sound (view : PoolView) : Prop where
  memoised : view.copy.Memoised
  native : ∀ frozen, view.native = some frozen → frozen = (view.copy.frozen false).members
  nativeReady : ∀ frozen, view.nativeReady = some frozen → frozen = (view.copy.frozen true).members
  digest :
    ∀ fields digest, view.digest = some (fields, digest) → digest = view.copy.fieldDigest fields

theorem empty_sound : Sound {} := by
  refine ⟨⟨?_, ?_⟩, ?_, ?_, ?_⟩ <;> simp

theorem worked_out_of_members
    {left right : CachedPool} (members : left.members = right.members) :
    (∀ requireReady, (left.frozen requireReady).members = (right.frozen requireReady).members) ∧
      ∀ fields, left.fieldDigest fields = right.fieldDigest fields := by
  constructor
  · intro requireReady
    simp only [CachedPool.frozen, CachedPool.makeNative, CachedPool.listed, members]
  · intro fields
    simp only [CachedPool.fieldDigest, CachedPool.digestOf, CachedPool.listed, members]

variable {view : PoolView}

/-- Only the members matter. -/
theorem Sound.replace
    (sound : view.Sound) {copy : CachedPool}
    (memoised : copy.Memoised) (members : copy.members = view.copy.members) :
    Sound { view with copy := copy } := by
  rcases worked_out_of_members members with ⟨frozen, digest⟩
  refine ⟨memoised, ?_, ?_, ?_⟩
  · intro memo held
    exact (sound.native memo held).trans (frozen false).symm
  · intro memo held
    exact (sound.nativeReady memo held).trans (frozen true).symm
  · intro fields memo held
    exact (sound.digest fields memo held).trans (digest fields).symm

/-- A delta keeps the view sound. -/
theorem Sound.apply
    {view : PoolView} (sound : view.Sound) (delta : PoolDelta) :
    (view.apply delta).Sound := by
  have memoised := sound.memoised.apply delta
  unfold PoolView.apply
  split_ifs with named
  · refine ⟨memoised, ?_, ?_, ?_⟩ <;> simp
  · simp only [Bool.or_eq_true, not_or, Bool.not_eq_true,
      Bool.not_eq_true', Bool.not_eq_false, List.isEmpty_iff] at named
    rcases named with ⟨⟨notFull, noChanges⟩, noRemovals⟩
    exact
      sound.replace memoised
        (CachedPool.apply_members_of_silent notFull noChanges noRemovals view.copy)

theorem readIds_members (view : PoolView) (requireReady : Bool) :
    (view.readIds requireReady).2.copy.members = view.copy.members := by
  have members := congrArg CachedPool.members (CachedPool.readIds_plain view.copy requireReady)
  exact members

theorem readNative_plain (view : PoolView) (requireReady : Bool) :
    (view.readNative requireReady).2.copy.plain = view.copy.plain := by
  have read := CachedPool.readIds_plain view.copy requireReady
  unfold readNative
  split
  · rfl
  · simp only
    split <;> exact read

theorem readDigest_plain (view : PoolView) (fields : List String) :
    (view.readDigest fields).2.copy.plain = view.copy.plain := by
  have read := CachedPool.readIds_plain view.copy false
  unfold readDigest
  split
  · rfl
  · simp only
    split <;> exact read

theorem Sound.readIds (sound : view.Sound) (requireReady : Bool) :
    (view.readIds requireReady).2.Sound :=
  sound.replace (sound.memoised.readIds requireReady) (readIds_members view requireReady)

theorem Sound.worked_out (sound : view.Sound) (requireReady : Bool) :
    (view.readIds requireReady).2.copy.makeNative (view.readIds requireReady).1 =
      (view.copy.frozen requireReady).members := by
  have ids : (view.readIds requireReady).1 = view.copy.listed requireReady :=
    sound.memoised.readIds_eq requireReady
  rw [ids]
  unfold CachedPool.makeNative CachedPool.frozen
  rw [readIds_members]
  rfl

/-- The frozen members are right. -/
theorem Sound.readNative (sound : view.Sound) (requireReady : Bool) :
    (view.readNative requireReady).1 = (view.copy.frozen requireReady).members ∧
      (view.readNative requireReady).2.Sound := by
  have read := sound.readIds requireReady
  have members := readIds_members view requireReady
  have native := sound.worked_out requireReady
  have same := (worked_out_of_members members).1 requireReady
  unfold PoolView.readNative
  cases requireReady with
  | false =>
    simp only [Bool.false_eq_true, if_false]
    cases memo : view.native with
    | some frozen => exact ⟨sound.native frozen memo, sound⟩
    | none =>
      refine ⟨native, read.memoised, ?_, read.nativeReady, read.digest⟩
      rintro frozen ⟨⟩
      exact native.trans same.symm
  | true =>
    simp only [if_true]
    cases memo : view.nativeReady with
    | some frozen => exact ⟨sound.nativeReady frozen memo, sound⟩
    | none =>
      refine ⟨native, read.memoised, read.native, ?_, read.digest⟩
      rintro frozen ⟨⟩
      exact native.trans same.symm

theorem Sound.readFrozen_eq (sound : view.Sound) (requireReady : Bool) :
    (view.readFrozen requireReady).1 = view.copy.frozen requireReady := by
  unfold PoolView.readFrozen CachedPool.frozen
  simp only [(sound.readNative requireReady).1]
  rfl

/-- The digest is right. -/
theorem Sound.readDigest (sound : view.Sound) (fields : List String) :
    (view.readDigest fields).1 = view.copy.fieldDigest fields ∧
      (view.readDigest fields).2.Sound := by
  have read := sound.readIds false
  have members := readIds_members view false
  have ids : (view.readIds false).1 = view.copy.listed false := sound.memoised.readIds_eq false
  have worked :
      (view.readIds false).2.copy.digestOf (view.readIds false).1 fields =
        view.copy.fieldDigest fields := by
    rw [ids]
    unfold CachedPool.digestOf CachedPool.fieldDigest
    rw [readIds_members]
    rfl
  unfold PoolView.readDigest
  cases memo : view.digest.filter fun memo => memo.1 == fields with
  | some memo =>
    rw [Option.filter_eq_some_iff] at memo
    rcases memo with ⟨held, named⟩
    rw [beq_iff_eq] at named
    subst named
    exact ⟨sound.digest _ _ held, sound⟩
  | none =>
    refine ⟨worked, ?_⟩
    simp only
    split_ifs
    · refine ⟨read.memoised, read.native, read.nativeReady, ?_⟩
      rintro names digest ⟨⟩
      exact worked.trans ((worked_out_of_members members).2 _).symm
    · exact read

end PoolView

end Tinyray
