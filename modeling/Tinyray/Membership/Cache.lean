import Mathlib.Data.List.Sort
import Tinyray.Proto.Types
import Tinyray.Foundation.MapFold

/-!
# The client's copy of a pool

A client keeps every watched pool as the deltas of the registry describe it.
Besides the members there is an index of seats and there are two memoised id
lists, which `apply` drops when they may have changed.

Frozen views and digests are memoised too, and are dropped by every delta
that names a member; they are added to a copy in `Frozen`, and encoded
snapshots and filter results in `Lookup`.
-/

namespace Tinyray

open Std Foundation

/-- The copy of a pool. -/
structure CachedPool where
  version : Nat := 0
  roster : BitVec 64 := 0
  methods : List String := []
  size : Option Nat := none
  members : ExtTreeMap Nat Member := ∅
  /-- The ids that claim each seat. -/
  slots : ExtTreeMap Nat (ExtTreeSet Nat) := ∅
  ids : Option (List Nat) := none
  readyIds : Option (List Nat) := none

namespace CachedPool

/-- Take an id out of a slot. -/
def unindex (cached : CachedPool) (slot id : Nat) : CachedPool :=
  match cached.slots[slot]? with
  | none => cached
  | some ids =>
    if (ids.erase id).isEmpty then
      { cached with slots := cached.slots.erase slot }
    else
      { cached with slots := cached.slots.insert slot (ids.erase id) }

/-- Enter an id under its slot. -/
def index (cached : CachedPool) (slot id : Nat) : CachedPool :=
  { cached with slots := cached.slots.insert slot ((cached.slots.getD slot ∅).insert id) }

/-- Remove a member; whether there was one. -/
def remove (cached : CachedPool) (id : Nat) : CachedPool × Bool :=
  match cached.members[id]? with
  | none => (cached, false)
  | some member =>
    let vacated :=
      { cached with members := cached.members.erase id }
    (match member.slot with
      | some slot => vacated.unindex slot id
      | none => vacated, true)

/-- A delta that is being applied. -/
structure Applying where
  cached : CachedPool
  membershipChanged : Bool
  readinessChanged : Bool

/-- One entry of `changed`. -/
def upsert (progress : Applying) (member : Member) : Applying :=
  let old := progress.cached.members[member.id]?
  let written :=
    { progress.cached with members := progress.cached.members.insert member.id member }
  let oldSlot := old.bind Member.slot
  let reindexed :=
    if oldSlot ≠ member.slot then
      let unindexed :=
        match oldSlot with
        | some slot => written.unindex slot member.id
        | none => written
      match member.slot with
      | some slot => unindexed.index slot member.id
      | none => unindexed
    else written
  { cached := reindexed
    membershipChanged := progress.membershipChanged || old.isNone
    readinessChanged := progress.readinessChanged || old.map Member.ready != some member.ready }

/-- One entry of `removed`. -/
def drop (progress : Applying) (id : Nat) : Applying :=
  let removed := progress.cached.remove id
  { progress with
    cached := removed.1
    membershipChanged := progress.membershipChanged || removed.2 }

/-- `CachedPool::apply` -/
def apply (cached : CachedPool) (delta : PoolDelta) : CachedPool :=
  let start : CachedPool :=
    if delta.full then { cached with members := ∅, slots := ∅ }
    else cached
  let upserted :=
    delta.changed.foldl upsert
      { cached := start
        membershipChanged := delta.full
        readinessChanged := false }
  let applied := delta.removed.foldl drop upserted
  { applied.cached with
    ids := if applied.membershipChanged then none else applied.cached.ids
    readyIds :=
      if applied.membershipChanged || applied.readinessChanged then none
      else applied.cached.readyIds
    version := delta.version
    roster := delta.roster
    methods := delta.methods
    size := delta.size }

/-! ## The members after a delta -/

@[simp]
theorem unindex_members (cached : CachedPool) (slot id : Nat) :
    (cached.unindex slot id).members = cached.members := by
  unfold unindex
  split
  · rfl
  · split <;> rfl

theorem upsert_members (progress : Applying) (member : Member) :
    (upsert progress member).cached.members = progress.cached.members.insert member.id member := by
  unfold upsert
  simp only
  split
  · cases (progress.cached.members[member.id]?.bind Member.slot) <;>
      cases member.slot <;> simp [index]
  · rfl

theorem remove_members (cached : CachedPool) (id : Nat) :
    (cached.remove id).1.members = cached.members.erase id := by
  unfold remove
  cases present : cached.members[id]? with
  | none =>
    apply ExtTreeMap.ext_getElem?
    intro other
    grind
  | some member =>
    simp only
    split <;> simp

theorem foldl_upsert_members
    (changed : List Member) (progress : Applying) :
    (changed.foldl upsert progress).cached.members =
      changed.foldl
        (fun members member => members.insert member.id member)
        progress.cached.members := by
  induction changed generalizing progress with
  | nil => rfl
  | cons member rest hypothesis =>
    rw [List.foldl_cons, hypothesis, upsert_members, List.foldl_cons]

theorem foldl_drop_members (removed : List Nat) (progress : Applying) :
    (removed.foldl drop progress).cached.members =
      removed.foldl (fun members id => members.erase id)
        progress.cached.members := by
  induction removed generalizing progress with
  | nil => rfl
  | cons id rest hypothesis =>
    have dropped : (drop progress id).cached.members = progress.cached.members.erase id :=
      remove_members progress.cached id
    rw [List.foldl_cons, hypothesis, dropped, List.foldl_cons]

theorem apply_members (cached : CachedPool) (delta : PoolDelta) :
    (cached.apply delta).members =
      delta.removed.foldl (fun members id => members.erase id)
        (delta.changed.foldl
          (fun members member => members.insert member.id member)
          (if delta.full then ∅ else cached.members)) := by
  unfold apply
  simp only [foldl_drop_members, foldl_upsert_members]
  cases delta.full <;> rfl

/--
What a delta makes of the members, for a delta that shows each changed member
as some member map has it.
-/
theorem getElem?_apply_members
    {delta : PoolDelta} {view : Nat → Option Member}
    (faithful : ∀ member ∈ delta.changed, view member.id = some member)
    (cached : CachedPool) (id : Nat) :
    (cached.apply delta).members[id]? = if id ∈ delta.removed then none
      else if id ∈ delta.changed.map Member.id then view id
      else if delta.full then none
      else cached.members[id]? := by
  rw [apply_members, getElem?_foldl_erase, getElem?_foldl_insert Member.id faithful]
  cases delta.full <;> simp

end CachedPool

/-! ## Frozen members -/

/-- Members by position, id and slot. -/
structure FrozenMembers where
  members : List Member
  /-- Where each id stands. -/
  ids : ExtTreeMap Nat Nat
  /-- Where the members with each seat stand. -/
  slots : ExtTreeMap Nat (List Nat)
  roster : BitVec 64

namespace FrozenMembers

/-- Enter a member at a position. -/
def enter (frozen : FrozenMembers) (entry : Member × Nat) : FrozenMembers :=
  { frozen with
    ids := frozen.ids.insert entry.1.id entry.2
    slots :=
      match entry.1.slot with
      | some slot => frozen.slots.insert slot ((frozen.slots.getD slot []) ++ [entry.2])
      | none => frozen.slots
    roster := frozen.roster ^^^ entry.1.rosterHash }

/-- `FrozenMembers::new` -/
def new (members : List Member) : FrozenMembers :=
  let sorted := members.insertionSort fun left right => left.id ≤ right.id
  sorted.zipIdx.foldl enter
    { members := sorted, ids := ∅, slots := ∅, roster := 0 }

theorem foldl_enter_roster
    (entries : List (Member × Nat)) (frozen : FrozenMembers) :
    (entries.foldl enter frozen).roster =
      (entries.map Prod.fst).foldl
        (fun roster member => roster ^^^ member.rosterHash)
        frozen.roster := by
  induction entries generalizing frozen with
  | nil => rfl
  | cons entry rest hypothesis =>
    rw [List.foldl_cons, hypothesis, List.map_cons, List.foldl_cons]
    rfl

/-- The members are sorted by id. -/
theorem new_members (members : List Member) :
    (new members).members = members.insertionSort fun left right => left.id ≤ right.id := by
  have kept :
      ∀ (entries : List (Member × Nat)) (frozen : FrozenMembers),
        (entries.foldl enter frozen).members = frozen.members := by
    intro entries frozen
    induction entries generalizing frozen with
    | nil => rfl
    | cons entry rest hypothesis =>
      rw [List.foldl_cons, hypothesis]
      rfl
  unfold new
  rw [kept]

theorem new_members_perm (members : List Member) : (new members).members.Perm members := by
  rw [new_members]
  exact List.perm_insertionSort _ members

/-- The order of members does not matter. -/
theorem foldl_rosterHash_perm
    {members listed : List Member} (perm : members.Perm listed) :
    members.foldl
        (fun roster member => roster ^^^ member.rosterHash)
        (0 : BitVec 64) =
      listed.foldl (fun roster member => roster ^^^ member.rosterHash) 0 := by
  have commutes :
      RightCommutative
        (fun (roster : BitVec 64) (member : Member) => roster ^^^ member.rosterHash) := by
    constructor
    intro roster first second
    ac_rfl
  exact perm.foldl_eq 0

theorem new_roster_of_perm
    {members listed : List Member} (perm : members.Perm listed) :
    (new members).roster = listed.foldl (fun roster member => roster ^^^ member.rosterHash) 0 := by
  unfold new
  rw [foldl_enter_roster, List.zipIdx_map_fst]
  exact foldl_rosterHash_perm ((List.perm_insertionSort _ members).trans perm)

end FrozenMembers

end Tinyray
