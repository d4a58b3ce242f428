import Mathlib.Logic.Function.Basic
import Tinyray.Blob.Reference

/-!
# Owners of blobs in calls

The blobs that a call or a reply holds are put into a set of owners.  Every set
that is not empty is also known in a table with a fixed number of slots, where
a forked process finds the sets of its parent without any lock.  A set knows
its slot only by its number.

A state is given by its address.  What a slot refers to is held by its own set
as well, so taking it out of the slot does not release anything by itself.
-/

namespace Tinyray.Blob

/-- `MAX_TRACKED_RPC_BLOB_OWNER_SETS` -/
def maxTrackedRpcBlobOwnerSets : Nat := 1024

/-- A set of owners, by its address and slot. -/
structure RpcBlobOwners where
  state : Option Nat
  slot : Nat
deriving DecidableEq

/-- The tracked sets of a process. -/
structure OwnerTable where
  /-- `rpc_blob_owner_slots` -/
  slots : List (Option Nat) := List.replicate maxTrackedRpcBlobOwnerSets none
  /-- What the states own that were not released. -/
  owners : Nat → Option (List BlobRef) := fun _ => none
  /-- The address of the next state. -/
  next : Nat := 0

namespace OwnerTable

/-- `RpcBlobOwners::track` -/
def track (table : OwnerTable) (owners : List BlobRef) :
    OwnerTable × Except BlobError RpcBlobOwners :=
  if owners.isEmpty then (table, .ok ⟨none, usizeMax⟩)
  else
    match table.slots.findIdx? Option.isNone with
    | some index =>
      ({ slots := table.slots.set index (some table.next)
         owners := Function.update table.owners table.next (some owners)
         next := table.next + 1 },
        .ok ⟨some table.next, index⟩)
    | none =>
      (table, .error (.resourceLimit "more than 1024 RPC calls retain BlobRef owners"))

/-- `RpcBlobOwners::drop` -/
def drop (table : OwnerTable) (set : RpcBlobOwners) : OwnerTable :=
  match set.state with
  | none => table
  | some address =>
    { table with
      owners := Function.update table.owners address none
      -- whatever the slot refers to
      slots := table.slots.set set.slot none }

/-- `clear_inherited_rpc_blob_owners` -/
def clearInherited (table : OwnerTable) : OwnerTable :=
  { table with
    slots := table.slots.map fun _ => none
    owners := fun address => if some address ∈ table.slots then none else table.owners address }

/-- The set has its blobs, and is in its slot. -/
def keeps (table : OwnerTable) (set : RpcBlobOwners)
    (owners : List BlobRef) : Bool :=
  match set.state with
  | none => true
  | some address =>
    table.owners address = some owners && table.slots[set.slot]? = some (some address)

variable {table : OwnerTable} {set : RpcBlobOwners}
  {owners : List BlobRef}

theorem keeps_iff :
    table.keeps set owners = true ↔
      ∀ address, set.state = some address →
        table.owners address = some owners ∧ table.slots[set.slot]? = some (some address) := by
  unfold keeps
  cases set.state <;> simp

/-- Two live sets never share a slot. -/
theorem keeps_slot_ne
    {other : RpcBlobOwners} {otherOwners : List BlobRef} {address otherAddress : Nat}
    (kept : table.keeps set owners) (isState : set.state = some address)
    (otherKept : table.keeps other otherOwners) (otherState : other.state = some otherAddress)
    (different : otherAddress ≠ address) :
    other.slot ≠ set.slot := by
  intro same
  have here := (keeps_iff.mp kept address isState).2
  have there := (keeps_iff.mp otherKept otherAddress otherState).2
  rw [same, here] at there
  cases there
  exact different rfl

/-- Dropping another set keeps this one. -/
theorem keeps_drop
    {gone : RpcBlobOwners} (kept : table.keeps set owners)
    (apart :
      ∀ address, gone.state = some address →
        set.state ≠ some address ∧ (set.state ≠ none → set.slot ≠ gone.slot)) :
    (table.drop gone).keeps set owners := by
  unfold drop
  split
  · exact kept
  · rename_i address isState
    rcases apart address isState with ⟨differentState, differentSlot⟩
    rw [keeps_iff] at kept ⊢
    intro own ownState
    have differentAddress : own ≠ address := by
      rintro rfl
      exact differentState ownState
    have differentSlot := differentSlot (by simp [ownState])
    rcases kept own ownState with ⟨owned, placed⟩
    exact ⟨(Function.update_of_ne differentAddress _ _).trans owned,
      (List.getElem?_set_ne (Ne.symm differentSlot)).trans placed⟩

/-- What `track` does when it does not fail. -/
structure Tracked (table next : OwnerTable) (added : RpcBlobOwners)
    (blobs : List BlobRef) : Prop where
  kept : next.keeps added blobs
  isNew : blobs = [] ∧ added.state = none ∨ added.state = some table.next
  grown : table.next ≤ next.next
  below : ∀ address, added.state = some address → address < next.next
  others :
    ∀ {set owners}, table.keeps set owners →
      (∀ address, set.state = some address → address < table.next) → next.keeps set owners

/-- What a successful `track` does. -/
theorem track_ok
    {next : OwnerTable} {added : RpcBlobOwners} {blobs : List BlobRef}
    (ok : table.track blobs = (next, .ok added)) :
    Tracked table next added blobs := by
  unfold track at ok
  split_ifs at ok with empty
  · cases ok
    exact
      { kept := rfl
        isNew := .inl ⟨List.isEmpty_iff.mp empty, rfl⟩
        grown := Nat.le_refl _
        below := by simp
        others := fun kept _ => kept }
  split at ok
  · rename_i index free
    cases ok
    rcases List.findIdx?_eq_some_iff_getElem.mp free with ⟨bound, isFree, _⟩
    refine
      { kept := by simp [keeps, bound]
        isNew := .inr rfl
        grown := Nat.le_succ _
        below := by simp
        others := ?_ }
    intro set owners kept old
    rw [keeps_iff] at kept ⊢
    intro address isState
    rcases kept address isState with ⟨owned, placed⟩
    have different : index ≠ set.slot := by
      rintro rfl
      rw [List.getElem?_eq_getElem bound] at placed
      rw [Option.some.inj placed] at isFree
      cases isFree
    have earlier : address ≠ table.next := Nat.ne_of_lt (old address isState)
    exact ⟨(Function.update_of_ne earlier _ _).trans owned,
      (List.getElem?_set_ne different).trans placed⟩
  · cases ok

@[simp]
theorem drop_next (table : OwnerTable) (set : RpcBlobOwners) :
    (table.drop set).next = table.next := by
  unfold drop
  split <;> rfl

end OwnerTable

end Tinyray.Blob
