import Tinyray.Blob.Owners
import Tinyray.Transport.Admission

/-!
# Blobs after a fork

A forked process has the owner sets of its parent in its memory, and the
counts of the leases that the servers of the parent hold.  A client from before
the fork refuses every use, and clears at each of them all owner sets there are
and the count of the process.  A set from before the fork may also be dropped at
any time.

The sets of a process are given as one list, each with the lease it is part of
if it is one of a reply.  A fork marks all of them as inherited, and a use of a
client from before the fork all that there are as forgotten.  A lease that was
never forgotten is still counted when it ends (`Kept.share_counted`).
-/

namespace Tinyray.Transport

open Tinyray.Blob
open Tinyray.Foundation

/-- An owner set, with the lease that holds it. -/
structure OwnerSet where
  set : RpcBlobOwners
  owners : List BlobRef
  lease : Option BlobLease := none
  /-- It was made before the fork. -/
  inherited : Bool := false
  /--
  A client from before a fork was used while the set was held; no function
  reads it.
  -/
  forgotten : Bool := false

/-- What its lease has taken, if it has one. -/
def OwnerSet.charges (ownerSet : OwnerSet) : List (BlobLevel × (Nat × Nat)) :=
  match ownerSet.lease with
  | none => []
  | some lease => lease.charges

theorem OwnerSet.demand_of_lease_none
    {ownerSet : OwnerSet} (noLease : ownerSet.lease = none) (level : BlobLevel) :
    demand ownerSet.charges level = 0 := by
  simp [OwnerSet.charges, noLease]

/-- A process, as far as blobs of calls and replies are concerned. -/
structure BlobProcess where
  table : OwnerTable := {}
  budgets : BlobLevel → Budget (Nat × Nat)
  sets : List OwnerSet := []
  forked : Bool := false

/-- What happens in a process and to it. -/
inductive ForkEvent where
  /-- A call of a client that was made in this process. -/
  | call (owners : List BlobRef)
  /-- A reply of a server, with the lease that it needs. -/
  | admission (lease : BlobLease)
  /-- The end of a call, or of a lease. -/
  | drop (index : Nat)
  | fork
  /-- A client from before the fork is used. -/
  | useInherited

namespace BlobProcess

/-- A process that has not been forked. -/
def start (limits : BlobLevel → Nat × Nat) : BlobProcess where
  budgets := fun level => { limit := limits level, used := 0 }

/-- The sets made since the fork. -/
def own (process : BlobProcess) : List OwnerSet :=
  process.sets.filter fun ownerSet => !ownerSet.inherited

/-- What the leases since the fork have taken. -/
def ownDemand (process : BlobProcess) (level : BlobLevel) : Nat × Nat :=
  (process.own.map fun ownerSet => demand ownerSet.charges level).sum

/-- What the leases have taken that were never forgotten. -/
def liveDemand (process : BlobProcess) (level : BlobLevel) : Nat × Nat :=
  (process.sets.map fun ownerSet =>
    if ownerSet.forgotten then 0 else demand ownerSet.charges level).sum

/-- `reset_blob_reply_budgets_after_fork` -/
def resetBlobReplyBudgets (process : BlobProcess) : BlobProcess :=
  { process with
    budgets :=
      Function.update process.budgets .process
        { process.budgets .process with used := 0 } }

/-- `ensure_current` of a client from before the fork. -/
def ensureCurrent (process : BlobProcess) : BlobProcess :=
  { process with table := process.table.clearInherited }
    |>.resetBlobReplyBudgets

/-- One event; `none` if it cannot happen. -/
def step (process : BlobProcess) : ForkEvent → Option BlobProcess
  | .call owners =>
    match process.table.track owners with
    | (table, .ok set) =>
      some
        { process with
          table := table
          sets := { set := set, owners := owners } :: process.sets }
    | (_, .error _) => some process
  | .admission lease =>
    -- a reply without blobs has no lease
    if lease.owners.isEmpty then none
    else
      let taken := acquireAll tryAcquireBlobs process.budgets lease.charges
      match taken.1 with
      | some _ => some { process with budgets := taken.2 }
      | none =>
        match process.table.track lease.owners with
        | (table, .ok set) =>
          some
            { process with
              table := table
              budgets := taken.2
              sets :=
                { set := set
                  owners := lease.owners
                  lease := some lease } :: process.sets }
        | (_, .error _) =>
          some
            { process with budgets := releaseAll taken.2 lease.charges.reverse }
  | .drop index => do
    let ownerSet ← process.sets[index]?
    some
      { process with
        table := process.table.drop ownerSet.set
        budgets := releaseAll process.budgets ownerSet.charges
        sets := process.sets.eraseIdx index }
  | .fork =>
    some
      { process with
        sets :=
          process.sets.map fun ownerSet =>
            { ownerSet with inherited := true }
        forked := true }
  | .useInherited =>
    if process.forked then
      some
        { process.ensureCurrent with
          sets :=
            process.sets.map fun ownerSet =>
              { ownerSet with forgotten := true } }
    else none

/--
A client from before the fork is used only while no set since then has blobs.
A set from before the fork is dropped only if none of those is in its slot and,
if it is a lease, no client from before the fork was used while it was held.
-/
def apart (process : BlobProcess) : ForkEvent → Bool
  | .useInherited => process.own.all fun ownerSet => ownerSet.set.state = none
  | .drop index =>
    match process.sets[index]? with
    | none => true
    | some gone =>
      !gone.inherited || gone.set.state = none ||
        (process.own.all fun ownerSet =>
            ownerSet.set.state = none || ownerSet.set.slot ≠ gone.set.slot) &&
          (gone.lease.isNone || !gone.forgotten)
  | _ => true

/-! ## What the process keeps -/

/--
The sets since the fork are in the table, and every lease is counted that was
not forgotten.
-/
structure Kept (process : BlobProcess) : Prop where
  kept : ∀ ownerSet ∈ process.own, process.table.keeps ownerSet.set ownerSet.owners = true
  counted : ∀ level, process.liveDemand level ≤ (process.budgets level).used
  within : ∀ level, (process.budgets level).used ≤ (process.budgets level).limit
  /-- No two sets have one state. -/
  addresses : (process.sets.filterMap fun ownerSet => ownerSet.set.state).Nodup
  earlier :
    ∀ ownerSet ∈ process.sets, ∀ address,
      ownerSet.set.state = some address → address < process.table.next
  /-- A set without blobs has no lease. -/
  bare : ∀ ownerSet ∈ process.sets, ownerSet.set.state = none → ownerSet.lease = none
  /-- Of the sets since the fork only those without a lease are forgotten. -/
  remembered : ∀ ownerSet ∈ process.own, ownerSet.forgotten = true → ownerSet.lease = none

theorem kept_start (limits : BlobLevel → Nat × Nat) : Kept (start limits) where
  kept := by simp [start, own]
  counted := by simp [start, liveDemand]
  within := by simp [start]
  addresses := by simp [start]
  earlier := by simp [start]
  bare := by simp [start]
  remembered := by simp [start, own]

variable {index : Nat} {gone : OwnerSet}

theorem getElem?_cons_eraseIdx_perm
    {sets : List OwnerSet} (found : sets[index]? = some gone) :
    (gone :: sets.eraseIdx index).Perm sets := by
  rcases List.getElem?_eq_some_iff.mp found with ⟨bound, rfl⟩
  exact List.getElem_cons_eraseIdx_perm bound

theorem liveDemand_eraseIdx
    {process : BlobProcess} (found : process.sets[index]? = some gone) (level : BlobLevel) :
    process.liveDemand level =
      (if gone.forgotten then 0 else demand gone.charges level) +
        { process with sets := process.sets.eraseIdx index }.liveDemand
          level := by
  have total :=
    ((getElem?_cons_eraseIdx_perm found).map fun ownerSet =>
      if ownerSet.forgotten then 0
      else demand ownerSet.charges level).sum_eq
  rw [liveDemand, ← total, List.map_cons, List.sum_cons, liveDemand]

namespace Kept

variable {process : BlobProcess} (kept : Kept process)
include kept

variable {index : Nat} {next : BlobProcess}
  {gone : OwnerSet} {owners : List BlobRef}

/-- What was never forgotten is counted, beside all other such leases. -/
theorem share_counted
    (found : process.sets[index]? = some gone)
    (live : gone.forgotten = true → gone.lease = none) (level : BlobLevel) :
    demand gone.charges level +
        { process with sets := process.sets.eraseIdx index }.liveDemand level ≤
      (process.budgets level).used := by
  have counted := kept.counted level
  rw [liveDemand_eraseIdx found] at counted
  cases forgotten : gone.forgotten with
  | false => simpa [forgotten] using counted
  | true =>
    rw [OwnerSet.demand_of_lease_none (live forgotten)]
    simpa [forgotten] using counted

/-- Own demands are within the budget. -/
theorem ownDemand_le (level : BlobLevel) :
    process.ownDemand level ≤ (process.budgets level).used := by
  refine le_trans ?_ (kept.counted level)
  have remembered := kept.remembered
  simp only [ownDemand, liveDemand, own, List.mem_filter] at remembered ⊢
  generalize process.sets = sets at remembered ⊢
  induction sets with
  | nil => rfl
  | cons ownerSet rest hypothesis =>
    have later :=
      hypothesis fun other member => remembered other ⟨List.mem_cons_of_mem _ member.1, member.2⟩
    cases inherited : ownerSet.inherited with
    | true =>
      simpa [List.filter_cons, inherited] using later.trans le_add_self
    | false =>
      have noLease := remembered ownerSet ⟨List.mem_cons_self, by simp [inherited]⟩
      cases forgotten : ownerSet.forgotten with
      | false => simpa [List.filter_cons, inherited, forgotten] using later
      | true =>
        simpa [List.filter_cons, inherited, forgotten,
          OwnerSet.demand_of_lease_none (noLease forgotten)] using later

/-- One more set is kept. -/
theorem push
    {table : OwnerTable} {set : RpcBlobOwners}
    {lease : Option BlobLease} {budgets : BlobLevel → Budget (Nat × Nat)}
    (tracked : OwnerTable.Tracked process.table table set owners)
    (hasLease : owners = [] → lease = none)
    (counted :
      ∀ level,
        demand (OwnerSet.charges { set, owners, lease }) level + process.liveDemand level ≤
          (budgets level).used)
    (within : ∀ level, (budgets level).used ≤ (budgets level).limit) :
    Kept
      { process with
        table := table
        budgets := budgets
        sets := { set, owners, lease } :: process.sets } where
  kept := by
    intro ownerSet member
    rcases List.mem_cons.mp member with rfl | member
    · exact tracked.kept
    · exact tracked.others (kept.kept ownerSet member)
        (kept.earlier ownerSet (List.mem_of_mem_filter member))
  counted := counted
  within := within
  addresses := by
    rw [List.filterMap_cons]
    split
    · exact kept.addresses
    · rename_i address isState
      refine List.nodup_cons.mpr ⟨?_, kept.addresses⟩
      intro member
      rcases List.mem_filterMap.mp member with ⟨ownerSet, member, same⟩
      have below := kept.earlier ownerSet member address same
      rcases tracked.isNew with ⟨_, bare⟩ | isNew
      · rw [bare] at isState
        cases isState
      · rw [isNew] at isState
        cases isState
        exact absurd below (Nat.lt_irrefl _)
  earlier := by
    intro ownerSet member address isState
    rcases List.mem_cons.mp member with rfl | member
    · exact tracked.below address isState
    · exact (kept.earlier ownerSet member address isState).trans_le tracked.grown
  bare := by
    intro ownerSet member isBare
    rcases List.mem_cons.mp member with rfl | member
    · rcases tracked.isNew with ⟨empty, _⟩ | isNew
      · exact hasLease empty
      · rw [isNew] at isBare
        cases isBare
    · exact kept.bare ownerSet member isBare
  remembered := by
    intro ownerSet member forgotten
    rcases List.mem_cons.mp member with rfl | member
    · cases forgotten
    · exact kept.remembered ownerSet member forgotten

theorem call (stepped : process.step (.call owners) = some next) : Kept next := by
  simp only [step] at stepped
  split at stepped
  · rename_i table set ok
    cases stepped
    refine kept.push (OwnerTable.track_ok ok) (fun _ => rfl) ?_ kept.within
    intro level
    simpa [OwnerSet.charges] using kept.counted level
  · cases stepped
    exact kept

/-- An admission is kept. -/
theorem admission
    {lease : BlobLease} (stepped : process.step (.admission lease) = some next) :
    Kept next := by
  simp only [step] at stepped
  split at stepped
  · cases stepped
  rename_i hasOwners
  split at stepped
  · rename_i level refused
    cases stepped
    rw [acquireAll_refused grants_tryAcquireBlobs refused]
    exact kept
  · rename_i granted
    have paid (level : BlobLevel) :=
      acquireAll_granted grants_tryAcquireBlobs granted level (kept.within level)
    split at stepped
    · rename_i table set ok
      cases stepped
      refine kept.push (OwnerTable.track_ok ok) ?_ ?_ ?_
      · intro empty
        rw [empty] at hasOwners
        exact absurd rfl hasOwners
      · intro level
        rw [(paid level).2.1, add_comm]
        exact add_le_add_left (kept.counted level) _
      · intro level
        rw [(paid level).1, (paid level).2.1]
        exact (paid level).2.2
    · cases stepped
      rw [releaseAll_acquireAll grants_tryAcquireBlobs granted kept.within]
      exact kept

/-- Another set's end is harmless. -/
theorem dropApart
    (found : process.sets[index]? = some gone)
    (slots :
      ∀ ownerSet ∈ process.own, ∀ address, gone.set.state = some address →
        ownerSet.set.state ≠ some address → ownerSet.set.state ≠ none →
          ownerSet.set.slot ≠ gone.set.slot)
    (live : gone.forgotten = true → gone.lease = none) :
    Kept
      { process with
        table := process.table.drop gone.set
        budgets := releaseAll process.budgets gone.charges
        sets := process.sets.eraseIdx index } := by
  have permuted := getElem?_cons_eraseIdx_perm found
  have different :
      ∀ ownerSet ∈ process.sets.eraseIdx index, ∀ address,
        gone.set.state = some address → ownerSet.set.state ≠ some address := by
    intro ownerSet member address isState same
    have addresses :=
      (permuted.filterMap fun ownerSet => ownerSet.set.state).nodup_iff.mpr kept.addresses
    simp only [List.filterMap_cons, isState, List.nodup_cons] at addresses
    exact addresses.1 (List.mem_filterMap.mpr ⟨ownerSet, member, same⟩)
  have remains {ownerSet : OwnerSet}
      (member : ownerSet ∈ process.sets.eraseIdx index) :
      ownerSet ∈ process.sets :=
    List.mem_of_mem_eraseIdx member
  exact
    { kept := by
        intro ownerSet member
        rcases List.mem_filter.mp member with ⟨member, isOwn⟩
        have ownMember : ownerSet ∈ process.own := List.mem_filter.mpr ⟨remains member, isOwn⟩
        refine OwnerTable.keeps_drop (kept.kept ownerSet ownMember) ?_
        intro address isState
        have differentState := different ownerSet member address isState
        exact ⟨differentState, slots ownerSet ownMember address isState differentState⟩
      counted := by
        intro level
        rw [releaseAll_used]
        exact le_tsub_of_add_le_left (kept.share_counted found live level)
      within := by
        intro level
        rw [releaseAll_used, releaseAll_limit]
        exact tsub_le_self.trans (kept.within level)
      addresses := kept.addresses.sublist ((List.eraseIdx_sublist _ _).filterMap _)
      earlier := by
        intro ownerSet member address isState
        rw [OwnerTable.drop_next]
        exact kept.earlier ownerSet (remains member) address isState
      bare := fun ownerSet member => kept.bare ownerSet (remains member)
      remembered := by
        intro ownerSet member
        rcases List.mem_filter.mp member with ⟨member, isOwn⟩
        exact kept.remembered ownerSet (List.mem_filter.mpr ⟨remains member, isOwn⟩) }

/-- A drop keeps the rest. -/
theorem drop
    (stepped : process.step (.drop index) = some next)
    (met : process.apart (.drop index) = true) :
    Kept next := by
  simp only [step, bind_some_iff] at stepped
  rcases stepped with ⟨gone, found, stepped⟩
  cases stepped
  cases isInherited : gone.inherited with
  | false =>
    have isOwn : gone ∈ process.own :=
      List.mem_filter.mpr ⟨List.mem_of_getElem? found, by simp [isInherited]⟩
    refine kept.dropApart found ?_ (kept.remembered gone isOwn)
    intro ownerSet member address isState different hasState
    rcases Option.ne_none_iff_exists'.mp hasState with ⟨other, isOther⟩
    refine OwnerTable.keeps_slot_ne (kept.kept gone isOwn) isState
      (kept.kept ownerSet member) isOther ?_
    rintro rfl
    exact different isOther
  | true =>
    simp only [apart, found, isInherited, Bool.not_true, Bool.false_or,
      Bool.or_eq_true, decide_eq_true_eq, Bool.and_eq_true,
      List.all_eq_true, Option.isNone_iff_eq_none, Bool.not_eq_true'] at met
    refine kept.dropApart found ?_ ?_
    · intro ownerSet member address isState _ hasState
      rcases met with bare | ⟨slots, _⟩
      · rw [bare] at isState
        cases isState
      · exact (slots ownerSet member).resolve_left hasState
    · intro forgotten
      rcases met with bare | ⟨_, noLease | live⟩
      · exact kept.bare gone (List.mem_of_getElem? found) bare
      · exact noLease
      · rw [forgotten] at live
        cases live

/-- A forked process starts right. -/
theorem fork (stepped : process.step .fork = some next) : Kept next := by
  cases stepped
  have none :
      (process.sets.map fun ownerSet =>
          { ownerSet with inherited := true }).filter
        (fun ownerSet => !ownerSet.inherited) = [] := by
    simp
  refine
    { kept := ?_
      counted := ?_
      within := kept.within
      addresses := ?_
      earlier := ?_
      bare := ?_
      remembered := ?_ }
  · intro ownerSet member
    rw [own, none] at member
    cases member
  · intro level
    rw [liveDemand, List.map_map]
    exact kept.counted level
  · rw [List.filterMap_map]
    exact kept.addresses
  · intro ownerSet member
    rcases List.mem_map.mp member with ⟨parent, listed, rfl⟩
    exact kept.earlier parent listed
  · intro ownerSet member
    rcases List.mem_map.mp member with ⟨parent, listed, rfl⟩
    exact kept.bare parent listed
  · intro ownerSet member
    rw [own, none] at member
    cases member

/-- Using an inherited set is harmless. -/
theorem useInherited
    (stepped : process.step .useInherited = some next)
    (met : process.apart .useInherited = true) :
    Kept next := by
  simp only [step] at stepped
  split_ifs at stepped
  cases stepped
  simp only [apart, List.all_eq_true, decide_eq_true_eq] at met
  -- the sets are the same, but for the mark
  have marked {ownerSet : OwnerSet}
      (member :
        ownerSet ∈ process.sets.map fun ownerSet =>
          { ownerSet with forgotten := true }) :
      ∃ parent ∈ process.sets, { parent with forgotten := true } = ownerSet :=
    List.mem_map.mp member
  have bare {parent : OwnerSet} (listed : parent ∈ process.sets)
      (isOwn : (!parent.inherited) = true) : parent.set.state = none :=
    met parent (List.mem_filter.mpr ⟨listed, isOwn⟩)
  refine
    { kept := ?_
      counted := ?_
      within := ?_
      addresses := ?_
      earlier := ?_
      bare := ?_
      remembered := ?_ }
  · intro ownerSet member
    rcases List.mem_filter.mp member with ⟨member, isOwn⟩
    rcases marked member with ⟨parent, listed, rfl⟩
    rw [OwnerTable.keeps, bare listed isOwn]
  · intro level
    have none : ∀ sets : List OwnerSet, (sets.map fun _ => (0 : Nat × Nat)).sum = 0 := by
      simp
    rw [liveDemand, List.map_map]
    exact (none process.sets).trans_le zero_le
  · intro level
    simp only [ensureCurrent, resetBlobReplyBudgets, Function.update_apply]
    split
    · exact zero_le
    · exact kept.within level
  · rw [List.filterMap_map]
    exact kept.addresses
  · intro ownerSet member
    rcases marked member with ⟨parent, listed, rfl⟩
    exact kept.earlier parent listed
  · intro ownerSet member
    rcases marked member with ⟨parent, listed, rfl⟩
    exact kept.bare parent listed
  · intro ownerSet member _
    rcases List.mem_filter.mp member with ⟨member, isOwn⟩
    rcases marked member with ⟨parent, listed, rfl⟩
    exact kept.bare parent listed (bare listed isOwn)

theorem step
    {event : ForkEvent} (stepped : process.step event = some next)
    (met : process.apart event = true) :
    Kept next := by
  cases event with
  | call owners => exact kept.call stepped
  | admission lease => exact kept.admission stepped
  | drop index => exact kept.drop stepped met
  | fork => exact kept.fork stepped
  | useInherited => exact kept.useInherited stepped met

end Kept

/-- Every set since the fork is in the table, with its blobs. -/
def ownKept (process : BlobProcess) : Bool :=
  process.own.all fun ownerSet => process.table.keeps ownerSet.set ownerSet.owners

end BlobProcess

/--
Where clients from before a fork are used only while no set since then has
blobs, and what is from before it is dropped only where no set since then is in
its slot and, if it is a lease, no such client was used while it was held, every
set since the fork keeps its blobs and its slot, and all that the leases since
then have taken is counted.
-/
theorem fork_keeps_own_blobs
    (limits : BlobLevel → Nat × Nat) {events : List ForkEvent} {final : BlobProcess}
    (ran : execute BlobProcess.step (BlobProcess.start limits) events = some final)
    (obeyed : obeys BlobProcess.step BlobProcess.apart (BlobProcess.start limits) events) :
    final.ownKept = true ∧ ∀ level, final.ownDemand level ≤ (final.budgets level).used := by
  have kept : final.Kept :=
    execute_invariant
      (fun stepped met kept => BlobProcess.Kept.step kept stepped met) ran
      obeyed (BlobProcess.kept_start limits)
  exact ⟨List.all_eq_true.mpr kept.kept, kept.ownDemand_le⟩

/-- A blob of one byte. -/
private def someBlob : BlobRef where
  inner := some ⟨0, ⟨1, [], 1, 1, 1, 0, 0, []⟩, false⟩

/-- A lease of it. -/
private def someLease : BlobLease := ⟨0, 0, "a", [someBlob], 1, 33⟩

/--
A process has a call when it forks, and the call ends first in the child.  The
child has a lease when it forks again, and the lease ends beside a new one.
-/
theorem fork_keeps_own_blobs_in_order :
    ∃ final,
      execute BlobProcess.step (BlobProcess.start fun _ => (8, 4096))
          [.call [someBlob], .fork, .useInherited, .drop 0,
            .call [someBlob], .admission someLease, .fork, .admission someLease, .drop 1] =
        some final ∧
      (final.own.length = 1 ∧ final.ownDemand .process = (1, 33)) ∧ final.ownKept = true ∧
      ∀ level, final.ownDemand level ≤ (final.budgets level).used := by
  refine ⟨Option.get _ ?_, (Option.some_get _).symm, ?_,
    fork_keeps_own_blobs _ (Option.some_get _).symm ?_⟩
  all_goals decide +kernel

/--
A client from before the fork that is used once more takes away the blobs of a
call and what is counted for a reply.  A call from before the fork that ends
late takes the slot of a new one.
-/
theorem fork_clears_own_blobs :
    (execute BlobProcess.step (BlobProcess.start fun _ => (8, 4096))
          [.fork, .call [someBlob], .useInherited]).map
        (fun final => (final.own.length, final.ownKept)) =
      some (1, false) ∧
    (execute BlobProcess.step (BlobProcess.start fun _ => (8, 4096))
          [.fork, .admission someLease, .useInherited]).map
        (fun final => (final.ownDemand .process, (final.budgets .process).used)) =
      some ((1, 33), (0, 0)) ∧
    (execute BlobProcess.step (BlobProcess.start fun _ => (8, 4096))
          [.call [someBlob], .fork, .useInherited, .call [someBlob], .drop 1]).map
        (fun final => (final.own.length, final.ownKept)) =
      some (1, false) := by
  decide +kernel

end Tinyray.Transport
