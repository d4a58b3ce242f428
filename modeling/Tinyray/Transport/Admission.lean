import Mathlib.Algebra.Order.Group.Nat
import Mathlib.Algebra.Order.Monoid.Prod
import Tinyray.Blob.Reference
import Tinyray.Foundation.Budget
import Tinyray.Foundation.Run
import Tinyray.Transport.Server

/-!
# Admission of frames and of blobs in replies

A frame that is read, or queued for writing, takes one of the frames and its
length of the bytes from a budget of the process and from one of the endpoint.
A reply with blobs takes the number of its blobs and their bytes from the
process, the server and the connection, until the reply is acknowledged, was
not written, or its connection is closed.

The tables of all connections are given as one list of leases.
-/

namespace Tinyray.Transport

open Tinyray.Blob
open Tinyray.Foundation

/-! ## Frames -/

/-- What a frame is counted in. -/
inductive FrameKind where
  | frames
  | smallBytes
  | bulkBytes
deriving DecidableEq

/-- Each of `FrameBudgets` has three semaphores. -/
inductive FrameLevel where
  | global (kind : FrameKind)
  | endpoint (number : Nat) (kind : FrameKind)
deriving DecidableEq

/-- The kind that is counted. -/
def FrameLevel.kind : FrameLevel → FrameKind
  | .global kind => kind
  | .endpoint _ kind => kind

/-- `SMALL_FRAME_MAX_BYTES` -/
def smallFrameMaxBytes : Nat := 1 <<< 20

/-- A frame that was admitted. -/
structure FrameAdmission where
  endpoint : Nat
  length : Nat
deriving DecidableEq

/-- The bytes that a frame of this length is counted among. -/
def bytesKind (length : Nat) : FrameKind :=
  if length ≤ smallFrameMaxBytes then .smallBytes else .bulkBytes

/-- What it takes from each budget. -/
def FrameAdmission.charges (admission : FrameAdmission) : List (FrameLevel × Nat) :=
  [(.global .frames, 1), (.endpoint admission.endpoint .frames, 1),
    (.global (bytesKind admission.length), admission.length),
    (.endpoint admission.endpoint (bytesKind admission.length), admission.length)]

/-- `try_acquire_many_owned` of a semaphore with what is left of its limit. -/
def tryAcquireMany (semaphore : Budget Nat) (permits : Nat) : Option (Budget Nat) :=
  if permits ≤ semaphore.limit - semaphore.used then some (semaphore.acquire permits)
  else none

/-! ## Blobs -/

/--
The loop over the owners of a reply, with those it has kept and their bytes;
`none` is an overflow.
-/
def uniqueOwners : List BlobRef → List BlobRef → Nat → Option (List BlobRef × Nat)
  | [], unique, bytes => some (unique, bytes)
  | owner :: rest, unique, bytes =>
    if unique.any fun existing => existing.sharesStorage owner then uniqueOwners rest unique bytes
    else if bytes + owner.mappedLen ≤ usizeMax then
      uniqueOwners rest (unique ++ [owner]) (bytes + owner.mappedLen)
    else none

/-- The budgets for blobs. -/
inductive BlobLevel where
  | process
  | server (number : Nat)
  | connection (number : Nat)
deriving DecidableEq

/-- The text when it is full. -/
def BlobLevel.full : BlobLevel → String
  | .process => "process BlobRef reply budget is full"
  | .server _ => "server BlobRef reply budget is full"
  | .connection _ => "connection BlobRef reply budget is full"

/-- `checked_add` -/
def checkedAdd (left right : Nat) : Option Nat :=
  if left + right ≤ usizeMax then some (left + right) else none

/-- Take blobs and bytes. -/
def tryAcquireBlobs (budget : Budget (Nat × Nat)) (amount : Nat × Nat) :
    Option (Budget (Nat × Nat)) := do
  let refs ← checkedAdd budget.used.1 amount.1
  if refs > budget.limit.1 then none
  else
    let bytes ← checkedAdd budget.used.2 amount.2
    if bytes > budget.limit.2 then none
    else some (budget.acquire amount)

/-- A connection and its limits. -/
structure BlobConnection where
  number : Nat
  server : Nat
  maxBlobRefsPerReply : Nat
  maxBlobBytesPerReply : Nat

/-- `BlobResponseLease`, with its place in the tables. -/
structure BlobLease where
  connection : Nat
  server : Nat
  requestId : String
  owners : List BlobRef
  refs : Nat
  bytes : Nat
deriving DecidableEq

/-- What it takes from each budget. -/
def BlobLease.charges (lease : BlobLease) : List (BlobLevel × (Nat × Nat)) :=
  [(.process, (lease.refs, lease.bytes)), (.server lease.server, (lease.refs, lease.bytes)),
    (.connection lease.connection, (lease.refs, lease.bytes))]

/-- The lease for a reply. -/
def BlobConnection.lease (connection : BlobConnection)
    (requestId : String) (unique : List BlobRef) (bytes : Nat) :
    BlobLease where
  connection := connection.number
  server := connection.server
  requestId := requestId
  owners := unique
  refs := unique.length
  bytes := bytes

/-! ## The budgets and what is held -/

/-- All budgets and what they gave. -/
structure Admissions where
  frameBudgets : FrameLevel → Budget Nat
  blobBudgets : BlobLevel → Budget (Nat × Nat)
  frames : List FrameAdmission := []
  leases : List BlobLease := []

namespace Admissions

/-- Nothing is taken. -/
def start (frameLimits : FrameLevel → Nat)
    (blobLimits : BlobLevel → Nat × Nat) : Admissions where
  frameBudgets := fun level => { limit := frameLimits level, used := 0 }
  blobBudgets := fun level => { limit := blobLimits level, used := 0 }

/-- `try_admit_frame` -/
def tryAdmitFrame (admissions : Admissions) (endpoint length : Nat) :
    Admissions × Option FrameAdmission :=
  -- the number of permits has 32 bits
  if length < 2 ^ 32 then
    let admission : FrameAdmission := ⟨endpoint, length⟩
    let taken := acquireAll tryAcquireMany admissions.frameBudgets admission.charges
    match taken.1 with
    | some _ => ({ admissions with frameBudgets := taken.2 }, none)
    | none =>
      ({ admissions with
          frameBudgets := taken.2
          frames := admission :: admissions.frames },
        some admission)
  else (admissions, none)

/-- A frame is done. -/
def dropFrame (admissions : Admissions) (index : Nat) : Option Admissions := do
  let admission ← admissions.frames[index]?
  some
    { admissions with
      frameBudgets := releaseAll admissions.frameBudgets admission.charges
      frames := admissions.frames.eraseIdx index }

/-- Leases are taken out of the tables and dropped. -/
def dropLeases (admissions : Admissions) (gone : BlobLease → Bool) : Admissions :=
  { admissions with
    blobBudgets :=
      ((admissions.leases.filter gone).map BlobLease.charges).foldl
        releaseAll admissions.blobBudgets
    leases := admissions.leases.filter fun lease => !gone lease }

/-- `acknowledge_blobs` -/
def acknowledgeBlobs (admissions : Admissions) (connection : Nat)
    (requestId : String) : Admissions :=
  admissions.dropLeases fun lease => lease.connection = connection && lease.requestId = requestId

/-- `close` clears the table of a connection. -/
def close (admissions : Admissions) (connection : Nat) : Admissions :=
  admissions.dropLeases fun lease => lease.connection = connection

/-- `admit_blob_response`; a lease for the same request is replaced. -/
def admitBlobResponse (admissions : Admissions)
    (connection : BlobConnection) (requestId : String)
    (blobOwners : List BlobRef) (tracks : Bool) :
    Admissions × BlobAdmission :=
  match uniqueOwners blobOwners [] 0 with
  | none => (admissions, .rejected "BlobRef reply byte count overflowed")
  | some (unique, bytes) =>
    if unique.isEmpty then (admissions, .empty)
    else if unique.length > connection.maxBlobRefsPerReply then
      (admissions,
        .rejected
          ("reply contains " ++ toString unique.length ++ " unique BlobRefs, above the limit of " ++
            toString connection.maxBlobRefsPerReply))
    else if bytes > connection.maxBlobBytesPerReply then
      (admissions,
        .rejected
          ("reply contains " ++ toString bytes ++ " BlobRef bytes, above the limit of " ++
            toString connection.maxBlobBytesPerReply))
    else
      let lease := connection.lease requestId unique bytes
      let taken := acquireAll tryAcquireBlobs admissions.blobBudgets lease.charges
      match taken.1 with
      | some level => ({ admissions with blobBudgets := taken.2 }, .rejected level.full)
      | none =>
        let paid := { admissions with blobBudgets := taken.2 }
        if tracks then
          let replaced := paid.acknowledgeBlobs connection.number requestId
          ({ replaced with leases := lease :: replaced.leases }, .admitted)
        else
          ({ paid with blobBudgets := releaseAll taken.2 lease.charges.reverse },
            .rejected "more than 1024 RPC calls retain BlobRef owners")

end Admissions

/-- What happens to the budgets. -/
inductive AdmissionEvent where
  | admitFrame (endpoint length : Nat)
  | dropFrame (index : Nat)
  | admitBlobs (connection : BlobConnection) (requestId : String)
      (blobOwners : List BlobRef) (tracks : Bool)
  | acknowledgeBlobs (connection : Nat) (requestId : String)
  | close (connection : Nat)

namespace Admissions

/-- One step of them. -/
def step (admissions : Admissions) : AdmissionEvent → Option Admissions
  | .admitFrame endpoint length => some (admissions.tryAdmitFrame endpoint length).1
  | .dropFrame index => admissions.dropFrame index
  | .admitBlobs connection requestId blobOwners tracks =>
    some (admissions.admitBlobResponse connection requestId blobOwners tracks).1
  | .acknowledgeBlobs connection requestId =>
    some (admissions.acknowledgeBlobs connection requestId)
  | .close connection => some (admissions.close connection)

end Admissions

/-! ## Permits -/

/-- Permits are granted within limits. -/
theorem grants_tryAcquireMany : Grants tryAcquireMany where
  counts := by
    intro budget next amount granted
    simp only [tryAcquireMany] at granted
    split_ifs at granted
    cases granted
    rfl
  fits := by
    intro budget next amount granted within
    simp only [tryAcquireMany] at granted
    split_ifs at granted with left
    omega

/-- What is granted was there. -/
theorem tryAcquireBlobs_granted
    {budget next : Budget (Nat × Nat)} {amount : Nat × Nat}
    (granted : tryAcquireBlobs budget amount = some next) :
    next = budget.acquire amount ∧ budget.used + amount ≤ budget.limit := by
  simp only [tryAcquireBlobs, bind_some_iff] at granted
  rcases granted with ⟨refs, refsAdded, granted⟩
  simp only [checkedAdd] at refsAdded
  split_ifs at refsAdded
  cases refsAdded
  split_ifs at granted with refsOver
  simp only [bind_some_iff] at granted
  rcases granted with ⟨bytes, bytesAdded, granted⟩
  simp only [checkedAdd] at bytesAdded
  split_ifs at bytesAdded
  cases bytesAdded
  split_ifs at granted with bytesOver
  cases granted
  exact ⟨rfl, Nat.le_of_not_gt refsOver, Nat.le_of_not_gt bytesOver⟩

theorem grants_tryAcquireBlobs : Grants tryAcquireBlobs where
  counts := fun granted => (tryAcquireBlobs_granted granted).1
  fits := fun granted _ => (tryAcquireBlobs_granted granted).2

/-! ## The owners of a reply -/

/-- The owners that were kept, out of those seen so far, and their bytes. -/
structure Deduplicated (seen unique : List BlobRef) (bytes : Nat) : Prop where
  kept : ∀ owner ∈ unique, owner ∈ seen
  covered :
    ∀ owner ∈ seen, ∃ existing ∈ unique, existing = owner ∨ existing.sharesStorage owner = true
  apart : unique.Pairwise fun earlier later => earlier.sharesStorage later = false
  counted : bytes = (unique.map BlobRef.mappedLen).sum

/-- Owners are counted once. -/
theorem uniqueOwners_deduplicated
    {seen unique rest result : List BlobRef} {bytes total : Nat}
    (before : Deduplicated seen unique bytes)
    (ran : uniqueOwners rest unique bytes = some (result, total)) :
    Deduplicated (seen ++ rest) result total := by
  induction rest generalizing seen unique bytes with
  | nil =>
    cases ran
    simpa using before
  | cons owner rest hypothesis =>
    have split : seen ++ owner :: rest = (seen ++ [owner]) ++ rest := by
      simp
    rw [split]
    rw [uniqueOwners] at ran
    split_ifs at ran with shared fits
    · rw [List.any_eq_true] at shared
      rcases shared with ⟨existing, member, shares⟩
      refine hypothesis { before with kept := ?_, covered := ?_ } ran
      · intro kept isKept
        exact List.mem_append_left _ (before.kept kept isKept)
      · intro other isSeen
        rcases List.mem_append.mp isSeen with earlier | now
        · exact before.covered other earlier
        · cases List.mem_singleton.mp now
          exact ⟨existing, member, .inr shares⟩
    · rw [Bool.not_eq_true, List.any_eq_false] at shared
      refine hypothesis ⟨?_, ?_, ?_, ?_⟩ ran
      · intro kept isKept
        rcases List.mem_append.mp isKept with earlier | now
        · exact List.mem_append_left _ (before.kept kept earlier)
        · exact List.mem_append_right _ now
      · intro other isSeen
        rcases List.mem_append.mp isSeen with earlier | now
        · rcases before.covered other earlier with ⟨existing, member, same⟩
          exact ⟨existing, List.mem_append_left _ member, same⟩
        · cases List.mem_singleton.mp now
          exact ⟨owner, by simp, .inl rfl⟩
      · rw [List.pairwise_append]
        refine ⟨before.apart, by simp, ?_⟩
        intro earlier member later now
        cases List.mem_singleton.mp now
        exact Bool.eq_false_iff.mpr (shared earlier member)
      · simp [before.counted]

theorem uniqueOwners_new
    {owners unique : List BlobRef} {bytes : Nat}
    (ran : uniqueOwners owners [] 0 = some (unique, bytes)) :
    Deduplicated owners unique bytes := by
  have none : Deduplicated [] [] 0 := ⟨by simp, by simp, .nil, rfl⟩
  exact uniqueOwners_deduplicated none ran

/-! ## One call -/

namespace Admissions

variable {admissions : Admissions}

/-- How admitting a frame ends. -/
inductive FrameOutcome (admissions : Admissions) (endpoint length : Nat) :
    Admissions × Option FrameAdmission → Prop where
  | refused : FrameOutcome admissions endpoint length (admissions, none)
  | admitted :
      (acquireAll tryAcquireMany admissions.frameBudgets
          (FrameAdmission.charges ⟨endpoint, length⟩)).1 = none →
        FrameOutcome admissions endpoint length
          ({ admissions with
              frameBudgets :=
                (acquireAll tryAcquireMany admissions.frameBudgets
                  (FrameAdmission.charges ⟨endpoint, length⟩)).2
              frames := ⟨endpoint, length⟩ :: admissions.frames },
            some ⟨endpoint, length⟩)

theorem FrameOutcome.eq_of_refused
    {endpoint length : Nat} {result : Admissions × Option FrameAdmission}
    (outcome : FrameOutcome admissions endpoint length result) (refused : result.2 = none) :
    result.1 = admissions := by
  cases outcome with
  | refused => rfl
  | admitted _ => cases refused

/-- The ways to admit a frame. -/
theorem tryAdmitFrame_outcome
    (admissions : Admissions) (endpoint length : Nat) :
    FrameOutcome admissions endpoint length (admissions.tryAdmitFrame endpoint length) := by
  unfold tryAdmitFrame
  split_ifs
  · dsimp only
    cases taken :
        (acquireAll tryAcquireMany admissions.frameBudgets
          (FrameAdmission.charges ⟨endpoint, length⟩)).1 with
    | none => exact .admitted taken
    | some level =>
      simp only [acquireAll_refused grants_tryAcquireMany taken]
      exact .refused
  · exact .refused

/-- How admitting blobs ends. -/
inductive BlobOutcome (admissions : Admissions)
    (connection : BlobConnection) (requestId : String)
    (blobOwners : List BlobRef) :
    Admissions × BlobAdmission → Prop where
  | unchanged {answer : BlobAdmission} :
      answer ≠ .admitted →
        BlobOutcome admissions connection requestId blobOwners (admissions, answer)
  | admitted {unique : List BlobRef} {bytes : Nat}
      {budgets : BlobLevel → Budget (Nat × Nat)} :
      Deduplicated blobOwners unique bytes →
        acquireAll tryAcquireBlobs admissions.blobBudgets
            (connection.lease requestId unique bytes).charges =
          (none, budgets) →
        BlobOutcome admissions connection requestId blobOwners
          ({ { admissions with blobBudgets := budgets }.acknowledgeBlobs
                connection.number requestId with
              leases :=
                connection.lease requestId unique bytes ::
                  ({ admissions with blobBudgets := budgets }.acknowledgeBlobs
                    connection.number requestId).leases },
            .admitted)

section

variable {connection : BlobConnection} {requestId : String}
  {blobOwners : List BlobRef} {result : Admissions × BlobAdmission}
  (outcome : BlobOutcome admissions connection requestId blobOwners result)

include outcome

theorem BlobOutcome.eq_of_rejected
    (rejected : result.2 ≠ .admitted) :
    result.1 = admissions := by
  cases outcome with
  | unchanged _ => rfl
  | admitted _ _ => exact absurd rfl rejected

theorem BlobOutcome.deduplicated
    (admitted : result.2 = .admitted) :
    ∃ lease rest,
      result.1.leases = lease :: rest ∧ lease.refs = lease.owners.length ∧
        Deduplicated blobOwners lease.owners lease.bytes := by
  cases outcome with
  | unchanged other => exact absurd admitted other
  | admitted deduplicated _ => exact ⟨_, _, rfl, rfl, deduplicated⟩

end

/-- The ways to admit blobs. -/
theorem admitBlobResponse_outcome
    {held : List (List (BlobLevel × (Nat × Nat)))}
    (accurate : Accurate admissions.blobBudgets held)
    (connection : BlobConnection) (requestId : String)
    (blobOwners : List BlobRef) (tracks : Bool) :
    BlobOutcome admissions connection requestId blobOwners
      (admissions.admitBlobResponse connection requestId blobOwners tracks) := by
  unfold admitBlobResponse
  cases ran : uniqueOwners blobOwners [] 0 with
  | none => exact .unchanged (by simp)
  | some result =>
    rcases result with ⟨unique, bytes⟩
    dsimp only
    by_cases empty : unique.isEmpty
    · rw [if_pos empty]
      exact .unchanged (by simp)
    rw [if_neg empty]
    by_cases refsOver : unique.length > connection.maxBlobRefsPerReply
    · rw [if_pos refsOver]
      exact .unchanged (by simp)
    rw [if_neg refsOver]
    by_cases bytesOver : bytes > connection.maxBlobBytesPerReply
    · rw [if_pos bytesOver]
      exact .unchanged (by simp)
    rw [if_neg bytesOver]
    cases taken :
        (acquireAll tryAcquireBlobs admissions.blobBudgets
          (connection.lease requestId unique bytes).charges).1 with
    | some level =>
      simp only [acquireAll_refused grants_tryAcquireBlobs taken]
      exact .unchanged (by simp)
    | none =>
      cases tracks with
      | true =>
        exact .admitted (uniqueOwners_new ran) (Prod.ext taken rfl)
      | false =>
        simp only [releaseAll_acquireAll grants_tryAcquireBlobs taken
          accurate.within, Bool.false_eq_true, if_false]
        exact .unchanged (by simp)

/-! ## Whole runs -/

/-- The budgets add up. -/
structure Balanced (frameLimits : FrameLevel → Nat)
    (blobLimits : BlobLevel → Nat × Nat) (admissions : Admissions) :
    Prop where
  frames : Accurate admissions.frameBudgets (admissions.frames.map FrameAdmission.charges)
  blobs : Accurate admissions.blobBudgets (admissions.leases.map BlobLease.charges)
  frameLimit : ∀ level, (admissions.frameBudgets level).limit = frameLimits level
  blobLimit : ∀ level, (admissions.blobBudgets level).limit = blobLimits level

variable {frameLimits : FrameLevel → Nat}
  {blobLimits : BlobLevel → Nat × Nat}

theorem balanced_start
    (frameLimits : FrameLevel → Nat) (blobLimits : BlobLevel → Nat × Nat) :
    Balanced frameLimits blobLimits (start frameLimits blobLimits) where
  frames := accurate_unused frameLimits
  blobs := accurate_unused blobLimits
  frameLimit := fun _ => rfl
  blobLimit := fun _ => rfl

section

variable (balanced : Balanced frameLimits blobLimits admissions)

include balanced

/-- Admitting a frame adds up. -/
theorem Balanced.tryAdmitFrame
    (endpoint length : Nat) :
    Balanced frameLimits blobLimits (admissions.tryAdmitFrame endpoint length).1 := by
  generalize outcome : admissions.tryAdmitFrame endpoint length = result
  have called := tryAdmitFrame_outcome admissions endpoint length
  rw [outcome] at called
  cases called with
  | refused => exact balanced
  | admitted granted =>
    refine
      { balanced with
        frames := balanced.frames.acquireAll grants_tryAcquireMany granted
        frameLimit := ?_ }
    intro level
    rw [← balanced.frameLimit level]
    exact (acquireAll_granted grants_tryAcquireMany granted level (balanced.frames.within level)).1

/-- Dropping a frame adds up. -/
theorem Balanced.dropFrame
    {index : Nat} {next : Admissions} (dropped : admissions.dropFrame index = some next) :
    Balanced frameLimits blobLimits next := by
  simp only [Admissions.dropFrame, bind_some_iff] at dropped
  rcases dropped with ⟨admission, found, rest⟩
  cases rest
  rcases List.getElem?_eq_some_iff.mp found with ⟨inside, rfl⟩
  refine
    { balanced with
      frames := ?_
      frameLimit := fun level => (releaseAll_limit _ _ level).trans (balanced.frameLimit level) }
  apply Accurate.releaseAll
  apply balanced.frames.perm
  exact (List.getElem_cons_eraseIdx_perm inside).symm.map FrameAdmission.charges

/-- Giving leases back adds up. -/
theorem Balanced.dropLeases
    (gone : BlobLease → Bool) :
    Balanced frameLimits blobLimits (admissions.dropLeases gone) := by
  refine
    { balanced with
      blobs := ?_
      blobLimit := fun level => (releaseEach_limit _ _ level).trans (balanced.blobLimit level) }
  apply Accurate.releaseEach
  apply balanced.blobs.perm
  rw [← List.map_append]
  exact (List.filter_append_perm gone admissions.leases).symm.map BlobLease.charges

/-- Admitting blobs adds up. -/
theorem Balanced.admitBlobResponse
    (connection : BlobConnection) (requestId : String)
    (blobOwners : List BlobRef) (tracks : Bool) :
    Balanced frameLimits blobLimits
      (admissions.admitBlobResponse connection requestId blobOwners tracks).1 := by
  generalize outcome : admissions.admitBlobResponse connection requestId blobOwners tracks = result
  have called := admitBlobResponse_outcome balanced.blobs connection requestId blobOwners tracks
  rw [outcome] at called
  cases called with
  | unchanged _ => exact balanced
  | @admitted unique bytes budgets _ taken =>
    have granted := congrArg Prod.fst taken
    have paid := balanced.blobs.acquireAll grants_tryAcquireBlobs granted
    rw [taken] at paid
    refine { balanced with blobs := ?_, blobLimit := ?_ }
    · -- the new lease is counted before the one it replaces is dropped
      apply Accurate.releaseEach
      apply paid.perm
      rw [List.map_cons]
      refine .trans (.cons _ ?_) List.perm_middle.symm
      rw [← List.map_append]
      exact (List.filter_append_perm _ admissions.leases).symm.map BlobLease.charges
    · intro level
      have counted :=
        acquireAll_granted grants_tryAcquireBlobs granted level (balanced.blobs.within level)
      rw [taken] at counted
      rw [← balanced.blobLimit level, ← counted.1]
      exact releaseEach_limit _ _ level

end

/-- One step adds up. -/
theorem step_balanced
    {event : AdmissionEvent} {next : Admissions} (stepped : admissions.step event = some next)
    (balanced : Balanced frameLimits blobLimits admissions) :
    Balanced frameLimits blobLimits next := by
  cases event with
  | admitFrame endpoint length =>
    cases stepped
    exact balanced.tryAdmitFrame endpoint length
  | dropFrame index => exact balanced.dropFrame stepped
  | admitBlobs connection requestId blobOwners tracks =>
    cases stepped
    exact balanced.admitBlobResponse connection requestId blobOwners tracks
  | acknowledgeBlobs connection requestId | close connection =>
    cases stepped
    exact balanced.dropLeases _

/-- Other kinds are left alone. -/
theorem Balanced.tryAdmitFrame_other_kind
    (balanced : Balanced frameLimits blobLimits admissions)
    (endpoint length : Nat) {level : FrameLevel}
    (bytes : level.kind ≠ .frames) (other : level.kind ≠ bytesKind length) :
    ((admissions.tryAdmitFrame endpoint length).1.frameBudgets level).used =
      (admissions.frameBudgets level).used := by
  generalize outcome : admissions.tryAdmitFrame endpoint length = result
  have called := tryAdmitFrame_outcome admissions endpoint length
  rw [outcome] at called
  cases called with
  | refused => rfl
  | admitted granted =>
    have counted :=
      acquireAll_granted grants_tryAcquireMany granted level (balanced.frames.within level)
    have nothing : demand (FrameAdmission.charges ⟨endpoint, length⟩) level = 0 := by
      cases level with
      | global kind | endpoint number kind =>
        simp only [FrameLevel.kind] at bytes other
        simp [FrameAdmission.charges, bytes.symm, other.symm]
    rw [counted.2.1, nothing, Nat.add_zero]

end Admissions

/-- A blob of this size. -/
private def blobAt (address size : Nat) : BlobRef where
  inner :=
    some
      { address := address
        descriptor :=
          { boot := []
            ownerPid := 1
            fd := 3
            size := size
            device := 0
            inode := 0
            token := [] }
        decoded := false }

end Tinyray.Transport
