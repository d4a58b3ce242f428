import Mathlib.Algebra.Order.BigOperators.Group.List
import Mathlib.Algebra.Ring.Int.Defs
import Tinyray.Blob.Reference
import Tinyray.Foundation.Run

/-!
# Decoded references

The process counts the handles of references that were opened from descriptors,
the mappings behind them and the bytes of these, and keeps the mappings in a
cache without holding them, all under one lock.  A handle is given back when
anything goes wrong, or when its reference is dropped.  A mapping goes when the
last reference to it is dropped, and what is counted for it is given back a
moment later: in between the same descriptor may be opened anew.

References are cloned and dropped without the lock, so also between the two
looks that `open` takes at the cache.  The counters are integers, so that an
underflow is not hidden.
-/

namespace Tinyray.Blob

open Tinyray.Foundation

/-- `DEFAULT_MAX_BLOB_BYTES` -/
def defaultMaxBlobBytes : Nat := 256 <<< 20

/-- `MAX_DECODED_BLOB_HANDLES` -/
def maxDecodedBlobHandles : Int := 128

/-- `MAX_DECODED_BLOB_MAPPINGS` -/
def maxDecodedBlobMappings : Int := 64

/-- `MAX_DECODED_BLOB_BYTES` -/
def maxDecodedBlobBytes : Int := 512 * 2 ^ 20

/-- `DecodedResources`, and what the counts are about. -/
structure DecodedResources where
  handles : Int := 0
  mappings : Int := 0
  mappedBytes : Int := 0
  /-- Weak references to what was mapped. -/
  cache : BlobDescriptor → Option BlobInner := fun _ => none
  refs : List BlobRef := []
  /-- Mappings whose count was not given back. -/
  live : List BlobInner := []
  /-- Handles that calls of `open` hold. -/
  opening : Nat := 0
  /-- Handles that will be given back. -/
  falling : Nat := 0
  /-- What is opened by the call of `open` that holds the lock. -/
  locked : Option BlobDescriptor := none
  /-- The next address. -/
  next : Nat := 0

namespace DecodedResources

variable (resources : DecodedResources)

/-- How many references share a blob. -/
def strongCount (inner : BlobInner) : Nat :=
  resources.refs.countP fun blob => blob.inner = some inner

/-- How many calls of `open` hold the lock. -/
def lockHolders : Nat := if resources.locked = none then 0 else 1

/-- `reserve_decoded_handle` -/
def reserveDecodedHandle : Except BlobError DecodedResources :=
  if resources.handles ≥ maxDecodedBlobHandles then
    .error (.resourceLimit "decoded BlobRef count exceeds the process limit of 128")
  else
    .ok
      { resources with
        handles := resources.handles + 1
        opening := resources.opening + 1 }

/-- A call of `open` fails and drops what it has. -/
def giveUp : DecodedResources :=
  { resources with
    opening := resources.opening - 1
    falling := resources.falling + 1 }

/-- A call of `open` returns a reference. -/
def handOut (inner : BlobInner) : DecodedResources :=
  { resources with
    opening := resources.opening - 1
    refs := ⟨some inner, true⟩ :: resources.refs }

/-- The lock is taken, and only what somebody holds stays in the cache. -/
def lock (descriptor : BlobDescriptor) : DecodedResources :=
  { resources with
    locked := some descriptor
    cache := fun key => (resources.cache key).filter fun inner => resources.strongCount inner ≠ 0 }

/-- A new mapping is counted and put into the cache. -/
def addMapping (descriptor : BlobDescriptor) : DecodedResources :=
  let inner : BlobInner := ⟨resources.next, descriptor, true⟩
  { resources with
    mappings := resources.mappings + 1
    mappedBytes := resources.mappedBytes + inner.mappedBytes
    cache := Function.update resources.cache descriptor (some inner)
    live := inner :: resources.live
    next := resources.next + 1 }

/-- `Weak::upgrade` of what is in the cache. -/
def upgrade (descriptor : BlobDescriptor) : Option BlobInner :=
  (resources.cache descriptor).filter fun inner => resources.strongCount inner ≠ 0

/--
`open` from where it looks for the descriptor in the cache.  The last argument
is what comes of mapping the file and looking at its header there.
-/
def finishOpen (descriptor : BlobDescriptor)
    (mapped : Except BlobError Unit) :
    DecodedResources × Except BlobError BlobRef :=
  let unlocked := { resources with locked := none }
  match unlocked.upgrade descriptor with
  | some inner => (unlocked.handOut inner, .ok ⟨some inner, true⟩)
  | none =>
    if unlocked.mappings ≥ maxDecodedBlobMappings then
      (unlocked.giveUp,
        .error
          (.resourceLimit ("decoded BlobRef mapping count exceeds the process " ++ "limit of 64")))
    else if
        -- an overflow is above the limit as well
        unlocked.mappedBytes + (headerBytes + descriptor.size : Nat) > maxDecodedBlobBytes then
      (unlocked.giveUp,
        .error
          (.resourceLimit
            ("decoded BlobRef mappings exceed the process byte " ++ "limit of 536870912")))
    else
      match mapped with
      | .error error => (unlocked.giveUp, .error error)
      | .ok () =>
        let inner : BlobInner := ⟨unlocked.next, descriptor, true⟩
        ((unlocked.addMapping descriptor).handOut inner, .ok ⟨some inner, true⟩)

/-- `DecodedHandle::drop` -/
def dropHandle : DecodedResources :=
  { resources with
    handles := resources.handles - 1
    falling := resources.falling - 1 }

/-- `DecodedMapping::drop` -/
def dropMapping (inner : BlobInner) : DecodedResources :=
  { resources with
    mappings := resources.mappings - 1
    mappedBytes := resources.mappedBytes - inner.mappedBytes
    live := resources.live.erase inner
    cache :=
      if (resources.cache inner.descriptor).any fun other => resources.strongCount other = 0 then
        Function.update resources.cache inner.descriptor none
      else resources.cache }

/-- `open`, with nobody in between. -/
def openReserved (descriptor : BlobDescriptor) (host : Host)
    (maximum : Nat) (mapped : Except BlobError Unit) :
    DecodedResources × Except BlobError BlobRef :=
  match descriptor.inspect host maximum with
  | .error error => (resources.giveUp, .error error)
  | .ok () => (resources.lock descriptor).finishOpen descriptor mapped

/-- `open_decoded`, with nobody in between. -/
def openDecoded (descriptor : BlobDescriptor) (host : Host)
    (maximum : Nat) (mapped : Except BlobError Unit) :
    DecodedResources × Except BlobError BlobRef :=
  match resources.reserveDecodedHandle with
  | .error error => (resources, .error error)
  | .ok reserved =>
    match reserved.openReserved descriptor host maximum mapped with
    | (opened, .ok blob) => (opened, .ok blob)
    | (opened, .error error) => (opened.dropHandle, .error error)

end DecodedResources

/-! ## Messages -/

/-- What one message may refer to. -/
structure BlobDecodeLimits where
  maxRefs : Nat := 64
  maxMappedBytes : Nat := 512 * 2 ^ 20

/-- What a message has referred to so far. -/
structure BlobDecodeState where
  limits : BlobDecodeLimits := {}
  refs : Nat := 0
  mappedBytes : Nat := 0
  seen : List (List UInt8) := []

/-- What one message may open. -/
def BlobDecodeState.admission (state : BlobDecodeState)
    (bytes : List UInt8) (descriptor : BlobDescriptor) :
    BlobDecodeState × Except BlobError Unit :=
  let counted := { state with refs := state.refs + 1 }
  if counted.refs > counted.limits.maxRefs then
    (counted,
      .error
        (.resourceLimit
          ("MessagePack contains more than " ++
            toString counted.limits.maxRefs ++ " BlobRef values")))
  else if bytes ∈ counted.seen then (counted, .ok ())
  else
    let noted := { counted with seen := bytes :: counted.seen }
    let mapped := headerBytes + descriptor.size
    if mapped > usizeMax then (noted, .error (.invalid "BlobRef size overflow"))
    else if noted.mappedBytes + mapped > usizeMax then
      (noted, .error (.invalid "BlobRef aggregate size overflow"))
    else
      let added :=
        { noted with mappedBytes := noted.mappedBytes + mapped }
      if added.mappedBytes > added.limits.maxMappedBytes then
        (added,
          .error
            (.resourceLimit
              ("MessagePack BlobRef mappings exceed the " ++ toString added.limits.maxMappedBytes ++
                "-byte aggregate limit")))
      else (added, .ok ())

/-- `parse_descriptor`, with the decoder for the descriptors themselves. -/
def parseDescriptor
    (decodeExact : List UInt8 → Except String BlobDescriptor)
    (bytes : List UInt8) : Except BlobError BlobDescriptor :=
  if bytes.length > 4096 then .error (.invalid "BlobRef descriptor exceeds 4096 bytes")
  else
    match decodeExact bytes with
    | .ok descriptor => .ok descriptor
    | .error error => .error (.codec ("malformed BlobRef descriptor: " ++ error))

/-- `open_for_decode`, with the session there is. -/
def DecodedResources.openForDecode (resources : DecodedResources)
    (session : Option BlobDecodeState) (decodeExact : List UInt8 → Except String BlobDescriptor)
    (bytes : List UInt8) (host : Host) (mapped : Except BlobError Unit) :
    DecodedResources × Option BlobDecodeState × Except BlobError BlobRef :=
  match parseDescriptor decodeExact bytes with
  | .error error => (resources, session, .error error)
  | .ok descriptor =>
    let opened := resources.openDecoded descriptor host defaultMaxBlobBytes mapped
    match session with
    | none => (opened.1, none, opened.2)
    | some state =>
      match state.admission bytes descriptor with
      | (next, .error error) => (resources, some next, .error error)
      | (next, .ok ()) => (opened.1, some next, opened.2)

/-! ## Interleavings -/

/-- What the tasks that decode blobs do. -/
inductive DecodedEvent where
  | reserve
  /-- A call of `open` looks at its descriptor, and takes the lock. -/
  | inspect (descriptor : BlobDescriptor) (host : Host) (maximum : Nat)
  /-- The call that holds the lock goes on. -/
  | finish (mapped : Except BlobError Unit)
  /-- A blob is made in this process. -/
  | create (descriptor : BlobDescriptor)
  | clone (index : Nat)
  /-- A reference is dropped, or closed. -/
  | drop (index : Nat)
  | dropHandle
  | dropMapping (inner : BlobInner)

namespace DecodedResources

/-- One step of one of them. -/
def step (resources : DecodedResources) : DecodedEvent → Option DecodedResources
  | .reserve =>
    if resources.locked = none then
      match resources.reserveDecodedHandle with
      | .error _ => some resources
      | .ok reserved => some reserved
    else none
  | .inspect descriptor host maximum =>
    -- the call that holds the lock has a handle too
    if resources.opening ≤ resources.lockHolders then none
    else
      match descriptor.inspect host maximum with
      | .error _ => some resources.giveUp
      | .ok () =>
        if resources.locked = none then some (resources.lock descriptor)
        else none
  | .finish mapped => do
    let descriptor ← resources.locked
    some (resources.finishOpen descriptor mapped).1
  | .create descriptor =>
    some
      { resources with
        refs := ⟨some ⟨resources.next, descriptor, false⟩, false⟩ :: resources.refs
        next := resources.next + 1 }
  | .clone index => do
    let blob ← resources.refs[index]?
    some { resources with refs := blob.clone :: resources.refs }
  | .drop index => do
    let blob ← resources.refs[index]?
    some
      { resources with
        refs := resources.refs.eraseIdx index
        falling :=
          if blob.decodedHandle then resources.falling + 1
          else resources.falling }
  | .dropHandle =>
    if resources.locked = none ∧ resources.falling ≠ 0 then some resources.dropHandle
    else none
  | .dropMapping inner =>
    if resources.locked = none ∧ inner ∈ resources.live ∧ resources.strongCount inner = 0 then
      some (resources.dropMapping inner)
    else none

/-! ## What is counted -/

/-- Some call of `open` is without the lock. -/
def Spare (resources : DecodedResources) : Prop := resources.lockHolders < resources.opening

/--
The counters agree with what there is and are within their limits, and what a
reference was opened from is found in the cache.
-/
structure Accounted (resources : DecodedResources) : Prop where
  handles :
    resources.handles =
      resources.opening + resources.falling + resources.refs.countP BlobRef.decodedHandle
  mappings : resources.mappings = resources.live.length
  mappedBytes :
    resources.mappedBytes = (resources.live.map fun inner => (inner.mappedBytes : Int)).sum
  handlesLimit : resources.handles ≤ maxDecodedBlobHandles
  mappingsLimit : resources.mappings ≤ maxDecodedBlobMappings
  bytesLimit : resources.mappedBytes ≤ maxDecodedBlobBytes
  distinct : (resources.live.map BlobInner.address).Nodup
  fresh : ∀ inner ∈ resources.live, inner.address < resources.next
  known :
    ∀ blob ∈ resources.refs, ∀ inner, blob.inner = some inner →
      inner.decoded = true → inner ∈ resources.live ∧ resources.cache inner.descriptor = some inner
  keyed :
    ∀ key inner, resources.cache key = some inner → inner.descriptor = key ∧ inner.decoded = true
  locked : resources.lockHolders ≤ resources.opening

/-- Nothing is open at the start. -/
theorem accounted_empty : Accounted {} where
  handles := rfl
  mappings := rfl
  mappedBytes := rfl
  handlesLimit := by decide
  mappingsLimit := by decide
  bytesLimit := by decide
  distinct := List.nodup_nil
  fresh := by simp
  known := by simp
  keyed := by simp
  locked := by decide

variable {resources after : DecodedResources} {inner : BlobInner}
  {descriptor : BlobDescriptor} {mapped : Except BlobError Unit}
  {error : BlobError} {host : Host}

theorem strongCount_ne_zero :
    resources.strongCount inner ≠ 0 ↔ ∃ blob ∈ resources.refs, blob.inner = some inner := by
  simp [strongCount, List.countP_eq_zero]

theorem upgrade_eq_some
     :
    resources.upgrade descriptor = some inner ↔
      resources.cache descriptor = some inner ∧
        ∃ blob ∈ resources.refs, blob.inner = some inner := by
  rw [← strongCount_ne_zero]
  simp [upgrade, Option.filter_eq_some_iff]

/-- A blob in use stays cached. -/
theorem dropMapping_keeps
    {other : BlobInner} {key : BlobDescriptor} (cached : resources.cache key = some other)
    (held : resources.strongCount other ≠ 0) :
    (resources.dropMapping inner).cache key = some other := by
  simp only [dropMapping]
  split
  · rename_i removed
    have different : key ≠ inner.descriptor := by
      rintro rfl
      rw [cached, Option.any_some, decide_eq_true_eq] at removed
      exact held removed
    rw [Function.update_of_ne different]
    exact cached
  · exact cached

/-- How a call of `open` can end. -/
inductive Opened (unlocked : DecodedResources)
    (descriptor : BlobDescriptor) :
    DecodedResources × Except BlobError BlobRef → Prop where
  | shared (inner : BlobInner)
      (found : unlocked.upgrade descriptor = some inner) :
      Opened unlocked descriptor (unlocked.handOut inner, .ok ⟨some inner, true⟩)
  | refused (error : BlobError) : Opened unlocked descriptor (unlocked.giveUp, .error error)
  | mapped
      (absent : unlocked.upgrade descriptor = none)
      (mappingsBelow : unlocked.mappings < maxDecodedBlobMappings)
      (bytesBelow :
        unlocked.mappedBytes + (headerBytes + descriptor.size : Nat) ≤ maxDecodedBlobBytes) :
      Opened unlocked descriptor
        ((unlocked.addMapping descriptor).handOut ⟨unlocked.next, descriptor, true⟩,
          .ok ⟨some ⟨unlocked.next, descriptor, true⟩, true⟩)

/-- A call of `open` can only end so. -/
theorem finishOpen_opened
    (resources : DecodedResources) (descriptor : BlobDescriptor)
    (mapped : Except BlobError Unit) :
    Opened { resources with locked := none } descriptor
      (resources.finishOpen descriptor mapped) := by
  unfold finishOpen
  simp only
  split
  · exact .shared _ ‹_›
  · rename_i absent
    split_ifs with full heavy
    · exact .refused _
    · exact .refused _
    · cases mapped with
      | error error => exact .refused error
      | ok _ =>
        exact .mapped absent (Int.not_le.mp full) (Int.not_lt.mp heavy)

namespace Accounted

variable {resources : DecodedResources} (accounted : Accounted resources)
include accounted

/-- A reserved handle is counted. -/
theorem reserve
    {reserved : DecodedResources} (ok : resources.reserveDecodedHandle = .ok reserved) :
    Accounted reserved := by
  unfold reserveDecodedHandle at ok
  split at ok
  · cases ok
  · rename_i below
    cases ok
    have handles := accounted.handles
    refine { accounted with
      handles := ?_
      handlesLimit := ?_
      locked := ?_ }
    · simp only
      omega
    · simp only [maxDecodedBlobHandles] at below ⊢
      omega
    · exact Nat.le_succ_of_le accounted.locked

theorem giveUp (spare : Spare resources) : Accounted resources.giveUp := by
  have handles := accounted.handles
  unfold Spare at spare
  refine { accounted with handles := ?_, locked := ?_ }
  · simp only [DecodedResources.giveUp]
    omega
  · exact Nat.le_sub_one_of_lt spare

/-- A reference handed out is counted. -/
theorem handOut
    (spare : Spare resources) {inner : BlobInner} (live : inner ∈ resources.live)
    (cached : resources.cache inner.descriptor = some inner) :
    Accounted (resources.handOut inner) := by
  have handles := accounted.handles
  unfold Spare at spare
  refine { accounted with handles := ?_, known := ?_, locked := ?_ }
  · simp only [DecodedResources.handOut, List.countP_cons, if_true]
    omega
  · intro blob member other holds decoded
    rcases List.mem_cons.mp member with rfl | member
    · cases holds
      exact ⟨live, cached⟩
    · exact accounted.known blob member other holds decoded
  · exact Nat.le_sub_one_of_lt spare

/-- Locking changes no counter. -/
theorem lock
    (spare : Spare resources) (free : resources.locked = none) (descriptor : BlobDescriptor) :
    Accounted (resources.lock descriptor) := by
  simp only [Spare, lockHolders, free, if_true] at spare
  refine { accounted with known := ?_, keyed := ?_, locked := ?_ }
  · intro blob member inner holds decoded
    rcases accounted.known blob member inner holds decoded with ⟨live, cached⟩
    have held : resources.strongCount inner ≠ 0 := strongCount_ne_zero.mpr ⟨blob, member, holds⟩
    refine ⟨live, ?_⟩
    simp [DecodedResources.lock, cached, held]
  · intro key inner cached
    exact accounted.keyed key inner (Option.filter_eq_some_iff.mp cached).1
  · exact spare

theorem unlock : Accounted { resources with locked := none } :=
  { accounted with locked := Nat.zero_le _ }

/-- A new mapping is counted. -/
theorem addMapping
    {descriptor : BlobDescriptor} (absent : resources.upgrade descriptor = none)
    (mappingsBelow : resources.mappings < maxDecodedBlobMappings)
    (bytesBelow :
      resources.mappedBytes + (headerBytes + descriptor.size : Nat) ≤ maxDecodedBlobBytes) :
    Accounted (resources.addMapping descriptor) := by
  have mappings := accounted.mappings
  have mappedBytes := accounted.mappedBytes
  refine { accounted with
    mappings := ?_
    mappedBytes := ?_
    mappingsLimit := ?_
    bytesLimit := ?_
    distinct := ?_
    fresh := ?_
    known := ?_
    keyed := ?_ }
  · simp only [DecodedResources.addMapping, List.length_cons]
    omega
  · simp only [DecodedResources.addMapping, List.map_cons, List.sum_cons]
    omega
  · simp only [DecodedResources.addMapping]
    omega
  · exact bytesBelow
  · refine List.nodup_cons.mpr ⟨?_, accounted.distinct⟩
    intro member
    rcases List.mem_map.mp member with ⟨inner, member, same⟩
    exact absurd same (Nat.ne_of_lt (accounted.fresh inner member))
  · intro inner member
    rcases List.mem_cons.mp member with rfl | member
    · exact Nat.lt_succ_self _
    · exact Nat.lt_succ_of_lt (accounted.fresh inner member)
  · intro blob member inner holds decoded
    rcases accounted.known blob member inner holds decoded with ⟨live, cached⟩
    refine ⟨List.mem_cons_of_mem _ live, ?_⟩
    have other : inner.descriptor ≠ descriptor := by
      rintro rfl
      have found : resources.upgrade inner.descriptor = some inner :=
        upgrade_eq_some.mpr ⟨cached, blob, member, holds⟩
      rw [absent] at found
      cases found
    exact (Function.update_of_ne other _ _).trans cached
  · intro key inner cached
    simp only [DecodedResources.addMapping, Function.update_apply] at cached
    split at cached
    · cases cached
      exact ⟨(‹key = descriptor›).symm, rfl⟩
    · exact accounted.keyed key inner cached

theorem dropHandle (falling : resources.falling ≠ 0) : Accounted resources.dropHandle := by
  have handles := accounted.handles
  have limit := accounted.handlesLimit
  refine { accounted with handles := ?_, handlesLimit := ?_ }
  · simp only [DecodedResources.dropHandle]
    omega
  · simp only [DecodedResources.dropHandle]
    omega

/-- The last reference unmaps it. -/
theorem dropMapping
    {inner : BlobInner} (live : inner ∈ resources.live)
    (unheld : resources.strongCount inner = 0) :
    Accounted (resources.dropMapping inner) := by
  have mappings := accounted.mappings
  have mappedBytes := accounted.mappedBytes
  have mappingsLimit := accounted.mappingsLimit
  have bytesLimit := accounted.bytesLimit
  have length := List.length_erase_add_one live
  have sum := List.sum_map_erase (fun inner : BlobInner => (inner.mappedBytes : Int)) live
  refine { accounted with
    mappings := ?_
    mappedBytes := ?_
    mappingsLimit := ?_
    bytesLimit := ?_
    distinct := ?_
    fresh := ?_
    known := ?_
    keyed := ?_ }
  · simp only [DecodedResources.dropMapping]
    omega
  · simp only [DecodedResources.dropMapping]
    omega
  · simp only [DecodedResources.dropMapping]
    omega
  · simp only [DecodedResources.dropMapping]
    omega
  · exact accounted.distinct.sublist (List.erase_sublist.map _)
  · intro other member
    exact accounted.fresh other (List.mem_of_mem_erase member)
  · intro blob member other holds decoded
    rcases accounted.known blob member other holds decoded with ⟨listed, cached⟩
    have held : resources.strongCount other ≠ 0 := strongCount_ne_zero.mpr ⟨blob, member, holds⟩
    have different : other ≠ inner := by
      rintro rfl
      exact held unheld
    exact ⟨(List.mem_erase_of_ne different).mpr listed, dropMapping_keeps cached held⟩
  · intro key other cached
    simp only [DecodedResources.dropMapping] at cached
    split at cached
    · simp only [Function.update_apply] at cached
      split at cached
      · cases cached
      · exact accounted.keyed key other cached
    · exact accounted.keyed key other cached

/-- A blob made here is not counted. -/
theorem create (descriptor : BlobDescriptor) :
    Accounted
      { resources with
        refs := ⟨some ⟨resources.next, descriptor, false⟩, false⟩ :: resources.refs
        next := resources.next + 1 } := by
  refine { accounted with handles := ?_, fresh := ?_, known := ?_ }
  · simpa using accounted.handles
  · intro inner member
    exact Nat.lt_succ_of_lt (accounted.fresh inner member)
  · intro blob member inner holds decoded
    rcases List.mem_cons.mp member with rfl | member
    · cases holds
      cases decoded
    · exact accounted.known blob member inner holds decoded

theorem clone {blob : BlobRef} (member : blob ∈ resources.refs) :
    Accounted { resources with refs := blob.clone :: resources.refs } := by
  refine { accounted with handles := ?_, known := ?_ }
  · simpa [BlobRef.clone] using accounted.handles
  · intro other listed inner holds decoded
    rcases List.mem_cons.mp listed with rfl | listed
    · exact accounted.known blob member inner holds decoded
    · exact accounted.known other listed inner holds decoded

/-- A dropped reference is uncounted. -/
theorem drop
    {index : Nat} {blob : BlobRef} (found : resources.refs[index]? = some blob) :
    Accounted
      { resources with
        refs := resources.refs.eraseIdx index
        falling :=
          if blob.decodedHandle then resources.falling + 1
          else resources.falling } := by
  rcases List.getElem?_eq_some_iff.mp found with ⟨bound, rfl⟩
  have count := (List.getElem_cons_eraseIdx_perm bound).countP_eq BlobRef.decodedHandle
  have handles := accounted.handles
  rw [List.countP_cons] at count
  refine { accounted with handles := ?_, known := ?_ }
  · simp only
    split_ifs at count ⊢ <;> omega
  · intro other listed inner holds decoded
    exact accounted.known other (List.mem_of_mem_eraseIdx listed) inner holds decoded

/-- However `open` ends, the counters fit. -/
theorem finishOpen
    (spare : resources.opening ≠ 0) (descriptor : BlobDescriptor)
    (mapped : Except BlobError Unit) :
    Accounted (resources.finishOpen descriptor mapped).1 := by
  have unlocked := accounted.unlock
  have spare : Spare { resources with locked := none } := Nat.pos_of_ne_zero spare
  generalize outcome : resources.finishOpen descriptor mapped = result
  cases outcome ▸ finishOpen_opened resources descriptor mapped with
  | shared inner found =>
    rcases upgrade_eq_some.mp found with ⟨cached, blob, member, holds⟩
    rcases unlocked.keyed _ _ cached with ⟨rfl, decoded⟩
    exact unlocked.handOut spare (unlocked.known blob member inner holds decoded).1 cached
  | refused error => exact unlocked.giveUp spare
  | mapped absent mappingsBelow bytesBelow =>
    exact
      (unlocked.addMapping absent mappingsBelow bytesBelow).handOut spare
        List.mem_cons_self (Function.update_self _ _ _)

/-- One step keeps the accounting. -/
theorem step
    {next : DecodedResources} {event : DecodedEvent}
    (stepped : resources.step event = some next) :
    Accounted next := by
  cases event with
  | reserve =>
    simp only [DecodedResources.step] at stepped
    split_ifs at stepped
    split at stepped
    · cases stepped
      exact accounted
    · rename_i reserved ok
      cases stepped
      exact accounted.reserve ok
  | inspect descriptor host maximum =>
    simp only [DecodedResources.step] at stepped
    split at stepped
    · cases stepped
    rename_i spare
    have spare : Spare resources := Nat.lt_of_not_le spare
    split at stepped
    · cases stepped
      exact accounted.giveUp spare
    · split_ifs at stepped with free
      cases stepped
      exact accounted.lock spare free descriptor
  | finish mapped =>
    simp only [DecodedResources.step, bind_some_iff] at stepped
    rcases stepped with ⟨descriptor, held, stepped⟩
    cases stepped
    have holder := accounted.locked
    simp only [lockHolders, held, reduceCtorEq, if_false] at holder
    exact accounted.finishOpen (Nat.ne_of_gt holder) descriptor mapped
  | create descriptor =>
    cases stepped
    exact accounted.create descriptor
  | clone index =>
    simp only [DecodedResources.step, bind_some_iff] at stepped
    rcases stepped with ⟨blob, found, stepped⟩
    cases stepped
    exact accounted.clone (List.mem_of_getElem? found)
  | drop index =>
    simp only [DecodedResources.step, bind_some_iff] at stepped
    rcases stepped with ⟨blob, found, stepped⟩
    cases stepped
    exact accounted.drop found
  | dropHandle =>
    simp only [DecodedResources.step] at stepped
    split_ifs at stepped with ready
    cases stepped
    exact accounted.dropHandle ready.2
  | dropMapping inner =>
    simp only [DecodedResources.step] at stepped
    split_ifs at stepped with ready
    cases stepped
    exact accounted.dropMapping ready.2.1 ready.2.2

end Accounted

/-! ## Opens that fail -/

/-- The counters that are checked. -/
def counters (resources : DecodedResources) : Int × Int × Int :=
  (resources.handles, resources.mappings, resources.mappedBytes)

theorem finishOpen_error
    (failed : resources.finishOpen descriptor mapped = (after, .error error)) :
    after.counters = resources.counters ∧ after.falling = resources.falling + 1 := by
  cases failed ▸ finishOpen_opened resources descriptor mapped
  exact ⟨rfl, rfl⟩

theorem openReserved_error
    {maximum : Nat}
    (failed : resources.openReserved descriptor host maximum mapped = (after, .error error)) :
    after.counters = resources.counters := by
  unfold openReserved at failed
  split at failed
  · cases failed
    rfl
  · exact (finishOpen_error failed).1

/-- An error leaves the counters alone. -/
theorem openDecoded_error
    {maximum : Nat}
    (failed : resources.openDecoded descriptor host maximum mapped = (after, .error error)) :
    after.counters = resources.counters := by
  unfold openDecoded reserveDecodedHandle at failed
  split_ifs at failed
  · cases failed
    rfl
  · simp only at failed
    split at failed
    · cases failed
    · rename_i opened failure opening
      cases failed
      have kept := openReserved_error opening
      simp only [counters, Prod.mk.injEq] at kept
      simp only [counters, dropHandle, Prod.mk.injEq]
      omega

/-- The same within a message. -/
theorem openForDecode_error
    {session nextSession : Option BlobDecodeState}
    {decodeExact : List UInt8 → Except String BlobDescriptor} {bytes : List UInt8}
    (failed :
      resources.openForDecode session decodeExact bytes host mapped =
        (after, nextSession, .error error)) :
    after.counters = resources.counters := by
  unfold openForDecode at failed
  split at failed
  · cases failed
    rfl
  · rename_i descriptor parsed
    have kept
        (opening :
          resources.openDecoded descriptor host defaultMaxBlobBytes mapped =
            (after, .error error)) :
        after.counters = resources.counters :=
      openDecoded_error opening
    cases session with
    | none =>
      simp only [Prod.mk.injEq] at failed
      exact kept (Prod.ext failed.1 failed.2.2)
    | some state =>
      simp only at failed
      split at failed
      · cases failed
        rfl
      · simp only [Prod.mk.injEq] at failed
        exact kept (Prod.ext failed.1 failed.2.2)

end DecodedResources

private def sealedFile : BlobDescriptor := ⟨blobProtocol, [7], 5, 3, 4, 1, 2, List.replicate 16 9⟩

private def ownHost : Host where
  bootFingerprint := .ok [7]
  proc := true
  openFd _ _ :=
    .ok
      { device := 1
        inode := 2
        length := 36
        isSealed := true
        header := .ok (headerMagic ++ List.replicate 16 9 ++ Proto.toBeBytes 8 4) }

end Tinyray.Blob
