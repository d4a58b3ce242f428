import Mathlib.Data.List.Sort
import Tinyray.Foundation.Journal
import Tinyray.Foundation.MapFold
import Tinyray.Registry.Delta

/-!
# Pools of the registry

A pool holds one record for each member with a live lease, the journal of its
changes, and what it must remember about members that are gone: the highest
tenure seen for each seat and the tenures that said goodbye.

The functions of this module are the parts of `Pool` and of the beat handler
that work on one pool.  Instants are nanoseconds of one clock.  A hash map
hands out its entries in an order of its own, so every function that walks
one takes that order as an argument.
-/

namespace Tinyray

open Std Foundation

/-! ## Limits -/

/-- `LOG_CAP` -/
def logCap : Nat := 4096

/-- `MAX_INCARNATION` -/
def maxIncarnation : Nat := 4000000000000 * 2 ^ 20

/-- `MAX_NAME` -/
def maxName : Nat := 512

/-- `MAX_STATE` -/
def maxState : Nat := 16 * 2 ^ 10

/-- `MAX_METHODS` -/
def maxMethods : Nat := 256

/-! ## Records and pools -/

/-- `Record` -/
structure Record where
  member : Member
  publication : Option Nat
  expiresAt : Nat
  stateBytes : Nat

/-- An estimate of its bytes. -/
def Record.deltaBytes (record : Record) : Nat :=
  256 + record.stateBytes + (record.member.url.map fun url => url.utf8ByteSize * 6).getD 0

/-- One parked caller, by the notification it waits on. -/
abbrev Bell := Nat

/-- `Pool` -/
structure Pool where
  version : Nat := 0
  roster : BitVec 64 := 0
  policy : String := ""
  methods : List String := []
  size : Option Nat := none
  members : ExtTreeMap Nat Record := ∅
  /-- Highest tenure ever accepted for a seat. -/
  high : ExtTreeMap Nat Nat := ∅
  /-- Tenures that said goodbye, and when it stops mattering. -/
  gone : ExtTreeMap Nat (Nat × Nat) := ∅
  /-- Version and member of each change, oldest first. -/
  log : List (Nat × Nat) := []
  waiters : List Bell := []
  cache : DeltaCache := {}

instance : Inhabited Pool := ⟨{}⟩

/-- The callers to be notified once the lock is released. -/
abbrev Deferred := List (List Bell)

/-- The order in which a hash map hands out its keys at some moment. -/
structure IterationOrder where
  arrange : List Nat → List Nat
  perm : ∀ keys, (arrange keys).Perm keys

/-- Ascending order, one of those a hash map may happen to have. -/
def IterationOrder.ascending : IterationOrder where
  arrange keys := keys
  perm keys := List.Perm.refl keys

/-- What this beat says about the pool that the pool does not say of itself. -/
def disagreement (pool : Pool) (beat : Beat) : Option Disagreement :=
  if pool.policy ≠ beat.policy then some (.policy beat.pool pool.policy beat.policy)
  else
    match beat.size with
    | some want =>
      if pool.size ≠ some want then some (.size beat.pool pool.size want)
      else none
    | none => none

/-- `dedup` -/
def dedup : List Nat → List Nat
  | [] => []
  | [id] => [id]
  | first :: second :: rest =>
    if first = second then dedup (second :: rest)
    else first :: dedup (second :: rest)

namespace Pool

/-! ## Changes and deltas -/

/-- `invalidate_cache` -/
def invalidateCache (pool : Pool) : Pool :=
  { pool with cache := pool.cache.clear }

/-- Number a change of member `id` and collect everyone parked here. -/
def bump (pool : Pool) (id : Nat) : Pool :=
  { pool with
    version := pool.version + 1
    log := push logCap pool.version id pool.log
    cache := pool.cache.clear
    waiters := [] }

/-- What `bump` leaves to be done after the lock is released. -/
def bumpDeferred (pool : Pool) : Deferred := if pool.waiters.isEmpty then [] else [pool.waiters]

/-- Saturating addition of sizes. -/
def addBytes (left right : Nat) : Nat := min (left + right) (2 ^ 64 - 1)

/-- The members in the order the hash map has them. -/
def records (order : IterationOrder) (pool : Pool) : List Record :=
  (order.arrange pool.members.keys).filterMap fun id => pool.members[id]?

/-- The members whose changes a watcher at `cursor` has not seen. -/
def changedIds (pool : Pool) (cursor : Nat) : List Nat :=
  dedup ((changedSince cursor pool.log).insertionSort (· ≤ ·))

/-- `Pool::build_delta` -/
def buildDelta (order : IterationOrder) (pool : Pool)
    (since : Option Nat) : PoolDelta × Nat :=
  let bytes :=
    256 + pool.policy.utf8ByteSize * 6 +
      (pool.methods.map fun name => name.utf8ByteSize * 6 + 3).sum
  match since with
  | some cursor =>
    let ids := pool.changedIds cursor
    ({ version := pool.version
       roster := pool.roster
       policy := pool.policy
       methods := pool.methods
       size := pool.size
       changed := ids.filterMap fun id => pool.members[id]?.map Record.member
       removed := ids.filter fun id => pool.members[id]?.isNone
       full := false },
      ids.foldl
        (fun total id =>
          match pool.members[id]? with
          | some record => addBytes total record.deltaBytes
          | none => addBytes total 21)
        bytes)
  | none =>
    ({ version := pool.version
       roster := pool.roster
       policy := pool.policy
       methods := pool.methods
       size := pool.size
       changed := (pool.records order).map Record.member
       removed := []
       full := true },
      (pool.records order).foldl (fun total record => addBytes total record.deltaBytes) bytes)

/--
The cursor a delta is built from.  A cursor ahead of the pool belongs to a
previous registry process, and one that fell off the journal is no use; all
of these share the full snapshot.
-/
def since (pool : Pool) (seen : Option Nat) : Option Nat :=
  seen.filter fun cursor => cursor < pool.version && oldest pool.log ≤ cursor + 1

/-- `Pool::delta` -/
def delta (order : IterationOrder) (pool : Pool) (seen : Option Nat) : Option PoolDelta × Pool :=
  if seen = some pool.version then (none, pool)
  else
    match pool.cache.get (pool.since seen) with
    | some cached => (some cached, pool)
    | none =>
      let built := pool.buildDelta order (pool.since seen)
      (some built.1,
        { pool with cache := pool.cache.insert (pool.since seen) built.1 built.2 })

/-! ## One beat -/

/-- The pool with the shape the beat gives it, or why the beat is refused. -/
def shape (pool : Pool) (beat : Beat) : Except Disagreement Pool :=
  if pool.members.isEmpty then
    -- the shape belongs to whoever is here now
    if pool.policy ≠ beat.policy ∨ pool.size ≠ beat.size ∨ pool.methods ≠ beat.methods then
      .ok
        { pool.invalidateCache with
          policy := beat.policy
          size := beat.size
          methods := beat.methods }
    else .ok pool
  else
    match disagreement pool beat with
    | some why => .error why
    | none =>
      if pool.methods = [] ∧ beat.methods ≠ [] then
        .ok { pool.invalidateCache with methods := beat.methods }
      else .ok pool

/-- The incarnation in the seat. -/
def stored (pool : Pool) (id : Nat) : Option Nat :=
  pool.members[id]?.map fun record => record.member.incarnation

/-- The highest incarnation seen. -/
def watermark (pool : Pool) (id : Nat) : Nat := pool.high[id]?.getD 0

/-- A beat sent before its tenure said goodbye, arriving after it. -/
def straggler (pool : Pool) (beat : Beat) : Bool :=
  !beat.leaving && pool.gone[beat.id]?.any fun departed => beat.incarnation ≤ departed.1

/-- An exclusive seat of another. -/
def occupied (pool : Pool) (beat : Beat) : Bool :=
  beat.exclusive && (pool.stored beat.id).any fun current => current ≠ beat.incarnation

/-- A later tenure has the seat. -/
def superseded (pool : Pool) (beat : Beat) : Bool :=
  pool.occupied beat || pool.straggler beat || decide (beat.incarnation < pool.watermark beat.id) ||
    (pool.stored beat.id).any fun current => current > beat.incarnation

/-- A member goes. -/
def remove (pool : Pool) (id : Nat) (record : Record) : Pool :=
  { pool with
    members := pool.members.erase id
    roster := pool.roster ^^^ record.member.rosterHash }

/-- A member says goodbye. -/
def leave (pool : Pool) (now ttl : Nat) (beat : Beat) : Pool × Deferred :=
  let departed :=
    match pool.members[beat.id]? with
    | some record => ((pool.remove beat.id record).bump beat.id, pool.bumpDeferred)
    | none => (pool, [])
  ({ departed.1 with gone := departed.1.gone.insert beat.id (beat.incarnation, now + ttl) },
    departed.2)

/-- The publication is a later one. -/
def newer : Option Nat → Option Nat → Bool
  | none, _ => true
  | some held, some incoming => held < incoming
  | some _, none => false

/-- The beat brings something else. -/
def differs (record : Record) (beat : Beat) : Bool :=
  record.member.url != beat.url || record.member.state != beat.state ||
    record.member.ready != beat.ready

/-- The record after one more beat. -/
def renewed (record : Record) (now ttl : Nat) (beat : Beat)
    (stateBytes : Nat) : Record :=
  if newer record.publication beat.publication then
    if differs record beat then
      { member :=
          { record.member with
            url := beat.url
            state := beat.state
            ready := beat.ready }
        publication := beat.publication
        expiresAt := now + ttl
        stateBytes := stateBytes }
    else
      { record with
        publication := beat.publication
        expiresAt := now + ttl }
  else
    { record with expiresAt := now + ttl }

/-- A beat of the tenure that holds the seat. -/
def renew (pool : Pool) (now ttl : Nat) (beat : Beat) (stateBytes : Nat)
    (record : Record) : Pool × Deferred :=
  let kept : Pool :=
    { pool with members := pool.members.insert beat.id (renewed record now ttl beat stateBytes) }
  if newer record.publication beat.publication && differs record beat then
    (kept.bump beat.id, kept.bumpDeferred)
  else (kept, [])

/-- The member of a beat. -/
def memberOf (beat : Beat) : Member where
  id := beat.id
  slot := beat.slot
  incarnation := beat.incarnation
  url := beat.url
  state := beat.state
  ready := beat.ready

/-- A member arrives or renews. -/
def arrive (pool : Pool) (now ttl : Nat) (beat : Beat) (stateBytes : Nat) : Pool × Deferred :=
  let vacated :=
    match pool.members[beat.id]? with
    | some record => pool.remove beat.id record
    | none => pool
  let seated : Pool :=
    { vacated with
      roster := vacated.roster ^^^ (memberOf beat).rosterHash
      members :=
        vacated.members.insert beat.id
          { member := memberOf beat
            publication := beat.publication
            expiresAt := now + ttl
            stateBytes := stateBytes } }
  (seated.bump beat.id, seated.bumpDeferred)

/-- The effect of a beat that is not superseded. -/
def enroll (pool : Pool) (now ttl : Nat) (beat : Beat) (stateBytes : Nat) : Pool × Deferred :=
  if beat.leaving then pool.leave now ttl beat
  else
    match pool.members[beat.id]? with
    | some record =>
      if record.member.incarnation = beat.incarnation then pool.renew now ttl beat stateBytes record
      else pool.arrive now ttl beat stateBytes
    | none => pool.arrive now ttl beat stateBytes

/-- Raise the seat's high-water mark; `watermark` was read before the beat. -/
def raise (pool : Pool) (watermark : Nat) (beat : Beat) : Pool :=
  if beat.slot.isSome ∧ beat.incarnation > watermark then
    { pool with high := pool.high.insert beat.id beat.incarnation }
  else pool

/-- What `receive` comes to. -/
structure Outcome where
  pool : Pool
  accepted : Bool
  refused : Option Disagreement := none
  deferred : Deferred := []

/-- The beat handler on the beat's own pool. -/
def receive (pool : Pool) (now ttl : Nat) (beat : Beat)
    (stateBytes : Nat) : Outcome :=
  match pool.shape beat with
  | .error why => { pool := pool, accepted := false, refused := some why }
  | .ok shaped =>
    if shaped.superseded beat then
      { pool := shaped, accepted := false }
    else
      let admitted := shaped.enroll now ttl beat stateBytes
      { pool := admitted.1.raise (shaped.watermark beat.id) beat
        accepted := true
        deferred := admitted.2 }

/-! ## The sweeper -/

/-- Members whose lease ran out, in the order the hash map has them. -/
def dead (order : IterationOrder) (now : Nat) (pool : Pool) : List Nat :=
  (order.arrange pool.members.keys).filter fun id =>
    pool.members[id]?.any fun record => record.expiresAt ≤ now

/-- A lease runs out. -/
def expire (pool : Pool) (id : Nat) : Pool :=
  match pool.members[id]? with
  | some record => (pool.remove id record).bump id
  | none => pool

/-- The bells to ring for it. -/
def expireDeferred (pool : Pool) (id : Nat) : Deferred :=
  if pool.members[id]?.isSome then pool.bumpDeferred else []

/-- Forget departures that no longer matter and callers that went away. -/
def forget (now : Nat) (alive : Bell → Bool) (pool : Pool) : Pool :=
  { pool with
    gone := pool.gone.filter fun _ departed => departed.2 > now
    waiters := pool.waiters.filter alive }

/-- The pools a sweep goes through, one for each member it drops. -/
def sweepStates (order : IterationOrder) (now : Nat)
    (alive : Bell → Bool) (pool : Pool) : List Pool :=
  (pool.dead order now).scanl expire (pool.forget now alive)

/-- `Pool::sweep` -/
def sweep (order : IterationOrder) (now : Nat) (alive : Bell → Bool)
    (pool : Pool) : Pool :=
  (pool.dead order now).foldl expire (pool.forget now alive)

/-- The bells to ring for it. -/
def sweepDeferred (order : IterationOrder) (now : Nat)
    (alive : Bell → Bool) (pool : Pool) : Deferred :=
  ((pool.dead order now).foldl
    (fun (progress : Pool × Deferred) id =>
      (progress.1.expire id, progress.2 ++ progress.1.expireDeferred id))
    (pool.forget now alive, [])).2

end Pool

end Tinyray
