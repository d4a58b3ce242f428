import Tinyray.Registry.Pool

/-!
# The registry

A registry process is a map of pools behind one lock, so every operation is
one atomic step: a beat, a sweep, a query for deltas, and the parking of a
caller that found nothing to hear about.  `Event` has these steps and
`Registry.run` the state after any sequence of them.
-/

namespace Tinyray

open Std

/-- `Registry` -/
structure Registry where
  pools : ExtTreeMap String Pool := ∅
  /-- The lease, in nanoseconds. -/
  ttl : Nat
  /-- Identifies this process; its last bit is set. -/
  epoch : Nat

namespace Registry

/-- A process started at `nanos` on the wall clock. -/
def new (ttl nanos : Nat) : Registry where
  ttl := ttl
  epoch := nanos ||| 1

/-- The lease in milliseconds. -/
def ttlMs (registry : Registry) : Nat := registry.ttl / 1000000

section

variable [FloatFormat]

/-- Bytes of the published state, for a beat that could not damage anything. -/
def admissible (beat : Beat) : Option Nat :=
  if beat.pool.utf8ByteSize ≤ maxName ∧ beat.incarnation ≤ maxIncarnation ∧
      beat.watch.length ≤ maxWatch ∧ (∀ name ∈ beat.watch, name.utf8ByteSize ≤ maxName) ∧
      (∀ url ∈ beat.url, url.utf8ByteSize ≤ maxName) ∧ beat.methods.length ≤ maxMethods ∧
      (∀ name ∈ beat.methods, name.utf8ByteSize ≤ maxName) then
    serializedLen beat.state maxState
  else none

end

/-- Pools, and the deltas found in them so far. -/
abbrev Collecting := ExtTreeMap String Pool × ExtTreeMap String PoolDelta

/-- The delta of one pool. -/
def collectOne (order : String → IterationOrder) (beat : Beat)
    (progress : Collecting) (name : String) : Collecting :=
  match progress.1[name]? with
  | none => progress
  | some pool =>
    match pool.delta (order name) beat.seen[name]? with
    | (none, _) => progress
    | (some delta, cached) => (progress.1.insert name cached, progress.2.insert name delta)

/-- The deltas for a beat. -/
def collect (order : String → IterationOrder) (beat : Beat)
    (pools : ExtTreeMap String Pool) : Collecting :=
  beat.watch.foldl (collectOne order beat) (pools, ∅)

/-- What one beat leaves behind and sends back. -/
structure Answer where
  ack : BeatAck
  registry : Registry
  deferred : Deferred := []

section

variable [FloatFormat]

/-- `beat_shared` -/
def beatShared (registry : Registry) (now : Nat)
    (order : String → IterationOrder) (beat : Beat) : Answer :=
  match admissible beat with
  | none =>
    { ack :=
        { epoch := registry.epoch
          ttlMs := registry.ttlMs
          accepted := false }
      registry := registry }
  | some stateBytes =>
    let pool := registry.pools.getD beat.pool {}
    let outcome := pool.receive now registry.ttl beat stateBytes
    match outcome.refused with
    | some why =>
      { ack :=
          { epoch := registry.epoch
            ttlMs := registry.ttlMs
            accepted := false
            refused := some why }
        registry :=
          { registry with pools := registry.pools.insert beat.pool outcome.pool } }
    | none =>
      let collected := collect order beat (registry.pools.insert beat.pool outcome.pool)
      { ack :=
          { epoch := registry.epoch
            ttlMs := registry.ttlMs
            accepted := outcome.accepted
            pools := collected.2 }
        registry := { registry with pools := collected.1 }
        deferred := outcome.deferred }

end

/-- Park a caller on every pool it watches. -/
def park (registry : Registry) (watch : List String) (bell : Bell) : Registry :=
  { registry with
    pools :=
      watch.foldl
        (fun pools name =>
          let pool := pools.getD name {}
          pools.insert name
            { pool with waiters := pool.waiters ++ [bell] })
        registry.pools }

/-- What a watcher would be told right now. -/
def deltasSharedFor (registry : Registry)
    (order : String → IterationOrder) (beat : Beat) :
    ExtTreeMap String PoolDelta × Registry :=
  let collected := collect order beat registry.pools
  (collected.2, { registry with pools := collected.1 })

/-- What one sweep leaves behind. -/
structure Swept where
  registry : Registry
  dropped : Nat
  deferred : Deferred

/-- Drop members whose lease ran out by `now`, read before the lock. -/
def sweep (registry : Registry) (now : Nat)
    (order : String → IterationOrder) (alive : Bell → Bool) : Swept where
  registry :=
    { registry with pools := registry.pools.map fun name pool => pool.sweep (order name) now alive }
  dropped :=
    registry.pools.foldl (fun total name pool => total + (pool.dead (order name) now).length) 0
  deferred :=
    registry.pools.foldl
      (fun rung name pool => rung ++ pool.sweepDeferred (order name) now alive) []

end Registry

/-! ## Runs -/

/-- What happens at a registry. -/
inductive Event where
  | beat (now : Nat) (order : String → IterationOrder) (beat : Beat)
  | sweep (now : Nat) (order : String → IterationOrder) (alive : Bell → Bool)
  | query (order : String → IterationOrder) (beat : Beat)
  | park (watch : List String) (bell : Bell)

/-- A beat, not a sweep. -/
def Event.isBeat : Event → Bool
  | .beat _ _ _ => true
  | _ => false

namespace Registry

variable [FloatFormat]

/-- One step of the registry. -/
def step (registry : Registry) : Event → Registry
  | .beat now order beat => (registry.beatShared now order beat).registry
  | .sweep now order alive => (registry.sweep now order alive).registry
  | .query order beat => (registry.deltasSharedFor order beat).2
  | .park watch bell => registry.park watch bell

/-- A run of the registry. -/
def run (registry : Registry) (events : List Event) : Registry := events.foldl step registry

/-- A pool of the registry; one that nobody has named yet is empty. -/
def pool (registry : Registry) (name : String) : Pool := registry.pools.getD name {}

/-- The beat is accepted. -/
def accepts (registry : Registry) (now : Nat)
    (order : String → IterationOrder) (beat : Beat) : Bool :=
  (registry.beatShared now order beat).ack.accepted

end Registry

end Tinyray
