import Tinyray.Foundation.Run
import Tinyray.Registry.Lifecycle

/-!
# Long polling

The registry server answers a beat at once if it has something to say, and
otherwise holds the answer back: the caller parks a bell on every pool it
watches, looks again, and waits for the bell.  A step that changes a pool
takes the bells parked there and rings them after it has released the lock.

The invariant is `Attended`: the bell of a caller that has parked is rung,
about to be rung, or still parked everywhere, and then nothing has happened
since the caller looked.
-/

namespace Tinyray

open Std Foundation

/-! ## The server -/

/-- How far a call has come. -/
inductive Stage where
  /-- The beat was handled; these bells are still to be rung. -/
  | ringing (left : List Bell)
  | parking
  | parked
  /-- The waiter for the bell has been created. -/
  | listening
  | waiting
  | returned
deriving DecidableEq

/-- The bells it has to ring. -/
def Stage.left : Stage → List Bell
  | .ringing left => left
  | _ => []

/-- The call has not returned. -/
def Stage.holding : Stage → Bool
  | .parking | .parked | .listening | .waiting => true
  | .ringing _ | .returned => false

/-- The caller has parked since it last waited. -/
def Stage.listed : Stage → Bool
  | .parked | .listening | .waiting => true
  | .ringing _ | .parking | .returned => false

/-- A beat that is being answered. -/
structure HeldBeat where
  beat : Beat
  ack : BeatAck
  stage : Stage
  /-- The permit stored in the caller's bell. -/
  rung : Bool := false

/-- The server, with its calls by the bell each of them waits on. -/
structure RegistryServer where
  registry : Registry
  calls : ExtTreeMap Bell HeldBeat := ∅
  /-- The bells each sweep has still to ring. -/
  sweeps : ExtTreeMap Nat (List Bell) := ∅

/-- What happens at the server. -/
inductive Move where
  | beat (caller : Bell) (now : Nat) (order : String → IterationOrder) (beat : Beat)
  | ring (caller : Bell)
  | decide (caller : Bell)
  | park (caller : Bell)
  | listen (caller : Bell)
  | look (caller : Bell) (order : String → IterationOrder)
  | wake (caller : Bell)
  /-- The deadline passed, or the connection went away. -/
  | expire (caller : Bell)
  | sweep (sweeper now : Nat) (order : String → IterationOrder) (alive : Bell → Bool)
  | ringSwept (sweeper : Nat)

namespace RegistryServer

/-- A server that has just started. -/
def new (ttl nanos : Nat) : RegistryServer where
  registry := Registry.new ttl nanos

/-- How long the answer to a beat may be held back. -/
def budget (registry : Registry) (beat : Beat) : Nat := min beat.holdMs (registry.ttlMs / 2)

/-- The answer goes out at once. -/
def prompt (registry : Registry) (held : HeldBeat) : Bool :=
  budget registry held.beat == 0 || !held.ack.accepted ||
    !held.ack.pools.isEmpty || held.beat.watch.isEmpty

/-- `notify_one` -/
def notifyOne (server : RegistryServer) (bell : Bell) : RegistryServer :=
  { server with calls := server.calls.modify bell fun held => { held with rung := true } }

/-- Write a call back. -/
def put (server : RegistryServer) (caller : Bell) (held : HeldBeat) : RegistryServer :=
  { server with calls := server.calls.insert caller held }

/-- Change a call at this stage. -/
def advance (server : RegistryServer) (caller : Bell) (source : Stage)
    (change : HeldBeat → HeldBeat) : Option RegistryServer := do
  let held ← server.calls[caller]?
  if held.stage = source then some (server.put caller (change held))
  else none

/-- Answer, or wait on. -/
def looked (held : HeldBeat) (fresh : ExtTreeMap String PoolDelta) : HeldBeat :=
  if fresh.isEmpty then { held with stage := .waiting }
  else
    { held with
      stage := .returned
      ack := { held.ack with pools := fresh } }

/-- The bells of the calls under way are alive. -/
def allAlive (server : RegistryServer) (alive : Bell → Bool) : Bool :=
  server.calls.toList.all fun entry => !entry.2.stage.holding || alive entry.1

variable [FloatFormat]

/-- One step of the server. -/
def step (server : RegistryServer) : Move → Option RegistryServer
  | .beat caller now order beat =>
    if server.calls.contains caller then none
    else
      let answer := server.registry.beatShared now order beat
      some
        { server with
          registry := answer.registry
          calls :=
            server.calls.insert caller
              { beat := beat
                ack := answer.ack
                stage := .ringing answer.deferred.flatten } }
  | .ring caller => do
    let held ← server.calls[caller]?
    match held.stage with
    | .ringing (bell :: left) =>
      some
        ((server.put caller
          { held with stage := .ringing left }).notifyOne bell)
    | _ => none
  | .decide caller =>
    server.advance caller (.ringing []) fun held =>
      { held with stage := if prompt server.registry held then .returned else .parking }
  | .park caller => do
    let held ← server.calls[caller]?
    let next ←
      server.advance caller .parking fun held =>
        { held with stage := .parked }
    some
      { next with registry := server.registry.park held.beat.watch caller }
  | .listen caller =>
    server.advance caller .parked fun held =>
      { held with stage := .listening }
  | .look caller order => do
    let held ← server.calls[caller]?
    let fresh := server.registry.deltasSharedFor order held.beat
    let next ← server.advance caller .listening fun held => looked held fresh.1
    some { next with registry := fresh.2 }
  | .wake caller => do
    let held ← server.calls[caller]?
    if held.rung then
      server.advance caller .waiting fun held =>
        { held with stage := .parking, rung := false }
    else none
  | .expire caller =>
    server.advance caller .waiting fun held =>
      { held with stage := .returned }
  | .sweep sweeper now order alive =>
    if server.sweeps.contains sweeper || !server.allAlive alive then none
    else
      let swept := server.registry.sweep now order alive
      some
        { server with
          registry := swept.registry
          sweeps := server.sweeps.insert sweeper swept.deferred.flatten }
  | .ringSwept sweeper => do
    let left ← server.sweeps[sweeper]?
    match left with
    | [] => none
    | bell :: rest =>
      some ({ server with sweeps := server.sweeps.insert sweeper rest }.notifyOne bell)

/-- Somebody is about to ring this bell. -/
def pending (server : RegistryServer) (bell : Bell) : Bool :=
  server.calls.toList.any (fun entry => entry.2.stage.left.contains bell) ||
    server.sweeps.toList.any fun entry => entry.2.contains bell

end RegistryServer

/-! ## What the registry does with parked bells -/

namespace Pool

/-- A bell is about to be rung, or still parked where nothing has moved. -/
def Minds (deferred : Deferred) (pool next : Pool) (bell : Bell) : Prop :=
  bell ∈ deferred.flatten ∨ bell ∈ next.waiters ∧ next.version = pool.version

variable {pool : Pool} {bell : Bell}

theorem mem_bumpDeferred (parked : bell ∈ pool.waiters) : bell ∈ pool.bumpDeferred.flatten := by
  unfold bumpDeferred
  split_ifs with none
  · rw [List.isEmpty_iff] at none
    rw [none] at parked
    cases parked
  · simpa using parked

/-- Enrolling minds the parked. -/
theorem enroll_minds
    (now ttl : Nat) (beat : Beat) (stateBytes : Nat) (parked : bell ∈ pool.waiters) :
    Minds (pool.enroll now ttl beat stateBytes).2 pool
      (pool.enroll now ttl beat stateBytes).1 bell := by
  have arrives :
      Minds (pool.arrive now ttl beat stateBytes).2 pool
        (pool.arrive now ttl beat stateBytes).1 bell := by
    apply Or.inl
    apply mem_bumpDeferred
    simp only
    split <;> exact parked
  unfold enroll
  split
  · unfold leave
    cases pool.members[beat.id]? with
    | none => exact Or.inr ⟨parked, rfl⟩
    | some record => exact Or.inl (mem_bumpDeferred parked)
  · split
    · split
      · unfold renew
        simp only
        split
        · exact Or.inl (mem_bumpDeferred parked)
        · exact Or.inr ⟨parked, rfl⟩
      · exact arrives
    · exact arrives

/-- A beat minds the parked. -/
theorem receive_minds
    (now ttl : Nat) (beat : Beat) (stateBytes : Nat) (parked : bell ∈ pool.waiters) :
    Minds (pool.receive now ttl beat stateBytes).deferred pool
      (pool.receive now ttl beat stateBytes).pool bell := by
  have shapes
      {shaped : Pool} (ok : pool.shape beat = .ok shaped) :
      bell ∈ shaped.waiters ∧ shaped.version = pool.version := by
    rcases shape_ok ok with rfl | ⟨policy, size, methods, rfl⟩
    · exact ⟨parked, rfl⟩
    · exact ⟨parked, rfl⟩
  rcases receive_cases pool now ttl beat stateBytes with
    ⟨why, _, exit⟩ | ⟨shaped, ok, _, exit⟩ | ⟨shaped, ok, _, exit⟩
  · rw [exit]
    exact Or.inr ⟨parked, rfl⟩
  · rw [exit]
    exact Or.inr (shapes ok)
  · rw [exit]
    rcases shapes ok with ⟨kept, version⟩
    rcases enroll_minds now ttl beat stateBytes kept with deferred | ⟨still, unmoved⟩
    · exact Or.inl deferred
    · refine Or.inr ?_
      unfold raise
      split <;> exact ⟨still, unmoved.trans version⟩

/-- A sweep minds the living. -/
theorem sweep_minds
    (order : IterationOrder) (now : Nat) {alive : Bell → Bool} (parked : bell ∈ pool.waiters)
    (there : alive bell = true) :
    Minds (pool.sweepDeferred order now alive) pool (pool.sweep order now alive) bell := by
  unfold sweepDeferred sweep
  suffices swept :
      ∀ (ids : List Nat) (state : Pool) (deferred : Deferred),
        Minds deferred pool state bell →
          Minds
            (ids.foldl
              (fun (progress : Pool × Deferred) id =>
                (progress.1.expire id, progress.2 ++ progress.1.expireDeferred id))
              (state, deferred)).2
            pool (ids.foldl expire state) bell by
    apply swept
    exact Or.inr ⟨by simp [forget, parked, there], rfl⟩
  intro ids
  induction ids with
  | nil => exact fun state deferred minds => minds
  | cons id rest hypothesis =>
    intro state deferred minds
    apply hypothesis
    rcases minds with rung | ⟨still, unmoved⟩
    · exact Or.inl (by simp [rung])
    · unfold expire expireDeferred
      cases state.members[id]? with
      | none => exact Or.inr ⟨still, unmoved⟩
      | some record =>
        refine Or.inl ?_
        simp only [Option.isSome_some, if_true, List.flatten_append, List.mem_append]
        exact Or.inr (mem_bumpDeferred still)

end Pool

namespace Registry

/-- Collecting wakes nobody. -/
theorem collect_minds
    (order : String → IterationOrder) (beat : Beat)
    (pools : ExtTreeMap String Pool) (name : String) :
    ((collect order beat pools).1.getD name {}).waiters = (pools.getD name {}).waiters ∧
      ((collect order beat pools).1.getD name {}).version = (pools.getD name {}).version := by
  have alike :
      ((collect order beat pools).1.getD name {}).uncached = (pools.getD name {}).uncached := by
    have found := collect_uncached order beat pools name
    simp only [ExtTreeMap.getD_eq_getD_getElem?]
    revert found
    cases (collect order beat pools).1[name]? <;>
      cases pools[name]? <;> simp
  have waiters := congrArg Pool.waiters alike
  have version := congrArg Pool.version alike
  exact ⟨waiters, version⟩

variable {name : String} {bell : Bell}

theorem deltasSharedFor_minds
    (registry : Registry) (order : String → IterationOrder) (beat : Beat)
    (parked : bell ∈ (registry.pool name).waiters) :
    Pool.Minds [] (registry.pool name)
      ((registry.deltasSharedFor order beat).2.pool name) bell := by
  rcases collect_minds order beat registry.pools name with ⟨waiters, version⟩
  refine Or.inr ⟨?_, version⟩
  change bell ∈ ((collect order beat registry.pools).1.getD name {}).waiters
  rw [waiters]
  exact parked

theorem getD_insert_pool
    (pools : ExtTreeMap String Pool) (key name : String) (pool : Pool) :
    (pools.insert key pool).getD name {} = if key = name then pool else pools.getD name {} := by
  simp only [ExtTreeMap.getD_insert, Std.compare_eq_iff_eq]

/-- A beat at the registry minds them. -/
theorem beatShared_minds [FloatFormat]
    (registry : Registry) (now : Nat) (order : String → IterationOrder)
    (beat : Beat) (parked : bell ∈ (registry.pool name).waiters) :
    Pool.Minds (registry.beatShared now order beat).deferred
      (registry.pool name)
      ((registry.beatShared now order beat).registry.pool name) bell := by
  unfold beatShared
  cases admissible beat with
  | none => exact Or.inr ⟨parked, rfl⟩
  | some stateBytes =>
    simp only
    have received :
        Pool.Minds
          ((registry.pool beat.pool).receive now registry.ttl beat stateBytes).deferred
          (registry.pool name)
          ((registry.pools.insert beat.pool
            ((registry.pool beat.pool).receive now registry.ttl beat
              stateBytes).pool).getD name {}) bell := by
      rw [getD_insert_pool]
      split_ifs with here
      · subst here
        exact Pool.receive_minds now registry.ttl beat stateBytes parked
      · exact Or.inr ⟨parked, rfl⟩
    have pooled : registry.pools.getD beat.pool {} = registry.pool beat.pool := rfl
    rw [pooled]
    generalize outcomeEq :
      (registry.pool beat.pool).receive now registry.ttl beat stateBytes = outcome at received
    cases refused : outcome.refused with
    | none =>
      rcases collect_minds order beat
        (registry.pools.insert beat.pool outcome.pool) name with
        ⟨waiters, version⟩
      rcases received with rung | ⟨still, unmoved⟩
      · exact Or.inl rung
      · refine Or.inr ⟨?_, version.trans unmoved⟩
        unfold pool
        simp only
        rw [waiters]
        exact still
    | some why =>
      -- a beat that is refused collects nobody
      rcases Pool.receive_cases (registry.pool beat.pool) now
        registry.ttl beat stateBytes with
        ⟨_, _, exit⟩ | ⟨_, _, _, exit⟩ | ⟨_, _, _, exit⟩ <;>
        rw [outcomeEq] at exit <;> subst exit
      · exact received
      · cases refused
      · cases refused

/-- The registry rings for each pool. -/
theorem mem_sweep_deferred
    (registry : Registry) (now : Nat) (order : String → IterationOrder)
    (alive : Bell → Bool) {pool : Pool} (present : registry.pools[name]? = some pool)
    (collected : bell ∈ (pool.sweepDeferred (order name) now alive).flatten) :
    bell ∈ (registry.sweep now order alive).deferred.flatten := by
  have gathered :
      ∀ (entries : List (String × Pool)) (rung : Deferred),
        (entries.foldl
          (fun rung entry => rung ++ entry.2.sweepDeferred (order entry.1) now alive)
          rung).flatten =
          rung.flatten ++
            entries.flatMap fun entry =>
              (entry.2.sweepDeferred (order entry.1) now alive).flatten := by
    intro entries
    induction entries with
    | nil => simp
    | cons entry rest hypothesis =>
      intro rung
      rw [List.foldl_cons, hypothesis, List.flatten_append, List.flatMap_cons, List.append_assoc]
  unfold sweep
  simp only
  rw [ExtTreeMap.foldl_eq_foldl_toList, gathered, List.flatten_nil,
    List.nil_append, List.mem_flatMap]
  exact ⟨(name, pool), ExtTreeMap.mem_toList_iff_getElem?_eq_some.mpr present, collected⟩

/-- A sweep of the registry minds them. -/
theorem sweep_minds
    (registry : Registry) (now : Nat) (order : String → IterationOrder)
    {alive : Bell → Bool} (parked : bell ∈ (registry.pool name).waiters)
    (there : alive bell = true) :
    Pool.Minds (registry.sweep now order alive).deferred
      (registry.pool name)
      ((registry.sweep now order alive).registry.pool name) bell := by
  have looked :
      (registry.sweep now order alive).registry.pools[name]? =
        registry.pools[name]?.map fun pool => pool.sweep (order name) now alive :=
    ExtTreeMap.getElem?_map
  unfold pool at parked ⊢
  rw [ExtTreeMap.getD_eq_getD_getElem?] at parked ⊢
  rw [ExtTreeMap.getD_eq_getD_getElem?, looked]
  cases present : registry.pools[name]? with
  | none =>
    rw [present] at parked
    cases parked
  | some pool =>
    rw [present] at parked
    rcases Pool.sweep_minds (order name) now parked there with rung | still
    · exact Or.inl (mem_sweep_deferred registry now order alive present rung)
    · exact Or.inr still

/-- What parking changes. -/
theorem park_pool
    (registry : Registry) (watch : List String) (bell : Bell) (name : String) :
    ((registry.park watch bell).pool name).version = (registry.pool name).version ∧
      (∀ other ∈ (registry.pool name).waiters,
        other ∈ ((registry.park watch bell).pool name).waiters) ∧
      (name ∈ watch → bell ∈ ((registry.park watch bell).pool name).waiters) := by
  unfold park pool
  simp only
  generalize registry.pools = pools
  induction watch generalizing pools with
  | nil => exact ⟨rfl, fun other parked => parked, fun listed => nomatch listed⟩
  | cons watched rest hypothesis =>
    rw [List.foldl_cons]
    rcases hypothesis
      (pools.insert watched
        { pools.getD watched {} with waiters := (pools.getD watched {}).waiters ++ [bell] }) with
      ⟨version, kept, added⟩
    rw [getD_insert_pool] at version kept
    by_cases same : watched = name
    · subst same
      simp only [if_true] at version kept
      refine ⟨version, fun other parked => kept other ?_, fun _ => ?_⟩
      · exact List.mem_append_left _ parked
      · exact kept bell (by simp)
    · simp only [same, if_false] at version kept
      refine ⟨version, kept, fun listed => added ?_⟩
      exact (List.mem_cons.mp listed).resolve_left (Ne.symm same)

/-! ## When there is nothing to say -/

/-- None of the watched pools has moved past the cursors of a beat. -/
def Quiet (pools : ExtTreeMap String Pool) (beat : Beat) : Prop :=
  ∀ name ∈ beat.watch, ∀ pool : Pool, pools[name]? = some pool →
    beat.seen[name]? = some pool.version

variable {pools : ExtTreeMap String Pool} {order : String → IterationOrder}

/-- With no news, nothing is collected. -/
theorem collect_of_quiet
    (order : String → IterationOrder) {beat : Beat} (quiet : Quiet pools beat) :
    collect order beat pools = (pools, ∅) := by
  unfold collect
  refine List.foldlRecOn beat.watch (collectOne order beat)
    (motive := fun progress => progress = (pools, ∅)) ?_ ?_
  · rfl
  rintro progress rfl name listed
  unfold collectOne
  cases present : pools[name]? with
  | none => rfl
  | some pool => simp [Pool.delta, quiet name listed pool present]

/-- Nothing collected, nothing changed. -/
theorem collectOne_isEmpty
    {beat : Beat} {progress : Collecting}
    (nothing : (collectOne order beat progress name).2.isEmpty = true) :
    collectOne order beat progress name = progress ∧
      ∀ pool : Pool, progress.1[name]? = some pool → beat.seen[name]? = some pool.version := by
  unfold collectOne at nothing ⊢
  cases present : progress.1[name]? with
  | none => exact ⟨rfl, fun pool found => nomatch found⟩
  | some pool =>
    simp only [present] at nothing
    have unsaid :
        (pool.delta (order name) beat.seen[name]?).1 = none ↔
          beat.seen[name]? = some pool.version := by
      unfold Pool.delta
      split_ifs with same
      · simp [same]
      · split <;> simp [same]
    cases answer : pool.delta (order name) beat.seen[name]? with
    | mk found cached =>
      rw [answer] at nothing unsaid
      cases found with
      | some delta => simp at nothing
      | none =>
        refine ⟨by simp only [answer], fun other listed => ?_⟩
        cases listed
        exact unsaid.mp rfl

/-- Nothing collected means no news. -/
theorem quiet_of_collect
    {beat : Beat} (nothing : (collect order beat pools).2.isEmpty = true) :
    Quiet pools beat := by
  suffices walked :
      ∀ (watch : List String) (progress : Collecting),
        (watch.foldl (collectOne order beat) progress).2.isEmpty = true →
          progress.2.isEmpty = true ∧
            ∀ name ∈ watch, ∀ pool : Pool,
              progress.1[name]? = some pool → beat.seen[name]? = some pool.version from
    (walked beat.watch (pools, ∅) nothing).2
  intro watch
  induction watch with
  | nil => exact fun progress empty => ⟨empty, fun _ listed => nomatch listed⟩
  | cons name rest hypothesis =>
    intro progress empty
    rcases hypothesis _ empty with ⟨first, others⟩
    rcases collectOne_isEmpty first with ⟨same, seen⟩
    rw [same] at first others
    refine ⟨first, ?_⟩
    intro other listed pool present
    rcases List.mem_cons.mp listed with rfl | later
    · exact seen pool present
    · exact others other later pool present

end Registry

/-! ## No wake-up is lost -/

namespace RegistryServer

theorem pending_iff (server : RegistryServer) (bell : Bell) :
    server.pending bell = true ↔
      (∃ (caller : Bell) (held : HeldBeat),
        server.calls[caller]? = some held ∧ bell ∈ held.stage.left) ∨
      ∃ (sweeper : Nat) (left : List Bell), server.sweeps[sweeper]? = some left ∧ bell ∈ left := by
  simp only [pending, Bool.or_eq_true, List.any_eq_true, Prod.exists,
    ExtTreeMap.mem_toList_iff_getElem?_eq_some, List.contains_iff_mem]

/-- The caller is going to wake up. -/
def Alert (server : RegistryServer) (bell : Bell) (held : HeldBeat) : Prop :=
  held.rung = true ∨ server.pending bell = true

/-- The bell is parked everywhere, and nothing has come up since the look. -/
def OnWatch (registry : Registry) (bell : Bell) (held : HeldBeat) : Prop :=
  ∀ name ∈ held.beat.watch,
    bell ∈ (registry.pool name).waiters ∧
      (held.stage = .waiting → held.beat.seen[name]? = some (registry.pool name).version)

/-- Every caller that has parked will wake up or is still on watch. -/
def Attended (server : RegistryServer) : Prop :=
  ∀ bell held, server.calls[bell]? = some held →
    held.stage.listed = true → server.Alert bell held ∨ OnWatch server.registry bell held

/-- What a step does for the calls it is not a step of. -/
structure Onward (server next : RegistryServer) : Prop where
  /-- Parked bells of calls under way stay, unless they will be rung. -/
  minds :
    ∀ (name : String) (bell : Bell) (held : HeldBeat),
      server.calls[bell]? = some held → held.stage.listed = true →
      bell ∈ (server.registry.pool name).waiters →
        next.pending bell = true ∨
          bell ∈ (next.registry.pool name).waiters ∧
            (next.registry.pool name).version = (server.registry.pool name).version
  /-- A bell that was to be rung is so still, or has been rung. -/
  rings :
    ∀ (bell : Bell) (held : HeldBeat), server.pending bell = true →
      next.calls[bell]? = some held → next.Alert bell held

/-- A call that stays where it is, but for its permit. -/
structure Bystander (held after : HeldBeat) : Prop where
  beat : after.beat = held.beat
  stage : after.stage = held.stage
  rung : held.rung = true → after.rung = true

theorem Bystander.refl (held : HeldBeat) : Bystander held held := ⟨rfl, rfl, fun rung => rung⟩

variable {server next : RegistryServer} {bell caller rung : Bell}
  {held after : HeldBeat}

theorem Onward.alert
    (onward : Onward server next) (rung : held.rung = true → after.rung = true)
    (found : next.calls[bell]? = some after) (alert : server.Alert bell held) :
    next.Alert bell after := by
  rcases alert with permit | pending
  · exact Or.inl (rung permit)
  · exact onward.rings bell after pending found

/-- A bystander is still attended. -/
theorem Onward.attended
    (onward : Onward server next) (present : server.calls[bell]? = some held)
    (listed : held.stage.listed = true)
    (attended : server.Alert bell held ∨ OnWatch server.registry bell held)
    (found : next.calls[bell]? = some after) (bystander : Bystander held after) :
    next.Alert bell after ∨ OnWatch next.registry bell after := by
  rcases attended with alert | watching
  · exact Or.inl (onward.alert bystander.rung found alert)
  · by_cases pending : next.pending bell = true
    · exact Or.inl (Or.inr pending)
    · refine Or.inr fun name watched => ?_
      rw [bystander.beat] at watched ⊢
      rw [bystander.stage]
      rcases watching name watched with ⟨parked, seen⟩
      rcases onward.minds name bell held present listed parked with rings | ⟨still, unmoved⟩
      · exact absurd rings pending
      · exact ⟨still, fun waiting => unmoved ▸ seen waiting⟩

/-- So all are, if the others are. -/
theorem Attended.onward
    (attended : server.Attended) (onward : Onward server next)
    (calls :
      ∀ (bell : Bell) (after : HeldBeat),
        next.calls[bell]? = some after → after.stage.listed = true →
          (∃ held, server.calls[bell]? = some held ∧ Bystander held after) ∨
          next.Alert bell after ∨ OnWatch next.registry bell after) :
    next.Attended := by
  intro bell after found listed
  rcases calls bell after found listed with ⟨held, present, bystander⟩ | settled
  · have before : held.stage.listed = true := bystander.stage ▸ listed
    exact onward.attended present before (attended bell held present before) found bystander
  · exact settled

/-! ### Steps of one call -/

theorem advance_eq_some
    {source : Stage} {change : HeldBeat → HeldBeat}
    (advanced : server.advance caller source change = some next) :
    ∃ held, server.calls[caller]? = some held ∧ held.stage = source ∧
      next = server.put caller (change held) := by
  simp only [advance, bind_some_iff] at advanced
  rcases advanced with ⟨held, present, advanced⟩
  split_ifs at advanced with stands
  cases advanced
  exact ⟨held, present, stands, rfl⟩

/-- A registry that has lost no bell and moved no pool. -/
def Unmoved (registry next : Registry) : Prop :=
  ∀ (name : String) (bell : Bell),
    bell ∈ (registry.pool name).waiters →
      bell ∈ (next.pool name).waiters ∧ (next.pool name).version = (registry.pool name).version

theorem Unmoved.refl (registry : Registry) : Unmoved registry registry :=
  fun _ _ parked => ⟨parked, rfl⟩

/-- Others still have to ring. -/
theorem pending_put
    (silent : ∀ held, server.calls[caller]? = some held → bell ∉ held.stage.left)
    (after : HeldBeat) (registry : Registry) (rings : server.pending bell = true) :
    pending { server.put caller after with registry := registry } bell = true := by
  rw [pending_iff] at rings ⊢
  rcases rings with ⟨ringer, ringing, found, left⟩ | swept
  · refine Or.inl ⟨ringer, ringing, ?_, left⟩
    have another : caller ≠ ringer := by
      rintro rfl
      exact silent ringing found left
    exact (getElem?_insert_ne another).trans found
  · exact Or.inr swept

/-- A call that rings nobody goes on. -/
theorem onward_put
    (present : server.calls[caller]? = some held)
    (done : held.stage.left = []) (after : HeldBeat)
    {registry : Registry} (unmoved : Unmoved server.registry registry) :
    Onward server
      { server.put caller after with registry := registry } where
  minds name bell other _ _ parked := Or.inr (unmoved name bell parked)
  rings bell other pending _ := by
    refine Or.inr (pending_put ?_ after registry pending)
    intro ringing found
    rw [present] at found
    cases found
    simp [done]

section

variable {server : RegistryServer} (attended : server.Attended)
  {caller : Bell} {held : HeldBeat}
  (present : server.calls[caller]? = some held)

include attended present

variable {after : HeldBeat}

/-- Its own stage decides. -/
theorem Attended.put
    (done : held.stage.left = [])
    {registry : Registry} (unmoved : Unmoved server.registry registry)
    (settled :
      after.stage.listed = true →
        Onward server
          { server.put caller after with registry := registry } →
          Alert { server.put caller after with registry := registry } caller after ∨
            OnWatch registry caller after) :
    Attended { server.put caller after with registry := registry } := by
  have onward := onward_put present done after unmoved
  refine attended.onward onward fun bell other found listed => ?_
  rcases getElem?_insert_cases found with ⟨rfl, rfl⟩ | ⟨_, before⟩
  · exact Or.inr (settled listed onward)
  · exact Or.inl ⟨other, before, .refl other⟩

theorem Attended.put_unlisted
    (done : held.stage.left = []) (unlisted : after.stage.listed = false) :
    (server.put caller after).Attended := by
  refine attended.put present done (.refl server.registry) ?_
  intro listed
  rw [unlisted] at listed
  cases listed

/-- A call parks its bell. -/
theorem Attended.park (stands : held.stage = .parking) :
    Attended
      { server.put caller { held with stage := .parked } with
        registry := server.registry.park held.beat.watch caller } := by
  have parks := Registry.park_pool server.registry held.beat.watch caller
  refine
    attended.put present (by rw [stands]; rfl)
      (fun name bell parked => ⟨(parks name).2.1 bell parked, (parks name).1⟩)
      fun _ _ => Or.inr fun name watched => ⟨(parks name).2.2 watched, ?_⟩
  intro waiting
  cases waiting

theorem Attended.listen (stands : held.stage = .parked) :
    (server.put caller { held with stage := .listening }).Attended := by
  refine attended.put present (by rw [stands]; rfl) (.refl server.registry) fun _ onward => ?_
  rcases attended caller held present (by rw [stands]; rfl) with alert | watching
  · exact Or.inl (onward.alert (fun rung => rung) ExtTreeMap.getElem?_insert_self alert)
  · exact Or.inr fun name watched => ⟨(watching name watched).1, fun waiting => nomatch waiting⟩

/-- A look finds news or may wait. -/
theorem Attended.look
    (stands : held.stage = .listening) (order : String → IterationOrder) :
    let fresh := server.registry.deltasSharedFor order held.beat
    Attended
      { server.put caller (looked held fresh.1) with registry := fresh.2 } := by
  intro fresh
  have keeps : Unmoved server.registry fresh.2 := by
    intro name bell parked
    rcases Registry.deltasSharedFor_minds server.registry order held.beat parked with rung | still
    · cases rung
    · exact still
  refine attended.put present (by rw [stands]; rfl) keeps fun listed onward => ?_
  cases nothing : fresh.1.isEmpty with
  | false =>
    simp only [looked, nothing] at listed
    cases listed
  | true =>
    have quiet : Registry.Quiet server.registry.pools held.beat := Registry.quiet_of_collect nothing
    have waits : looked held fresh.1 = { held with stage := .waiting } := by
      simp only [looked, nothing, if_true]
    rw [waits] at onward ⊢
    rcases attended caller held present (by rw [stands]; rfl) with alert | watching
    · exact Or.inl (onward.alert (fun rung => rung) ExtTreeMap.getElem?_insert_self alert)
    · refine Or.inr fun name watched => ?_
      have parked := (watching name watched).1
      rcases keeps name caller parked with ⟨still, unmoved⟩
      refine ⟨still, fun _ => ?_⟩
      rw [unmoved]
      -- a pool with a bell on it is one the look has seen
      unfold Registry.pool at parked ⊢
      rw [ExtTreeMap.getD_eq_getD_getElem?] at parked ⊢
      cases seen : server.registry.pools[name]? with
      | none =>
        rw [seen] at parked
        cases parked
      | some pool => exact quiet name watched pool seen

end

/-! ### Ringing -/

theorem notifyOne_calls
    (found : (server.notifyOne rung).calls[bell]? = some after) :
    ∃ held, server.calls[bell]? = some held ∧ Bystander held after ∧
      (rung = bell → after.rung = true) := by
  rcases getElem?_modify_cases found with ⟨rfl, held, present, rfl⟩ | ⟨another, present⟩
  · exact ⟨held, present, ⟨rfl, rfl, fun _ => rfl⟩, fun _ => rfl⟩
  · exact ⟨after, present, .refl after, fun same => absurd same another⟩

theorem notifyOne_stage
    (rung : Bell) (present : server.calls[bell]? = some held) :
    ∃ after, (server.notifyOne rung).calls[bell]? = some after ∧ after.stage = held.stage := by
  unfold notifyOne
  by_cases same : rung = bell
  · subst same
    refine ⟨{ held with rung := true }, ?_, rfl⟩
    simp [present]
  · refine ⟨held, ?_, rfl⟩
    simp only [ExtTreeMap.getElem?_modify, Std.compare_eq_iff_eq, same, if_false]
    exact present

/--
A bell is taken off a list and rung: `server` still has it on the list,
`shorter` does not.
-/
theorem Attended.ring
    {shorter : RegistryServer} (attended : server.Attended)
    (registry : shorter.registry = server.registry)
    (calls :
      ∀ (bell : Bell) (held : HeldBeat),
        shorter.calls[bell]? = some held → held.stage.listed = true →
          server.calls[bell]? = some held)
    (lists : ∀ bell, server.pending bell = true → bell = rung ∨ shorter.pending bell = true) :
    (shorter.notifyOne rung).Attended := by
  refine attended.onward ⟨?_, ?_⟩ fun bell after found listed => ?_
  · intro name bell held _ _ parked
    change
      _ ∨ bell ∈ (shorter.registry.pool name).waiters ∧ (shorter.registry.pool name).version = _
    rw [registry]
    exact Or.inr ⟨parked, rfl⟩
  · intro bell after pending found
    rcases notifyOne_calls found with ⟨held, _, _, permit⟩
    rcases lists bell pending with rfl | left
    · exact Or.inl (permit rfl)
    · refine Or.inr ((pending_iff _ bell).mpr ?_)
      rcases (pending_iff shorter bell).mp left with ⟨ringer, ringing, called, listed⟩ | swept
      · rcases notifyOne_stage rung called with ⟨later, called, stage⟩
        exact Or.inl ⟨ringer, later, called, stage ▸ listed⟩
      · exact Or.inr swept
  · rcases notifyOne_calls found with ⟨held, present, bystander, _⟩
    exact Or.inl ⟨held, calls bell held present (bystander.stage ▸ listed), bystander⟩

/-- A call rings a bell. -/
theorem Attended.ringCall
    (attended : server.Attended) {left : List Bell} (present : server.calls[caller]? = some held)
    (stands : held.stage = .ringing (rung :: left)) :
    ((server.put caller { held with stage := .ringing left }).notifyOne rung).Attended := by
  refine attended.ring rfl ?_ ?_
  · intro bell other found listed
    rcases getElem?_insert_cases found with ⟨_, rfl⟩ | ⟨_, before⟩
    · cases listed
    · exact before
  · intro bell pending
    rcases (pending_iff server bell).mp pending with ⟨ringer, ringing, found, listed⟩ | swept
    · by_cases same : caller = ringer
      · subst same
        rw [present] at found
        cases found
        rw [stands] at listed
        rcases List.mem_cons.mp listed with rfl | later
        · exact Or.inl rfl
        · refine Or.inr ((pending_iff _ bell).mpr (Or.inl ?_))
          exact ⟨caller, _, ExtTreeMap.getElem?_insert_self, later⟩
      · refine Or.inr ((pending_iff _ bell).mpr (Or.inl ?_))
        exact ⟨ringer, ringing, (getElem?_insert_ne same).trans found, listed⟩
    · exact Or.inr ((pending_iff _ bell).mpr (Or.inr swept))

variable {sweeper : Nat} {alive : Bell → Bool}

/-- A sweep rings a bell. -/
theorem Attended.ringSwept
    (attended : server.Attended) {left : List Bell}
    (present : server.sweeps[sweeper]? = some (rung :: left)) :
    ({ server with sweeps := server.sweeps.insert sweeper left }.notifyOne rung).Attended := by
  refine attended.ring rfl (fun bell held found _ => found) ?_
  intro bell pending
  rcases (pending_iff server bell).mp pending with called | ⟨other, listing, found, listed⟩
  · exact Or.inr ((pending_iff _ bell).mpr (Or.inl called))
  · by_cases same : sweeper = other
    · subst same
      rw [present] at found
      cases found
      rcases List.mem_cons.mp listed with rfl | later
      · exact Or.inl rfl
      · refine Or.inr ((pending_iff _ bell).mpr (Or.inr ?_))
        exact ⟨sweeper, left, ExtTreeMap.getElem?_insert_self, later⟩
    · refine Or.inr ((pending_iff _ bell).mpr (Or.inr ?_))
      exact ⟨other, listing, (getElem?_insert_ne same).trans found, listed⟩

/-! ### Steps that change pools -/

variable [FloatFormat]

/-- A beat leaves all attended. -/
theorem Attended.beat
    (attended : server.Attended) (fresh : server.calls[caller]? = none)
    (now : Nat) (order : String → IterationOrder) (beat : Beat) :
    let answer := server.registry.beatShared now order beat
    Attended
      { server.put caller
          { beat := beat
            ack := answer.ack
            stage := .ringing answer.deferred.flatten } with
        registry := answer.registry } := by
  intro answer
  refine attended.onward ⟨?_, ?_⟩ fun bell after found listed => ?_
  · intro name bell held present listed parked
    rcases Registry.beatShared_minds server.registry now order beat parked with collected | still
    · refine Or.inl ((pending_iff _ bell).mpr (Or.inl ?_))
      exact ⟨caller, _, ExtTreeMap.getElem?_insert_self, collected⟩
    · exact Or.inr still
  · intro bell held pending _
    refine Or.inr (pending_put ?_ _ _ pending)
    intro ringing found
    rw [fresh] at found
    cases found
  · rcases getElem?_insert_cases found with ⟨rfl, rfl⟩ | ⟨_, before⟩
    · cases listed
    · exact Or.inl ⟨after, before, .refl after⟩

omit [FloatFormat] in
theorem allAlive_spec
    (guard : server.allAlive alive = true) (present : server.calls[bell]? = some held)
    (listed : held.stage.listed = true) :
    alive bell = true := by
  have entry :=
    List.all_eq_true.mp guard (bell, held) (ExtTreeMap.mem_toList_iff_getElem?_eq_some.mpr present)
  cases stage : held.stage <;> simp_all [Stage.listed, Stage.holding]

omit [FloatFormat] in
/-- A sweep leaves all attended. -/
theorem Attended.sweep
    (attended : server.Attended) (fresh : server.sweeps[sweeper]? = none)
    (now : Nat) (order : String → IterationOrder) (guard : server.allAlive alive = true) :
    let swept := server.registry.sweep now order alive
    Attended
      { server with
        registry := swept.registry
        sweeps := server.sweeps.insert sweeper swept.deferred.flatten } := by
  intro swept
  refine attended.onward ⟨?_, ?_⟩ fun bell after found listed => ?_
  · intro name bell held present listed parked
    rcases Registry.sweep_minds server.registry now order parked
      (allAlive_spec guard present listed) with collected | still
    · refine Or.inl ((pending_iff _ bell).mpr (Or.inr ?_))
      exact ⟨sweeper, _, ExtTreeMap.getElem?_insert_self, collected⟩
    · exact Or.inr still
  · intro bell held pending _
    refine Or.inr ((pending_iff _ bell).mpr ?_)
    rcases (pending_iff server bell).mp pending with called | ⟨other, left, found, listed⟩
    · exact Or.inl called
    · refine Or.inr ⟨other, left, ?_, listed⟩
      have another : sweeper ≠ other := by
        rintro rfl
        rw [fresh] at found
        cases found
      exact (getElem?_insert_ne another).trans found
  · exact Or.inl ⟨after, found, .refl after⟩

/-! ### Runs -/

/-- One step leaves all attended. -/
theorem step_attended
    {move : Move} (stepped : server.step move = some next) (attended : server.Attended) :
    next.Attended := by
  cases move with
  | beat caller now order beat =>
    simp only [step] at stepped
    split_ifs at stepped with taken
    cases stepped
    apply attended.beat
    apply ExtTreeMap.getElem?_eq_none
    rw [← ExtTreeMap.contains_iff_mem]
    exact taken
  | ring caller =>
    simp only [step, bind_some_iff] at stepped
    rcases stepped with ⟨held, present, stepped⟩
    split at stepped
    · rename_i rung left stands
      cases stepped
      exact attended.ringCall present stands
    · cases stepped
  | decide caller =>
    rcases advance_eq_some stepped with ⟨held, present, stands, rfl⟩
    apply attended.put_unlisted present
    · rw [stands]
      rfl
    · simp only
      split <;> rfl
  | park caller =>
    simp only [step, bind_some_iff] at stepped
    rcases stepped with ⟨held, present, middle, advanced, stepped⟩
    rcases advance_eq_some advanced with ⟨other, found, stands, rfl⟩
    rw [present] at found
    cases found
    cases stepped
    exact attended.park present stands
  | listen caller =>
    rcases advance_eq_some stepped with ⟨held, present, stands, rfl⟩
    exact attended.listen present stands
  | look caller order =>
    simp only [step, bind_some_iff] at stepped
    rcases stepped with ⟨held, present, middle, advanced, stepped⟩
    rcases advance_eq_some advanced with ⟨other, found, stands, rfl⟩
    rw [present] at found
    cases found
    cases stepped
    exact attended.look present stands order
  | wake caller =>
    simp only [step, bind_some_iff] at stepped
    rcases stepped with ⟨held, present, stepped⟩
    split_ifs at stepped
    rcases advance_eq_some stepped with ⟨other, found, stands, rfl⟩
    exact attended.put_unlisted found (by rw [stands]; rfl) rfl
  | expire caller =>
    rcases advance_eq_some stepped with ⟨held, present, stands, rfl⟩
    exact attended.put_unlisted present (by rw [stands]; rfl) rfl
  | sweep sweeper now order alive =>
    simp only [step] at stepped
    split_ifs at stepped with refused
    cases stepped
    simp only [Bool.or_eq_true, Bool.not_eq_true', not_or,
      Bool.not_eq_true, Bool.not_eq_false] at refused
    apply attended.sweep _ now order refused.2
    apply ExtTreeMap.getElem?_eq_none
    rw [← ExtTreeMap.contains_iff_mem]
    simp [refused.1]
  | ringSwept sweeper =>
    simp only [step, bind_some_iff] at stepped
    rcases stepped with ⟨left, present, stepped⟩
    cases left with
    | nil => cases stepped
    | cons rung rest =>
      cases stepped
      exact attended.ringSwept present

/--
Long polling loses no wake-up.  In every state the server can reach, a caller
that waits with no permit in its bell and nobody about to ring it has nothing
to hear: the registry would answer its beat with no delta.
-/
theorem waiting_misses_nothing
    (ttl nanos : Nat) (moves : List Move) (final : RegistryServer)
    (ran : execute step (RegistryServer.new ttl nanos) moves = some final)
    (caller : Bell) (held : HeldBeat) (present : final.calls[caller]? = some held)
    (waiting : held.stage = .waiting) (unrung : held.rung = false)
    (nobody : final.pending caller = false) (order : String → IterationOrder) :
    (final.registry.deltasSharedFor order held.beat).1 = ∅ := by
  have attended : final.Attended := by
    refine execute_preserves step_attended ran ?_
    intro bell held present
    simp [RegistryServer.new] at present
  rcases attended caller held present (by rw [waiting]; rfl) with alert | watching
  · rcases alert with permit | pending
    · rw [unrung] at permit
      cases permit
    · rw [nobody] at pending
      cases pending
  · have quiet : Registry.Quiet final.registry.pools held.beat := by
      intro name watched pool found
      have seen := (watching name watched).2 waiting
      unfold Registry.pool at seen
      rw [ExtTreeMap.getD_eq_getD_getElem?, found] at seen
      exact seen
    unfold Registry.deltasSharedFor
    rw [Registry.collect_of_quiet order quiet]

omit [FloatFormat] in
/-- A member that has seen all there is waits for the next change. -/
theorem waiting_misses_nothing_member :
    letI := FloatFormat.widest
    ∃ (final : RegistryServer) (held : HeldBeat),
      execute step (RegistryServer.new 30000000000 8)
          [.beat 0 5 (fun _ => .ascending)
              { pool := "p", id := 1, incarnation := 1 },
            .decide 0,
            .beat 1 9 (fun _ => .ascending)
              { pool := "p"
                id := 1
                incarnation := 1
                watch := ["p"]
                seen := (∅ : ExtTreeMap String Nat).insert "p" 1
                holdMs := 7500 },
            .decide 1, .park 1, .listen 1, .look 1 (fun _ => .ascending)] =
          some final ∧
        final.calls[(1 : Bell)]? = some held ∧ held.stage = .waiting ∧
        (final.registry.deltasSharedFor (fun _ => .ascending) held.beat).1 = ∅ := by
  let := FloatFormat.widest
  refine
    ⟨Option.get _ ?_, Option.get _ ?_, (Option.some_get _).symm, (Option.some_get _).symm, ?_,
      waiting_misses_nothing 30000000000 8 _ _ (Option.some_get _).symm 1 _
        (Option.some_get _).symm ?_ ?_ ?_ _⟩
  all_goals decide

end RegistryServer

end Tinyray
