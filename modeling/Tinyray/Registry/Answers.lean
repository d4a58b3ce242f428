import Tinyray.Registry.Roster

/-!
# The deltas a registry hands out

A delta may come from the cache of its pool.  `Pool.Answers` says what a
delta has to be, whoever built it, and `Registry.run_cacheSound` says that
every cached delta in every reachable state is still that.  `collect_spec` is
the answer to a whole watch list.
-/

namespace Tinyray

open Std Foundation

namespace Pool

/-! ## Building a delta -/

/-- The two answer alike. -/
structure SameWord (pool next : Pool) : Prop where
  version : next.version = pool.version
  roster : next.roster = pool.roster
  policy : next.policy = pool.policy
  methods : next.methods = pool.methods
  size : next.size = pool.size
  log : next.log = pool.log
  roll : next.roll = pool.roll

theorem keys_roll (pool : Pool) : pool.roll.keys = pool.members.keys := ExtTreeMap.keys_map

theorem map_member_records (order : IterationOrder) (pool : Pool) :
    (pool.records order).map Record.member =
      (order.arrange pool.roll.keys).filterMap fun id => pool.roll[id]? := by
  rw [records, List.map_filterMap, keys_roll]
  congr 1
  funext id
  rw [getElem?_roll]

variable {pool next : Pool}

/-- Alike pools build the same delta. -/
theorem SameWord.buildDelta_eq
    (same : pool.SameWord next) (order : IterationOrder) (since : Option Nat) :
    (next.buildDelta order since).1 = (pool.buildDelta order since).1 := by
  have seats :
      ∀ id : Nat, next.members[id]?.map Record.member = pool.members[id]?.map Record.member := by
    intro id
    rw [← getElem?_roll, ← getElem?_roll, same.roll]
  have vacancies : ∀ id : Nat, next.members[id]?.isNone = pool.members[id]?.isNone := by
    intro id
    have seat := congrArg Option.isNone (seats id)
    simpa using seat
  cases since with
  | none =>
    simp only [buildDelta, map_member_records, same.version,
      same.roster, same.policy, same.methods, same.size, same.roll]
  | some cursor =>
    simp only [buildDelta, changedIds, same.version, same.roster,
      same.policy, same.methods, same.size, same.log, seats, vacancies]

/--
The delta for a cursor, as it would be built from the present state in one
iteration order or another.
-/
def Answers (pool : Pool) (since : Option Nat) (delta : PoolDelta) : Prop :=
  ∃ order, delta = (pool.buildDelta order since).1

theorem SameWord.of_core (alike : next.core = pool.core) : pool.SameWord next where
  version := by simpa using congrArg Pool.version alike
  roster := by simpa using congrArg Pool.roster alike
  policy := by simpa [core] using congrArg Pool.policy alike
  methods := by simpa [core] using congrArg Pool.methods alike
  size := by simpa [core] using congrArg Pool.size alike
  log := by simpa using congrArg Pool.log alike
  roll := by
    have members := congrArg Pool.members alike
    simp only [core_members] at members
    simp only [Pool.roll, members]

theorem SameWord.since_eq (same : pool.SameWord next) (seen : Option Nat) :
    next.since seen = pool.since seen := by
  unfold Pool.since
  rw [same.version, same.log]

variable {delta : PoolDelta}

theorem SameWord.answers
    (same : pool.SameWord next) {since : Option Nat} (answers : pool.Answers since delta) :
    next.Answers since delta := by
  rcases answers with ⟨order, rfl⟩
  exact ⟨order, (same.buildDelta_eq order since).symm⟩

/-! ## Cached deltas are never stale -/

/-- Every cached delta is what would be built now. -/
def CacheSound (pool : Pool) : Prop :=
  ∀ entry ∈ pool.cache.entries, pool.Answers entry.since entry.delta

theorem cacheSound_of_cleared
    (cleared : pool.cache = {}) : pool.CacheSound := by
  intro entry member
  rw [cleared] at member
  cases member

theorem SameWord.cacheSound
    (same : pool.SameWord next) (kept : next.cache = pool.cache) (sound : pool.CacheSound) :
    next.CacheSound := by
  intro entry member
  rw [kept] at member
  exact same.answers (sound entry member)

/-- A delta answers its cursor. -/
theorem delta_answers
    (sound : pool.CacheSound) {order : IterationOrder} {seen : Option Nat}
    (answered : (pool.delta order seen).1 = some delta) :
    seen ≠ some pool.version ∧ pool.Answers (pool.since seen) delta := by
  unfold Pool.delta at answered
  split_ifs at answered with current
  refine ⟨current, ?_⟩
  split at answered
  · rename_i cached found
    cases answered
    rcases DeltaCache.mem_of_get found with ⟨entry, member, sameSince, rfl⟩
    rw [← sameSince]
    exact sound entry member
  · cases answered
    exact ⟨order, rfl⟩

theorem delta_eq_none_iff
    (order : IterationOrder) (pool : Pool) (seen : Option Nat) :
    (pool.delta order seen).1 = none ↔ seen = some pool.version := by
  unfold Pool.delta
  split_ifs with current
  · simp [current]
  · split <;> simp [current]

/-- Answering keeps the cache sound. -/
theorem delta_cacheSound
    (sound : pool.CacheSound) (order : IterationOrder) (seen : Option Nat) :
    (pool.delta order seen).2.CacheSound := by
  unfold Pool.delta
  split
  · exact sound
  · split
    · exact sound
    · intro entry member
      have same : pool.SameWord
          { pool with
            cache :=
              pool.cache.insert (pool.since seen)
                (pool.buildDelta order (pool.since seen)).1
                (pool.buildDelta order (pool.since seen)).2 } :=
        ⟨rfl, rfl, rfl, rfl, rfl, rfl, rfl⟩
      apply same.answers
      rcases DeltaCache.mem_of_mem_insert member with old | rfl
      · exact sound entry old
      · exact ⟨order, rfl⟩

/-- A still beat keeps the fingerprint. -/
theorem rosterAfter_of_still {beat : Beat} (still : pool.moves beat = false) :
    pool.rosterAfter beat = pool.roster := by
  unfold moves at still
  unfold rosterAfter
  cases present : pool.members[beat.id]? with
  | none =>
    rw [present] at still
    simp only [Bool.not_eq_false'] at still
    simp [still]
  | some record =>
    rw [present] at still
    simp only [Bool.or_eq_false_iff, bne_eq_false_iff_eq] at still
    simp [still.1.1, still.1.2]

/-- Enrolling keeps the cache sound. -/
theorem enroll_cacheSound
    (sound : pool.CacheSound) (now ttl : Nat) (beat : Beat) (stateBytes : Nat) :
    (pool.enroll now ttl beat stateBytes).1.CacheSound := by
  rw [enroll_eq]
  cases moved : pool.moves beat with
  | true => exact cacheSound_of_cleared rfl
  | false =>
    have same : pool.SameWord (pool.settled now ttl beat stateBytes) :=
      { version := rfl
        roster := rosterAfter_of_still moved
        policy := rfl
        methods := rfl
        size := rfl
        log := rfl
        roll := settled_roll moved now ttl stateBytes }
    exact same.cacheSound rfl sound

/-- A beat keeps the cache sound. -/
theorem receive_cacheSound
    (sound : pool.CacheSound) (now ttl : Nat) (beat : Beat) (stateBytes : Nat) :
    (pool.receive now ttl beat stateBytes).pool.CacheSound := by
  have shapedSound : ∀ shaped, pool.shape beat = .ok shaped → shaped.CacheSound := by
    intro shaped ok
    rcases shape_ok ok with rfl | ⟨policy, size, methods, rfl⟩
    · exact sound
    · exact cacheSound_of_cleared rfl
  rcases receive_cases pool now ttl beat stateBytes with
    ⟨why, _, exit⟩ | ⟨shaped, ok, _, exit⟩ | ⟨shaped, ok, _, exit⟩
  · rw [exit]
    exact sound
  · rw [exit]
    exact shapedSound shaped ok
  · rw [exit]
    have admitted := enroll_cacheSound (shapedSound shaped ok) now ttl beat stateBytes
    unfold raise
    split
    · have same :
          (shaped.enroll now ttl beat stateBytes).1.SameWord
            { (shaped.enroll now ttl beat stateBytes).1 with
              high :=
                (shaped.enroll now ttl beat stateBytes).1.high.insert beat.id beat.incarnation } :=
        ⟨rfl, rfl, rfl, rfl, rfl, rfl, rfl⟩
      exact same.cacheSound rfl admitted
    · exact admitted

theorem expire_cacheSound (sound : pool.CacheSound) (id : Nat) : (pool.expire id).CacheSound := by
  unfold expire
  split
  · exact cacheSound_of_cleared rfl
  · exact sound

/-- A sweep keeps the cache sound. -/
theorem sweep_cacheSound
    (sound : pool.CacheSound) (order : IterationOrder) (now : Nat) (alive : Bell → Bool) :
    (pool.sweep order now alive).CacheSound := by
  have same : pool.SameWord (pool.forget now alive) := ⟨rfl, rfl, rfl, rfl, rfl, rfl, rfl⟩
  have forgotten : (pool.forget now alive).CacheSound := same.cacheSound rfl sound
  unfold sweep
  generalize pool.dead order now = ids
  generalize pool.forget now alive = start at forgotten
  induction ids generalizing start with
  | nil => exact forgotten
  | cons id rest hypothesis =>
    exact hypothesis _ (expire_cacheSound forgotten id)

end Pool

/-! ## Properties of all pools -/

namespace Registry

/-- Every pool of a map has a property. -/
def Everywhere (property : Pool → Prop)
    (pools : ExtTreeMap String Pool) : Prop :=
  ∀ (name : String) (pool : Pool), pools[name]? = some pool → property pool

variable {property : Pool → Prop} {pools : ExtTreeMap String Pool}
  {pool : Pool} {beat : Beat} {name : String} {delta : PoolDelta}

theorem Everywhere.insert
    (everywhere : Everywhere property pools) (name : String) (fresh : property pool) :
    Everywhere property (pools.insert name pool) := by
  intro other found lookup
  rcases getElem?_insert_cases lookup with ⟨_, rfl⟩ | ⟨_, before⟩
  · exact fresh
  · exact everywhere other found before

theorem Everywhere.getD
    (everywhere : Everywhere property pools) (empty : property {})
    (name : String) : property (pools.getD name {}) := by
  rw [ExtTreeMap.getD_eq_getD_getElem?]
  cases present : pools[name]? with
  | none => exact empty
  | some pool => exact everywhere name pool present

theorem everywhere_new (property : Pool → Prop) (ttl nanos : Nat) :
    Everywhere property (Registry.new ttl nanos).pools := by
  intro name pool found
  simp [Registry.new] at found

/-- Collecting keeps it everywhere. -/
theorem Everywhere.collect
    (cached :
      ∀ {pool : Pool} (order : IterationOrder) (seen : Option Nat),
        property pool → property (pool.delta order seen).2)
    (order : String → IterationOrder) (beat : Beat)
    (everywhere : Everywhere property pools) :
    Everywhere property (collect order beat pools).1 := by
  unfold Registry.collect
  refine List.foldlRecOn beat.watch (collectOne order beat)
    (motive := fun progress => Everywhere property progress.1) ?_ ?_
  · exact everywhere
  intro progress everywhere name _
  unfold collectOne
  cases present : progress.1[name]? with
  | none => exact everywhere
  | some pool =>
    have kept := cached (order name) beat.seen[name]? (everywhere name pool present)
    simp only
    split
    · exact everywhere
    · rename_i delta next answer
      rw [answer] at kept
      exact everywhere.insert name kept

/-- A property that a new pool has and that nothing done to a pool breaks. -/
structure Steady (property : Pool → Prop) : Prop where
  empty : property {}
  receive :
    ∀ {pool : Pool} (now ttl : Nat) (beat : Beat) (stateBytes : Nat),
      property pool → property (pool.receive now ttl beat stateBytes).pool
  sweep :
    ∀ {pool : Pool} (order : IterationOrder) (now : Nat)
      (alive : Bell → Bool), property pool → property (pool.sweep order now alive)
  delta :
    ∀ {pool : Pool} (order : IterationOrder) (seen : Option Nat),
      property pool → property (pool.delta order seen).2
  waiters :
    ∀ {pool : Pool} (waiters : List Bell), property pool → property { pool with waiters := waiters }

section

variable [FloatFormat]

/-- A property that only some beats keep. -/
structure SteadyUnder (allowed : Beat → Prop) (property : Pool → Prop) : Prop where
  empty : property {}
  receive :
    ∀ {pool : Pool} (now ttl : Nat) {beat : Beat} {stateBytes : Nat},
      allowed beat → admissible beat = some stateBytes →
        property pool → property (pool.receive now ttl beat stateBytes).pool
  sweep :
    ∀ {pool : Pool} (order : IterationOrder) (now : Nat)
      (alive : Bell → Bool), property pool → property (pool.sweep order now alive)
  delta :
    ∀ {pool : Pool} (order : IterationOrder) (seen : Option Nat),
      property pool → property (pool.delta order seen).2
  waiters :
    ∀ {pool : Pool} (waiters : List Bell), property pool → property { pool with waiters := waiters }

variable {property : Pool → Prop} {registry : Registry}
  {allowed : Beat → Prop}

/-- A step keeps it everywhere. -/
theorem SteadyUnder.step
    (steady : SteadyUnder allowed property)
    (everywhere : Everywhere property registry.pools) {event : Event}
    (permitted : ∀ now order beat, event = .beat now order beat → allowed beat) :
    Everywhere property (registry.step event).pools := by
  cases event with
  | beat now order sent =>
    unfold Registry.step beatShared
    simp only
    cases admitted : admissible sent with
    | none => exact everywhere
    | some stateBytes =>
      have inserted :=
        everywhere.insert sent.pool
          (steady.receive now registry.ttl
            (permitted now order sent rfl) admitted
            (everywhere.getD steady.empty sent.pool))
      simp only
      split
      · exact inserted
      · exact inserted.collect steady.delta order sent
  | sweep now order alive =>
    intro name pool found
    change
      (registry.pools.map fun name pool =>
        pool.sweep (order name) now alive)[name]? = some pool at found
    rw [ExtTreeMap.getElem?_map] at found
    cases present : registry.pools[name]? with
    | none => simp [present] at found
    | some before =>
      rw [present] at found
      cases found
      exact steady.sweep _ _ _ (everywhere name before present)
  | query order sent => exact everywhere.collect steady.delta order sent
  | park watch bell =>
    refine List.foldlRecOn watch _ (motive := Everywhere property) everywhere ?_
    intro pools everywhere name _
    exact everywhere.insert name (steady.waiters _ (everywhere.getD steady.empty name))

theorem SteadyUnder.run
    (steady : SteadyUnder allowed property)
    (everywhere : Everywhere property registry.pools) {events : List Event}
    (permitted : ∀ now order beat, .beat now order beat ∈ events → allowed beat) :
    Everywhere property (registry.run events).pools :=
  List.foldlRecOn events Registry.step
    (motive := fun state => Everywhere property state.pools) everywhere
    fun _ kept _ listed =>
      steady.step kept fun now order beat sent => permitted now order beat (sent ▸ listed)

theorem Steady.run
    (steady : Steady property) (everywhere : Everywhere property registry.pools)
    (events : List Event) :
    Everywhere property (registry.run events).pools :=
  have under : SteadyUnder (fun _ => True) property :=
    { steady with receive := fun now ttl _ _ _ _ => steady.receive now ttl _ _ }
  under.run everywhere fun _ _ _ _ => trivial

end

/-! ## Answering a watch list -/

/-- Every pool of a map has a sound cache. -/
def CachesSound (pools : ExtTreeMap String Pool) : Prop :=
  ∀ (name : String) (pool : Pool), pools[name]? = some pool → pool.CacheSound

theorem CachesSound.insert
    (sound : CachesSound pools) (name : String) (fresh : pool.CacheSound) :
    CachesSound (pools.insert name pool) :=
  Everywhere.insert sound name fresh

theorem CachesSound.getD
    (sound : CachesSound pools) (name : String) : (pools.getD name {}).CacheSound :=
  Everywhere.getD sound (Pool.cacheSound_of_cleared rfl) name

theorem new_cachesSound (ttl nanos : Nat) : CachesSound (Registry.new ttl nanos).pools :=
  everywhere_new _ ttl nanos

/--
A delta that was handed out for one of the watched pools: it answers the
cursor the beat came with, from the state the pool was in.
-/
def Collected
    (pools : ExtTreeMap String Pool) (beat : Beat) (name : String) (delta : PoolDelta) : Prop :=
  name ∈ beat.watch ∧
    ∃ pool : Pool, pools[name]? = some pool ∧ beat.seen[name]? ≠ some pool.version ∧
      pool.Answers (pool.since beat.seen[name]?) delta

/-- What holds while a watch list is walked through. -/
structure CollectInvariant
    (pools : ExtTreeMap String Pool) (beat : Beat)
    (progress : Collecting) : Prop where
  sound : CachesSound progress.1
  alike : SameCores progress.1 pools
  answered :
    ∀ (name : String) (delta : PoolDelta),
      progress.2[name]? = some delta → Collected pools beat name delta

/-- One more watched pool is collected. -/
theorem collectOne_invariant
    (order : String → IterationOrder) {progress : Collecting}
    (invariant : CollectInvariant pools beat progress)
    {watched : String} (member : watched ∈ beat.watch) :
    CollectInvariant pools beat (collectOne order beat progress watched) := by
  have stillAlike : SameCores (collectOne order beat progress watched).1 pools :=
    fun name => (collectOne_sameCores order beat progress watched name).trans (invariant.alike name)
  revert stillAlike
  unfold collectOne
  cases present : progress.1[watched]? with
  | none =>
    intro _
    exact invariant
  | some pool =>
    have poolSound := invariant.sound watched pool present
    have cachedSound := Pool.delta_cacheSound poolSound (order watched) beat.seen[watched]?
    simp only
    split
    · intro _
      exact invariant
    · rename_i delta cached answer
      intro stillAlike
      rw [answer] at cachedSound
      refine ⟨invariant.sound.insert watched cachedSound, stillAlike, ?_⟩
      intro name found lookup
      rcases getElem?_insert_cases lookup with ⟨rfl, rfl⟩ | ⟨_, lookup⟩
      · have alike := invariant.alike watched
        rw [present] at alike
        cases original : pools[watched]? with
        | none => simp [original] at alike
        | some first =>
          rw [original] at alike
          have sameWord := Pool.SameWord.of_core (Option.some.inj alike).symm
          rcases Pool.delta_answers poolSound (congrArg Prod.fst answer) with ⟨moved, answers⟩
          refine ⟨member, first, original, ?_, ?_⟩
          · rw [sameWord.version]
            exact moved
          · rw [sameWord.since_eq]
            exact sameWord.answers answers
      · exact invariant.answered name found lookup

theorem collect_spec
    (order : String → IterationOrder) (beat : Beat) (sound : CachesSound pools) :
    CollectInvariant pools beat (collect order beat pools) := by
  unfold collect
  refine List.foldlRecOn beat.watch (collectOne order beat)
    (motive := CollectInvariant pools beat) ?_ ?_
  · exact ⟨sound, fun _ => rfl, by simp⟩
  intro progress invariant watched member
  exact collectOne_invariant order invariant member

/--
A delta handed out for one of the watched pools, in terms of the state the
pool is left in.
-/
def Answered
    (registry : Registry) (beat : Beat) (name : String) (delta : PoolDelta) : Prop :=
  name ∈ beat.watch ∧ beat.seen[name]? ≠ some (registry.pool name).version ∧
    (registry.pool name).Answers ((registry.pool name).since beat.seen[name]?) delta

/-- What is collected is an answer. -/
theorem Collected.answered
    (collected : Collected pools beat name delta)
    {registry : Registry} (alike : SameCores registry.pools pools) :
    registry.Answered beat name delta := by
  rcases collected with ⟨watched, pool, present, moved, answers⟩
  have same : pool.SameWord (registry.pool name) := by
    apply Pool.SameWord.of_core
    have sameCore := alike name
    rw [present] at sameCore
    unfold Registry.pool
    rw [ExtTreeMap.getD_eq_getD_getElem?]
    cases found : registry.pools[name]? with
    | none => simp [found] at sameCore
    | some other =>
      rw [found] at sameCore
      exact Option.some.inj sameCore
  refine ⟨watched, ?_, ?_⟩
  · rw [same.version]
    exact moved
  · rw [same.since_eq]
    exact same.answers answers

theorem query_answered
    (registry : Registry) (order : String → IterationOrder)
    (beat : Beat) (sound : CachesSound registry.pools)
    (sent : (registry.deltasSharedFor order beat).1[name]? = some delta) :
    (registry.deltasSharedFor order beat).2.Answered beat name delta :=
  ((collect_spec order beat sound).answered name delta sent).answered
    (collect_sameCores order beat registry.pools)

/-- Caches stay sound. -/
theorem steady_cacheSound : Steady Pool.CacheSound where
  empty := Pool.cacheSound_of_cleared rfl
  receive := fun now ttl beat stateBytes sound =>
    Pool.receive_cacheSound sound now ttl beat stateBytes
  sweep := fun order now alive sound => Pool.sweep_cacheSound sound order now alive
  delta := fun order seen sound => Pool.delta_cacheSound sound order seen
  waiters := by
    intro pool waiters sound
    have same : pool.SameWord { pool with waiters := waiters } :=
      ⟨rfl, rfl, rfl, rfl, rfl, rfl, rfl⟩
    exact same.cacheSound rfl sound

section

variable [FloatFormat]

/-- What a beat gets is an answer. -/
theorem beat_answered
    (registry : Registry) (now : Nat) (order : String → IterationOrder)
    (beat : Beat) (sound : CachesSound registry.pools) {name : String} {delta : PoolDelta}
    (sent : (registry.beatShared now order beat).ack.pools[name]? = some delta) :
    (registry.beatShared now order beat).registry.Answered beat name
      delta := by
  revert sent
  unfold beatShared
  cases admissible beat with
  | none => simp
  | some stateBytes =>
    simp only
    split
    · simp
    · intro sent
      have inserted :=
        sound.insert beat.pool
          (Pool.receive_cacheSound (sound.getD beat.pool) now registry.ttl beat stateBytes)
      exact
        ((collect_spec order beat inserted).answered name delta
          sent).answered (collect_sameCores order beat _)

theorem run_cachesSound
    {registry : Registry} (sound : CachesSound registry.pools) (events : List Event) :
    CachesSound (registry.run events).pools :=
  steady_cacheSound.run sound events

end

end Registry

end Tinyray
