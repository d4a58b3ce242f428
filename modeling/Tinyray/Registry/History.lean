import Tinyray.Registry.Lifecycle

/-!
# The versions of a pool

Every state a pool goes through carries a version number, and the journal
ties these numbers to the members that changed.  `Pool.Evolves` says what a
step can do to version, journal and member map; `Pool.Remembers` is the
invariant a state keeps with every earlier one; `Registry.history` lists the
states a pool goes through in a run, those in the middle of a sweep included.
-/

namespace Tinyray

open Std Foundation

namespace Pool

/-- The member map as watchers see it. -/
def roll (pool : Pool) : ExtTreeMap Nat Member := pool.members.map fun _ record => record.member

@[simp]
theorem getElem?_roll (pool : Pool) (id : Nat) :
    pool.roll[id]? = pool.members[id]?.map Record.member := by
  simp [roll, ExtTreeMap.getElem?_map]

variable {pool next later : Pool}

theorem roll_eq_of_members
    (same : ∀ id : Nat, next.members[id]?.map Record.member = pool.members[id]?.map Record.member) :
    next.roll = pool.roll := by
  apply ExtTreeMap.ext_getElem?
  intro id
  simp [same id]

/-- One change of version, journal and member map, or none of the three. -/
inductive Evolves (pool next : Pool) : Prop where
  | quiet
      (version : next.version = pool.version)
      (log : next.log = pool.log)
      (roll : next.roll = pool.roll)
  | bumped (id : Nat)
      (version : next.version = pool.version + 1)
      (log : next.log = push logCap pool.version id pool.log)
      (others : ∀ other, other ≠ id → next.roll[other]? = pool.roll[other]?)

variable {other past state : Pool} {beat : Beat}

/-- Bells and caches do not matter. -/
theorem Evolves.of_core
    (evolves : pool.Evolves next) (alike : other.core = next.core) :
    pool.Evolves other := by
  have sameVersion : other.version = next.version := by
    simpa using congrArg Pool.version alike
  have sameLog : other.log = next.log := by
    simpa using congrArg Pool.log alike
  have sameMembers : other.members = next.members := by
    simpa using congrArg Pool.members alike
  have sameRoll : other.roll = next.roll := by
    rw [roll, roll, sameMembers]
  cases evolves with
  | quiet version log roll =>
    exact .quiet (sameVersion.trans version) (sameLog.trans log) (sameRoll.trans roll)
  | bumped id version log others =>
    refine .bumped id (sameVersion.trans version) (sameLog.trans log) ?_
    intro key distinct
    rw [sameRoll]
    exact others key distinct

/-! ## What the steps do -/

theorem bump_evolves
    {touched : Pool} (id : Nat) (version : touched.version = pool.version)
    (log : touched.log = pool.log)
    (others : ∀ other, other ≠ id → touched.members[other]? = pool.members[other]?) :
    pool.Evolves (touched.bump id) := by
  refine .bumped id (by simp [version]) (by simp [version, log]) ?_
  intro other distinct
  simp [others other distinct]

theorem settled_members_other
    (pool : Pool) (now ttl : Nat) (beat : Beat) (stateBytes : Nat)
    {other : Nat} (distinct : other ≠ beat.id) :
    (pool.settled now ttl beat stateBytes).members[other]? = pool.members[other]? := by
  unfold settled
  split_ifs
  · rw [ExtTreeMap.getElem?_erase]
    simp [Ne.symm distinct]
  · rw [ExtTreeMap.getElem?_insert]
    simp [Ne.symm distinct]

theorem renewed_member
    {record : Record}
    (nothing : (newer record.publication beat.publication && differs record beat) = false)
    (now ttl stateBytes : Nat) :
    (renewed record now ttl beat stateBytes).member = record.member := by
  unfold renewed
  split_ifs with isNewer isDifferent
  · simp [isNewer, isDifferent] at nothing
  · rfl
  · rfl

/-- A still beat keeps the members. -/
theorem settled_roll
    (still : pool.moves beat = false) (now ttl stateBytes : Nat) :
    (pool.settled now ttl beat stateBytes).roll = pool.roll := by
  apply roll_eq_of_members
  intro id
  by_cases same : id = beat.id
  · subst same
    unfold moves at still
    unfold settled seated
    cases present : pool.members[beat.id]? with
    | none =>
      rw [present] at still
      simp only [Bool.not_eq_false'] at still
      simp [still]
    | some record =>
      rw [present] at still
      simp only [Bool.or_eq_false_iff, bne_eq_false_iff_eq] at still
      rcases still with ⟨⟨staying, tenure⟩, nothing⟩
      simp [staying, tenure, renewed_member nothing]
  · rw [settled_members_other pool now ttl beat stateBytes same]

theorem enroll_evolves
    (pool : Pool) (now ttl : Nat) (beat : Beat) (stateBytes : Nat) :
    pool.Evolves (pool.enroll now ttl beat stateBytes).1 := by
  rw [enroll_eq]
  cases moved : pool.moves beat with
  | true =>
    exact bump_evolves beat.id rfl rfl fun other distinct =>
      settled_members_other pool now ttl beat stateBytes distinct
  | false =>
    exact .quiet rfl rfl (settled_roll moved now ttl stateBytes)

/-- A beat moves the pool on. -/
theorem receive_evolves
    (pool : Pool) (now ttl : Nat) (beat : Beat) (stateBytes : Nat) :
    pool.Evolves (pool.receive now ttl beat stateBytes).pool := by
  rcases receive_cases pool now ttl beat stateBytes with
    ⟨why, _, exit⟩ | ⟨shaped, ok, _, exit⟩ | ⟨shaped, ok, _, exit⟩
  · rw [exit]
    exact .quiet rfl rfl rfl
  · rcases shape_ok_fields ok with ⟨version, _, members, _, _, log⟩
    rw [exit]
    exact .quiet version log (by simp only [roll, members])
  · rcases shape_ok_fields ok with ⟨version, _, members, _, _, log⟩
    have sameRoll : shaped.roll = pool.roll := by
      simp only [roll, members]
    rw [exit]
    have admitted := enroll_evolves shaped now ttl beat stateBytes
    have raised :
        ∀ admitted : Pool, ∀ mark,
          (admitted.raise mark beat).version = admitted.version ∧
            (admitted.raise mark beat).log = admitted.log ∧
            (admitted.raise mark beat).roll = admitted.roll := by
      intro admitted mark
      unfold raise
      split <;> exact ⟨rfl, rfl, rfl⟩
    rcases raised (shaped.enroll now ttl beat stateBytes).1 (shaped.watermark beat.id) with
      ⟨raisedVersion, raisedLog, raisedRoll⟩
    cases admitted with
    | quiet sameVersion sameLog roll =>
      exact .quiet (raisedVersion.trans (sameVersion.trans version))
        (raisedLog.trans (sameLog.trans log))
        (raisedRoll.trans (roll.trans sameRoll))
    | bumped id bumpedVersion bumpedLog others =>
      refine .bumped id
        (raisedVersion.trans (by rw [bumpedVersion, version]))
        (raisedLog.trans (by rw [bumpedLog, version, log])) ?_
      intro other distinct
      rw [raisedRoll, others other distinct, sameRoll]

theorem expire_evolves (pool : Pool) (id : Nat) : pool.Evolves (pool.expire id) := by
  unfold expire
  cases pool.members[id]? with
  | none => exact .quiet rfl rfl rfl
  | some record =>
    refine bump_evolves id rfl rfl ?_
    intro other distinct
    unfold remove
    rw [ExtTreeMap.getElem?_erase]
    simp [Ne.symm distinct]

theorem forget_evolves (now : Nat) (alive : Bell → Bool) (pool : Pool) :
    pool.Evolves (pool.forget now alive) :=
  .quiet rfl rfl rfl

/-! ## Chains of steps -/

/-- The indivisible steps of a pool; cache and callers may change freely. -/
inductive Next (pool : Pool) : Pool → Prop where
  | receive (now ttl : Nat) (beat : Beat) (stateBytes : Nat) :
      pool.Next (pool.receive now ttl beat stateBytes).pool
  | expire (id : Nat) : pool.Next (pool.expire id)
  | forget (now : Nat) (alive : Bell → Bool) : pool.Next (pool.forget now alive)
  | recached {other : Pool} (alike : other.core = pool.core) : pool.Next other

/-- One state comes before the other in some run. -/
def Leads : Pool → Pool → Prop := Relation.ReflTransGen Next

theorem Next.evolves (step : pool.Next next) : pool.Evolves next := by
  cases step with
  | receive now ttl beat stateBytes =>
    exact receive_evolves pool now ttl beat stateBytes
  | expire id => exact expire_evolves pool id
  | forget now alive => exact forget_evolves now alive pool
  | recached alike =>
    exact Evolves.of_core (.quiet rfl rfl rfl) alike

theorem Leads.of_core (alike : other.core = pool.core) : pool.Leads other :=
  Relation.ReflTransGen.single (.recached alike)

theorem Leads.invariant
    (property : Pool → Prop)
    (preserved : ∀ {pool next : Pool}, pool.Next next → property pool → property next)
    (leads : pool.Leads later) (start : property pool) :
    property later := by
  induction leads with
  | refl => exact start
  | tail _ step hypothesis =>
    exact preserved step hypothesis

/-! ## What a state remembers of an earlier one -/

/-- The journal tells how `pool` differs from its earlier state `past`. -/
structure Remembers (pool past : Pool) : Prop where
  behind : past.version ≤ pool.version
  recalls : Recalls pool.log past.version (fun id => past.roll[id]?) (fun id => pool.roll[id]?)

theorem Remembers.refl (pool : Pool) : pool.Remembers pool := ⟨Nat.le_refl _, Recalls.refl _ _ _⟩

/-- The journal of `pool` has no gaps. -/
def Journaled (pool : Pool) : Prop := Contiguous logCap pool.version pool.log

/-- The log stays contiguous. -/
theorem Evolves.journaled
    (evolves : pool.Evolves next) (journaled : pool.Journaled) :
    next.Journaled := by
  unfold Journaled at journaled ⊢
  cases evolves with
  | quiet version log roll =>
    rw [version, log]
    exact journaled
  | bumped id version log others =>
    rw [version, log]
    exact journaled.push id

/-- What is remembered stays so. -/
theorem Evolves.remembers
    (evolves : pool.Evolves next)
    (journaled : pool.Journaled) (remembers : pool.Remembers past) :
    next.Remembers past := by
  rcases remembers with ⟨behind, recalls⟩
  cases evolves with
  | quiet version log roll =>
    refine ⟨by rw [version]; exact behind, ?_⟩
    rw [log, roll]
    exact recalls
  | bumped id version log others =>
    refine ⟨by rw [version]; exact Nat.le_succ_of_le behind, ?_⟩
    rw [log]
    exact recalls.push journaled (by decide) behind others

theorem Evolves.version_le (evolves : pool.Evolves next) : next.version ≤ pool.version + 1 := by
  cases evolves with
  | quiet version log roll => omega
  | bumped id version log others => omega

theorem Leads.journaled
    (leads : pool.Leads later) (journaled : pool.Journaled) :
    later.Journaled :=
  leads.invariant Journaled (fun step => step.evolves.journaled) journaled

theorem Leads.remembers
    (leads : pool.Leads later) (journaled : pool.Journaled) :
    later.Remembers pool := by
  have both : later.Journaled ∧ later.Remembers pool :=
    leads.invariant
      (fun state => state.Journaled ∧ state.Remembers pool)
      (fun step kept => ⟨step.evolves.journaled kept.1, step.evolves.remembers kept.1 kept.2⟩)
      ⟨journaled, Remembers.refl pool⟩
  exact both.2

theorem Remembers.roll_eq
    (remembers : pool.Remembers past)
    (journaled : pool.Journaled) (current : past.version = pool.version) :
    past.roll = pool.roll := by
  have recalls := remembers.recalls
  rw [current] at recalls
  apply ExtTreeMap.ext_getElem?
  intro id
  exact congrFun (recalls.eq_of_current journaled) id

theorem journaled_empty : Journaled {} := Contiguous.empty logCap

/-! ## The states of one step -/

theorem foldl_expire_leads (ids : List Nat) (pool : Pool) : pool.Leads (ids.foldl expire pool) := by
  induction ids generalizing pool with
  | nil => exact .refl
  | cons id rest hypothesis =>
    exact (hypothesis (pool.expire id)).head (.expire id)

/-- Departures come one after another. -/
theorem scanl_expire_leads
    (ids : List Nat) (pool : Pool) (visited : state ∈ ids.scanl expire pool) :
    pool.Leads state ∧ state.Leads (ids.foldl expire pool) := by
  induction ids generalizing pool with
  | nil =>
    rw [List.scanl_nil, List.mem_singleton] at visited
    subst visited
    exact ⟨.refl, .refl⟩
  | cons id rest hypothesis =>
    rw [List.scanl_cons, List.mem_cons] at visited
    rcases visited with rfl | visited
    · exact ⟨.refl, foldl_expire_leads (id :: rest) state⟩
    · rcases hypothesis (pool.expire id) visited with ⟨before, after⟩
      exact ⟨before.head (.expire id), after⟩

/-- No version is left out. -/
theorem scanl_expire_covers
    (ids : List Nat) (pool : Pool) {number : Nat} (least : pool.version ≤ number)
    (most : number ≤ (ids.foldl expire pool).version) :
    ∃ state ∈ ids.scanl expire pool, state.version = number := by
  induction ids generalizing pool with
  | nil =>
    exact ⟨pool, by simp, Nat.le_antisymm least most⟩
  | cons id rest hypothesis =>
    rw [List.scanl_cons]
    by_cases first : pool.version = number
    · exact ⟨pool, by simp, first⟩
    · have close := (expire_evolves pool id).version_le
      rcases hypothesis (pool.expire id) (by omega) most with ⟨state, visited, numbered⟩
      exact ⟨state, List.mem_cons_of_mem _ visited, numbered⟩

theorem scanl_expire_pairwise (ids : List Nat) (pool : Pool) :
    (ids.scanl expire pool).Pairwise Leads := by
  induction ids generalizing pool with
  | nil => simp
  | cons id rest hypothesis =>
    rw [List.scanl_cons, List.pairwise_cons]
    refine ⟨?_, hypothesis (pool.expire id)⟩
    intro state visited
    exact (scanl_expire_leads rest (pool.expire id) visited).1.head (.expire id)

theorem sweepStates_leads
    (order : IterationOrder) (now : Nat) (alive : Bell → Bool) (pool : Pool)
    (visited : state ∈ pool.sweepStates order now alive) :
    pool.Leads state ∧ state.Leads (pool.sweep order now alive) := by
  rcases scanl_expire_leads _ _ visited with ⟨before, after⟩
  exact ⟨before.head (.forget now alive), after⟩

theorem step_leads (ttl : Nat) (pool : Pool) (event : PoolEvent) :
    pool.Leads (pool.step ttl event) := by
  cases event with
  | beat now beat stateBytes =>
    exact .single (.receive now ttl beat stateBytes)
  | sweep now order alive =>
    exact (foldl_expire_leads _ _).head (.forget now alive)

end Pool

/-! ## The states of a run -/

namespace Registry

variable [FloatFormat]

/-- A step moves the pool on. -/
theorem step_leads (registry : Registry) (event : Event) (name : String) :
    (registry.pool name).Leads ((registry.step event).pool name) := by
  have stepped := step_core registry event name
  cases seen : event.at name with
  | none =>
    rw [seen] at stepped
    exact Pool.Leads.of_core stepped
  | some poolEvent =>
    rw [seen] at stepped
    exact
      (Pool.step_leads registry.ttl (registry.pool name)
        poolEvent).trans (Pool.Leads.of_core stepped)

theorem run_leads
    (registry : Registry) (events : List Event) (name : String) :
    (registry.pool name).Leads ((registry.run events).pool name) := by
  induction events generalizing registry with
  | nil => exact .refl
  | cons event rest hypothesis =>
    exact (step_leads registry event name).trans (hypothesis (registry.step event))

/--
The states a pool goes through in one step.  A sweep that drops several
members numbers each of them, under one lock.
-/
def visits (registry : Registry) (name : String) (event : Event) : List Pool :=
  match event with
  | .sweep now order alive =>
    (registry.pool name).sweepStates (order name) now alive ++ [(registry.step event).pool name]
  | _ => [(registry.step event).pool name]

/-- The states a pool goes through in a run, oldest first. -/
def history (registry : Registry) (name : String) : List Event → List Pool
  | [] => [registry.pool name]
  | event :: rest =>
    registry.pool name :: (registry.visits name event ++ (registry.step event).history name rest)

variable {state : Pool}

/-- So do the states in between. -/
theorem visits_leads
    (registry : Registry) (name : String) (event : Event)
    (visited : state ∈ registry.visits name event) :
    (registry.pool name).Leads state ∧ state.Leads ((registry.step event).pool name) := by
  have last :
      state = (registry.step event).pool name →
        (registry.pool name).Leads state ∧ state.Leads ((registry.step event).pool name) := by
    rintro rfl
    exact ⟨step_leads registry event name, .refl⟩
  cases event with
  | sweep now order alive =>
    rw [visits, List.mem_append, List.mem_singleton] at visited
    rcases visited with inside | final
    · rcases Pool.sweepStates_leads _ _ _ _ inside with ⟨before, after⟩
      exact ⟨before, after.trans (Pool.Leads.of_core (pool_sweep registry now order alive name))⟩
    · exact last final
  | beat now order sent | query order sent =>
    exact last (List.mem_singleton.mp visited)
  | park watch bell => exact last (List.mem_singleton.mp visited)

/-- So do all the states of a run. -/
theorem history_leads
    (registry : Registry) (name : String) (events : List Event)
    (visited : state ∈ registry.history name events) :
    (registry.pool name).Leads state ∧ state.Leads ((registry.run events).pool name) := by
  induction events generalizing registry with
  | nil =>
    rw [history, List.mem_singleton] at visited
    subst visited
    exact ⟨.refl, .refl⟩
  | cons event rest hypothesis =>
    have stepped := step_leads registry event name
    have arrives := run_leads (registry.step event) rest name
    rw [history, List.mem_cons, List.mem_append] at visited
    rcases visited with rfl | inside | later
    · exact ⟨.refl, stepped.trans arrives⟩
    · rcases visits_leads registry name event inside with ⟨before, after⟩
      exact ⟨before, after.trans arrives⟩
    · rcases hypothesis (registry.step event) later with ⟨before, after⟩
      exact ⟨stepped.trans before, after⟩

/-- They come in order. -/
theorem visits_pairwise
    (registry : Registry) (name : String) (event : Event) :
    (registry.visits name event).Pairwise Pool.Leads := by
  cases event with
  | sweep now order alive =>
    rw [visits, List.pairwise_append]
    refine ⟨Pool.scanl_expire_pairwise _ _, List.pairwise_singleton _ _, ?_⟩
    intro state inside final last
    rw [List.mem_singleton] at last
    subst last
    exact (visits_leads registry name _ (List.mem_append_left _ inside)).2
  | beat now order sent | query order sent | park watch bell =>
    exact List.pairwise_singleton _ _

/-- So do those of a run. -/
theorem history_pairwise
    (registry : Registry) (name : String) (events : List Event) :
    (registry.history name events).Pairwise Pool.Leads := by
  induction events generalizing registry with
  | nil => exact List.pairwise_singleton _ _
  | cons event rest hypothesis =>
    rw [history, List.pairwise_cons, List.pairwise_append]
    refine ⟨?_, visits_pairwise registry name event, hypothesis (registry.step event), ?_⟩
    · intro state visited
      exact (history_leads registry name (event :: rest) (List.mem_cons_of_mem _ visited)).1
    · intro state inside later visited
      exact
        (visits_leads registry name event inside).2.trans
          (history_leads (registry.step event) name rest visited).1

/-- Of two states, one comes first. -/
theorem history_comparable
    {registry : Registry} {name : String} {events : List Event}
    {left right : Pool} (leftVisited : left ∈ registry.history name events)
    (rightVisited : right ∈ registry.history name events) :
    left.Leads right ∨ right.Leads left := by
  by_cases same : left = right
  · subst same
    exact Or.inl .refl
  · have ordered := history_pairwise registry name events
    have order := List.pairwise_iff_getElem.mp ordered
    rcases List.getElem_of_mem leftVisited with ⟨first, firstLt, rfl⟩
    rcases List.getElem_of_mem rightVisited with ⟨second, secondLt, rfl⟩
    rcases Nat.lt_trichotomy first second with before | rfl | after
    · exact Or.inl (order first second firstLt secondLt before)
    · exact absurd rfl same
    · exact Or.inr (order second first secondLt firstLt after)

theorem mem_history_self
    (registry : Registry) (name : String) (events : List Event) :
    registry.pool name ∈ registry.history name events := by
  cases events <;> simp [history]

/-- The history of two runs. -/
theorem mem_history_append
    (registry : Registry) (name : String) (events later : List Event) :
    state ∈ registry.history name (events ++ later) ↔
      state ∈ registry.history name events ∨ state ∈ (registry.run events).history name later := by
  induction events generalizing registry with
  | nil =>
    have start := mem_history_self registry name later
    simp only [List.nil_append, history, List.mem_singleton]
    constructor
    · exact Or.inr
    · rintro (rfl | visited)
      · exact start
      · exact visited
  | cons event rest hypothesis =>
    simp only [List.cons_append, history, List.mem_cons,
      List.mem_append, hypothesis (registry.step event), or_assoc]
    rfl

theorem mem_history_run
    (registry : Registry) (name : String) (events later : List Event) :
    (registry.run events).pool name ∈ registry.history name (events ++ later) :=
  (mem_history_append registry name events later).mpr (Or.inr (mem_history_self _ name later))

/-! ## Every number is the version of a visited state -/

/-- But for sweeps, a step is one move. -/
theorem step_evolves
    (registry : Registry) (event : Event) (name : String)
    (unswept : ∀ now order alive, event ≠ .sweep now order alive) :
    (registry.pool name).Evolves ((registry.step event).pool name) := by
  have stepped := step_core registry event name
  have still :
      ((registry.step event).pool name).core = (registry.pool name).core →
        (registry.pool name).Evolves ((registry.step event).pool name) :=
    Pool.Evolves.of_core (.quiet rfl rfl rfl)
  cases event with
  | sweep now order alive => exact absurd rfl (unswept now order alive)
  | query order sent => exact still stepped
  | park watch bell => exact still stepped
  | beat now order sent =>
    cases seen : (Event.beat now order sent).at name with
    | none =>
      rw [seen] at stepped
      exact still stepped
    | some poolEvent =>
      rw [seen] at stepped
      cases poolEvent with
      | beat now beat stateBytes =>
        exact (Pool.receive_evolves _ _ _ _ _).of_core stepped
      | sweep now order alive =>
        simp [Event.at] at seen

variable {number : Nat}

/-- A step leaves no version out. -/
theorem visits_covers
    (registry : Registry) (name : String) (event : Event)
    (least : (registry.pool name).version ≤ number)
    (most : number ≤ ((registry.step event).pool name).version) :
    (registry.pool name).version = number ∨
      ∃ state ∈ registry.visits name event, state.version = number := by
  -- a step that is no sweep moves the version by one at most
  have single :
      (registry.pool name).Evolves ((registry.step event).pool name) →
        (registry.pool name).version = number ∨
          ∃ state ∈ registry.visits name event, state.version = number := by
    intro evolves
    have close := evolves.version_le
    by_cases first : (registry.pool name).version = number
    · exact Or.inl first
    · refine Or.inr ⟨(registry.step event).pool name, ?_, by omega⟩
      cases event <;> simp [visits]
  cases event with
  | sweep now order alive =>
    have swept := congrArg Pool.version (pool_sweep registry now order alive name)
    rcases Pool.scanl_expire_covers
        ((registry.pool name).dead (order name) now)
        ((registry.pool name).forget now alive) least
        (most.trans_eq swept) with ⟨state, inside, numbered⟩
    exact Or.inr ⟨state, List.mem_append_left _ inside, numbered⟩
  | beat now order sent | query order sent | park watch bell =>
    exact single (step_evolves registry _ name (by simp))

/-- A run leaves no version out. -/
theorem history_covers
    (registry : Registry) (name : String) (events : List Event)
    (least : (registry.pool name).version ≤ number)
    (most : number ≤ ((registry.run events).pool name).version) :
    ∃ state ∈ registry.history name events, state.version = number := by
  induction events generalizing registry with
  | nil =>
    exact ⟨_, List.mem_singleton_self _, Nat.le_antisymm least most⟩
  | cons event rest hypothesis =>
    rw [history]
    by_cases early : number ≤ ((registry.step event).pool name).version
    · rcases visits_covers registry name event least early with first | ⟨state, visited, numbered⟩
      · exact ⟨_, List.mem_cons_self, first⟩
      · exact ⟨state, by simp [visited], numbered⟩
    · rcases hypothesis (registry.step event)
        (Nat.le_of_not_le early) most with ⟨state, visited, numbered⟩
      exact ⟨state, by simp [visited], numbered⟩

end Registry

/-! ## Versions grow no faster than beats come in -/

namespace Pool

/-- Changes made, and changes that dropping all members would make. -/
def effort (pool : Pool) : Nat := pool.version + pool.members.size

theorem effort_of_core {pool other : Pool} (alike : other.core = pool.core) :
    other.effort = pool.effort := by
  have version := congrArg Pool.version alike
  have members := congrArg Pool.members alike
  simp only [core_version, core_members] at version members
  rw [effort, version, members, effort]

/-- A beat costs two at most. -/
theorem receive_effort
    (pool : Pool) (now ttl : Nat) (beat : Beat) (stateBytes : Nat) :
    (pool.receive now ttl beat stateBytes).pool.effort ≤ pool.effort + 2 := by
  rcases receive_cases pool now ttl beat stateBytes with
    ⟨why, _, exit⟩ | ⟨shaped, ok, _, exit⟩ | ⟨shaped, ok, _, exit⟩
  · rw [exit]
    exact Nat.le_add_right _ _
  · rcases shape_ok_fields ok with ⟨version, _, members, _⟩
    rw [exit]
    simp only [effort, version, members]
    exact Nat.le_add_right _ _
  · rcases shape_ok_fields ok with ⟨version, _, members, _⟩
    have seats : (shaped.settled now ttl beat stateBytes).members.size ≤ pool.members.size + 1 := by
      rw [← members]
      unfold settled
      split
      · exact ExtTreeMap.size_erase_le.trans (Nat.le_succ _)
      · exact ExtTreeMap.size_insert_le
    have raised :
        ∀ admitted : Pool, ∀ mark, (admitted.raise mark beat).effort = admitted.effort := by
      intro admitted mark
      unfold raise
      split <;> rfl
    have numbered : (shaped.settled now ttl beat stateBytes).version = pool.version := version
    rw [exit, raised, enroll_eq]
    unfold effort
    split
    · rw [bump_version, bump_members, numbered]
      omega
    · rw [numbered]
      omega

/-- A departure costs nothing. -/
theorem expire_effort (pool : Pool) (id : Nat) : (pool.expire id).effort ≤ pool.effort := by
  unfold expire
  cases present : pool.members[id]? with
  | none => exact Nat.le_refl _
  | some record =>
    have seated : pool.members.contains id = true := by
      rw [← ExtTreeMap.isSome_getElem?_eq_contains, present]
      rfl
    have vacated : (pool.members.erase id).size = pool.members.size - 1 := by
      rw [ExtTreeMap.size_erase, if_pos seated]
    have occupied : pool.members.size ≠ 0 := by
      intro empty
      rw [← ExtTreeMap.eq_empty_iff_size_eq_zero] at empty
      simp [empty] at seated
    simp only [effort, bump_version, bump_members, remove, vacated]
    omega

theorem sweep_effort
    (order : IterationOrder) (now : Nat) (alive : Bell → Bool) (pool : Pool) :
    (pool.sweep order now alive).effort ≤ pool.effort := by
  unfold sweep
  refine List.foldlRecOn (pool.dead order now) expire
    (motive := fun state => state.effort ≤ pool.effort) ?_ ?_
  · exact Nat.le_refl _
  · intro state bounded id _
    exact (expire_effort state id).trans bounded

end Pool

namespace Registry

variable [FloatFormat]

/-- What a step costs. -/
theorem step_effort (registry : Registry) (event : Event) (name : String) :
    ((registry.step event).pool name).effort ≤
      (registry.pool name).effort + if event.isBeat then 2 else 0 := by
  have stepped := step_core registry event name
  cases seen : event.at name with
  | none =>
    rw [seen] at stepped
    rw [Pool.effort_of_core stepped]
    exact Nat.le_add_right _ _
  | some poolEvent =>
    rw [seen] at stepped
    rw [Pool.effort_of_core stepped]
    cases event with
    | beat now order sent =>
      cases poolEvent with
      | beat now beat stateBytes =>
        exact Pool.receive_effort _ _ _ _ _
      | sweep now order alive => simp [Event.at] at seen
    | sweep now order alive =>
      cases seen
      exact Pool.sweep_effort _ _ _ _
    | query order sent => cases seen
    | park watch bell => cases seen

/-- What a run costs. -/
theorem run_effort
    (registry : Registry) (events : List Event) (name : String) :
    ((registry.run events).pool name).effort ≤
      (registry.pool name).effort + 2 * events.countP Event.isBeat := by
  induction events generalizing registry with
  | nil => exact Nat.le_refl _
  | cons event rest hypothesis =>
    have later := hypothesis (registry.step event)
    have first := step_effort registry event name
    rw [List.countP_cons]
    change ((Registry.run _ rest).pool name).effort ≤ _
    split_ifs at first ⊢ <;> omega

end Registry

end Tinyray
