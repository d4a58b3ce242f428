import Tinyray.Transport.PoolEffects

/-!
# Who is connecting

The flag `connecting` of a pool is set by the call that goes on to `connect`
and cleared by `finish_connect`.  In every run at most one call per pool is
between the two, which keeps a pool at its limit of connections.  As long as
no future is dropped inside `connect`, a set flag belongs to a live call, and
whoever waits has a live call to wait for.  A future dropped there leaves a
flag that nobody clears.
-/

namespace Tinyray.Transport

open Std Tinyray.Foundation

namespace ClientInner

variable {client next : ClientInner}

/-! ## How flags and attempts change -/

variable {action : ClientAction} {number : Nat}

/-- Every pool has the number of a call. -/
def Made (client : ClientInner) : Prop :=
  ∀ (number : Nat) (pool : ConnectionPool),
    client.allocated[number]? = some pool → ∃ maker, client.calls[number]? = some maker

variable {call : Nat} {stage : Stage} {current : PoolCall}

theorem Made.fresh
    (made : Made client) (fresh : client.calls[call]? = none) :
    client.allocated[call]? = none := by
  cases present : client.allocated[call]? with
  | none => rfl
  | some pool =>
    rcases made call pool present with ⟨maker, found⟩
    rw [fresh] at found
    cases found

theorem attempting_of_connecting (idle : stage.connecting = false) : stage.attempting = false := by
  cases stage <;> first | rfl | cases idle

theorem connecting_of_attempting (attempting : stage.attempting = true) :
    stage.connecting = true := by
  cases stage <;> first | rfl | cases attempting

theorem connecting_of_finished (finished : stage.finished = true) : stage.connecting = true := by
  cases stage <;> first | rfl | cases finished

theorem not_finished_of_attempting (attempting : stage.attempting = true) :
    stage.finished = false := by
  cases stage <;> first | rfl | cases attempting

/-- Finding a pool sets no flag. -/
theorem Finds.flagged_iff
    {allocated : ExtTreeMap Nat ConnectionPool} (finds : Finds client call allocated)
    (fresh : client.allocated[call]? = none) :
    Flagged allocated number ↔ Flagged client.allocated number := by
  unfold Flagged
  cases finds with
  | used =>
    rw [ExtTreeMap.getElem?_modify]
    split_ifs with same
    · rw [Std.compare_eq_iff_eq] at same
      subst same
      simp [Option.map_eq_some_iff]
    · rfl
  | made =>
    rw [ExtTreeMap.getElem?_insert]
    split_ifs with same
    · rw [Std.compare_eq_iff_eq] at same
      subst same
      simp [fresh]
    · rfl

theorem Effect.at_call (effect : Effect client next action) (call : Nat) :
    Unmoved client next call ∨ Acts client next call action := by
  cases effect with
  | rest unmoved _ => exact Or.inl (unmoved call)
  | act actor unmoved acts =>
    by_cases here : call = actor
    · exact Or.inr (here ▸ acts)
    · exact Or.inl (unmoved call here)

/-- Where an attempt comes from. -/
theorem Effect.attempting_cases
    (effect : Effect client next action) (present : next.calls[call]? = some current)
    (attempting : current.stage.attempting = true) :
    (∃ before,
        client.calls[call]? = some before ∧ current.pool = before.pool ∧
          before.stage.attempting = true) ∨
      (¬ Flagged client.allocated current.pool ∧ Flagged next.allocated current.pool ∧
        ∃ order, action = .look call order) := by
  rcases effect.at_call call with unmoved | acts
  · rcases unmoved.before present with ⟨before, found, kept⟩
    exact Or.inl ⟨before, found, kept.pool, kept.attempting ▸ attempting⟩
  · cases acts with
    | start fresh moved idle _ finds =>
      rw [moved] at present
      cases present
      rw [attempting_of_connecting idle] at attempting
      cases attempting
    | pass found moved passes _ =>
      rw [moved] at present
      cases present
      rw [passes.attempting] at attempting
      exact Or.inl ⟨_, found, rfl, attempting⟩
    | look found moved looking pooled fewer decides allocated =>
      rw [moved] at present
      cases present
      cases decides with
      | create clear room =>
        refine Or.inr ⟨?_, ?_, _, rfl⟩
        · rintro ⟨pool, present, flag⟩
          rw [pooled] at present
          cases present
          rw [clear] at flag
          cases flag
        · rw [allocated]
          exact ⟨_, ExtTreeMap.getElem?_insert_self, rfl⟩
      | wait flag => cases attempting
      | settle idle _ =>
        rw [attempting_of_connecting idle] at attempting
        cases attempting
    | notify found moved idle _ _ _ _ =>
      rw [moved] at present
      cases present
      rw [idle] at attempting
      cases attempting
    | finish found moved _ _ | drop found moved _ _ =>
      rw [moved] at present
      cases present
      cases attempting

/-- Where a flag comes from. -/
theorem Effect.flagged_cases
    (effect : Effect client next action) (made : Made client)
    (flagged : Flagged next.allocated number) :
    Flagged client.allocated number ∨ Has next.calls number Stage.attempting := by
  cases effect with
  | rest _ allocated => exact Or.inl (allocated ▸ flagged)
  | act actor _ acts =>
    cases acts with
    | start fresh _ _ _ finds =>
      exact Or.inl ((finds.flagged_iff (made.fresh fresh)).mp flagged)
    | look found moved looking pooled fewer decides allocated =>
      rw [allocated] at flagged
      rcases flagged with ⟨pool, present, flag⟩
      rcases getElem?_insert_cases present with ⟨rfl, rfl⟩ | ⟨_, present⟩
      · cases decides with
        | create clear room => exact Or.inr ⟨_, _, moved, rfl, rfl⟩
        | wait connecting => exact Or.inl ⟨_, pooled, connecting⟩
        | settle _ _ => exact Or.inl ⟨_, pooled, flag⟩
      · exact Or.inl ⟨pool, present, flag⟩
    | finish found moved attempting allocated =>
      rw [allocated] at flagged
      rcases flagged with ⟨pool, present, flag⟩
      rcases getElem?_modify_cases present with ⟨_, _, _, rfl⟩ | ⟨_, present⟩
      · cases flag
      · exact Or.inl ⟨pool, present, flag⟩
    | pass _ _ _ allocated | notify _ _ _ _ _ allocated _
    | drop _ _ _ allocated => exact Or.inl (allocated ▸ flagged)

/-- What becomes of a flag. -/
theorem Effect.flagged_stays
    (effect : Effect client next action) (made : Made client)
    (flagged : Flagged client.allocated number) :
    Flagged next.allocated number ∨
      ∃ (call : Nat) (current later : PoolCall),
        client.calls[call]? = some current ∧ next.calls[call]? = some later ∧
          current.pool = number ∧ later.pool = number ∧ current.stage.attempting = true ∧
          later.stage.finished = true := by
  cases effect with
  | rest _ allocated => exact Or.inl (allocated ▸ flagged)
  | act actor _ acts =>
    cases acts with
    | start fresh _ _ _ finds =>
      exact Or.inl ((finds.flagged_iff (made.fresh fresh)).mpr flagged)
    | @look _ _ current _ _ _ _ found _ _ pooled _ decides allocated =>
      left
      rw [allocated]
      by_cases here : current.pool = number
      · subst here
        rcases flagged with ⟨pool, present, flag⟩
        rw [pooled] at present
        cases present
        refine ⟨_, ExtTreeMap.getElem?_insert_self, ?_⟩
        cases decides with
        | create _ _ => rfl
        | wait _ => rfl
        | settle _ _ => exact flag
      · rcases flagged with ⟨pool, present, flag⟩
        exact ⟨pool, (getElem?_insert_ne here).trans present, flag⟩
    | @finish _ current _ _ found moved attempting allocated =>
      by_cases here : current.pool = number
      · exact Or.inr ⟨actor, current, _, found, moved, here, here, attempting, rfl⟩
      · left
        rcases flagged with ⟨pool, present, flag⟩
        refine ⟨pool, ?_, flag⟩
        rw [allocated, ExtTreeMap.getElem?_modify,
          if_neg fun same => here (Std.compare_eq_iff_eq.mp same)]
        exact present
    | pass _ _ _ allocated | notify _ _ _ _ _ allocated _
    | drop _ _ _ allocated => exact Or.inl (allocated ▸ flagged)

/-- What becomes of an attempt. -/
theorem Effect.attempting_stays
    (effect : Effect client next action) (present : client.calls[call]? = some current)
    (attempting : current.stage.attempting = true) :
    Has next.calls current.pool Stage.attempting ∨
      ¬ Flagged next.allocated current.pool ∨ action = .drop call := by
  rcases effect.at_call call with unmoved | acts
  · rcases unmoved.after present with ⟨later, found, kept⟩
    exact Or.inl ⟨call, later, found, kept.pool, kept.attempting.trans attempting⟩
  · cases acts with
    | start fresh _ _ _ _ =>
      rw [fresh] at present
      cases present
    | pass found moved passes _ =>
      rw [found] at present
      cases present
      exact Or.inl ⟨call, _, moved, rfl, passes.attempting.trans attempting⟩
    | look found _ looking _ _ _ _ =>
      rw [found] at present
      cases present
      rw [looking] at attempting
      cases attempting
    | finish found moved _ allocated =>
      rw [found] at present
      cases present
      refine Or.inr (Or.inl ?_)
      rintro ⟨pool, present, flag⟩
      rw [allocated] at present
      rcases getElem?_modify_cases present with ⟨_, _, _, rfl⟩ | ⟨different, _⟩
      · cases flag
      · exact different rfl
    | notify found moved _ _ finished _ _ =>
      rw [found] at present
      cases present
      rw [not_finished_of_attempting attempting] at finished
      cases finished
    | drop found moved _ _ => exact Or.inr (Or.inr rfl)

/-- Who has finished will notify. -/
theorem Effect.finished_stays
    (effect : Effect client next action) (finishing : Has client.calls number Stage.finished) :
    Has next.calls number Stage.finished ∨ ¬ Has next.calls number Stage.unnotified := by
  rcases finishing with ⟨call, current, present, rfl, finished⟩
  rcases effect.at_call call with unmoved | acts
  · rcases unmoved.after present with ⟨later, found, kept⟩
    exact Or.inl ⟨call, later, found, kept.pool, kept.finished.trans finished⟩
  · cases acts with
    | start fresh _ _ _ _ =>
      rw [fresh] at present
      cases present
    | pass found _ passes _ =>
      rw [found] at present
      cases present
      rw [passes.finished] at finished
      cases finished
    | look found _ looking _ _ _ _ =>
      rw [found] at present
      cases present
      rw [looking] at finished
      cases finished
    | finish found _ attempting _ =>
      rw [found] at present
      cases present
      rw [not_finished_of_attempting attempting] at finished
      cases finished
    | notify found _ _ _ _ _ silent =>
      rw [found] at present
      cases present
      exact Or.inr silent
    | drop found _ unfinished _ =>
      rw [found] at present
      cases present
      rw [unfinished] at finished
      cases finished

/-- Who waits finds the flag set. -/
theorem Effect.unnotified_cases
    (effect : Effect client next action) (waiting : Has next.calls number Stage.unnotified) :
    Has client.calls number Stage.unnotified ∨ Flagged next.allocated number := by
  rcases waiting with ⟨call, current, present, rfl, unnotified⟩
  rcases effect.at_call call with unmoved | acts
  · rcases unmoved.before present with ⟨before, found, kept⟩
    exact Or.inl ⟨call, before, found, kept.pool.symm, kept.unnotified unnotified⟩
  · cases acts with
    | start _ moved _ silent _ | notify _ moved _ silent _ _ _ =>
      rw [moved] at present
      cases present
      rw [silent] at unnotified
      cases unnotified
    | pass _ moved passes _ =>
      rw [moved] at present
      cases present
      rw [passes.unnotified] at unnotified
      cases unnotified
    | look _ moved _ pooled _ decides allocated =>
      rw [moved] at present
      cases present
      cases decides with
      | create _ _ => cases unnotified
      | wait connecting =>
        right
        rw [allocated]
        exact ⟨_, ExtTreeMap.getElem?_insert_self, rfl⟩
      | settle _ silent =>
        rw [silent] at unnotified
        cases unnotified
    | finish _ moved _ _ | drop _ moved _ _ =>
      rw [moved] at present
      cases present
      cases unnotified

/-! ## One attempt at a time -/

theorem Effect.calls_stay
    (effect : Effect client next action) (present : client.calls[call]? = some current) :
    ∃ later, next.calls[call]? = some later := by
  rcases effect.at_call call with unmoved | acts
  · rcases unmoved.after present with ⟨later, found, _⟩
    exact ⟨later, found⟩
  · cases acts with
    | start _ moved _ _ _ | pass _ moved _ _ | look _ moved _ _ _ _ _
    | finish _ moved _ _ | notify _ moved _ _ _ _ _
    | drop _ moved _ _ => exact ⟨_, moved⟩

/-- How the entry of a pool may change. -/
inductive Alters (client next : ClientInner) (number : Nat)
    (after : ConnectionPool) : Prop where
  | kept {before : ConnectionPool} :
      client.allocated[number]? = some before → after.connecting = before.connecting →
        after.connections.length ≤ before.connections.length → Alters client next number after
  | made {maker : PoolCall} :
      next.calls[number]? = some maker → after.connecting = false → after.connections = [] →
        Alters client next number after
  | raised {before : ConnectionPool} :
      client.allocated[number]? = some before →
        after.connections.length < maxConnectionsPerEndpoint → Alters client next number after
  | cleared {before : ConnectionPool} {call : Nat} {current : PoolCall} :
      client.allocated[number]? = some before →
        client.calls[call]? = some current → current.pool = number →
        current.stage.attempting = true → after.connecting = false →
        after.connections.length ≤ before.connections.length + 1 → Alters client next number after

/-- How a pool changes. -/
theorem Effect.alters
    (effect : Effect client next action) {pool : ConnectionPool}
    (present : next.allocated[number]? = some pool) :
    Alters client next number pool := by
  cases effect with
  | rest _ allocated =>
    rw [allocated] at present
    exact .kept present rfl (Nat.le_refl _)
  | act actor _ acts =>
    cases acts with
    | start fresh moved _ _ finds =>
      generalize next.allocated = allocated at present finds
      cases finds with
      | used =>
        rcases getElem?_modify_cases present with ⟨_, before, found, rfl⟩ | ⟨_, found⟩
        · exact .kept found rfl (Nat.le_refl _)
        · exact .kept found rfl (Nat.le_refl _)
      | made =>
        rcases getElem?_insert_cases present with ⟨rfl, rfl⟩ | ⟨_, found⟩
        · exact .made moved rfl rfl
        · exact .kept found rfl (Nat.le_refl _)
    | look found moved _ pooled fewer decides allocated =>
      rw [allocated] at present
      rcases getElem?_insert_cases present with ⟨rfl, rfl⟩ | ⟨_, before⟩
      · cases decides with
        | create _ room => exact .raised pooled room
        | wait connecting => exact .kept pooled connecting.symm fewer
        | settle _ _ => exact .kept pooled rfl fewer
      · exact .kept before rfl (Nat.le_refl _)
    | @finish _ _ _ result found moved attempting allocated =>
      rw [allocated] at present
      rcases getElem?_modify_cases present with ⟨here, before, pooled, rfl⟩ | ⟨_, before⟩
      · refine .cleared pooled found here attempting rfl ?_
        cases result <;> simp [Except.toOption]
      · exact .kept before rfl (Nat.le_refl _)
    | pass _ _ _ allocated | notify _ _ _ _ _ allocated _
    | drop _ _ _ allocated =>
      rw [allocated] at present
      exact .kept present rfl (Nat.le_refl _)

theorem Effect.made
    (effect : Effect client next action) (made : Made client) :
    Made next := by
  intro number pool present
  cases effect.alters present with
  | kept before _ _ | raised before _ | cleared before _ _ _ _ _ =>
    rcases made number _ before with ⟨maker, found⟩
    exact effect.calls_stay found
  | made moved _ _ => exact ⟨_, moved⟩

/-- The flag admits one attempt, and an attempt has room to succeed. -/
structure Exclusive (client : ClientInner) : Prop where
  made : Made client
  room :
    ∀ (number : Nat) (pool : ConnectionPool),
      client.allocated[number]? = some pool →
        pool.connections.length + pool.connecting.toNat ≤ maxConnectionsPerEndpoint
  flagged :
    ∀ (call : Nat) (current : PoolCall),
      client.calls[call]? = some current →
        current.stage.attempting = true → Flagged client.allocated current.pool
  alone :
    ∀ (call other : Nat) (current rival : PoolCall),
      client.calls[call]? = some current →
        client.calls[other]? = some rival →
          current.stage.attempting = true →
            rival.stage.attempting = true → current.pool = rival.pool → call = other

/-- A pool has room for its attempt. -/
theorem Effect.room
    (effect : Effect client next action) (exclusive : Exclusive client) {pool : ConnectionPool}
    (present : next.allocated[number]? = some pool) :
    pool.connections.length + pool.connecting.toNat ≤ maxConnectionsPerEndpoint := by
  cases effect.alters present with
  | kept before connecting fewer =>
    have room := exclusive.room number _ before
    rw [connecting]
    omega
  | made _ clear empty =>
    rw [clear, empty]
    decide
  | raised _ room =>
    have flag := pool.connecting.toNat_le
    omega
  | @cleared before call current found present here attempting clear one =>
    have room := exclusive.room number before found
    rcases exclusive.flagged call current present attempting with ⟨flagged, pooled, flag⟩
    rw [here, found] at pooled
    cases pooled
    rw [flag] at room
    rw [clear]
    exact Nat.le_trans one room

/-- One step keeps attempts exclusive. -/
theorem Effect.exclusive
    (effect : Effect client next action) (exclusive : Exclusive client) :
    Exclusive next where
  made := effect.made exclusive.made
  room := fun _ _ present => effect.room exclusive present
  flagged := by
    intro call current present attempting
    rcases effect.attempting_cases present attempting with
      ⟨before, found, pool, attempted⟩ | ⟨_, flagged, _⟩
    · have flag := exclusive.flagged call before found attempted
      rw [← pool] at flag
      rcases effect.flagged_stays exclusive.made flag with
        stays | ⟨other, rival, later, here, moved, same, _, begun, ended⟩
      · exact stays
      · -- the attempt that ended is the only one on this pool
        have equal :=
          exclusive.alone call other before rival found here attempted begun (pool ▸ same.symm)
        subst equal
        rw [moved] at present
        cases present
        rw [not_finished_of_attempting attempting] at ended
        cases ended
    · exact flagged
  alone := by
    intro call other current rival present here attempting begun same
    rcases effect.attempting_cases present attempting with
      ⟨before, found, pool, attempted⟩ | ⟨clear, _, order, acts⟩
    · rcases effect.attempting_cases here begun with
        ⟨earlier, known, place, attempted'⟩ | ⟨clear, _, _⟩
      · apply exclusive.alone call other before earlier found known attempted attempted'
        rw [← pool, ← place, same]
      · apply absurd _ clear
        rw [← same, pool]
        exact exclusive.flagged call before found attempted
    · rcases effect.attempting_cases here begun with
        ⟨earlier, known, place, attempted⟩ | ⟨_, _, order', acts'⟩
      · apply absurd _ clear
        rw [same, place]
        exact exclusive.flagged other earlier known attempted
      · rw [acts] at acts'
        cases acts'
        rfl

/-- No attempt is made at the start. -/
theorem exclusive_new : Exclusive {} where
  made := by
    intro number pool present
    cases present
  room := by
    intro number pool present
    cases present
  flagged := by
    intro call current present
    cases present
  alone := by
    intro call other current rival present
    cases present

theorem run_exclusive
    {actions : List ClientAction} {final : ClientInner}
    (ran : execute ClientInner.step {} actions = some final) :
    Exclusive final :=
  execute_preserves (fun stepped => (step_effect stepped).exclusive) ran exclusive_new

/--
In every run, dropped futures or not, a pool stays within its limit of
connections, and at most one of its calls is connecting and has yet to clear
the flag.
-/
theorem one_attempt_per_pool
    (actions : List ClientAction) (final : ClientInner)
    (ran : execute ClientInner.step {} actions = some final) :
    (∀ (number : Nat) (pool : ConnectionPool),
      final.allocated[number]? = some pool → pool.connections.length ≤ maxConnectionsPerEndpoint) ∧
      ∀ (call other : Nat) (current rival : PoolCall),
        final.calls[call]? = some current →
          final.calls[other]? = some rival →
            current.stage.attempting = true →
              rival.stage.attempting = true → current.pool = rival.pool → call = other := by
  have exclusive := run_exclusive ran
  constructor
  · intro number pool present
    exact Nat.le_of_add_right_le (exclusive.room number pool present)
  · exact exclusive.alone

/-- With one connection made, a second call connects and a third waits. -/
theorem one_attempt_per_pool_dialing :
    ∃ final : ClientInner,
      execute ClientInner.step {}
          [.start 0 "h:1" "a" true, .look 0 [], .enter 0,
            .resolve 0 (.found ["1.2.3.4:1"]), .choose 0 none,
            .dial 0 .connected, .notify 0, .claim 0, .act 0 (.register 0),
            -- the connection has a call of this id now
            .start 1 "h:1" "a" true, .look 1 [0], .enter 1,
            .start 2 "h:1" "a" true, .look 2 [0]] = some final ∧
        ((final.allocated[0]?.map (·.connections)) = some [0] ∧
          (final.calls[1]?.map (·.stage)) = some .resolving ∧
          (final.calls[2]?.map (·.stage)) = some (.waiting false)) ∧
        (∀ (number : Nat) (pool : ConnectionPool),
          final.allocated[number]? = some pool →
            pool.connections.length ≤ maxConnectionsPerEndpoint) ∧
        ∀ (other : Nat) (rival : PoolCall),
          final.calls[other]? = some rival → rival.stage.attempting = true →
            rival.pool = 0 → other = 1 := by
  refine ⟨Option.get _ ?_, (Option.some_get _).symm, ?_, ?_, ?_⟩
  · decide
  · decide
  · exact (one_attempt_per_pool _ _ (Option.some_get _).symm).1
  · intro other rival present attempting here
    exact
      (one_attempt_per_pool _ _ (Option.some_get _).symm).2 other 1 rival
        { pool := 0, requestId := "a", stage := .resolving } present
        (by decide) attempting rfl here

/-! ## Dropped futures -/

/-- No future is dropped while it executes `connect`. -/
def attended (client : ClientInner) : ClientAction → Bool
  | .drop call =>
    match client.calls[call]? with
    | some current => !current.stage.connecting
    | none => true
  | _ => true

/-- Flags and waiting calls have a live call to rely on. -/
structure Tended (client : ClientInner) : Prop where
  exclusive : Exclusive client
  attempted : ∀ number, Flagged client.allocated number → Has client.calls number Stage.attempting
  awaited :
    ∀ number,
      Has client.calls number Stage.unnotified →
        Flagged client.allocated number ∨ Has client.calls number Stage.finished

/-- One step keeps flags tended. -/
theorem step_tended
    (stepped : client.step action = some next)
    (guarded : attended client action = true) (tended : Tended client) :
    Tended next where
  exclusive := (step_effect stepped).exclusive tended.exclusive
  attempted := by
    intro number flagged
    have effect := step_effect stepped
    rcases effect.flagged_cases tended.exclusive.made flagged with before | begun
    · rcases tended.attempted number before with ⟨call, current, present, rfl, attempting⟩
      rcases effect.attempting_stays present attempting with stays | clear | rfl
      · exact stays
      · exact absurd flagged clear
      · simp only [attended, present, Bool.not_eq_true'] at guarded
        rw [attempting_of_connecting guarded] at attempting
        cases attempting
    · exact begun
  awaited := by
    intro number waiting
    have effect := step_effect stepped
    rcases effect.unnotified_cases waiting with before | flagged
    · rcases tended.awaited number before with flagged | finishing
      · rcases effect.flagged_stays tended.exclusive.made flagged with
          stays | ⟨call, _, later, _, moved, _, here, _, finished⟩
        · exact Or.inl stays
        · exact Or.inr ⟨call, later, moved, here, finished⟩
      · rcases effect.finished_stays finishing with stays | silent
        · exact Or.inr stays
        · exact absurd waiting silent
    · exact Or.inl flagged

theorem tended_new : Tended {} where
  exclusive := exclusive_new
  attempted := by
    rintro number ⟨pool, present, _⟩
    cases present
  awaited := by
    rintro number ⟨call, current, present, _⟩
    cases present

/--
In every run that drops no future inside `connect`, the flag of a pool is set
only while a live call on that pool executes `connect`, and a call waits,
unnotified, only for such a call.
-/
theorem flag_has_live_call
    (actions : List ClientAction) (final : ClientInner)
    (ran : execute ClientInner.step {} actions = some final)
    (guarded : obeys ClientInner.step attended {} actions = true) :
    (∀ (number : Nat) (pool : ConnectionPool),
      final.allocated[number]? = some pool → pool.connecting = true →
        ∃ (call : Nat) (current : PoolCall),
          final.calls[call]? = some current ∧ current.pool = number ∧
            current.stage.connecting = true) ∧
      ∀ (waiting : Nat) (waiter : PoolCall),
        final.calls[waiting]? = some waiter →
          waiter.stage = .waiting false →
            ∃ (call : Nat) (current : PoolCall),
              final.calls[call]? = some current ∧ current.pool = waiter.pool ∧
                current.stage.connecting = true := by
  have tended : Tended final := execute_invariant step_tended ran guarded tended_new
  have flags :
      ∀ number, Flagged final.allocated number → Has final.calls number Stage.connecting := by
    intro number flagged
    rcases tended.attempted number flagged with ⟨call, current, present, here, attempting⟩
    exact ⟨call, current, present, here, connecting_of_attempting attempting⟩
  constructor
  · intro number pool present flag
    exact flags number ⟨pool, present, flag⟩
  · intro waiting waiter present stage
    have unnotified : waiter.stage.unnotified = true := by
      rw [stage]
      rfl
    rcases
      tended.awaited waiter.pool ⟨waiting, waiter, present, rfl, unnotified⟩ with
      flagged | ⟨call, current, found, here, finished⟩
    · exact flags waiter.pool flagged
    · exact ⟨call, current, found, here, connecting_of_finished finished⟩

/-- One call dials while another waits for it. -/
theorem flag_has_live_call_dialing :
    ∃ final : ClientInner,
      execute ClientInner.step {}
          [.start 0 "h:1" "a" true, .look 0 [], .enter 0,
            .resolve 0 (.found ["1.2.3.4:1"]), .choose 0 none,
            .start 1 "h:1" "b" true, .look 1 []] = some final ∧
        final.calls[1]?.map PoolCall.stage = some (.waiting false) ∧
        ∃ (call : Nat) (current : PoolCall),
          final.calls[call]? = some current ∧ current.pool = 0 ∧
            current.stage.connecting = true := by
  refine ⟨Option.get _ ?_, (Option.some_get _).symm, ?_, ?_⟩
  · decide
  · decide
  · exact
      (flag_has_live_call _ _ (Option.some_get _).symm (by decide)).2 1
        { pool := 0, requestId := "b", stage := .waiting false }
        (by decide) rfl

/--
The future of call `0` is dropped while `connect` resolves the endpoint.
Nobody executes `connect` any more, the flag is still set, and call `1` waits.
-/
theorem dropped_connect_leaves_flag :
    ∃ final : ClientInner,
      execute ClientInner.step {}
          [.start 0 "h:1" "a" true, .look 0 [], .enter 0, .drop 0,
            .start 1 "h:1" "b" true, .look 1 []] = some final ∧
        final.allocated[0]?.map ConnectionPool.connecting = some true ∧
        final.calls[1]?.map PoolCall.stage = some (.waiting false) ∧
        ∀ (call : Nat) (current : PoolCall),
          final.calls[call]? = some current → current.stage.connecting = false := by
  refine ⟨Option.get _ ?_, (Option.some_get _).symm, ?_, ?_, ?_⟩
  · decide
  · decide
  · decide
  · intro call current present
    have idle :=
      List.all_eq_true.mp
        (show (ExtTreeMap.toList _).all (fun entry => !entry.2.stage.connecting) = true by decide)
        (call, current) (ExtTreeMap.mem_toList_iff_getElem?_eq_some.mpr present)
    simpa using idle

/-- The flag is set and nobody is going to clear it. -/
structure Orphaned (number : Nat) (client : ClientInner) : Prop where
  made : Made client
  flagged : Flagged client.allocated number
  unattempted : ¬ Has client.calls number Stage.attempting

/-- An orphaned flag stays orphaned. -/
theorem step_orphaned
    (stepped : client.step action = some next) (orphaned : Orphaned number client) :
    Orphaned number next where
  made := (step_effect stepped).made orphaned.made
  flagged := by
    rcases
      (step_effect stepped).flagged_stays orphaned.made orphaned.flagged with
      stays | ⟨call, current, _, present, _, here, _, attempting, _⟩
    · exact stays
    · exact
        absurd ⟨call, current, present, here, attempting⟩ orphaned.unattempted
  unattempted := by
    rintro ⟨call, current, present, here, attempting⟩
    rcases (step_effect stepped).attempting_cases present attempting with
      ⟨before, found, pool, attempted⟩ | ⟨clear, _, _⟩
    · exact orphaned.unattempted ⟨call, before, found, pool.symm.trans here, attempted⟩
    · exact clear (here ▸ orphaned.flagged)

/--
A set flag without an attempt stays that way: from then on no call ever
connects for the pool, however the run goes on.
-/
theorem orphaned_flag_stays
    (earlier later : List ClientAction) (client final : ClientInner)
    (reached : execute ClientInner.step {} earlier = some client)
    (continued : execute ClientInner.step client later = some final)
    (number : Nat) (flagged : Flagged client.allocated number)
    (orphaned : ¬ Has client.calls number Stage.attempting) :
    Flagged final.allocated number ∧ ¬ Has final.calls number Stage.attempting := by
  have stays : Orphaned number final :=
    execute_preserves step_orphaned continued ⟨(run_exclusive reached).made, flagged, orphaned⟩
  exact ⟨stays.flagged, stays.unattempted⟩

/-- The future of call `0` is dropped, and call `1` waits for it. -/
theorem orphaned_flag_stays_waiting :
    ∃ client final : ClientInner,
      execute ClientInner.step {} [.start 0 "h:1" "a" true, .look 0 [], .enter 0, .drop 0] =
        some client ∧
        execute ClientInner.step client [.start 1 "h:1" "b" true, .look 1 []] = some final ∧
        Flagged final.allocated 0 := by
  refine ⟨Option.get _ ?_, Option.get _ ?_, (Option.some_get _).symm, (Option.some_get _).symm, ?_⟩
  · decide
  · decide
  · refine
      (orphaned_flag_stays _ _ _ _ (Option.some_get _).symm
        (Option.some_get _).symm 0 ⟨Option.get _ ?_, (Option.some_get _).symm, ?_⟩ ?_).1
    · decide
    · decide
    · rintro ⟨call, current, present, _, attempting⟩
      have idle :=
        List.all_eq_true.mp
          (show (ExtTreeMap.toList _).all (fun entry => !entry.2.stage.attempting) = true by decide)
          (call, current)
          (ExtTreeMap.mem_toList_iff_getElem?_eq_some.mpr present)
      simp [attempting] at idle

end ClientInner

end Tinyray.Transport
