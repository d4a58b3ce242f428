import Tinyray.Registry.Lifecycle

/-!
# What a refused beat leaves behind

The beat handler writes the shape a beat gives to its pool before it decides
whether the seat is free, so a refused beat is not always without effect.
`refused_keeps_iff` says when it is: the beat must have been turned away
before that point, or have had nothing to say about the shape.
-/

namespace Tinyray

open Std

namespace Pool

/-- Everything a pool holds besides its journal, callers and cache. -/
structure SameContent (pool next : Pool) : Prop where
  members : next.members = pool.members
  version : next.version = pool.version
  roster : next.roster = pool.roster
  policy : next.policy = pool.policy
  size : next.size = pool.size
  methods : next.methods = pool.methods
  high : next.high = pool.high
  gone : next.gone = pool.gone

theorem SameContent.refl (pool : Pool) : pool.SameContent pool :=
  ⟨rfl, rfl, rfl, rfl, rfl, rfl, rfl, rfl⟩

/-- Only the core matters. -/
theorem sameContent_of_core
    {pool next other : Pool} (alike : other.core = next.core) :
    pool.SameContent other ↔ pool.SameContent next := by
  have transport :
      ∀ {left right : Pool}, left.core = right.core →
        pool.SameContent right → pool.SameContent left := by
    rintro left right same ⟨members, version, roster, policy, size, methods, high, gone⟩
    have fields : ∀ {β : Type} (field : Pool → β),
        (∀ state : Pool, field state.core = field state) → field left = field right := by
      intro β field blind
      rw [← blind left, ← blind right, same]
    exact
      ⟨(fields Pool.members fun _ => rfl).trans members,
        (fields Pool.version fun _ => rfl).trans version,
        (fields Pool.roster fun _ => rfl).trans roster,
        (fields Pool.policy fun _ => rfl).trans policy, (fields Pool.size fun _ => rfl).trans size,
        (fields Pool.methods fun _ => rfl).trans methods,
        (fields Pool.high fun _ => rfl).trans high, (fields Pool.gone fun _ => rfl).trans gone⟩
  exact ⟨transport alike.symm, transport alike⟩

/-- The beat brings nothing that the shape stage would write. -/
def Restates (pool : Pool) (beat : Beat) : Prop :=
  if pool.members.isEmpty then
    pool.policy = beat.policy ∧ pool.size = beat.size ∧ pool.methods = beat.methods
  else disagreement pool beat ≠ none ∨ pool.methods ≠ [] ∨ beat.methods = []

/-- A shape that changes no content. -/
theorem shape_sameContent_iff
    {pool shaped : Pool} {beat : Beat} (ok : pool.shape beat = .ok shaped) :
    pool.SameContent shaped ↔ pool.Restates beat := by
  unfold shape at ok
  unfold Restates
  split at ok
  · rename_i empty
    rw [if_pos empty]
    split at ok
    · rename_i changed
      cases ok
      constructor
      · intro same
        exact ⟨same.policy.symm, same.size.symm, same.methods.symm⟩
      · rintro ⟨policy, size, methods⟩
        exact absurd changed (by simp [policy, size, methods])
    · rename_i unchanged
      cases ok
      simp only [not_or, ne_eq, not_not] at unchanged
      exact ⟨fun _ => unchanged, fun _ => SameContent.refl pool⟩
  · rename_i occupied
    rw [if_neg occupied]
    split at ok
    · cases ok
    · rename_i agreed
      split at ok
      · rename_i learns
        cases ok
        constructor
        · intro same
          have stays : beat.methods = pool.methods := same.methods
          exact absurd (stays.trans learns.1) learns.2
        · rintro (denied | serves | silent)
          · exact absurd agreed denied
          · exact absurd learns.1 serves
          · exact absurd silent learns.2
      · rename_i keeps
        cases ok
        constructor
        · intro _
          by_cases serves : pool.methods = []
          · by_cases silent : beat.methods = []
            · exact Or.inr (Or.inr silent)
            · exact absurd ⟨serves, silent⟩ keeps
          · exact Or.inr (Or.inl serves)
        · intro _
          exact SameContent.refl pool

/-- A refused beat that changes none. -/
theorem receive_sameContent_iff
    {pool : Pool} {now ttl : Nat} {beat : Beat} {stateBytes : Nat}
    (refused : (pool.receive now ttl beat stateBytes).accepted = false) :
    pool.SameContent (pool.receive now ttl beat stateBytes).pool ↔ pool.Restates beat := by
  rcases receive_cases pool now ttl beat stateBytes with
    ⟨why, denied, exit⟩ | ⟨shaped, ok, _, exit⟩ | ⟨shaped, _, _, exit⟩
  · rw [exit]
    refine ⟨fun _ => ?_, fun _ => SameContent.refl pool⟩
    unfold shape at denied
    unfold Restates
    split at denied
    · split at denied <;> cases denied
    · rename_i occupied
      rw [if_neg occupied]
      left
      intro agreed
      rw [agreed] at denied
      simp only at denied
      split at denied <;> cases denied
  · rw [exit]
    exact shape_sameContent_iff ok
  · rw [exit] at refused
    cases refused

end Pool

namespace Registry

/-- Every pool keeps its content. -/
def Keeps (registry next : Registry) : Prop :=
  ∀ (name : String) (pool : Pool), registry.pools[name]? = some pool →
    ∃ after, next.pools[name]? = some after ∧ pool.SameContent after

variable [FloatFormat]

/-- What a beat does to the pools. -/
theorem beat_sameCores
    (registry : Registry) (now : Nat) (order : String → IterationOrder)
    (beat : Beat) {stateBytes : Nat} (measured : admissible beat = some stateBytes) :
    SameCores (registry.beatShared now order beat).registry.pools
      (registry.pools.insert beat.pool
        ((registry.pool beat.pool).receive now registry.ttl beat stateBytes).pool) := by
  unfold beatShared
  rw [measured]
  dsimp only
  split
  · intro name
    rfl
  · exact collect_sameCores order beat _

/--
A refused beat leaves every pool as it was exactly if it was inadmissible,
was the first to name its pool, or restated the shape of its pool.
-/
theorem refused_keeps_iff
    (registry : Registry) (now : Nat) (order : String → IterationOrder) (beat : Beat)
    (refused : (registry.beatShared now order beat).ack.accepted = false) :
    registry.Keeps (registry.beatShared now order beat).registry ↔
      (admissible beat = none ∨
        ∀ pool, registry.pools[beat.pool]? = some pool → pool.Restates beat) := by
  have decision := accepts_eq registry now order beat
  unfold accepts at decision
  rw [refused] at decision
  cases measured : admissible beat with
  | none =>
    refine ⟨fun _ => Or.inl rfl, fun _ => ?_⟩
    intro name pool present
    refine ⟨pool, ?_, Pool.SameContent.refl pool⟩
    unfold beatShared
    rw [measured]
    exact present
  | some stateBytes =>
    rw [measured] at decision
    have alike := beat_sameCores registry now order beat measured
    have own : ∀ pool, registry.pools[beat.pool]? = some pool → registry.pool beat.pool = pool := by
      intro pool present
      rw [Registry.pool, ExtTreeMap.getD_eq_getD_getElem?, present]
      rfl
    -- what is left of a pool that was there
    have after :
        ∀ (name : String) (pool : Pool),
          registry.pools[name]? = some pool →
            ∃ next,
              (registry.beatShared now order beat).registry.pools[name]? = some next ∧
                (pool.SameContent next ↔ (beat.pool = name → pool.Restates beat)) := by
      intro name pool present
      have seen := alike name
      rw [ExtTreeMap.getElem?_insert] at seen
      by_cases here : beat.pool = name
      · subst here
        rw [own pool present] at seen decision
        simp only [compare_self, if_true, Option.map_some, Option.map_eq_some_iff] at seen
        rcases seen with ⟨next, found, core⟩
        refine ⟨next, found, ?_⟩
        rw [Pool.sameContent_of_core core, Pool.receive_sameContent_iff decision.symm]
        simp
      · simp only [Std.compare_eq_iff_eq, here, if_false, present,
          Option.map_some, Option.map_eq_some_iff] at seen
        rcases seen with ⟨next, found, core⟩
        refine ⟨next, found, ?_⟩
        rw [Pool.sameContent_of_core core]
        simp [here, Pool.SameContent.refl]
    constructor
    · intro keeps
      refine Or.inr ?_
      intro pool present
      rcases keeps beat.pool pool present with ⟨kept, found, same⟩
      rcases after beat.pool pool present with ⟨next, found', iff⟩
      rw [found] at found'
      cases found'
      exact iff.mp same rfl
    · rintro (inadmissible | restates)
      · cases inadmissible
      · intro name pool present
        rcases after name pool present with ⟨next, found, iff⟩
        refine ⟨next, found, iff.mpr ?_⟩
        intro here
        subst here
        exact restates pool present

omit [FloatFormat] in
/-- A ghost with nothing to say about the pool leaves no trace. -/
theorem refused_keeps_silent_ghost :
    letI := FloatFormat.widest
    let registry :=
      (Registry.new 1000 8).run
        [.beat 0 (fun _ => .ascending)
          { pool := "p", slot := some 0, id := 0, incarnation := 2 }]
    registry.Keeps
      (registry.beatShared 1 (fun _ => .ascending)
        { pool := "p", slot := some 0, id := 0, incarnation := 1 }).registry := by
  let := FloatFormat.widest
  refine (refused_keeps_iff _ 1 _ _ (by decide)).mpr (Or.inr ?_)
  intro pool present
  have occupied :
      (((Registry.new 1000 8).run
        [.beat 0 (fun _ => .ascending)
          { pool := "p", slot := some 0, id := 0, incarnation := 2 }]).pools["p"]?.map
          fun pool => pool.members.isEmpty) = some false := by
    decide
  rw [present, Option.map_some, Option.some.injEq] at occupied
  simp [Pool.Restates, occupied]

omit [FloatFormat] in
/-- A ghost of an earlier tenure teaches its pool what it serves. -/
theorem ghost_sets_methods :
    letI := FloatFormat.widest
    let registry :=
      (Registry.new 1000 8).run
        [.beat 0 (fun _ => .ascending)
          { pool := "p", slot := some 0, id := 0, incarnation := 2 }]
    let answer :=
      registry.beatShared 1 (fun _ => .ascending)
        { pool := "p", slot := some 0, id := 0, incarnation := 1, methods := ["infer"] }
    answer.ack.accepted = false ∧ registry.pools["p"]?.map Pool.methods = some [] ∧
      answer.registry.pools["p"]?.map Pool.methods = some ["infer"] := by
  decide

end Registry

end Tinyray
