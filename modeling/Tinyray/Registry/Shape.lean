import Tinyray.Registry.Publication

/-!
# The shape of a pool

The shape of a pool is its policy, its size and its methods.  An empty pool
takes it from whatever beat arrives; while there are members, only the methods
can still be told, and only once.  Every member was let in by a beat that
agreed with the shape its pool has now, since the pool was not empty between
that beat and now.
-/

namespace Tinyray

open Std Foundation

namespace Pool

/-- What can become of a shape while there are members. -/
structure ShapeKept (pool next : Pool) : Prop where
  policy : next.policy = pool.policy
  size : next.size = pool.size
  methods : next.methods = pool.methods ∨ pool.methods = [] ∧ next.methods ≠ []

theorem ShapeKept.refl (pool : Pool) : pool.ShapeKept pool := ⟨rfl, rfl, .inl rfl⟩

/-- A shape kept twice is kept. -/
theorem ShapeKept.trans
    {first second third : Pool} (before : first.ShapeKept second)
    (after : second.ShapeKept third) :
    first.ShapeKept third where
  policy := after.policy.trans before.policy
  size := after.size.trans before.size
  methods := by
    rcases after.methods with same | ⟨silent, serves⟩
    · rw [same]
      exact before.methods
    · rcases before.methods with same | ⟨_, told⟩
      · exact .inr ⟨same ▸ silent, serves⟩
      · exact absurd silent told

variable {pool : Pool} {beat : Beat}
  {next shaped : Pool}

theorem ShapeKept.of_core
    {other : Pool} (kept : pool.ShapeKept next) (alike : other.core = next.core) :
    pool.ShapeKept other := by
  have policy := congrArg Pool.policy alike
  have size := congrArg Pool.size alike
  have methods := congrArg Pool.methods alike
  simp only [core] at policy size methods
  refine ⟨policy.trans kept.policy, size.trans kept.size, ?_⟩
  rw [methods]
  exact kept.methods

/-- An occupied pool keeps its shape. -/
theorem shape_kept
    (occupied : pool.members.isEmpty = false) (ok : pool.shape beat = .ok shaped) :
    pool.ShapeKept shaped := by
  simp only [shape, occupied, Bool.false_eq_true, if_false] at ok
  split at ok
  · cases ok
  · split at ok
    · rename_i learns
      cases ok
      exact ⟨rfl, rfl, .inr learns⟩
    · cases ok
      exact ShapeKept.refl pool

theorem admitted_kept
    (pool : Pool) (now ttl : Nat) (beat : Beat) (stateBytes watermark : Nat) :
    pool.ShapeKept ((pool.enroll now ttl beat stateBytes).1.raise watermark beat) := by
  have enrolled : pool.ShapeKept (pool.enroll now ttl beat stateBytes).1 := by
    rw [enroll_eq]
    split <;> exact ⟨rfl, rfl, .inl rfl⟩
  unfold raise
  split
  · exact ⟨enrolled.policy, enrolled.size, enrolled.methods⟩
  · exact enrolled

/-- A beat keeps an occupied shape. -/
theorem receive_kept
    (occupied : pool.members.isEmpty = false) (now ttl : Nat) (beat : Beat) (stateBytes : Nat) :
    pool.ShapeKept (pool.receive now ttl beat stateBytes).pool := by
  rcases receive_cases pool now ttl beat stateBytes with
    ⟨why, _, exit⟩ | ⟨shaped, ok, _, exit⟩ | ⟨shaped, ok, _, exit⟩
  · rw [exit]
    exact ShapeKept.refl pool
  · rw [exit]
    exact shape_kept occupied ok
  · rw [exit]
    exact (shape_kept occupied ok).trans (shaped.admitted_kept now ttl beat stateBytes _)

theorem foldl_expire_kept (ids : List Nat) (pool : Pool) :
    pool.ShapeKept (ids.foldl expire pool) := by
  induction ids generalizing pool with
  | nil => exact ShapeKept.refl pool
  | cons id rest hypothesis =>
    have once : pool.ShapeKept (pool.expire id) := by
      unfold expire
      split <;> exact ⟨rfl, rfl, .inl rfl⟩
    exact once.trans (hypothesis _)

theorem step_kept
    (occupied : pool.members.isEmpty = false) (ttl : Nat) (event : PoolEvent) :
    pool.ShapeKept (pool.step ttl event) := by
  cases event with
  | beat now beat stateBytes =>
    exact receive_kept occupied now ttl beat stateBytes
  | sweep now order alive =>
    have forgotten : pool.ShapeKept (pool.forget now alive) := ⟨rfl, rfl, .inl rfl⟩
    exact forgotten.trans (foldl_expire_kept _ _)

theorem occupied_of_record
    {id : Nat} {record : Record} (present : pool.members[id]? = some record) :
    pool.members.isEmpty = false := by
  rw [Bool.eq_false_iff]
  intro empty
  rw [ExtTreeMap.isEmpty_iff.mp empty] at present
  simp at present

/-! ## Beats and the shape -/

/-- The beat has the policy of the pool, and its size if it states one. -/
structure Fits (pool : Pool) (beat : Beat) : Prop where
  policy : beat.policy = pool.policy
  size : ∀ size, beat.size = some size → pool.size = some size

theorem Fits.of_kept
    (fits : pool.Fits beat) (kept : pool.ShapeKept next) :
    next.Fits beat where
  policy := fits.policy.trans kept.policy.symm
  size := fun size stated => kept.size.trans (fits.size size stated)

/-- The shape fits the beat. -/
theorem shape_fits (ok : pool.shape beat = .ok shaped) : shaped.Fits beat := by
  unfold shape at ok
  split at ok
  · split at ok
    · cases ok
      exact ⟨rfl, fun _ stated => stated⟩
    · rename_i unchanged
      cases ok
      simp only [not_or, ne_eq, not_not] at unchanged
      exact ⟨unchanged.1.symm, fun _ stated => unchanged.2.1.trans stated⟩
  · split at ok
    · cases ok
    · rename_i agreed
      have fits : pool.Fits beat := by
        unfold disagreement at agreed
        split at agreed
        · cases agreed
        · rename_i same
          refine ⟨(not_not.mp same).symm, ?_⟩
          intro size stated
          simp only [stated] at agreed
          split at agreed
          · cases agreed
          · rename_i same
            exact not_not.mp same
      split at ok
      · cases ok
        exact ⟨fits.policy, fits.size⟩
      · cases ok
        exact fits

/-- It fits after the beat, too. -/
theorem receive_fits
    {now ttl : Nat} {stateBytes : Nat}
    (accepted : (pool.receive now ttl beat stateBytes).accepted = true) :
    (pool.receive now ttl beat stateBytes).pool.Fits beat := by
  rcases receive_cases pool now ttl beat stateBytes with
    ⟨why, _, exit⟩ | ⟨shaped, _, _, exit⟩ | ⟨shaped, ok, _, exit⟩
  · rw [exit] at accepted
    cases accepted
  · rw [exit] at accepted
    cases accepted
  · rw [exit]
    exact (shape_fits ok).of_kept (shaped.admitted_kept now ttl beat stateBytes _)

end Pool

namespace Registry

variable [FloatFormat]
  {registry : Registry} {sent : Beat} {events : List Event}
  {tenure : Tenure}
  {name : String} {now : Nat} {order : String → IterationOrder}
  {record : Record} {event : Event}

/-- A step keeps an occupied shape. -/
theorem step_shapeKept
    (occupied : (registry.pool name).members.isEmpty = false) (event : Event) :
    (registry.pool name).ShapeKept ((registry.step event).pool name) := by
  have stepped := step_core registry event name
  cases seen : event.at name with
  | none =>
    rw [seen] at stepped
    exact (Pool.ShapeKept.refl _).of_core stepped
  | some poolEvent =>
    rw [seen] at stepped
    exact (Pool.step_kept occupied registry.ttl poolEvent).of_core stepped

/-- It fits after the step, too. -/
theorem step_fits
    (accepted : registry.accepts now order sent = true) :
    ((registry.step (.beat now order sent)).pool sent.pool).Fits sent := by
  have stepped := pool_beat registry now order sent sent.pool
  rw [accepts_eq] at accepted
  cases measured : admissible sent with
  | none =>
    rw [measured] at accepted
    cases accepted
  | some stateBytes =>
    rw [measured] at accepted
    simp only [measured, if_true] at stepped
    exact (Pool.receive_fits accepted).of_kept ((Pool.ShapeKept.refl _).of_core stepped)

/-! ## Runs -/

/-- The pool is never empty. -/
def StaysOccupied (registry : Registry) (name : String)
    (events : List Event) : Prop :=
  ∀ prior rest, events = prior ++ rest → ((registry.run prior).pool name).members.isEmpty = false

theorem run_shapeKept (occupied : registry.StaysOccupied name events) :
    (registry.pool name).ShapeKept ((registry.run events).pool name) := by
  induction events generalizing registry with
  | nil => exact Pool.ShapeKept.refl _
  | cons event rest hypothesis =>
    have now := occupied [] (event :: rest) rfl
    have later : (registry.step event).StaysOccupied name rest := by
      intro prior others split
      exact occupied (event :: prior) others (by rw [split, List.cons_append])
    exact (step_shapeKept now event).trans (hypothesis later)

/--
The tenure was let in by this beat, at some point of a run, and has held its
seat ever since.
-/
def AdmittedBy (registry : Registry) (events : List Event)
    (tenure : Tenure) (sent : Beat) : Prop :=
  ∃ before now order after,
    events = before ++ .beat now order sent :: after ∧ sent.tenure = tenure ∧ sent.leaving = false ∧
      (registry.run before).accepts now order sent = true ∧
      (registry.run before).record tenure = none ∧
      ((registry.run before).step (.beat now order sent)).Stays tenure after

/-- Who holds a record did not leave. -/
theorem staying_of_record
    (accepted : registry.accepts now order sent = true) (own : sent.tenure = tenure)
    (held : (registry.step (.beat now order sent)).record tenure = some record) :
    sent.leaving = false := by
  subst own
  rcases step_beat_record registry now order sent sent.pool sent.id with ⟨stateBytes, stepped⟩
  have present := (record_eq_some_iff.mp held).1
  simp only [Beat.tenure] at present
  rw [present, if_pos ⟨rfl, rfl, accepted⟩] at stepped
  split at stepped
  · cases stepped
  · rename_i staying
    exact Bool.eq_false_of_not_eq_true staying

theorem Stays.snoc
    (stays : registry.Stays tenure events)
    (held : ((registry.run (events ++ [event])).record tenure).isSome = true) :
    registry.Stays tenure (events ++ [event]) := by
  intro prior rest split
  rcases List.eq_nil_or_concat' rest with rfl | ⟨others, last, rfl⟩
  · rw [List.append_nil] at split
    rw [← split]
    exact held
  · rw [← List.append_assoc] at split
    exact stays prior others (List.append_inj' split rfl).1

theorem AdmittedBy.snoc
    (admitted : registry.AdmittedBy events tenure sent)
    (held : ((registry.run (events ++ [event])).record tenure).isSome = true) :
    registry.AdmittedBy (events ++ [event]) tenure sent := by
  rcases admitted with ⟨before, now, order, after, rfl, own, staying, accepted, vacant, stays⟩
  refine ⟨before, now, order, after ++ [event], by simp, own, staying,
    accepted, vacant, stays.snoc ?_⟩
  rw [List.append_assoc, run_append] at held
  exact held

/-- Every member came by a beat that fits. -/
theorem run_admitted
    (ttl nanos : Nat) (events : List Event)
    (held : ((Registry.new ttl nanos).run events).record tenure = some record) :
    ∃ sent,
      (Registry.new ttl nanos).AdmittedBy events tenure sent ∧
        (((Registry.new ttl nanos).run events).pool tenure.pool).Fits
          sent := by
  -- from the last step back to the one that has let the tenure in
  induction events using List.reverseRecOn generalizing record with
  | nil =>
    simp [Registry.run, Registry.record, Registry.pool, Registry.new] at held
  | append_singleton events event hypothesis =>
    have stillHeld := Option.isSome_iff_exists.mpr ⟨record, held⟩
    rw [run_append] at held ⊢
    cases before : ((Registry.new ttl nanos).run events).record tenure with
    | some earlier =>
      rcases hypothesis before with ⟨sent, admitted, fits⟩
      have occupied := Pool.occupied_of_record (record_eq_some_iff.mp before).1
      exact ⟨sent, admitted.snoc stillHeld, fits.of_kept (step_shapeKept occupied event)⟩
    | none =>
      rcases step_record held with ⟨_, same⟩ | ⟨now, sent, stateBytes, accepted, own, _⟩
      · rw [before] at same
        cases same
      · rcases acceptedBeat_spec accepted with ⟨samePool, _, order, rfl, accepts⟩
        refine ⟨sent, ⟨events, now, order, [], rfl, own, ?_, accepts, before, ?_⟩, ?_⟩
        · exact staying_of_record accepts own held
        · intro prior rest split
          rcases List.append_eq_nil_iff.mp split.symm with ⟨rfl, _⟩
          exact Option.isSome_iff_exists.mpr ⟨record, held⟩
        · rw [← samePool]
          exact step_fits accepts

end Registry

/--
Every member of a pool was let in by a beat with the policy the pool has now,
and its size if the beat stated one.  As long as the pool has members its policy
and its size stay, and its methods are told at most once.
-/
theorem pool_shape_agreed [FloatFormat]
    (ttl nanos : Nat) (events : List Event) (name : String) :
    let registry := (Registry.new ttl nanos).run events
    (∀ id record, (registry.pool name).members[id]? = some record →
        ∃ sent,
          (Registry.new ttl nanos).AdmittedBy events ⟨name, id, record.member.incarnation⟩ sent ∧
            sent.policy = (registry.pool name).policy ∧
            ∀ size, sent.size = some size → (registry.pool name).size = some size) ∧
      ∀ later, registry.StaysOccupied name later →
        ((registry.run later).pool name).policy = (registry.pool name).policy ∧
          ((registry.run later).pool name).size = (registry.pool name).size ∧
          (((registry.run later).pool name).methods = (registry.pool name).methods ∨
            (registry.pool name).methods = [] ∧ ((registry.run later).pool name).methods ≠ []) := by
  refine ⟨?_, ?_⟩
  · intro id record present
    have held :
        ((Registry.new ttl nanos).run events).record
            ⟨name, id, record.member.incarnation⟩ = some record :=
      Registry.record_eq_some_iff.mpr ⟨present, rfl⟩
    rcases Registry.run_admitted ttl nanos events held with ⟨sent, admitted, fits⟩
    exact ⟨sent, admitted, fits.policy, fits.size⟩
  · intro later occupied
    have kept := Registry.run_shapeKept occupied
    exact ⟨kept.policy, kept.size, kept.methods⟩

end Tinyray
