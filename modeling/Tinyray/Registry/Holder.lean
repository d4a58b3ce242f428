import Tinyray.Registry.Publication

/-!
# Who may change the holder of a seat

The tenure stored for a member of a pool changes in three ways only: a
goodbye, a beat of a later tenure, or a sweep that finds the lease run out.
The lease of a record is that of the last accepted beat for its seat, and a
beat touches no record but the one it names.
-/

namespace Tinyray

open Std Foundation

namespace Pool

/-- Every beat renews the lease. -/
theorem seated_expiresAt
    (pool : Pool) (now ttl : Nat) (beat : Beat) (stateBytes : Nat) :
    (pool.seated now ttl beat stateBytes).expiresAt = now + ttl := by
  unfold seated
  cases pool.members[beat.id]? with
  | none => rfl
  | some record =>
    simp only
    split
    · unfold renewed
      split
      · split <;> rfl
      · rfl
    · rfl

end Pool

namespace Registry

variable [FloatFormat]

/-- The events that may end a tenure. -/
inductive Entitled (registry : Registry) (name : String) (id : Nat) : Event → Prop where
  | goodbye
      (now : Nat) (order : String → IterationOrder) (sent : Beat)
      (pool : sent.pool = name) (own : sent.id = id)
      (accepted : registry.accepts now order sent = true)
      (leaving : sent.leaving = true)
      (notOlder : ∀ current ∈ (registry.pool name).stored id, current ≤ sent.incarnation) :
      Entitled registry name id (.beat now order sent)
  | takeover
      (now : Nat) (order : String → IterationOrder) (sent : Beat)
      (pool : sent.pool = name) (own : sent.id = id)
      (accepted : registry.accepts now order sent = true)
      (staying : sent.leaving = false)
      (later : ∀ current ∈ (registry.pool name).stored id, current < sent.incarnation)
      (notBelow :
        (registry.pool name).stored id = none →
          (registry.pool name).watermark id ≤ sent.incarnation) :
      Entitled registry name id (.beat now order sent)
  | expiry
      (now : Nat) (order : String → IterationOrder)
      (alive : Bell → Bool) (record : Record)
      (held : (registry.pool name).members[id]? = some record)
      (expired : record.expiresAt ≤ now) :
      Entitled registry name id (.sweep now order alive)

/-! ## One step -/

theorem step_sweep_record
    (registry : Registry) (now : Nat) (order : String → IterationOrder)
    (alive : Bell → Bool) (name : String) (id : Nat) :
    ((registry.step (.sweep now order alive)).pool name).members[id]? =
      (registry.pool name).members[id]?.filter fun record => now < record.expiresAt := by
  have members := congrArg Pool.members (pool_sweep registry now order alive name)
  simp only [Pool.core_members] at members
  change ((registry.sweep now order alive).registry.pool name).members[id]? = _
  rw [members, Pool.sweep_record]

variable {event : Event} {now : Nat} {order : String → IterationOrder}
  {sent : Beat} {record : Record}

theorem step_idle_record
    (registry : Registry) (name : String) (id : Nat) (idle : event.at name = none) :
    ((registry.step event).pool name).members[id]? = (registry.pool name).members[id]? := by
  have members := congrArg Pool.members (step_core registry event name)
  rw [idle] at members
  simp only [Pool.core_members] at members
  rw [members]

variable {name : String} {id : Nat} {registry : Registry}

/-- Other seats keep their records. -/
theorem step_beat_record_other
    (registry : Registry) (now : Nat) (order : String → IterationOrder)
    (sent : Beat) (other : sent.pool ≠ name ∨ sent.id ≠ id) :
    ((registry.step (.beat now order sent)).pool name).members[id]? =
      (registry.pool name).members[id]? := by
  rcases step_beat_record registry now order sent name id with ⟨stateBytes, stepped⟩
  rw [stepped, if_neg]
  rintro ⟨here, own, _⟩
  rcases other with elsewhere | another
  · exact elsewhere here
  · exact another own

theorem step_exclusive_record
    (exclusive : sent.exclusive = true) (held : (registry.pool name).members[id]? = some record)
    (another : record.member.incarnation ≠ sent.incarnation) :
    ((registry.step (.beat now order sent)).pool name).members[id]? = some record := by
  rcases step_beat_record registry now order sent name id with ⟨stateBytes, stepped⟩
  rw [stepped, if_neg, held]
  rintro ⟨rfl, rfl, accepted⟩
  have free := ((accepts_iff registry now order sent).mp accepted).2.2.1
  refine another (free exclusive _ ?_)
  simp [Pool.seat, Pool.stored, held]

/-- A beat that changes a seat may do so. -/
theorem step_beat_entitled
    (changed :
      ((registry.step (.beat now order sent)).pool name).stored id ≠
        (registry.pool name).stored id) :
    registry.Entitled name id (.beat now order sent) := by
  have stepped := step_beat_seat registry now order sent name id
  have holder := congrArg Seat.holder stepped
  change ((registry.step (.beat now order sent)).pool name).stored id = _ at holder
  split_ifs at holder with accepted
  · rcases accepted with ⟨rfl, rfl, accepted⟩
    have admits := ((accepts_iff registry now order sent).mp accepted).2.2
    have notOlder := admits.2.2.2
    cases leaving : sent.leaving with
    | true =>
      exact .goodbye now order sent rfl rfl accepted leaving notOlder
    | false =>
      refine .takeover now order sent rfl rfl accepted leaving ?_ fun _ => admits.2.2.1
      intro current stored
      refine Nat.lt_of_le_of_ne (notOlder current stored) ?_
      rintro rfl
      -- a beat of the stored tenure would have left it as it was
      apply changed
      rw [holder, Seat.accept, leaving]
      exact (Option.mem_def.mp stored).symm
  · exact absurd holder changed

/-- So may any event. -/
theorem step_entitled
    (changed : ((registry.step event).pool name).stored id ≠ (registry.pool name).stored id) :
    registry.Entitled name id event := by
  cases event with
  | beat now order sent => exact step_beat_entitled changed
  | sweep now order alive =>
    unfold Pool.stored at changed
    rw [step_sweep_record] at changed
    cases held : (registry.pool name).members[id]? with
    | none =>
      rw [held] at changed
      exact absurd rfl changed
    | some record =>
      refine .expiry now order alive record held ?_
      by_contra running
      apply changed
      simp [held, Option.filter, Nat.lt_of_not_le running]
  | query order sent | park watch bell =>
    unfold Pool.stored at changed
    rw [step_idle_record registry name id rfl] at changed
    exact absurd rfl changed

/-! ## Runs -/

theorem acceptedBeats_append
    (registry : Registry) (name : String) (id : Nat) (events more : List Event) :
    registry.acceptedBeats name id (events ++ more) =
      registry.acceptedBeats name id events ++
        (registry.run events).acceptedBeats name id more := by
  induction events generalizing registry with
  | nil => rfl
  | cons event rest hypothesis =>
    rw [List.cons_append, acceptedBeats, hypothesis, acceptedBeats, List.append_assoc]
    rfl

/-- The last accepted beat for a seat renewed the record. -/
def RenewedLast (accepted : List (Nat × Beat)) (ttl : Nat)
    (record : Record) : Prop :=
  ∃ time sent,
    accepted.getLast? = some (time, sent) ∧ sent.leaving = false ∧
      sent.incarnation = record.member.incarnation ∧ record.expiresAt = time + ttl

/-- A lease runs from the last beat. -/
theorem run_renewedLast
    {ttl nanos : Nat} {events : List Event}
    (held : (((Registry.new ttl nanos).run events).pool name).members[id]? = some record) :
    RenewedLast
      ((Registry.new ttl nanos).acceptedBeats name id events) ttl
      record := by
  induction events using List.reverseRecOn generalizing record with
  | nil => simp [Registry.run, Registry.new, Registry.pool] at held
  | append_singleton events event hypothesis =>
    rw [run_append] at held
    change
      (((((Registry.new ttl nanos).run events).step event).pool
        name).members)[id]? = some record at held
    have lease : ((Registry.new ttl nanos).run events).ttl = ttl := run_ttl _ events
    rw [acceptedBeats_append]
    generalize (Registry.new ttl nanos).run events = registry at *
    have unmoved
        (before : (registry.pool name).members[id]? = some record)
        (refused : registry.acceptedBeat name id event = none) :
        RenewedLast
          ((Registry.new ttl nanos).acceptedBeats name id events ++
            registry.acceptedBeats name id [event]) ttl record := by
      simpa [acceptedBeats, refused] using hypothesis before
    cases event with
    | beat now order sent =>
      rcases step_beat_record registry now order sent name id with ⟨stateBytes, stepped⟩
      rw [stepped] at held
      split_ifs at held with accepted leaving
      · cases held
        refine ⟨now, sent, ?_, ?_, ?_, ?_⟩
        · simp [acceptedBeats, acceptedBeat, accepted]
        · simpa using leaving
        · exact (Pool.settled_incarnation ..).symm
        · rw [Pool.seated_expiresAt, lease]
      · exact unmoved held (by simp only [acceptedBeat, accepted, if_false])
    | sweep now order alive =>
      rw [step_sweep_record, Option.filter_eq_some_iff] at held
      exact unmoved held.1 rfl
    | query order sent | park watch bell =>
      rw [step_idle_record registry name id rfl] at held
      exact unmoved held rfl

/-- What an event makes of a lease, given by when it runs out. -/
def lease (registry : Registry) (name : String) (id : Nat)
    (expires : Option Nat) (event : Event) : Option Nat :=
  match registry.acceptedBeat name id event, event with
  | some (now, sent), _ => if sent.leaving then none else some (now + registry.ttl)
  | none, .sweep now _ _ => expires.filter fun time => now < time
  | none, _ => expires

/-- The lease after these events. -/
def leaseAfter (registry : Registry) (name : String) (id : Nat)
    (expires : Option Nat) : List Event → Option Nat
  | [] => expires
  | event :: rest =>
    (registry.step event).leaseAfter name id (registry.lease name id expires event) rest

/-- The lease after one event. -/
theorem step_lease
    (registry : Registry) (name : String) (id : Nat) (event : Event) :
    ((registry.step event).pool name).members[id]?.map Record.expiresAt =
      registry.lease name id ((registry.pool name).members[id]?.map Record.expiresAt) event := by
  cases event with
  | beat now order sent =>
    rcases step_beat_record registry now order sent name id with ⟨stateBytes, stepped⟩
    rw [stepped]
    simp only [lease, acceptedBeat]
    split_ifs with accepted leaving
    · simp [leaving]
    · simp [leaving, Pool.seated_expiresAt]
    · rfl
  | sweep now order alive =>
    rw [step_sweep_record]
    cases (registry.pool name).members[id]? with
    | none => rfl
    | some record =>
      simp [lease, acceptedBeat, Option.filter, apply_ite (Option.map _)]
  | query order sent | park watch bell =>
    rw [step_idle_record registry name id rfl]
    rfl

/--
In every run a member is listed exactly while it has a lease: from an accepted
beat until a lease later, when a sweep comes by, or until its goodbye.
-/
theorem listed_while_leased
    (registry : Registry) (events : List Event) (name : String) (id : Nat) :
    ((registry.run events).pool name).members[id]?.map Record.expiresAt =
      registry.leaseAfter name id
        ((registry.pool name).members[id]?.map Record.expiresAt) events := by
  induction events generalizing registry with
  | nil => rfl
  | cons event rest hypothesis =>
    rw [leaseAfter, ← step_lease]
    exact hypothesis (registry.step event)

/--
Who may change the holder of a seat.  In every step of every run the tenure
stored for a member changes only by an accepted goodbye that is not older, an
accepted beat of a later tenure, or a sweep after its lease ran out.  An
exclusive beat leaves records of other tenures alone, a sweep leaves every
record alone whose last renewal is less than a lease ago, and a beat leaves
every record alone that it does not name.
-/
theorem holder_changes_only_if_entitled
    (ttl nanos : Nat) (events : List Event) (event : Event) (name : String) (id : Nat) :
    let start := Registry.new ttl nanos
    let registry := start.run events
    let pool := registry.pool name
    let next := (registry.step event).pool name
    (next.stored id ≠ pool.stored id → registry.Entitled name id event) ∧
      (∀ now order sent record,
        event = .beat now order sent → sent.exclusive = true → pool.members[id]? = some record →
          record.member.incarnation ≠ sent.incarnation → next.members[id]? = some record) ∧
      (∀ record, pool.members[id]? = some record →
        RenewedLast (start.acceptedBeats name id events) ttl record) ∧
      (∀ now order alive record,
        event = .sweep now order alive →
          pool.members[id]? = some record → now < record.expiresAt →
            next.members[id]? = some record) ∧
      (∀ now order sent,
        event = .beat now order sent →
          sent.pool ≠ name ∨ sent.id ≠ id → next.members[id]? = pool.members[id]?) := by
  intro start registry pool next
  refine ⟨step_entitled, ?_, fun record => run_renewedLast, ?_, ?_⟩
  · rintro now order sent record rfl exclusive held another
    exact step_exclusive_record exclusive held another
  · rintro now order alive record rfl held running
    change ((registry.step (.sweep now order alive)).pool name).members[id]? = _
    have before : (registry.pool name).members[id]? = some record := held
    rw [step_sweep_record, before, Option.filter_eq_some_iff]
    exact ⟨rfl, by simpa using running⟩
  · rintro now order sent rfl other
    exact step_beat_record_other registry now order sent other

end Registry

end Tinyray
