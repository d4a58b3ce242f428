import Tinyray.Registry.Lifecycle

/-!
# Seats

What decides whether a beat is accepted is a small part of its pool: the
highest tenure seen for the seat, the tenure that holds it and the last
goodbye.  `Seat` is that part as a machine of its own.  An accepted beat is
one step of it, and in every other step of the registry a seat can only fade:
the holder's lease may lapse and a goodbye may be forgotten once it is due.
`Registry.step_seat` connects the two, and `Registry.run_seat` is the
induction over whole runs.
-/

namespace Tinyray

open Std Foundation

/-- What one seat remembers. -/
structure Seat where
  watermark : Nat := 0
  holder : Option Nat := none
  /-- The tenure of the last goodbye, and when it is forgotten. -/
  departed : Option (Nat × Nat) := none

namespace Seat

/-- The seat is free for a beat. -/
def Admits (seat : Seat) (beat : Beat) : Prop :=
  (beat.exclusive = true → ∀ current ∈ seat.holder, current = beat.incarnation) ∧
  (beat.leaving = false → ∀ goodbye ∈ seat.departed, goodbye.1 < beat.incarnation) ∧
  seat.watermark ≤ beat.incarnation ∧ ∀ current ∈ seat.holder, current ≤ beat.incarnation

/-- The seat after an accepted beat. -/
def accept (seat : Seat) (now ttl : Nat) (beat : Beat) : Seat where
  watermark :=
    if beat.slot.isSome then max seat.watermark beat.incarnation
    else seat.watermark
  holder := if beat.leaving then none else some beat.incarnation
  departed :=
    if beat.leaving then some (beat.incarnation, now + ttl)
    else seat.departed

/-- What may happen to a seat without a beat; `due` goodbyes are dropped. -/
structure Fades (due : Nat → Prop) (seat next : Seat) : Prop where
  watermark : next.watermark = seat.watermark
  holder : next.holder = seat.holder ∨ next.holder = none
  departed :
    next.departed = seat.departed ∨ next.departed = none ∧ ∃ goodbye ∈ seat.departed, due goodbye.2

theorem Fades.refl (due : Nat → Prop) (seat : Seat) : seat.Fades due seat :=
  ⟨rfl, Or.inl rfl, Or.inl rfl⟩

variable {due : Nat → Prop} {next : Seat}

theorem Fades.imp
    {other : Nat → Prop} {seat : Seat} (fades : seat.Fades due next)
    (weaker : ∀ instant, due instant → other instant) :
    seat.Fades other next := by
  refine ⟨fades.watermark, fades.holder, ?_⟩
  rcases fades.departed with same | ⟨gone, goodbye, remembered, dropped⟩
  · exact Or.inl same
  · exact Or.inr ⟨gone, goodbye, remembered, weaker _ dropped⟩

/-- Fading goes on. -/
theorem Fades.trans
    {seat middle : Seat} (first : seat.Fades due middle) (second : middle.Fades due next) :
    seat.Fades due next := by
  refine ⟨second.watermark.trans first.watermark, ?_, ?_⟩
  · rcases second.holder with same | gone
    · rw [same]
      exact first.holder
    · exact Or.inr gone
  · rcases second.departed with same | ⟨gone, goodbye, remembered, dropped⟩
    · rw [same]
      exact first.departed
    · rcases first.departed with same | forgotten
      · rw [same] at remembered
        exact Or.inr ⟨gone, goodbye, remembered, dropped⟩
      · rw [forgotten.1] at remembered
        cases remembered

theorem Fades.holder_le
    {seat : Seat} (fades : seat.Fades due next) {current : Nat} (held : current ∈ next.holder) :
    current ∈ seat.holder := by
  rcases fades.holder with same | gone
  · rw [← same]
    exact held
  · rw [gone] at held
    cases held

theorem Fades.departed_le
    {seat : Seat} (fades : seat.Fades due next)
    {goodbye : Nat × Nat} (remembered : goodbye ∈ next.departed) :
    goodbye ∈ seat.departed := by
  rcases fades.departed with same | ⟨gone, _⟩
  · rw [← same]
    exact remembered
  · rw [gone] at remembered
    cases remembered

end Seat

namespace Pool

/-- The part of a pool that decides about one member's beats. -/
def seat (pool : Pool) (id : Nat) : Seat where
  watermark := pool.watermark id
  holder := pool.stored id
  departed := pool.gone[id]?

theorem admits_iff (pool : Pool) (beat : Beat) :
    (pool.seat beat.id).Admits beat ↔ pool.superseded beat = false :=
  (superseded_eq_false_iff pool beat).symm

variable {pool : Pool}

theorem seat_of_fields
    {next : Pool} (members : next.members = pool.members)
    (high : next.high = pool.high) (gone : next.gone = pool.gone) (id : Nat) :
    next.seat id = pool.seat id := by
  simp only [seat, watermark, stored, members, high, gone]

theorem seat_of_core
    {other : Pool} (alike : other.core = pool.core) (id : Nat) :
    other.seat id = pool.seat id := by
  have members := congrArg Pool.members alike
  have high := congrArg Pool.high alike
  have gone := congrArg Pool.gone alike
  exact seat_of_fields members high gone id

/-! ## One beat -/

/-- The beat fits the pool's shape. -/
def Agrees (pool : Pool) (beat : Beat) : Prop :=
  pool.members.isEmpty = true ∨ disagreement pool beat = none

/-- When a shape is accepted. -/
theorem shape_ok_iff (pool : Pool) (beat : Beat) :
    (∃ shaped, pool.shape beat = .ok shaped) ↔ pool.Agrees beat := by
  unfold shape Agrees
  cases pool.members.isEmpty with
  | true =>
    simp only [if_true, true_or, iff_true]
    split <;> exact ⟨_, rfl⟩
  | false =>
    simp only [Bool.false_eq_true, if_false, false_or]
    cases disagreement pool beat with
    | some why => simp
    | none =>
      simp only [iff_true]
      split <;> exact ⟨_, rfl⟩

/-- The record is the beat's. -/
theorem settled_incarnation
    (pool : Pool) (now ttl : Nat) (beat : Beat) (stateBytes : Nat) :
    (pool.seated now ttl beat stateBytes).member.incarnation = beat.incarnation := by
  unfold seated
  cases pool.members[beat.id]? with
  | none => rfl
  | some record =>
    simp only
    split_ifs with same
    · unfold renewed
      split_ifs <;> exact same
    · rfl

/-- Who is in the seat after a beat. -/
theorem settled_stored
    (pool : Pool) (now ttl : Nat) (beat : Beat) (stateBytes id : Nat) :
    (pool.settled now ttl beat stateBytes).stored id =
      if beat.id = id then if beat.leaving then none else some beat.incarnation
      else pool.stored id := by
  unfold stored settled
  by_cases same : beat.id = id
  · subst same
    cases beat.leaving with
    | true => simp
    | false => simp [settled_incarnation]
  · cases beat.leaving with
    | true => simp [ExtTreeMap.getElem?_erase, same]
    | false => simp [ExtTreeMap.getElem?_insert, same]

/-- Who has left after a beat. -/
theorem settled_gone
    (pool : Pool) (now ttl : Nat) (beat : Beat) (stateBytes id : Nat) :
    (pool.settled now ttl beat stateBytes).gone[id]? =
      if beat.id = id then
        if beat.leaving then some (beat.incarnation, now + ttl)
        else pool.gone[id]?
      else pool.gone[id]? := by
  unfold settled
  by_cases same : beat.id = id
  · subst same
    cases beat.leaving <;> simp
  · cases beat.leaving <;> simp [ExtTreeMap.getElem?_insert, same]

/-- The watermark after a beat. -/
theorem raise_watermark
    {admitted : Pool} (high : admitted.high = pool.high) (beat : Beat) (id : Nat) :
    (admitted.raise (pool.watermark beat.id) beat).watermark id =
      if beat.id = id then
        if beat.slot.isSome then max (pool.watermark id) beat.incarnation
        else pool.watermark id
      else pool.watermark id := by
  have unraised : admitted.watermark id = pool.watermark id := by
    simp only [watermark, high]
  unfold raise
  split_ifs with raised same slotted same slotted
  · subst same
    simp only [watermark, ExtTreeMap.getElem?_insert_self, Option.getD_some]
    exact (max_eq_right (Nat.le_of_lt raised.2)).symm
  · exact absurd raised.1 slotted
  · rw [← unraised]
    simp [watermark, ExtTreeMap.getElem?_insert, same]
  · subst same
    rw [unraised]
    have below : ¬ beat.incarnation > pool.watermark beat.id := fun above => raised ⟨slotted, above⟩
    exact (max_eq_left (Nat.le_of_not_lt below)).symm
  · exact unraised
  · exact unraised

/-- Enrolling, seat by seat. -/
theorem enroll_seat
    (pool : Pool) (now ttl : Nat) (beat : Beat) (stateBytes id : Nat) :
    ((pool.enroll now ttl beat stateBytes).1.raise (pool.watermark beat.id) beat).seat id =
      if beat.id = id then (pool.seat id).accept now ttl beat
      else pool.seat id := by
  have fields :
      (pool.enroll now ttl beat stateBytes).1.members =
          (pool.settled now ttl beat stateBytes).members ∧
        (pool.enroll now ttl beat stateBytes).1.gone = (pool.settled now ttl beat stateBytes).gone ∧
        (pool.enroll now ttl beat stateBytes).1.high = pool.high := by
    rw [enroll_eq]
    split <;> exact ⟨rfl, rfl, rfl⟩
  rcases fields with ⟨members, gone, high⟩
  have mark := raise_watermark high beat id
  have raisedMembers :
      ((pool.enroll now ttl beat stateBytes).1.raise (pool.watermark beat.id) beat).members =
        (pool.settled now ttl beat stateBytes).members := by
    rw [← members]
    unfold raise
    split <;> rfl
  have raisedGone :
      ((pool.enroll now ttl beat stateBytes).1.raise (pool.watermark beat.id) beat).gone =
        (pool.settled now ttl beat stateBytes).gone := by
    rw [← gone]
    unfold raise
    split <;> rfl
  have holder := settled_stored pool now ttl beat stateBytes id
  have departed := settled_gone pool now ttl beat stateBytes id
  simp only [stored] at holder
  simp only [seat, stored, mark, raisedMembers, raisedGone, holder, departed, Seat.accept]
  by_cases same : beat.id = id
  · simp [same]
  · simp [same]

/-- A beat, seat by seat. -/
theorem receive_seat
    (pool : Pool) (now ttl : Nat) (beat : Beat) (stateBytes id : Nat) :
    (pool.receive now ttl beat stateBytes).pool.seat id =
      if (pool.receive now ttl beat stateBytes).accepted = true ∧ beat.id = id then
        (pool.seat id).accept now ttl beat
      else pool.seat id := by
  rcases receive_cases pool now ttl beat stateBytes with
    ⟨why, _, exit⟩ | ⟨shaped, ok, _, exit⟩ | ⟨shaped, ok, _, exit⟩
  · simp [exit]
  · rcases shape_ok_fields ok with ⟨_, _, members, high, gone, _⟩
    simp [exit, seat_of_fields members high gone]
  · rcases shape_ok_fields ok with ⟨_, _, members, high, gone, _⟩
    simp [exit, enroll_seat, seat_of_fields members high gone]

/-- When a seat accepts a beat. -/
theorem receive_accepted_iff
    (pool : Pool) (now ttl : Nat) (beat : Beat) (stateBytes : Nat) :
    (pool.receive now ttl beat stateBytes).accepted = true ↔
      pool.Agrees beat ∧ (pool.seat beat.id).Admits beat := by
  rcases receive_cases pool now ttl beat stateBytes with
    ⟨why, refused, exit⟩ | ⟨shaped, ok, taken, exit⟩ |
      ⟨shaped, ok, free, exit⟩
  · rw [exit, ← shape_ok_iff, refused]
    simp
  · rcases shape_ok_fields ok with ⟨_, _, members, high, gone, _⟩
    rw [exit, ← seat_of_fields members high gone, admits_iff, taken]
    simp
  · rcases shape_ok_fields ok with ⟨_, _, members, high, gone, _⟩
    rw [exit, ← seat_of_fields members high gone, admits_iff, free, ← shape_ok_iff]
    simp [ok]

/-! ## One sweep -/

/-- A departure lets the seat fade. -/
theorem expire_fades (pool : Pool) (dropped id : Nat)
    (due : Nat → Prop) :
    (pool.seat id).Fades due ((pool.expire dropped).seat id) := by
  unfold expire
  cases present : pool.members[dropped]? with
  | none => exact Seat.Fades.refl due _
  | some record =>
    refine ⟨rfl, ?_, Or.inl rfl⟩
    simp only [seat, stored, bump_members, remove, ExtTreeMap.getElem?_erase]
    by_cases same : dropped = id
    · simp [same]
    · simp [same]

/-- Forgetting lets the seat fade. -/
theorem forget_fades
    (now : Nat) (alive : Bell → Bool) (pool : Pool) (id : Nat) :
    (pool.seat id).Fades (· ≤ now) ((pool.forget now alive).seat id) := by
  refine ⟨rfl, Or.inl rfl, ?_⟩
  simp only [seat, forget, ExtTreeMap.getElem?_filter]
  cases pool.gone[id]? with
  | none => exact Or.inl rfl
  | some goodbye =>
    by_cases kept : goodbye.2 > now
    · exact Or.inl (by simp [kept])
    · have past : goodbye.2 ≤ now := Nat.le_of_not_lt kept
      exact Or.inr ⟨by simp [past], goodbye, rfl, past⟩

theorem sweep_fades
    (order : IterationOrder) (now : Nat) (alive : Bell → Bool) (pool : Pool) (id : Nat) :
    (pool.seat id).Fades (· ≤ now) ((pool.sweep order now alive).seat id) := by
  unfold sweep
  refine List.foldlRecOn (pool.dead order now) expire
    (motive := fun state => (pool.seat id).Fades (· ≤ now) (state.seat id)) ?_ ?_
  · exact forget_fades now alive pool id
  · intro state fades dropped _
    have expired := expire_fades state dropped id (· ≤ now)
    exact fades.trans expired

end Pool

/-! ## Registry steps and runs -/

/-- A sweep at or after the instant `instant`. -/
def Event.Sweeps (event : Event) (instant : Nat) : Prop :=
  ∃ now order alive, event = .sweep now order alive ∧ instant ≤ now

namespace Registry

variable [FloatFormat]

theorem accepts_iff
    (registry : Registry) (now : Nat) (order : String → IterationOrder) (beat : Beat) :
    registry.accepts now order beat = true ↔
      (admissible beat).isSome = true ∧ (registry.pool beat.pool).Agrees beat ∧
        ((registry.pool beat.pool).seat beat.id).Admits beat := by
  rw [accepts_eq]
  cases admissible beat with
  | none => simp
  | some stateBytes => simp [Pool.receive_accepted_iff]

/-- The beat, if it is accepted. -/
def acceptedBeat (registry : Registry) (name : String) (id : Nat) : Event → Option (Nat × Beat)
  | .beat now order sent =>
    if sent.pool = name ∧ sent.id = id ∧ registry.accepts now order sent = true then
      some (now, sent)
    else none
  | _ => none

/-- All that are accepted. -/
def acceptedBeats (registry : Registry) (name : String) (id : Nat) : List Event → List (Nat × Beat)
  | [] => []
  | event :: rest =>
    (registry.acceptedBeat name id event).toList ++ (registry.step event).acceptedBeats name id rest

variable {registry : Registry} {name : String} {id now : Nat} {sent : Beat}

/-- What an accepted beat is. -/
theorem acceptedBeat_spec
    {event : Event} (accepted : registry.acceptedBeat name id event = some (now, sent)) :
    sent.pool = name ∧ sent.id = id ∧
      ∃ order, event = .beat now order sent ∧ registry.accepts now order sent = true := by
  cases event with
  | beat time order beat =>
    simp only [acceptedBeat] at accepted
    split_ifs at accepted with conditions
    cases accepted
    exact ⟨conditions.1, conditions.2.1, order, rfl, conditions.2.2⟩
  | sweep time order alive => cases accepted
  | query order beat => cases accepted
  | park watch bell => cases accepted

/-- Accepted beats are among the events. -/
theorem mem_acceptedBeats
    {events : List Event} (accepted : (now, sent) ∈ registry.acceptedBeats name id events) :
    sent.pool = name ∧ sent.id = id ∧ ∃ order, Event.beat now order sent ∈ events := by
  induction events generalizing registry with
  | nil => cases accepted
  | cons event rest hypothesis =>
    rw [acceptedBeats, List.mem_append, Option.mem_toList] at accepted
    rcases accepted with here | later
    · rcases acceptedBeat_spec here with ⟨pool, member, order, rfl, _⟩
      exact ⟨pool, member, order, List.mem_cons_self⟩
    · rcases hypothesis later with ⟨pool, member, order, listed⟩
      exact ⟨pool, member, order, List.mem_cons_of_mem _ listed⟩

/-- A step with a beat, seat by seat. -/
theorem step_beat_seat
    (registry : Registry) (now : Nat) (order : String → IterationOrder)
    (sent : Beat) (name : String) (id : Nat) :
    ((registry.step (.beat now order sent)).pool name).seat id =
      if sent.pool = name ∧ sent.id = id ∧ registry.accepts now order sent = true then
        ((registry.pool name).seat id).accept now registry.ttl sent
      else (registry.pool name).seat id := by
  have stepped := pool_beat registry now order sent name
  have decision := accepts_eq registry now order sent
  change (((registry.beatShared now order sent).registry.pool name).seat id) = _
  cases measured : admissible sent with
  | none =>
    rw [measured] at stepped decision
    rw [decision]
    simpa using Pool.seat_of_core stepped id
  | some stateBytes =>
    rw [measured] at stepped decision
    by_cases here : sent.pool = name
    · subst here
      simp only [if_true] at stepped
      have seat := Pool.receive_seat (registry.pool sent.pool) now registry.ttl sent stateBytes id
      rw [Pool.seat_of_core stepped id, seat, decision]
      simp only [true_and]
      simp only [and_comm]
    · simp only [here, if_false] at stepped
      rw [Pool.seat_of_core stepped id]
      simp [here]

/-- A step, seat by seat. -/
theorem step_seat
    (registry : Registry) (event : Event) (name : String) (id : Nat) :
    (∃ now sent,
      registry.acceptedBeat name id event = some (now, sent) ∧
        ((registry.pool name).seat id).Admits sent ∧
        ((registry.step event).pool name).seat id =
          ((registry.pool name).seat id).accept now registry.ttl sent) ∨
    registry.acceptedBeat name id event = none ∧
      ((registry.pool name).seat id).Fades event.Sweeps
        (((registry.step event).pool name).seat id) := by
  cases event with
  | sweep now order alive =>
    refine Or.inr ⟨rfl, ?_⟩
    have stepped := Pool.seat_of_core (pool_sweep registry now order alive name) id
    have fades := Pool.sweep_fades (order name) now alive (registry.pool name) id
    rw [← stepped] at fades
    refine fades.imp ?_
    intro instant past
    exact ⟨now, order, alive, rfl, past⟩
  | query order sent =>
    refine Or.inr ⟨rfl, ?_⟩
    have stepped := Pool.seat_of_core (step_core registry (.query order sent) name) id
    rw [stepped]
    exact Seat.Fades.refl _ _
  | park watch bell =>
    refine Or.inr ⟨rfl, ?_⟩
    have stepped := Pool.seat_of_core (step_core registry (.park watch bell) name) id
    rw [stepped]
    exact Seat.Fades.refl _ _
  | beat now order sent =>
    have stepped := step_beat_seat registry now order sent name id
    simp only [acceptedBeat]
    split_ifs at stepped ⊢ with accepted
    · refine Or.inl ⟨now, sent, rfl, ?_, stepped⟩
      rcases accepted with ⟨rfl, rfl, accepted⟩
      exact ((accepts_iff registry now order sent).mp accepted).2.2
    · refine Or.inr ⟨rfl, ?_⟩
      rw [stepped]
      exact Seat.Fades.refl _ _

/--
A property of a seat that survives every accepted beat and every fading of a
run holds at its end.
-/
theorem run_seat
    (property : Seat → Prop) (registry : Registry)
    (events : List Event) (name : String) (id : Nat)
    (accepts :
      ∀ now sent, (now, sent) ∈ registry.acceptedBeats name id events →
        ∀ seat : Seat, seat.Admits sent → property seat →
          property (seat.accept now registry.ttl sent))
    (fades :
      ∀ event ∈ events, ∀ seat next : Seat,
        seat.Fades event.Sweeps next → property seat → property next)
    (start : property ((registry.pool name).seat id)) :
    property (((registry.run events).pool name).seat id) := by
  induction events generalizing registry with
  | nil => exact start
  | cons event rest hypothesis =>
    refine hypothesis (registry.step event) ?_ ?_ ?_
    · intro now sent accepted
      rw [step_ttl]
      apply accepts
      rw [acceptedBeats]
      exact List.mem_append_right _ accepted
    · intro later member
      exact fades later (List.mem_cons_of_mem _ member)
    · rcases step_seat registry event name id with ⟨now, sent, accepted, admits, next⟩ | ⟨_, faded⟩
      · rw [next]
        apply accepts now sent _ _ admits start
        rw [acceptedBeats, accepted]
        exact List.mem_append_left _ (List.mem_singleton_self _)
      · exact fades event List.mem_cons_self _ _ faded start

/-- The run around an accepted beat. -/
theorem acceptedBeats_split
    {events : List Event} {before after : List (Nat × Beat)}
    (accepted : registry.acceptedBeats name id events = before ++ (now, sent) :: after) :
    ∃ prior event later,
      events = prior ++ event :: later ∧
        (registry.run prior).acceptedBeat name id event = some (now, sent) ∧
        ((registry.run prior).step event).acceptedBeats name id later = after := by
  induction events generalizing registry before with
  | nil => simp [acceptedBeats] at accepted
  | cons event rest hypothesis =>
    rw [acceptedBeats] at accepted
    cases first : registry.acceptedBeat name id event with
    | none =>
      rw [first] at accepted
      rcases hypothesis accepted with ⟨prior, split, later, rfl, here, remaining⟩
      exact ⟨event :: prior, split, later, rfl, here, remaining⟩
    | some head =>
      rw [first] at accepted
      cases before with
      | nil =>
        cases accepted
        exact ⟨[], event, rest, rfl, first, rfl⟩
      | cons earlier others =>
        rw [Option.toList_some, List.singleton_append,
          List.cons_append, List.cons.injEq] at accepted
        rcases hypothesis accepted.2 with ⟨prior, split, later, rfl, here, remaining⟩
        exact ⟨event :: prior, split, later, rfl, here, remaining⟩

end Registry

end Tinyray
