import Mathlib.Order.Bounds.Basic
import Tinyray.Registry.Roster
import Tinyray.Registry.Seat

/-!
# Publications

A member numbers what it publishes, and a record is overwritten only by a
higher number.  So while a record stays in its seat it shows the highest
number that was accepted, in whatever order the beats came in.

Contents are compared as the handler compares them: a record keeps its state
if the incoming one is equal as a JSON value.
-/

namespace Tinyray

open Std Foundation

/-- What one publication number stands for. -/
structure Content where
  url : Option String
  state : Value
  ready : Bool

/-- What a beat publishes. -/
def Beat.content (beat : Beat) : Content where
  url := beat.url
  state := beat.state
  ready := beat.ready

namespace Record

/-- The record shows this. -/
structure Carries (record : Record) (content : Content) : Prop where
  url : record.member.url = content.url
  state : (record.member.state == content.state) = true
  ready : record.member.ready = content.ready

/-- It shows this publication. -/
structure StandsAt (means : Nat → Content → Prop) (record : Record)
    (number : Nat) : Prop where
  publication : record.publication = some number
  carries : ∃ content, means number content ∧ record.Carries content

end Record

/-- The beat brings this publication. -/
structure Beat.Brings (means : Nat → Content → Prop) (beat : Beat)
    (number : Nat) : Prop where
  publication : beat.publication = some number
  content : means number beat.content

namespace Pool

variable {means : Nat → Content → Prop}

/-! ## One beat -/

variable {beat : Beat} {incoming : Nat}

theorem carries_of_not_differs
    {record : Record} (same : differs record beat = false) :
    record.Carries beat.content := by
  simp only [differs, Bool.or_eq_false_iff, bne_eq_false_iff_eq] at same
  rcases same with ⟨⟨url, state⟩, ready⟩
  refine ⟨url, ?_, ready⟩
  simpa [bne, Beat.content] using state

/-- The later publication is shown. -/
theorem renewed_standsAt
    {record : Record} {held : Nat} (stands : record.StandsAt means held)
    (brings : beat.Brings means incoming) (now ttl stateBytes : Nat) :
    (renewed record now ttl beat stateBytes).StandsAt means (max held incoming) := by
  unfold renewed
  rw [stands.publication, brings.publication]
  by_cases higher : held < incoming
  · rw [max_eq_right higher.le]
    have isNewer : newer (some held) (some incoming) = true := by
      simpa [newer] using higher
    rw [if_pos isNewer]
    cases changed : differs record beat with
    | true =>
      exact ⟨rfl, _, brings.content, rfl, Value.eq_refl beat.state, rfl⟩
    | false =>
      have carries := carries_of_not_differs changed
      exact ⟨rfl, _, brings.content, carries.url, carries.state, carries.ready⟩
  · have stale : ¬ newer (some held) (some incoming) = true := by
      simpa [newer] using higher
    rw [if_neg stale, max_eq_left (Nat.le_of_not_lt higher)]
    rcases stands.carries with ⟨content, meant, carries⟩
    exact ⟨rfl, content, meant, carries.url, carries.state, carries.ready⟩

/-- A new tenure shows its first. -/
theorem seated_standsAt_fresh
    {pool : Pool} (brings : beat.Brings means incoming)
    (vacant :
      ∀ record, pool.members[beat.id]? = some record → record.member.incarnation ≠ beat.incarnation)
    (now ttl stateBytes : Nat) :
    (pool.seated now ttl beat stateBytes).StandsAt means incoming := by
  have fresh :
      ∀ record : Record, record.member = memberOf beat →
        record.publication = beat.publication → record.StandsAt means incoming := by
    intro record member publication
    refine ⟨publication.trans brings.publication, _, brings.content, ?_, ?_, ?_⟩
    · rw [member]
      rfl
    · rw [member]
      exact Value.eq_refl beat.state
    · rw [member]
      rfl
  unfold seated
  cases present : pool.members[beat.id]? with
  | none => exact fresh _ rfl rfl
  | some record =>
    simp only [vacant record present, if_false]
    exact fresh _ rfl rfl

theorem seated_standsAt_renewed
    {pool : Pool} {record : Record} {held : Nat} (present : pool.members[beat.id]? = some record)
    (same : record.member.incarnation = beat.incarnation) (stands : record.StandsAt means held)
    (brings : beat.Brings means incoming) (now ttl stateBytes : Nat) :
    (pool.seated now ttl beat stateBytes).StandsAt means (max held incoming) := by
  unfold seated
  simp only [present, same, if_true]
  exact renewed_standsAt stands brings now ttl stateBytes

/-- The records after a beat. -/
theorem receive_record
    (pool : Pool) (now ttl : Nat) (beat : Beat) (stateBytes id : Nat) :
    (pool.receive now ttl beat stateBytes).pool.members[id]? =
      if (pool.receive now ttl beat stateBytes).accepted = true ∧ beat.id = id then
        if beat.leaving then none
        else some (pool.seated now ttl beat stateBytes)
      else pool.members[id]? := by
  rcases receive_cases pool now ttl beat stateBytes with
    ⟨why, _, exit⟩ | ⟨shaped, ok, _, exit⟩ | ⟨shaped, ok, _, exit⟩
  · simp [exit]
  · rcases shape_ok_fields ok with ⟨_, _, members, _⟩
    simp [exit, members]
  · rcases shape_ok_fields ok with ⟨_, _, members, _⟩
    have raised : ∀ (other : Pool) mark, (other.raise mark beat).members = other.members := by
      intro other mark
      unfold raise
      split <;> rfl
    have enrolled :
        (shaped.enroll now ttl beat stateBytes).1.members =
          (shaped.settled now ttl beat stateBytes).members := by
      rw [enroll_eq]
      split <;> rfl
    have seatedEq :
        shaped.seated now ttl beat stateBytes = pool.seated now ttl beat stateBytes := by
      simp only [seated, members]
    rw [exit]
    simp only [raised, enrolled, true_and]
    by_cases same : beat.id = id
    · subst same
      cases leaving : beat.leaving with
      | true => simp [settled, leaving]
      | false => simp [settled, leaving, seatedEq]
    · rw [settled_members_other _ _ _ _ _ (Ne.symm same), members]
      simp [same]

/-- The records after departures. -/
theorem getElem?_foldl_expire (ids : List Nat) (pool : Pool) (id : Nat) :
    (ids.foldl expire pool).members[id]? = if id ∈ ids then none else pool.members[id]? := by
  induction ids generalizing pool with
  | nil => simp
  | cons dropped rest hypothesis =>
    have expired : (pool.expire dropped).members = pool.members.erase dropped := by
      unfold expire
      cases present : pool.members[dropped]? with
      | none => exact (erase_of_absent present).symm
      | some record => rfl
    rw [List.foldl_cons, hypothesis, expired]
    simp only [ExtTreeMap.getElem?_erase, Std.compare_eq_iff_eq]
    by_cases later : id ∈ rest
    · simp [later]
    · by_cases same : dropped = id
      · simp [same]
      · simp [later, same, Ne.symm same]

theorem mem_dead
    (order : IterationOrder) (now : Nat) (pool : Pool) (id : Nat) :
    id ∈ pool.dead order now ↔
      ∃ record, pool.members[id]? = some record ∧ record.expiresAt ≤ now := by
  simp only [dead, List.mem_filter, (order.perm _).mem_iff,
    ExtTreeMap.mem_keys, ← ExtTreeMap.isSome_getElem?_iff_mem]
  cases pool.members[id]? <;> simp

/-- The records after a sweep. -/
theorem sweep_record
    (order : IterationOrder) (now : Nat) (alive : Bell → Bool) (pool : Pool) (id : Nat) :
    (pool.sweep order now alive).members[id]? =
      pool.members[id]?.filter fun record => now < record.expiresAt := by
  have listed := mem_dead order now pool id
  have kept : (pool.forget now alive).members = pool.members := rfl
  rw [sweep, getElem?_foldl_expire, kept]
  cases present : pool.members[id]? with
  | none => simp
  | some record =>
    simp only [present, Option.some.injEq, exists_eq_left'] at listed
    by_cases expired : record.expiresAt ≤ now
    · simp [Option.filter, listed.mpr expired, Nat.not_lt.mpr expired]
    · simp [Option.filter, mt listed.mp expired, Nat.lt_of_not_le expired]

end Pool

/-! ## One step of the registry -/

/-- One tenure of a seat. -/
structure Tenure where
  pool : String
  id : Nat
  incarnation : Nat
deriving DecidableEq

/-- The tenure that sends it. -/
def Beat.tenure (beat : Beat) : Tenure where
  pool := beat.pool
  id := beat.id
  incarnation := beat.incarnation

namespace Registry

/-- The record of a tenure, while it holds its seat. -/
def record (registry : Registry) (tenure : Tenure) : Option Record :=
  ((registry.pool tenure.pool).members[tenure.id]?).filter fun record =>
    record.member.incarnation == tenure.incarnation

variable {registry : Registry} {sent : Beat} {incoming held : Nat}
  {events : List Event} {event : Event}

theorem record_eq_some_iff {tenure : Tenure} {record : Record} :
    registry.record tenure = some record ↔
      (registry.pool tenure.pool).members[tenure.id]? = some record ∧
        record.member.incarnation = tenure.incarnation := by
  simp [Registry.record, Option.filter_eq_some_iff]

theorem incarnation_ne_of_record_eq_none
    {tenure : Tenure} (vacant : registry.record tenure = none) {record : Record}
    (present : (registry.pool tenure.pool).members[tenure.id]? = some record) :
    record.member.incarnation ≠ tenure.incarnation := by
  intro same
  have held := record_eq_some_iff.mpr ⟨present, same⟩
  rw [vacant] at held
  cases held

variable {means : Nat → Content → Prop}

theorem seated_standsAt_of_vacant
    (brings : sent.Brings means incoming) (vacant : registry.record sent.tenure = none)
    (now ttl stateBytes : Nat) :
    ((registry.pool sent.pool).seated now ttl sent stateBytes).StandsAt means incoming := by
  apply Pool.seated_standsAt_fresh brings
  intro record present
  exact incarnation_ne_of_record_eq_none vacant present

theorem seated_standsAt_of_held
    {record : Record} (present : registry.record sent.tenure = some record)
    (stands : record.StandsAt means held)
    (brings : sent.Brings means incoming) (now ttl stateBytes : Nat) :
    ((registry.pool sent.pool).seated now ttl sent stateBytes).StandsAt
      means (max held incoming) := by
  rw [record_eq_some_iff] at present
  exact Pool.seated_standsAt_renewed present.1 present.2 stands brings now ttl stateBytes

/-- Every beat of a tenure brings a number and what it means. -/
def Numbered (means : Nat → Content → Prop) (tenure : Tenure)
    (events : List Event) : Prop :=
  ∀ now order sent, Event.beat now order sent ∈ events →
    sent.tenure = tenure → ∃ number, sent.Brings means number

theorem Numbered.of_subset
    {tenure : Tenure} {more : List Event}
    (numbered : Numbered means tenure more) (subset : events ⊆ more) :
    Numbered means tenure events :=
  fun now order sent listed => numbered now order sent (subset listed)

variable [FloatFormat]

/-- The records after a step. -/
theorem step_beat_record
    (registry : Registry) (now : Nat) (order : String → IterationOrder)
    (sent : Beat) (name : String) (id : Nat) :
    ∃ stateBytes,
      ((registry.step (.beat now order sent)).pool name).members[id]? =
        if sent.pool = name ∧ sent.id = id ∧ registry.accepts now order sent = true then
          if sent.leaving then none
          else some ((registry.pool name).seated now registry.ttl sent stateBytes)
        else (registry.pool name).members[id]? := by
  have stepped := pool_beat registry now order sent name
  have decision := accepts_eq registry now order sent
  change ∃ stateBytes, ((registry.beatShared now order sent).registry.pool name).members[id]? = _
  cases measured : admissible sent with
  | none =>
    rw [measured] at stepped decision
    have members := congrArg Pool.members stepped
    simp only [Pool.core_members] at members
    refine ⟨0, ?_⟩
    rw [members, decision]
    simp
  | some stateBytes =>
    rw [measured] at stepped decision
    have members := congrArg Pool.members stepped
    simp only at members
    refine ⟨stateBytes, ?_⟩
    by_cases here : sent.pool = name
    · subst here
      simp only [if_true, Pool.core_members] at members
      rw [members, Pool.receive_record, decision]
      simp only [true_and, and_comm]
    · simp only [here, if_false, Pool.core_members] at members
      rw [members]
      simp [here]

/--
The record of a tenure after a step was there before, or is what an accepted
beat of the tenure left.
-/
theorem step_record
    {tenure : Tenure} {record : Record}
    (held : (registry.step event).record tenure = some record) :
    (registry.acceptedBeat tenure.pool tenure.id event = none ∧
      registry.record tenure = some record) ∨
    ∃ now sent stateBytes,
      registry.acceptedBeat tenure.pool tenure.id event = some (now, sent) ∧ sent.tenure = tenure ∧
        record =
          (registry.pool tenure.pool).seated now registry.ttl sent
            stateBytes := by
  rw [record_eq_some_iff] at held
  rcases held with ⟨present, incarnation⟩
  cases event with
  | beat now order sent =>
    rcases step_beat_record registry now order sent tenure.pool tenure.id with ⟨stateBytes, stepped⟩
    rw [stepped] at present
    simp only [acceptedBeat]
    split_ifs at present ⊢ with accepted leaving
    · cases present
      rw [Pool.settled_incarnation] at incarnation
      refine Or.inr ⟨now, sent, stateBytes, rfl, ?_, rfl⟩
      simp only [Beat.tenure, accepted.1, accepted.2.1, incarnation]
    · exact Or.inl ⟨rfl, record_eq_some_iff.mpr ⟨present, incarnation⟩⟩
  | sweep now order alive =>
    refine Or.inl ⟨rfl, record_eq_some_iff.mpr ⟨?_, incarnation⟩⟩
    have members := congrArg Pool.members (pool_sweep registry now order alive tenure.pool)
    simp only [Pool.core_members] at members
    change
      ((registry.sweep now order alive).registry.pool
        tenure.pool).members[tenure.id]? = some record at present
    rw [members, Pool.sweep_record, Option.filter_eq_some_iff] at present
    exact present.1
  | query order sent =>
    have members := congrArg Pool.members (step_core registry (.query order sent) tenure.pool)
    simp only [Event.at, Pool.core_members] at members
    rw [members] at present
    exact Or.inl ⟨rfl, record_eq_some_iff.mpr ⟨present, incarnation⟩⟩
  | park watch bell =>
    have members := congrArg Pool.members (step_core registry (.park watch bell) tenure.pool)
    simp only [Event.at, Pool.core_members] at members
    rw [members] at present
    exact Or.inl ⟨rfl, record_eq_some_iff.mpr ⟨present, incarnation⟩⟩

/-! ## Runs -/

theorem Numbered.brings
    {tenure : Tenure} (numbered : Numbered means tenure events)
    (listed : event ∈ events) {now : Nat}
    (accepted : registry.acceptedBeat tenure.pool tenure.id event = some (now, sent))
    (own : sent.tenure = tenure) :
    ∃ number, sent.Brings means number := by
  rcases acceptedBeat_spec accepted with ⟨_, _, order, rfl, _⟩
  exact numbered now order sent listed own

/-- The publications accepted so far. -/
def acceptedNumbers (registry : Registry) (tenure : Tenure)
    (events : List Event) : Set Nat :=
  {number | ∃ now sent,
    (now, sent) ∈ registry.acceptedBeats tenure.pool tenure.id events ∧
      sent.publication = some number}

theorem acceptedNumbers_nil (registry : Registry) (tenure : Tenure) :
    registry.acceptedNumbers tenure [] = ∅ := by
  ext number
  simp [acceptedNumbers, acceptedBeats]

theorem acceptedNumbers_cons_none
    {tenure : Tenure} (refused : registry.acceptedBeat tenure.pool tenure.id event = none)
    (rest : List Event) :
    registry.acceptedNumbers tenure (event :: rest) =
      (registry.step event).acceptedNumbers tenure rest := by
  ext number
  simp [acceptedNumbers, acceptedBeats, refused]

/-- One more publication is accepted. -/
theorem acceptedNumbers_cons_some
    {tenure : Tenure} {now : Nat}
    (accepted : registry.acceptedBeat tenure.pool tenure.id event = some (now, sent))
    (publication : sent.publication = some incoming) (rest : List Event) :
    registry.acceptedNumbers tenure (event :: rest) =
      insert incoming ((registry.step event).acceptedNumbers tenure rest) := by
  ext number
  simp only [acceptedNumbers, acceptedBeats, accepted,
    Option.toList_some, List.singleton_append, List.mem_cons,
    Set.mem_ofPred_eq, Set.mem_insert_iff, Prod.mk.injEq]
  constructor
  · rintro ⟨time, beat, ⟨rfl, rfl⟩ | listed, shown⟩
    · rw [publication] at shown
      exact Or.inl (Option.some.inj shown).symm
    · exact Or.inr ⟨time, beat, listed, shown⟩
  · rintro (rfl | ⟨time, beat, listed, shown⟩)
    · exact ⟨now, sent, Or.inl ⟨rfl, rfl⟩, publication⟩
    · exact ⟨time, beat, Or.inr listed, shown⟩

omit [FloatFormat] in
/-- The greater of two can be split. -/
theorem isGreatest_insert_max
    {numbers : Set Nat} {highest : Nat}
    (greatest : IsGreatest (insert (max held incoming) numbers) highest) :
    IsGreatest (insert held (insert incoming numbers)) highest := by
  rcases greatest with ⟨reached, bound⟩
  have both := bound (Set.mem_insert _ _)
  refine ⟨?_, ?_⟩
  · rcases reached with rfl | reached
    · rcases le_total held incoming with higher | lower
      · exact Or.inr (Or.inl (max_eq_right higher))
      · exact Or.inl (max_eq_left lower)
    · exact Or.inr (Or.inr reached)
  · rintro number (rfl | rfl | listed)
    · exact (le_max_left _ _).trans both
    · exact (le_max_right _ _).trans both
    · exact bound (Set.mem_insert_of_mem _ listed)

/-- The tenure holds its seat at every point of a run. -/
def Stays (registry : Registry) (tenure : Tenure)
    (events : List Event) : Prop :=
  ∀ prior rest, events = prior ++ rest → ((registry.run prior).record tenure).isSome = true

theorem Stays.now
    {tenure : Tenure} (stays : registry.Stays tenure events) :
    ∃ record, registry.record tenure = some record :=
  Option.isSome_iff_exists.mp (stays [] events rfl)

theorem Stays.step
    {tenure : Tenure} {rest : List Event} (stays : registry.Stays tenure (event :: rest)) :
    (registry.step event).Stays tenure rest := by
  intro prior later split
  exact stays (event :: prior) later (by rw [split, List.cons_append])

/--
A record that is never dropped moves to the highest number accepted
meanwhile.
-/
theorem stays_standsAt
    {tenure : Tenure} (numbered : Numbered means tenure events)
    (stays : registry.Stays tenure events) {record : Record}
    (present : registry.record tenure = some record) (stands : record.StandsAt means held) :
    ∃ last highest,
      (registry.run events).record tenure = some last ∧ last.StandsAt means highest ∧
        IsGreatest
          (insert held (registry.acceptedNumbers tenure events))
          highest := by
  induction events generalizing registry record held with
  | nil =>
    refine ⟨record, held, present, stands, ?_⟩
    rw [acceptedNumbers_nil, insert_empty_eq]
    exact isGreatest_singleton
  | cons event rest hypothesis =>
    have remaining := numbered.of_subset (List.subset_cons_self event rest)
    rcases stays.step.now with ⟨next, after⟩
    rcases step_record after with
      ⟨refused, same⟩ |
        ⟨now, sent, stateBytes, accepted, rfl, rfl⟩
    · rw [present] at same
      cases same
      rw [acceptedNumbers_cons_none refused]
      exact hypothesis remaining stays.step after stands
    · rcases numbered.brings List.mem_cons_self accepted rfl with ⟨incoming, brings⟩
      rcases hypothesis remaining stays.step after
          (seated_standsAt_of_held present stands brings now _ _) with
        ⟨last, highest, final, shows, greatest⟩
      refine ⟨last, highest, final, shows, ?_⟩
      rw [acceptedNumbers_cons_some accepted brings.publication]
      exact isGreatest_insert_max greatest

/-- A new record shows the greatest. -/
theorem created_standsAt
    {tenure : Tenure} {now : Nat} {later : List Event}
    (numbered : Numbered means tenure (event :: later)) (vacant : registry.record tenure = none)
    (accepted : registry.acceptedBeat tenure.pool tenure.id event = some (now, sent))
    (stays : (registry.step event).Stays tenure later) :
    ∃ last highest,
      ((registry.step event).run later).record tenure = some last ∧ last.StandsAt means highest ∧
        IsGreatest (registry.acceptedNumbers tenure (event :: later))
          highest := by
  rcases stays.now with ⟨record, present⟩
  rcases step_record present with ⟨refused, _⟩ | ⟨time, beat, stateBytes, again, own, rfl⟩
  · rw [accepted] at refused
    cases refused
  · rw [accepted] at again
    cases again
    subst own
    rcases numbered.brings List.mem_cons_self accepted rfl with ⟨incoming, brings⟩
    rw [acceptedNumbers_cons_some accepted brings.publication]
    exact
      stays_standsAt
        (numbered.of_subset (List.subset_cons_self event later)) stays
        present (seated_standsAt_of_vacant brings vacant now _ _)

/-- What was accepted is shown, or later. -/
theorem accepted_standsAt
    {tenure : Tenure} {now : Nat} {record : Record} (brings : sent.Brings means incoming)
    (start : ∀ held, registry.record tenure = some held → ∃ number, held.StandsAt means number)
    (accepted : registry.acceptedBeat tenure.pool tenure.id event = some (now, sent))
    (present : (registry.step event).record tenure = some record) :
    ∃ number, record.StandsAt means number ∧ incoming ≤ number := by
  rcases step_record present with ⟨refused, _⟩ | ⟨time, beat, stateBytes, again, own, rfl⟩
  · rw [accepted] at refused
    cases refused
  · rw [accepted] at again
    cases again
    subst own
    cases before : registry.record sent.tenure with
    | none =>
      exact ⟨incoming, seated_standsAt_of_vacant brings before now _ _, le_rfl⟩
    | some held =>
      rcases start held before with ⟨number, stands⟩
      exact
        ⟨max number incoming, seated_standsAt_of_held before stands brings now _ _,
          le_max_right _ _⟩

/-- A run keeps records at publications. -/
theorem run_standsAt
    {tenure : Tenure} (numbered : Numbered means tenure events)
    (start :
      ∀ record, registry.record tenure = some record → ∃ number, record.StandsAt means number)
    {record : Record}
    (present : (registry.run events).record tenure = some record) :
    ∃ number, record.StandsAt means number := by
  induction events generalizing registry with
  | nil => exact start record present
  | cons event rest hypothesis =>
    refine
      hypothesis
        (numbered.of_subset (List.subset_cons_self event rest)) ?_
        present
    intro next after
    rcases step_record after with ⟨_, same⟩ | ⟨now, sent, stateBytes, accepted, own, _⟩
    · exact start next same
    · rcases numbered.brings List.mem_cons_self accepted own with ⟨incoming, brings⟩
      rcases accepted_standsAt brings start accepted after with ⟨number, stands, _⟩
      exact ⟨number, stands⟩

end Registry

end Tinyray
