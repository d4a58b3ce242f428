import Tinyray.Registry.Seat

/-!
# Fencing and goodbyes

A seat never goes back to an earlier tenure, and a goodbye holds for one
lease.  Both are invariants of the seat machine, carried through a run by
`Registry.run_seat`.
-/

namespace Tinyray

open Std Foundation

/-! ## Invariants of a seat -/

namespace Seat

theorem le_accept_watermark (seat : Seat) (now ttl : Nat) (beat : Beat) :
    seat.watermark ≤ (seat.accept now ttl beat).watermark := by
  unfold accept
  simp only
  split
  · exact Nat.le_max_left _ _
  · exact Nat.le_refl _

/-- Neither the mark nor the holder is beyond a tenure. -/
structure Within (tenure : Nat) (seat : Seat) : Prop where
  watermark : seat.watermark ≤ tenure
  holder : ∀ current ∈ seat.holder, current ≤ tenure

/-- A beat not later keeps the bound. -/
theorem Within.accept
    {tenure : Nat} {seat : Seat} (within : seat.Within tenure)
    (now ttl : Nat) {beat : Beat} (bounded : beat.incarnation ≤ tenure) :
    (seat.accept now ttl beat).Within tenure := by
  constructor
  · unfold Seat.accept
    simp only
    split
    · exact max_le within.watermark bounded
    · exact within.watermark
  · intro current held
    unfold Seat.accept at held
    cases leaving : beat.leaving with
    | true => simp [leaving] at held
    | false =>
      simp only [leaving, Bool.false_eq_true, if_false, Option.mem_def, Option.some.injEq] at held
      rw [← held]
      exact bounded

variable {tenure : Nat} {due : Nat → Prop} {seat next : Seat} {beat : Beat}

theorem Within.fade
    (within : seat.Within tenure) (fades : seat.Fades due next) :
    next.Within tenure := by
  constructor
  · rw [fades.watermark]
    exact within.watermark
  · intro current held
    exact within.holder current (fades.holder_le held)

theorem Admits.within
    (admits : seat.Admits beat) (now ttl : Nat) :
    (seat.accept now ttl beat).Within beat.incarnation := by
  rcases admits with ⟨_, _, mark, holder⟩
  have before : seat.Within beat.incarnation := ⟨mark, holder⟩
  exact before.accept now ttl (Nat.le_refl _)

/-- Every goodbye that is remembered came from an earlier tenure. -/
def Rejoinable (tenure : Nat) (seat : Seat) : Prop := ∀ goodbye ∈ seat.departed, goodbye.1 < tenure

theorem Rejoinable.fade
    (rejoinable : seat.Rejoinable tenure) (fades : seat.Fades due next) :
    next.Rejoinable tenure :=
  fun goodbye remembered => rejoinable goodbye (fades.departed_le remembered)

/-- It can still come back. -/
theorem Rejoinable.accept
    {tenure : Nat} {seat : Seat} (rejoinable : seat.Rejoinable tenure)
    (now ttl : Nat) {beat : Beat} (earlier : beat.leaving = true → beat.incarnation < tenure) :
    (seat.accept now ttl beat).Rejoinable tenure := by
  intro goodbye remembered
  unfold Seat.accept at remembered
  cases leaving : beat.leaving with
  | true =>
    simp only [leaving, if_true, Option.mem_def, Option.some.injEq] at remembered
    rw [← remembered]
    exact earlier leaving
  | false =>
    simp only [leaving, Bool.false_eq_true, if_false] at remembered
    exact rejoinable goodbye remembered

theorem Within.admits
    (within : seat.Within beat.incarnation) (shared : beat.exclusive = false)
    (rejoins : beat.leaving = false → seat.Rejoinable beat.incarnation) :
    seat.Admits beat := by
  refine ⟨?_, rejoins, within.watermark, within.holder⟩
  rw [shared]
  intro exclusive
  cases exclusive

end Seat

namespace Registry

variable [FloatFormat]

/-! ## Tenures only grow -/

/--
Once a beat with a slot was accepted, no earlier tenure gets the seat again,
whatever happens in between.
-/
theorem seat_never_goes_back
    (registry : Registry) (now later : Nat) (order order' : String → IterationOrder)
    (beat late : Beat) (between : List Event) (slotted : beat.slot.isSome = true)
    (accepted : registry.accepts now order beat = true)
    (samePool : late.pool = beat.pool) (sameId : late.id = beat.id)
    (earlier : late.incarnation < beat.incarnation) :
    ((registry.step (.beat now order beat)).run between).accepts later order' late = false := by
  have marked :
      beat.incarnation ≤
        (((registry.step (.beat now order beat)).pool beat.pool).seat beat.id).watermark := by
    rw [step_beat_seat, if_pos ⟨rfl, rfl, accepted⟩]
    simp only [Seat.accept, slotted, if_true]
    exact Nat.le_max_right _ _
  have stillMarked :=
    run_seat (fun seat => beat.incarnation ≤ seat.watermark)
      (registry.step (.beat now order beat)) between beat.pool beat.id
      (fun time sent _ seat _ kept => kept.trans (seat.le_accept_watermark time _ sent))
      (fun event _ seat next fades kept => by
        rw [fades.watermark]
        exact kept)
      marked
  rw [Bool.eq_false_iff]
  intro again
  rcases (accepts_iff _ later order' late).mp again with ⟨_, _, _, _, mark, _⟩
  rw [samePool, sameId] at mark
  exact absurd (stillMarked.trans mark) (Nat.not_le_of_lt earlier)

omit [FloatFormat] in
/-- The seat has been empty since, and swept. -/
theorem seat_never_goes_back_swept :
    letI := FloatFormat.widest
    ((((Registry.new 1000 8).step
          (.beat 0 (fun _ => .ascending)
            { pool := "p", slot := some 0, id := 0, incarnation := 2 })).run
        [.beat 10 (fun _ => .ascending)
            { pool := "p", slot := some 0, id := 0, incarnation := 2, leaving := true },
          .sweep 5000 (fun _ => .ascending) (fun _ => false)]).accepts
      5001 (fun _ => .ascending)
      { pool := "p", slot := some 0, id := 0, incarnation := 1 }) = false := by
  let := FloatFormat.widest
  exact seat_never_goes_back (Registry.new 1000 8) 0 5001 _ _ _ _ _
    rfl (by decide) rfl rfl (by decide)

end Registry

/-! ## Goodbyes -/

/-- When a step read the clock. -/
def Event.instant : Event → Option Nat
  | .beat now _ _ => some now
  | .sweep now _ _ => some now
  | .query _ _ => none
  | .park _ _ => none

/--
A monotone clock.  A beat reads it under the lock, so later than every step
before it; a sweep reads it before it takes the lock.
-/
def MonotoneClock (events : List Event) : Prop :=
  events.Pairwise fun earlier later =>
    later.isBeat = true → ∀ before ∈ earlier.instant, ∀ after ∈ later.instant, before ≤ after

/-- Instants between two beats. -/
theorem MonotoneClock.around
    {before between : List Event} {now later : Nat}
    {order order' : String → IterationOrder} {beat late : Beat}
    (clock :
      MonotoneClock (before ++ .beat now order beat :: (between ++ [.beat later order' late]))) :
    (∀ time order sent, Event.beat time order sent ∈ between → now ≤ time) ∧
    ∀ event ∈ between, ∀ instant ∈ event.instant, instant ≤ later := by
  have tail := (List.pairwise_append.mp clock).2.1
  rcases List.pairwise_cons.mp tail with ⟨afterBeat, rest⟩
  have beforeLate := (List.pairwise_append.mp rest).2.2
  constructor
  · intro time order sent member
    exact afterBeat _ (List.mem_append_left _ member) rfl now rfl time rfl
  · intro event member instant read
    exact beforeLate event member _ (List.mem_singleton_self _) rfl instant read later rfl

/-- Every beat of a seat has the property. -/
def AllBeats (name : String) (id : Nat) (property : Beat → Prop)
    (events : List Event) : Prop :=
  ∀ now order sent, Event.beat now order sent ∈ events →
    sent.pool = name → sent.id = id → property sent

namespace Seat

/-- A goodbye of a tenure or a later one is remembered up to an instant. -/
def Parted (tenure deadline : Nat) (seat : Seat) : Prop :=
  ∃ goodbye ∈ seat.departed, tenure ≤ goodbye.1 ∧ deadline ≤ goodbye.2

variable {tenure deadline : Nat} {seat : Seat}

theorem Parted.refuses
    (parted : seat.Parted tenure deadline) {beat : Beat} (staying : beat.leaving = false)
    (bounded : beat.incarnation ≤ tenure) :
    ¬ seat.Admits beat := by
  rintro ⟨_, straggler, _⟩
  rcases parted with ⟨goodbye, remembered, later, _⟩
  have before := straggler staying goodbye remembered
  exact absurd (bounded.trans later) (Nat.not_le_of_lt before)

/-- A later tenure keeps it parted. -/
theorem Parted.accept
    {tenure deadline : Nat} {seat : Seat} (parted : seat.Parted tenure deadline)
    {now ttl : Nat} {beat : Beat} (later : tenure ≤ beat.incarnation)
    (renews : deadline ≤ now + ttl) :
    (seat.accept now ttl beat).Parted tenure deadline := by
  cases leaving : beat.leaving with
  | true =>
    refine ⟨(beat.incarnation, now + ttl), ?_, later, renews⟩
    simp [Seat.accept, leaving]
  | false =>
    rcases parted with ⟨goodbye, remembered, kept⟩
    refine ⟨goodbye, ?_, kept⟩
    simpa [Seat.accept, leaving] using remembered

/-- Nothing fades before its time. -/
theorem Parted.fade
    {due : Nat → Prop} {next : Seat}
    (parted : seat.Parted tenure deadline) (fades : seat.Fades due next)
    (notDue : ∀ instant, deadline ≤ instant → ¬ due instant) :
    next.Parted tenure deadline := by
  rcases parted with ⟨goodbye, remembered, later, lasts⟩
  rcases fades.departed with same | ⟨_, dropped, was, wasDue⟩
  · refine ⟨goodbye, ?_, later, lasts⟩
    rw [same]
    exact remembered
  · have equality : dropped = goodbye := Option.some.inj (was.symm.trans remembered)
    subst equality
    exact absurd wasDue (notDue dropped.2 lasts)

end Seat

namespace Registry

variable [FloatFormat]

/-- It stays parted after its goodbye. -/
theorem parted_after_goodbye
    (registry : Registry) (deadline : Nat) {now : Nat}
    {order : String → IterationOrder} {beat : Beat} (between : List Event)
    (leaving : beat.leaving = true) (accepted : registry.accepts now order beat = true)
    (fenced :
      ∀ time sent,
        (time, sent) ∈
            (registry.step (.beat now order beat)).acceptedBeats beat.pool beat.id between →
          now ≤ time ∧ (sent.incarnation = beat.incarnation ∨ beat.slot.isSome = true))
    (timely : ∀ event ∈ between, ∀ instant, deadline ≤ instant → ¬ event.Sweeps instant)
    (lease : deadline ≤ now + registry.ttl) :
    (((registry.step (.beat now order beat)).run between).pool
      beat.pool).seat beat.id |>.Parted beat.incarnation deadline := by
  -- with a slot the mark keeps earlier goodbyes from replacing this one
  have kept :=
    run_seat
      (fun seat =>
        seat.Parted beat.incarnation deadline ∧
          (beat.slot.isSome = true → beat.incarnation ≤ seat.watermark))
      (registry.step (.beat now order beat)) between beat.pool beat.id
      ?_ ?_ ?_
  · exact kept.1
  · rintro time sent member seat ⟨_, _, mark, _⟩ ⟨parted, marked⟩
    rcases fenced time sent member with ⟨after, same | slotted⟩
    · refine ⟨parted.accept same.ge ?_, ?_⟩
      · rw [step_ttl]
        omega
      · intro slotted
        exact (marked slotted).trans (seat.le_accept_watermark _ _ sent)
    · refine ⟨parted.accept ((marked slotted).trans mark) ?_, ?_⟩
      · rw [step_ttl]
        omega
      · intro slotted
        exact (marked slotted).trans (seat.le_accept_watermark _ _ sent)
  · rintro event member seat next fades ⟨parted, marked⟩
    refine ⟨parted.fade fades (timely event member), ?_⟩
    rw [fades.watermark]
    exact marked
  · rw [step_beat_seat, if_pos ⟨rfl, rfl, accepted⟩]
    refine ⟨⟨(beat.incarnation, now + registry.ttl), ?_, Nat.le_refl _, lease⟩, ?_⟩
    · simp [Seat.accept, leaving]
    · intro slotted
      simp only [Seat.accept, slotted, if_true]
      exact Nat.le_max_right _ _

section

variable {registry : Registry} {name : String} {id : Nat}
  {events : List Event} {before after : List (Nat × Beat)}
  {first : Nat × Beat}

/-- A seat since some beat. -/
theorem run_seat_after
    (property : Seat → Prop)
    (accepted : registry.acceptedBeats name id events = before ++ first :: after)
    (begins :
      ∀ (now ttl : Nat) (seat : Seat), seat.Admits first.2 → property (seat.accept now ttl first.2))
    (accepts :
      ∀ entry ∈ after, ∀ (ttl : Nat) (seat : Seat), property seat →
        property (seat.accept entry.1 ttl entry.2))
    (fades :
      ∀ {due : Nat → Prop} {seat next : Seat},
        seat.Fades due next → property seat → property next) :
    property (((registry.run events).pool name).seat id) := by
  rcases acceptedBeats_split accepted with ⟨prior, event, later, rfl, here, remaining⟩
  rw [run_append]
  refine
    run_seat property ((registry.run prior).step event) later name id ?_ (fun _ _ _ _ => fades) ?_
  · intro time sent member seat _
    rw [remaining] at member
    exact accepts (time, sent) member _ seat
  · rcases step_seat (registry.run prior) event name id with
      ⟨time, sent, found, admits, next⟩ | ⟨none, _⟩
    · rw [here] at found
      cases found
      rw [next]
      exact begins _ _ _ admits
    · rw [here] at none
      cases none

theorem within_after
    (accepted : registry.acceptedBeats name id events = before ++ first :: after)
    (bounded : ∀ entry ∈ after, entry.2.incarnation ≤ first.2.incarnation) :
    (((registry.run events).pool name).seat id).Within
      first.2.incarnation :=
  run_seat_after (Seat.Within first.2.incarnation) accepted
    (fun now ttl _ admits => admits.within now ttl)
    (fun entry listed ttl _ within => within.accept entry.1 ttl (bounded entry listed))
    fun fades within => within.fade fades

/-- The last to beat can come back. -/
theorem rejoinable_after
    (accepted : registry.acceptedBeats name id events = before ++ [first])
    (staying : first.2.leaving = false) :
    (((registry.run events).pool name).seat id).Rejoinable
      first.2.incarnation := by
  refine
    run_seat_after (Seat.Rejoinable first.2.incarnation) accepted ?_
      (by simp) fun fades rejoinable => rejoinable.fade fades
  intro now ttl seat admits
  have before : seat.Rejoinable first.2.incarnation := admits.2.1 staying
  refine before.accept now ttl ?_
  rw [staying]
  intro leaving
  cases leaving

end

/-- The latest tenure's seat is free. -/
theorem free_for_latest
    (ttl nanos tenure : Nat) {name : String} {id : Nat} {events : List Event}
    (latest :
      ∀ entry ∈ (Registry.new ttl nanos).acceptedBeats name id events,
        entry.2.incarnation ≤ tenure ∧ (entry.2.incarnation = tenure → entry.2.leaving = false)) :
    ((((Registry.new ttl nanos).run events).pool name).seat id).Within tenure ∧
      ((((Registry.new ttl nanos).run events).pool name).seat id).Rejoinable tenure := by
  refine
    run_seat (fun seat => seat.Within tenure ∧ seat.Rejoinable tenure)
      (Registry.new ttl nanos) events name id ?_ ?_ ?_
  · rintro time sent member seat _ ⟨within, rejoinable⟩
    rcases latest (time, sent) member with ⟨bounded, staying⟩
    refine ⟨within.accept _ _ bounded, rejoinable.accept _ _ ?_⟩
    intro leaving
    refine Nat.lt_of_le_of_ne bounded ?_
    intro same
    rw [staying same] at leaving
    cases leaving
  · rintro event _ seat next fades ⟨within, rejoinable⟩
    exact ⟨within.fade fades, rejoinable.fade fades⟩
  · simp only [Registry.new, Registry.pool, Pool.seat, Pool.watermark,
      Pool.stored, ExtTreeMap.getD_empty, ExtTreeMap.getElem?_empty]
    constructor
    · exact ⟨Nat.zero_le _, by simp⟩
    · intro goodbye remembered
      cases remembered

/--
A goodbye sticks for one lease, for members whose beats all have a slot or
all have one tenure.  Conversely a goodbye may be repeated until a later
tenure was accepted, a tenure beyond all accepted ones is accepted, and a
tenure that did not say goodbye comes back if it was the last or the highest
one to be accepted.
-/
theorem goodbye_sticks (ttl nanos : Nat) (name : String) (id : Nat) :
    let start := Registry.new ttl nanos
    (∀ (before between : List Event) (now later : Nat)
        (order order' : String → IterationOrder) (beat late : Beat),
      let whole := before ++ .beat now order beat :: (between ++ [.beat later order' late])
      beat.pool = name → beat.id = id → late.pool = name → late.id = id →
      (AllBeats name id (fun sent => sent.slot.isSome = true) whole ∨
        ∃ tenure, AllBeats name id (fun sent => sent.incarnation = tenure) whole) →
      MonotoneClock whole → beat.leaving = true → (start.run before).accepts now order beat = true →
      late.leaving = false → late.incarnation ≤ beat.incarnation → later < now + ttl →
      (start.run (before ++ .beat now order beat :: between)).accepts later order' late = false) ∧
    (∀ (events : List Event) (now : Nat) (order : String → IterationOrder) (beat : Beat),
      beat.pool = name → beat.id = id → (admissible beat).isSome = true → beat.exclusive = false →
      ((start.run events).pool name).Agrees beat →
      let accepted := start.acceptedBeats name id events
      ((beat.leaving = true ∧
          ∃ before first after,
            accepted = before ++ first :: after ∧ first.2.leaving = true ∧
              first.2.incarnation = beat.incarnation ∧
              ∀ entry ∈ after, entry.2.incarnation ≤ beat.incarnation) ∨
        (∀ entry ∈ accepted, entry.2.incarnation < beat.incarnation) ∨
        (∃ before last,
          accepted = before ++ [last] ∧ last.2.leaving = false ∧
            last.2.incarnation = beat.incarnation) ∨
        (∀ entry ∈ accepted,
          entry.2.incarnation ≤ beat.incarnation ∧
            (entry.2.incarnation = beat.incarnation → entry.2.leaving = false))) →
      (start.run events).accepts now order beat = true) := by
  intro start
  constructor
  · intro before between now later order order' beat late whole
      pool member latePool lateId fencing clock leaving accepted staying
      bounded soon
    subst pool member
    rcases clock.around with ⟨since, upTo⟩
    have parted :=
      parted_after_goodbye (start.run before) (now + ttl) between leaving accepted ?_ ?_ ?_
    · rw [run_append, Bool.eq_false_iff]
      intro again
      rcases (accepts_iff _ later order' late).mp again with ⟨_, _, admits⟩
      rw [latePool, lateId] at admits
      exact parted.refuses staying bounded admits
    · intro time sent listed
      rcases mem_acceptedBeats listed with ⟨samePool, sameId, sentOrder, member⟩
      refine ⟨since time sentOrder sent member, ?_⟩
      have goodbyeListed : Event.beat now order beat ∈ whole :=
        List.mem_append_right _ List.mem_cons_self
      have sentListed : Event.beat time sentOrder sent ∈ whole :=
        List.mem_append_right _ (List.mem_cons_of_mem _ (List.mem_append_left _ member))
      rcases fencing with slotted | ⟨tenure, one⟩
      · exact Or.inr (slotted _ _ _ goodbyeListed rfl rfl)
      · left
        rw [one _ _ _ sentListed samePool sameId, one _ _ _ goodbyeListed rfl rfl]
    · rintro event member instant due ⟨swept, sweptOrder, alive, rfl, past⟩
      have read := upTo _ member swept rfl
      omega
    · rw [run_ttl]
      exact Nat.le_refl _
  · intro events now order beat pool member measured shared agrees accepted reason
    subst pool member
    rw [accepts_iff]
    refine ⟨measured, agrees, ?_⟩
    rcases reason with
      ⟨leaving, earlier, first, after, split, _, same, bounded⟩ |
        latest | ⟨earlier, last, split, staying, same⟩ | latest
    · rw [← same] at bounded
      have within := within_after split bounded
      rw [same] at within
      refine within.admits shared ?_
      rw [leaving]
      intro stays
      cases stays
    · have free :=
        free_for_latest ttl nanos beat.incarnation fun entry listed =>
          ⟨(latest entry listed).le, fun same =>
            absurd same (latest entry listed).ne⟩
      exact free.1.admits shared fun _ => free.2
    · have within := within_after split (by simp)
      have rejoinable := rejoinable_after split staying
      rw [same] at within rejoinable
      exact within.admits shared fun _ => rejoinable
    · have free := free_for_latest ttl nanos beat.incarnation latest
      exact free.1.admits shared fun _ => free.2

end Registry

end Tinyray
