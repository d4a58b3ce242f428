import Mathlib.Data.List.Find
import Tinyray.Membership.Directory

/-!
# Reading a snapshot

A snapshot keeps a frozen view and makes the members of it once somebody reads
them.  Before that, `slot` and `get` ask the view, which turns a seat or an
identity into numbers and has an index for them.  After that, they go through
the members and compare values and texts as Python does.

A snapshot of a pool that nobody has heard of has no view, and no members
either; it is left out.
-/

namespace Tinyray

open Std Foundation

/-! ## What a caller passes -/

/-- A `str`: text, or code points with a lone surrogate among them. -/
inductive PyStr where
  | text (text : String)
  | surrogates (points : List Nat)

/-- Equal to a text. -/
def PyStr.equals (text : String) : PyStr → Bool
  | .text own => text == own
  | .surrogates _ => false

/-- What stands in for a slot or an id. -/
inductive SeatValue where
  | none
  | bool (value : Bool)
  | int (value : Int)
  /-- `none` stands for a value that is not finite. -/
  | float (value : Option F64)
  | complex (real imaginary : Option F64)
  /-- A `str` or another value that equals no number; `int` may read it. -/
  | other (number : Option Int)

namespace SeatValue

/-- `int` of a value; `none` is an error. -/
def toInt : SeatValue → Option Int
  | .bool value => some value.toInt
  | .int value => some value
  | .float value => value.map F64.trunc
  | .other number => number
  | .none | .complex _ _ => Option.none

/-- Equal to a number. -/
def equals (number : Int) : SeatValue → Bool
  | .bool value => value.toInt == number
  | .int value => value == number
  | .float (some value) => value.toRat == number
  | .complex (some real) (some imaginary) => real.toRat == number && imaginary.toRat == 0
  | _ => false

/-- Equal to a member's slot. -/
def isSlot (value : SeatValue) : Option Nat → Bool
  | some slot => value.equals slot
  | Option.none =>
    match value with
    | .none => true
    | _ => false

end SeatValue

/-- The number that Rust gets. -/
def nativeSeat (value : SeatValue) : Option Nat := do
  let seat ← value.toInt
  if value.equals seat && 0 ≤ seat && seat < 2 ^ 64 then some seat.toNat
  else none

/-! ## Snapshots -/

/-- `UnicodeEncodeError` -/
inductive SnapshotError where
  | unicodeEncode
deriving DecidableEq

/-- A `Snapshot` from the native cache, with what it shows itself. -/
structure LazySnapshot where
  pool : String
  view : FrozenPool
  materialized : Option (List Member)

/-- What is done with a snapshot. -/
inductive SnapshotUse where
  | members
  | iter
  | len
  | ready
  | slot (seat : SeatValue)
  | get (identity : PyStr)

namespace LazySnapshot

/-- `from_native` -/
def fromNative (pool : String) (view : FrozenPool) : LazySnapshot where
  pool := pool
  view := view
  materialized := none

/-- `Pool.snapshot` of a pool in the cache. -/
def ofCached (order : HashOrder) (name : String) (cached : LookupPool)
    (includeUnready : Bool) : LazySnapshot :=
  fromNative name (cached.filtered order (.object []) !includeUnready).1

/-- `members`, read once -/
def members (snapshot : LazySnapshot) : List Member × LazySnapshot :=
  match snapshot.materialized with
  | some members => (members, snapshot)
  | none =>
    let members := snapshot.view.members.members
    (members, { snapshot with materialized := some members })

/-- The occupant of a seat, ready or not. -/
def slot (snapshot : LazySnapshot) (seat : SeatValue) : Option Member :=
  match snapshot.materialized with
  | some members => members.find? fun member => seat.isSlot member.slot
  | none =>
    match nativeSeat seat with
    | some seat => snapshot.view.members.slotArc seat
    | none => none

/-- The member with this exact identity. -/
def get (snapshot : LazySnapshot) (identity : PyStr) : Except SnapshotError (Option Member) :=
  match snapshot.materialized with
  | some members =>
    .ok (members.find? fun member => identity.equals (memberIdentity snapshot.pool member))
  | none =>
    match identity with
    | .text text => .ok (snapshot.view.members.getArc snapshot.pool text)
    | .surrogates _ => .error .unicodeEncode

/-- What is left after one use. -/
def use (snapshot : LazySnapshot) : SnapshotUse → LazySnapshot
  | .members | .iter => snapshot.members.2
  | .len | .ready | .slot _ | .get _ => snapshot

/-- Members are read at most once. -/
theorem uses_eq (snapshot : LazySnapshot) (uses : List SnapshotUse) :
    uses.foldl use snapshot = snapshot ∨ uses.foldl use snapshot = snapshot.members.2 := by
  have once : snapshot.members.2.members.2 = snapshot.members.2 := by
    unfold members
    cases made : snapshot.materialized with
    | some kept => simp only [made]
    | none => rfl
  have step (one : SnapshotUse) :
      snapshot.use one = snapshot ∨ snapshot.use one = snapshot.members.2 := by
    cases one <;> simp [use]
  have later (one : SnapshotUse) : snapshot.members.2.use one = snapshot.members.2 := by
    cases one <;> simp [use, once]
  have rest (uses : List SnapshotUse) : uses.foldl use snapshot.members.2 = snapshot.members.2 := by
    induction uses with
    | nil => rfl
    | cons one uses hypothesis =>
      rw [List.foldl_cons, later, hypothesis]
  induction uses with
  | nil => exact .inl rfl
  | cons one uses hypothesis =>
    rw [List.foldl_cons]
    rcases step one with same | made
    · rw [same]
      exact hypothesis
    · rw [made]
      exact .inr (rest uses)

/-- One use stands for all. -/
theorem forall_uses_iff
    {Answer : Type} (snapshot : LazySnapshot) (ask : LazySnapshot → Answer) :
    (∀ uses : List SnapshotUse, ask (uses.foldl use snapshot) = ask snapshot) ↔
      ask snapshot.members.2 = ask snapshot := by
  constructor
  · intro all
    exact all [.members]
  · intro once uses
    rcases snapshot.uses_eq uses with same | made
    · rw [same]
    · rw [made, once]

end LazySnapshot

/-! ## Seats -/

variable {number seat : Int} {value : SeatValue} {member : Member}

theorem F64.trunc_of_toRat {float : F64} (same : float.toRat = number) : float.trunc = number := by
  unfold F64.trunc
  rw [same, Rat.num_intCast, Rat.den_intCast]
  simp

/-- Equal numbers are converted alike. -/
theorem SeatValue.toInt_of_equals
    (read : value.toInt = some seat) (same : value.equals number = true) :
    number = seat := by
  cases value with
  | none => cases read
  | bool value | int value =>
    rw [SeatValue.equals, beq_iff_eq] at same
    rw [SeatValue.toInt, Option.some.injEq] at read
    exact same.symm.trans read
  | float value =>
    cases value with
    | none => cases read
    | some float =>
      rw [SeatValue.equals, beq_iff_eq] at same
      rw [SeatValue.toInt, Option.map_some, Option.some.injEq, F64.trunc_of_toRat same] at read
      exact read
  | complex real imaginary => cases read
  | other text => cases same

theorem SeatValue.isSlot_none (read : value.toInt = some seat) :
    value.isSlot Option.none = false := by
  cases value with
  | none => cases read
  | bool value => rfl
  | int value => rfl
  | float value => rfl
  | complex real imaginary => rfl
  | other text => rfl

namespace LazySnapshot

/-- The members that a snapshot shows. -/
def listed (snapshot : LazySnapshot) : List Member := snapshot.view.members.members

/-- A value that `int` refuses is the seat of nobody. -/
def PlainSeat (snapshot : LazySnapshot) (seat : SeatValue) : Prop :=
  seat.toInt = Option.none → ∀ member ∈ snapshot.listed, seat.isSlot member.slot = false

/-- A search by value, or by number. -/
theorem find?_nativeSeat
    {members : List Member} (bounds : ∀ member ∈ members, member.InU64)
    {value : SeatValue} {seat : Int} (read : value.toInt = some seat) :
    (members.find? fun member => value.isSlot member.slot) = match nativeSeat value with
      | some slot => members.find? fun member => member.slot == some slot
      | none => none := by
  have native :
      nativeSeat value = if value.equals seat && 0 ≤ seat && seat < 2 ^ 64 then some seat.toNat
        else none := by
    unfold nativeSeat
    rw [read]
    rfl
  rw [native]
  split_ifs with valid
  · simp only [Bool.and_eq_true, decide_eq_true_eq] at valid
    rcases valid with ⟨⟨equal, low⟩, -⟩
    apply List.find?_congr
    intro member listed
    cases taken : member.slot with
    | none => simp [SeatValue.isSlot_none read]
    | some slot =>
      rw [Bool.eq_iff_iff]
      constructor
      · intro same
        have own := SeatValue.toInt_of_equals read same
        simp [← own]
      · intro same
        rw [beq_iff_eq, Option.some.injEq] at same
        have own : (slot : Int) = seat := by
          rw [same]
          exact Int.toNat_of_nonneg low
        change value.equals slot = true
        rw [own]
        exact equal
  · rw [List.find?_eq_none]
    intro member listed same
    cases taken : member.slot with
    | none =>
      rw [taken, SeatValue.isSlot_none read] at same
      cases same
    | some slot =>
      rw [taken] at same
      have own := SeatValue.toInt_of_equals read same
      have bound := (bounds member listed).slot slot taken
      subst own
      apply valid
      simp only [Bool.and_eq_true, decide_eq_true_eq]
      exact ⟨⟨same, Int.natCast_nonneg slot⟩, by exact_mod_cast bound⟩

/-- When reading members keeps `slot`. -/
theorem slot_members_iff
    {snapshot : LazySnapshot} {members : List Member} (fresh : snapshot.materialized = none)
    (frozen : snapshot.view.members = .new members)
    (bounds : ∀ member ∈ snapshot.listed, member.InU64) (seat : SeatValue) :
    snapshot.members.2.slot seat = snapshot.slot seat ↔ snapshot.PlainSeat seat := by
  have made :
      snapshot.members.2.slot seat =
        snapshot.listed.find? fun member => seat.isSlot member.slot := by
    unfold LazySnapshot.members LazySnapshot.slot
    simp only [fresh]
    rfl
  have native :
      snapshot.slot seat = match nativeSeat seat with
        | some slot => snapshot.listed.find? fun member => member.slot == some slot
        | none => none := by
    unfold LazySnapshot.slot LazySnapshot.listed
    simp only [fresh, frozen, FrozenMembers.slotArc_eq]
  rw [made, native]
  cases read : seat.toInt with
  | some number =>
    have plain : snapshot.PlainSeat seat := by
      intro refused
      rw [read] at refused
      cases refused
    exact iff_of_true (find?_nativeSeat bounds read) plain
  | none =>
    have refused : nativeSeat seat = none := by
      unfold nativeSeat
      rw [read]
      rfl
    rw [refused, List.find?_eq_none]
    constructor
    · intro nobody _ member listed
      exact Bool.eq_false_iff.mpr (nobody member listed)
    · intro plain member listed
      exact Bool.eq_false_iff.mp (plain read member listed)

/-! ## Identities -/

/--
An identity is text, and every member it names has it word for word.  Where
it names a member without a seat, one with a seat that it names as well has a
smaller id, if there is one at all.
-/
def PlainIdentity (snapshot : LazySnapshot) : PyStr → Prop
  | .surrogates _ => False
  | .text text =>
    ∀ member ∈ snapshot.listed,
      identityMatches snapshot.pool member text = true →
        memberIdentity snapshot.pool member = text ∧
          (member.slot = none →
            (∃ other ∈ snapshot.listed,
              identityMatches snapshot.pool other text = true ∧ other.slot.isSome = true) →
            ∃ other ∈ snapshot.listed,
              identityMatches snapshot.pool other text = true ∧
                other.slot.isSome = true ∧ other.id < member.id)

end LazySnapshot

section

variable {name text : String} {key incarnation : Nat}
variable (parts : identityParts text = some (name, key, incarnation))

include parts

theorem identityMatches_seated (member : Member) :
    (identityMatches name member text && member.slot.isSome) =
      (member.slot == some key && member.incarnation == incarnation) := by
  rw [Bool.eq_iff_iff, Bool.and_eq_true, identityMatches_iff, parts]
  unfold Member.key
  cases member.slot with
  | none => simp
  | some slot =>
    simp
    omega

theorem identityMatches_unseated (member : Member) :
    (identityMatches name member text && !member.slot.isSome) =
      (member.id == key && (member.slot.isNone && member.incarnation == incarnation)) := by
  rw [Bool.eq_iff_iff, Bool.and_eq_true, identityMatches_iff, parts]
  unfold Member.key
  cases member.slot with
  | none =>
    simp
    omega
  | some slot => simp

end

/-- Members with a slot come first. -/
theorem findIdentity_eq_or (members : List Member) (name text : String) :
    findIdentity members name text =
      (members.find? fun member => identityMatches name member text && member.slot.isSome).or
        (members.find? fun member => identityMatches name member text && !member.slot.isSome) := by
  by_cases ours : ∃ key incarnation, identityParts text = some (name, key, incarnation)
  · rcases ours with ⟨key, incarnation, parts⟩
    simp only [identityMatches_seated parts, identityMatches_unseated parts]
    unfold findIdentity findMember
    simp only [parts, ne_eq, not_true_eq_false, if_false]
    split <;> rename_i found <;> rw [found]
    · rfl
    · rw [Option.none_or]
  · have nobody (member : Member) : identityMatches name member text = false := by
      rw [Bool.eq_false_iff, Ne, identityMatches_iff]
      intro parts
      exact ours ⟨_, _, parts⟩
    have absent : members.find? (fun _ => false) = none := by simp
    simp only [nobody, Bool.false_and, absent, Option.or_none]
    cases found : findIdentity members name text with
    | none => rfl
    | some member =>
      have suits := (findIdentity_some found).2
      rw [nobody] at suits
      cases suits

theorem memberIdentity_of_matches
    {name text : String} {other : Member} (suits : identityMatches name member text = true)
    (otherSuits : identityMatches name other text = true) :
    memberIdentity name member = memberIdentity name other := by
  have parts := identityMatches_iff.mp suits
  rw [identityMatches_iff.mp otherSuits, Option.some.injEq, Prod.mk.injEq, Prod.mk.injEq] at parts
  rcases parts with ⟨-, key, incarnation⟩
  change identityText name member.key member.incarnation =
    identityText name other.key other.incarnation
  rw [key, incarnation]

/-- The first match has the least id. -/
theorem eq_or_lt_of_find?
    {members : List Member} (ascending : members.Pairwise fun left right => left.id < right.id)
    {fits : Member → Bool} {first : Member}
    (found : members.find? fits = some first) (listed : member ∈ members)
    (suits : fits member = true) :
    member = first ∨ first.id < member.id := by
  induction members with
  | nil => cases listed
  | cons head rest hypothesis =>
    rw [List.pairwise_cons] at ascending
    rw [List.find?_cons] at found
    cases here : fits head with
    | true =>
      rw [here] at found
      cases found
      rcases List.mem_cons.mp listed with rfl | later
      · exact .inl rfl
      · exact .inr (ascending.1 member later)
    | false =>
      rw [here] at found
      rcases List.mem_cons.mp listed with rfl | later
      · rw [here] at suits
        cases suits
      · exact hypothesis ascending.2 found later

/-- When the first match has a slot. -/
theorem find?_seated_first_iff
    {members : List Member} (ascending : members.Pairwise fun left right => left.id < right.id)
    (fits : Member → Bool) :
    (members.find? fits =
        (members.find? fun member => fits member && member.slot.isSome).or
          (members.find? fun member => fits member && !member.slot.isSome)) ↔
      ∀ member ∈ members, fits member = true → member.slot = none →
        (∃ other ∈ members, fits other = true ∧ other.slot.isSome = true) →
        ∃ other ∈ members, fits other = true ∧ other.slot.isSome = true ∧ other.id < member.id := by
  constructor
  · intro same member listed suits seatless another
    rcases another with ⟨other, otherListed, otherSuits, seated⟩
    have somebody : (members.find? fun member => fits member && member.slot.isSome).isSome = true :=
      List.find?_isSome.mpr ⟨other, otherListed, by rw [otherSuits, seated]; rfl⟩
    rcases Option.isSome_iff_exists.mp somebody with ⟨first, found⟩
    rw [found, Option.some_or] at same
    have firstSuits := List.find?_some found
    rw [Bool.and_eq_true] at firstSuits
    refine ⟨first, List.mem_of_find?_eq_some found, firstSuits.1, firstSuits.2, ?_⟩
    rcases eq_or_lt_of_find? ascending same listed suits with rfl | below
    · rw [seatless] at firstSuits
      cases firstSuits.2
    · exact below
  · intro plain
    cases found : members.find? fits with
    | none =>
      have nobody (also : Member → Bool) :
          (members.find? fun member => fits member && also member) = none := by
        rw [List.find?_eq_none] at found ⊢
        intro member listed both
        rw [Bool.and_eq_true] at both
        exact found member listed both.1
      rw [nobody, nobody, Option.none_or]
    | some first =>
      have listed := List.mem_of_find?_eq_some found
      have suits := List.find?_some found
      have also {wanted : Member → Bool} (has : wanted first = true) :
          (members.find? fun member => fits member && wanted member) = some first := by
        rw [List.find?_eq_some_iff_append] at found ⊢
        rcases found with ⟨-, before, behind, split, passed⟩
        refine ⟨by rw [suits, has]; rfl, before, behind, split, ?_⟩
        intro member earlier
        rw [Bool.not_and, passed member earlier, Bool.true_or]
      cases seat : first.slot with
      | some slot => rw [also (by rw [seat]; rfl), Option.some_or]
      | none =>
        have nobody : (members.find? fun member => fits member && member.slot.isSome) = none := by
          rw [List.find?_eq_none]
          intro other otherListed both
          rw [Bool.and_eq_true] at both
          rcases plain first listed suits seat
            ⟨other, otherListed, both.1, both.2⟩ with
            ⟨earlier, earlierListed, earlierSuits, -, below⟩
          rcases eq_or_lt_of_find? ascending found earlierListed earlierSuits with rfl | above
          · exact below.false
          · exact below.not_gt above
        rw [nobody, also (by rw [seat]; rfl), Option.none_or]

namespace LazySnapshot

/-- When reading members keeps `get`. -/
theorem get_members_iff
    {snapshot : LazySnapshot} (fresh : snapshot.materialized = none)
    (walks : ∀ text,
      snapshot.view.members.getArc snapshot.pool text =
        findIdentity snapshot.listed snapshot.pool text)
    (ascending : snapshot.listed.Pairwise fun left right => left.id < right.id)
    (bounds : ∀ member ∈ snapshot.listed, member.InU64)
    (identity : PyStr) :
    snapshot.members.2.get identity = snapshot.get identity ↔ snapshot.PlainIdentity identity := by
  have made :
      snapshot.members.2.get identity =
        .ok (snapshot.listed.find? fun member =>
          identity.equals (memberIdentity snapshot.pool member)) := by
    unfold LazySnapshot.members LazySnapshot.get
    simp only [fresh]
    rfl
  rw [made]
  cases identity with
  | surrogates points =>
    unfold LazySnapshot.get
    simp [fresh, PlainIdentity]
  | text text =>
    have native :
        snapshot.get (.text text) = .ok (findIdentity snapshot.listed snapshot.pool text) := by
      unfold LazySnapshot.get
      simp only [fresh, walks]
    rw [native, Except.ok.injEq]
    by_cases spelled :
        ∀ member ∈ snapshot.listed,
          identityMatches snapshot.pool member text = true →
            memberIdentity snapshot.pool member = text
    · have same :
          (snapshot.listed.find? fun member =>
              PyStr.equals (memberIdentity snapshot.pool member) (.text text)) =
            snapshot.listed.find? fun member => identityMatches snapshot.pool member text := by
        apply List.find?_congr
        intro member listed
        rw [PyStr.equals, Bool.eq_iff_iff, beq_iff_eq]
        refine ⟨?_, spelled member listed⟩
        rintro rfl
        exact identityMatches_memberIdentity _ (bounds member listed)
      rw [same, findIdentity_eq_or, find?_seated_first_iff ascending]
      constructor
      · intro plain member listed suits
        exact ⟨spelled member listed suits, plain member listed suits⟩
      · intro plain member listed suits
        exact (plain member listed suits).2
    · -- A member answers to numbers that are not spelled like its own.
      push Not at spelled
      rcases spelled with ⟨member, listed, suits, differs⟩
      have absent :
          (snapshot.listed.find? fun member =>
            PyStr.equals (memberIdentity snapshot.pool member) (.text text)) = none := by
        rw [List.find?_eq_none]
        intro other otherListed same
        rw [PyStr.equals, beq_iff_eq] at same
        have own := identityMatches_memberIdentity snapshot.pool (bounds other otherListed)
        rw [same] at own
        exact differs ((memberIdentity_of_matches suits own).trans same)
      refine iff_of_false ?_ ?_
      · intro same
        rw [absent] at same
        rw [findIdentity_none same.symm listed] at suits
        cases suits
      · intro plain
        exact differs (plain member listed suits).1

end LazySnapshot

/-- Both, for the members of a pool. -/
theorem LazySnapshot.members_iff
    {bare : BarePool} (keyed : bare.Keyed)
    (bounds : ∀ (id : Nat) (member : Member), bare.members[id]? = some member → member.InU64)
    (name : String) (filter : Value) (requireReady : Bool)
    (identity : PyStr) (seat : SeatValue) :
    let snapshot := fromNative name (bare.filtered filter requireReady)
    (snapshot.members.2.get identity = snapshot.get identity ∧
        snapshot.members.2.slot seat = snapshot.slot seat) ↔
      snapshot.PlainIdentity identity ∧ snapshot.PlainSeat seat := by
  intro snapshot
  have listing : snapshot.listed = (bare.selected filter requireReady).map Prod.snd :=
    BarePool.filtered_members keyed filter requireReady
  have ascending : snapshot.listed.Pairwise fun left right => left.id < right.id := by
    rw [listing]
    exact BarePool.selected_ids_ascending keyed filter requireReady
  have walks (text : String) :
      snapshot.view.members.getArc snapshot.pool text =
        findIdentity snapshot.listed snapshot.pool text := by
    rw [listing]
    exact BarePool.getArc_filtered keyed filter requireReady name text
  have small : ∀ member ∈ snapshot.listed, member.InU64 := by
    intro member listed
    rw [listing] at listed
    rcases List.mem_map.mp listed with ⟨entry, selected, rfl⟩
    exact bounds _ _ (BarePool.getElem?_of_mem_selected selected)
  exact and_congr
    (get_members_iff rfl walks ascending small identity)
    (slot_members_iff rfl rfl small seat)

/--
Reading a snapshot leaves its answers alone exactly if the identity is spelled
as the members it names have it, and names nobody without a seat ahead of all
those with one, and if the seat is a value that `int` takes or nobody has.
-/
theorem snapshot_answers_kept_iff
    (order : HashOrder) (encode : List Member → List UInt8)
    (uses : List LookupPool.Use) (name : String) (includeUnready : Bool)
    (identity : PyStr) (seat : SeatValue)
    (bounds :
      ∀ (id : Nat) (member : Member),
        ((uses.filterMap LookupPool.Use.delta?).foldl BarePool.apply
            {}).members[id]? = some member → member.InU64) :
    let snapshot :=
      LazySnapshot.ofCached order name (uses.foldl (LookupPool.use order encode) {}) includeUnready
    (∀ reads : List SnapshotUse,
        (reads.foldl LazySnapshot.use snapshot).get identity = snapshot.get identity ∧
          (reads.foldl LazySnapshot.use snapshot).slot seat = snapshot.slot seat) ↔
      snapshot.PlainIdentity identity ∧ snapshot.PlainSeat seat := by
  intro snapshot
  have taken :
      snapshot =
        LazySnapshot.fromNative name
          (((uses.filterMap LookupPool.Use.delta?).foldl BarePool.apply
            {}).filtered (.object []) !includeUnready) := by
    have start : LookupPool.Sound encode {} := LookupPool.empty_sound
    rcases start.uses uses with ⟨sound, reached⟩
    have filtered := (sound.filtered order (.object []) !includeUnready).1
    rw [reached] at filtered
    exact congrArg (LazySnapshot.fromNative name) filtered
  rw [taken, forall_and, LazySnapshot.forall_uses_iff _ fun later => later.get identity,
    LazySnapshot.forall_uses_iff _ fun later => later.slot seat]
  exact LazySnapshot.members_iff (BarePool.keyed_of_deltas _) bounds name _ _ identity seat

/-- A pool of these members. -/
private def having (members : List Member) : List LookupPool.Use :=
  [.apply ⟨1, 0, "", [], none, members, [], true⟩]

/-- An ordinary question is answered alike. -/
theorem snapshot_answers_kept_in_seat :
    let snapshot :=
      LazySnapshot.ofCached .insertion "p"
        ((having [⟨7, some 1, 2, none, .null, true⟩]).foldl
          (LookupPool.use .insertion fun _ => []) {}) true
    ∀ reads : List SnapshotUse,
      (reads.foldl LazySnapshot.use snapshot).get (.text "p/1#2") = snapshot.get (.text "p/1#2") ∧
        (reads.foldl LazySnapshot.use snapshot).slot (.int 1) = snapshot.slot (.int 1) := by
  refine (snapshot_answers_kept_iff .insertion (fun _ => []) (having _) "p" true
    (.text "p/1#2") (.int 1) ?_).mpr ⟨?_, ?_⟩
  · intro id member found
    change (ExtTreeMap.insert ∅ _ _)[id]? = some member at found
    rcases getElem?_insert_cases found with ⟨-, rfl⟩ | ⟨-, found⟩
    · exact ⟨by decide, by rintro slot ⟨⟩; decide, by decide⟩
    · simp at found
  · unfold LazySnapshot.PlainIdentity
    decide +kernel
  · rintro ⟨⟩

/--
Three answers that change: for a seat with a leading zero, for a member without
a seat whose id is the seat of another one, and for no seat at all.
-/
theorem snapshot_answers_change :
    let snapshot :=
      LazySnapshot.ofCached .insertion "p"
        ((having [⟨1, none, 1, none, .null, true⟩, ⟨7, some 1, 1, none, .null, true⟩]).foldl
          (LookupPool.use .insertion fun _ => []) {}) true
    let later := snapshot.use .members
    ((snapshot.get (.text "p/01#1")).map (Option.map Member.id) = .ok (some 7) ∧
        (later.get (.text "p/01#1")).map (Option.map Member.id) = .ok none) ∧
      ((snapshot.get (.text "p/1#1")).map (Option.map Member.id) = .ok (some 7) ∧
        (later.get (.text "p/1#1")).map (Option.map Member.id) = .ok (some 1)) ∧
      (snapshot.slot .none).map Member.id = none ∧ (later.slot .none).map Member.id = some 1 := by
  decide +kernel

end Tinyray
