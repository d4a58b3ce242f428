import Tinyray.Membership.Queries
import Tinyray.Membership.Waiting

/-!
# Looking for an identity

Both the copy of a pool and its frozen views have an index of seats and one of
ids, and look for an identity in the seats first.  A member without a seat is
known by its id, which may be the number of somebody else's seat.
`findIdentity` is what both lookups come to: a walk through the members in the
order of their ids.
-/

namespace Tinyray

open Std Foundation

/-- The numbers have 64 bits. -/
structure Member.InU64 (member : Member) : Prop where
  id : member.id < 2 ^ 64
  slot : ∀ slot, member.slot = some slot → slot < 2 ^ 64
  incarnation : member.incarnation < 2 ^ 64

/-- The number a member goes by: its seat, or its id without one. -/
def Member.key (member : Member) : Nat := member.slot.getD member.id

/-! ## Walking through the members -/

/-- Somebody in this seat, or else the member without a seat with this id. -/
def findMember (members : List Member) (key incarnation : Nat) : Option Member :=
  match members.find? fun member =>
      member.slot == some key && member.incarnation == incarnation with
  | some member => some member
  | none =>
    members.find? fun member =>
      member.id == key && (member.slot.isNone && member.incarnation == incarnation)

/-- The member of an identity. -/
def findIdentity (members : List Member) (name identity : String) : Option Member :=
  match identityParts identity with
  | none => none
  | some (named, key, incarnation) =>
    if named ≠ name then none else findMember members key incarnation

variable {members : List Member} {member : Member} {name identity : String}

/-- What is found fits. -/
theorem findMember_some
    {key incarnation : Nat} (found : findMember members key incarnation = some member) :
    member ∈ members ∧ member.key = key ∧ member.incarnation = incarnation := by
  unfold findMember at found
  split at found
  · rename_i seated first
    cases found
    have suits := List.find?_some first
    simp only [Bool.and_eq_true, beq_iff_eq] at suits
    refine ⟨List.mem_of_find?_eq_some first, ?_, suits.2⟩
    rw [Member.key, suits.1, Option.getD_some]
  · have suits := List.find?_some found
    simp only [Bool.and_eq_true, beq_iff_eq, Option.isNone_iff_eq_none] at suits
    refine ⟨List.mem_of_find?_eq_some found, ?_, suits.2.2⟩
    rw [Member.key, suits.2.1, Option.getD_none, suits.1]

/-- What is not found is not there. -/
theorem findMember_none
    {key incarnation : Nat} (nobody : findMember members key incarnation = none)
    (listed : member ∈ members) (sameKey : member.key = key) :
    member.incarnation ≠ incarnation := by
  rintro rfl
  unfold findMember at nobody
  split at nobody
  · cases nobody
  · rename_i noSeated
    cases seat : member.slot with
    | some slot =>
      have suits := List.find?_eq_none.mp noSeated member listed
      rw [Member.key, seat, Option.getD_some] at sameKey
      simp [seat, sameKey] at suits
    | none =>
      have suits := List.find?_eq_none.mp nobody member listed
      rw [Member.key, seat, Option.getD_none] at sameKey
      simp [seat, sameKey] at suits

theorem identityMatches_iff :
    identityMatches name member identity = true ↔
      identityParts identity = some (name, member.key, member.incarnation) := by
  unfold identityMatches Member.key
  cases identityParts identity with
  | none => simp
  | some parts =>
    rcases parts with ⟨named, key, incarnation⟩
    simp [and_assoc]

/-- The member found has this identity. -/
theorem findIdentity_some
    (found : findIdentity members name identity = some member) :
    member ∈ members ∧ identityMatches name member identity = true := by
  unfold findIdentity at found
  split at found
  · cases found
  · rename_i named key incarnation parts
    split_ifs at found with same
    rcases findMember_some found with ⟨listed, rfl, rfl⟩
    rw [not_not] at same
    refine ⟨listed, identityMatches_iff.mpr ?_⟩
    rw [parts, same]

theorem findIdentity_none
    (nobody : findIdentity members name identity = none) (listed : member ∈ members) :
    identityMatches name member identity = false := by
  rw [Bool.eq_false_iff]
  intro suits
  have parts := identityMatches_iff.mp suits
  unfold findIdentity at nobody
  simp only [parts, ne_eq, not_true_eq_false, if_false] at nobody
  exact findMember_none nobody listed rfl rfl

theorem identityMatches_memberIdentity
    (name : String) (bounds : member.InU64) :
    identityMatches name member (memberIdentity name member) = true := by
  rw [identityMatches_iff]
  refine identityParts_identityText name ?_ bounds.incarnation
  cases seat : member.slot with
  | none => exact bounds.id
  | some slot => exact bounds.slot slot seat

/-- A test can be part of the search. -/
theorem filter_find?_id
    (distinct : (members.map Member.id).Nodup) (key : Nat) (suits : Member → Bool) :
    (members.find? fun member => member.id == key).filter suits =
      members.find? fun member => member.id == key && suits member := by
  induction members with
  | nil => rfl
  | cons first rest hypothesis =>
    rw [List.map_cons, List.nodup_cons] at distinct
    rw [List.find?_cons, List.find?_cons]
    by_cases here : first.id = key
    · subst here
      simp only [beq_self_eq_true, Bool.true_and]
      cases fits : suits first with
      | true => simp [fits]
      | false =>
        have others : rest.find? (fun member => member.id == first.id && suits member) = none := by
          rw [List.find?_eq_none]
          intro member listed matched
          rw [Bool.and_eq_true, beq_iff_eq] at matched
          exact distinct.1 (List.mem_map.mpr ⟨member, listed, matched.1⟩)
        simp [Option.filter, fits, others]
    · have elsewhere : (first.id == key) = false := by simp [here]
      simp only [elsewhere, Bool.false_and]
      exact hypothesis distinct.2

/-! ## The indices of a frozen view -/

namespace FrozenMembers

/-- `slot_arc` -/
def slotArc (frozen : FrozenMembers) (slot : Nat) : Option Member := do
  let indices ← frozen.slots[slot]?
  let index ← indices.head?
  frozen.members[index]?

/-- `get_arc` -/
def getArc (frozen : FrozenMembers) (name identity : String) : Option Member :=
  match identityParts identity with
  | none => none
  | some (named, key, incarnation) =>
    if named ≠ name then none
    else
      let seated :=
        frozen.slots[key]?.bind fun indices =>
          indices.findSome? fun index =>
            frozen.members[index]?.filter fun member => member.incarnation == incarnation
      match seated with
      | some member => some member
      | none => do
        let index ← frozen.ids[key]?
        frozen.members[index]?.filter fun member =>
          member.slot.isNone && member.incarnation == incarnation

/-- The places in a slot. -/
theorem foldl_enter_slots
    (entries : List (Member × Nat)) (frozen : FrozenMembers) (slot : Nat) :
    (entries.foldl enter frozen).slots.getD slot [] =
      frozen.slots.getD slot [] ++
        (entries.filter fun entry => entry.1.slot == some slot).map
          Prod.snd := by
  induction entries generalizing frozen with
  | nil => simp
  | cons entry rest hypothesis =>
    rw [List.foldl_cons, hypothesis, List.filter_cons]
    cases seat : entry.1.slot with
    | none => simp [enter, seat]
    | some taken =>
      by_cases same : taken = slot
      · subst same
        simp [enter, seat]
      · simp [enter, seat, same, ExtTreeMap.getD_insert]

/-- The place of an id. -/
theorem foldl_enter_ids
    {entries : List (Member × Nat)} (distinct : (entries.map fun entry => entry.1.id).Nodup)
    (frozen : FrozenMembers) (id : Nat) :
    (entries.foldl enter frozen).ids[id]? =
      ((entries.find? fun entry => entry.1.id == id).map Prod.snd).or frozen.ids[id]? := by
  induction entries generalizing frozen with
  | nil => simp
  | cons entry rest hypothesis =>
    rw [List.map_cons, List.nodup_cons] at distinct
    rw [List.foldl_cons, hypothesis distinct.2, List.find?_cons]
    by_cases here : entry.1.id = id
    · subst here
      have others : rest.find? (fun other => other.1.id == entry.1.id) = none := by
        rw [List.find?_eq_none]
        intro other listed same
        exact distinct.1 (List.mem_map.mpr ⟨other, listed, beq_iff_eq.mp same⟩)
      simp [others, enter]
    · have elsewhere : (entry.1.id == id) = false := by simp [here]
      simp [elsewhere, enter, here, ExtTreeMap.getElem?_insert]

variable {members : List Member}

theorem getElem?_of_mem_zipIdx
    {entry : Member × Nat} (listed : entry ∈ members.zipIdx) :
    members[entry.2]? = some entry.1 :=
  List.mem_zipIdx_iff_getElem?.mp listed

/-- Looking places up is searching members. -/
theorem findSome?_places
    {entries : List (Member × Nat)} (held : ∀ entry ∈ entries, members[entry.2]? = some entry.1)
    (suits : Member → Bool) :
    ((entries.map Prod.snd).findSome? fun index => members[index]?.filter suits) =
      (entries.map Prod.fst).find? suits := by
  induction entries with
  | nil => rfl
  | cons entry rest hypothesis =>
    have first := held entry List.mem_cons_self
    have later := hypothesis fun other listed => held other (List.mem_cons_of_mem _ listed)
    rw [List.map_cons, List.findSome?_cons, first, List.map_cons, List.find?_cons]
    cases fits : suits entry.1 with
    | true => simp [Option.filter, fits]
    | false => simpa [Option.filter, fits] using later

theorem map_fst_filter_zipIdx
    (members : List Member) (wanted : Member → Bool) :
    (members.zipIdx.filter fun entry => wanted entry.1).map Prod.fst = members.filter wanted := by
  have whole := List.zipIdx_map_fst 0 members
  conv_rhs => rw [← whole]
  rw [List.filter_map]
  rfl

theorem new_slots (members : List Member) (slot : Nat) :
    (new members).slots.getD slot [] =
      ((new members).members.zipIdx.filter fun entry =>
        entry.1.slot == some slot).map Prod.snd := by
  rw [new_members]
  unfold new
  simp only [foldl_enter_slots]
  rfl

/-- A slot's index is a search. -/
theorem findSome?_slots
    (members : List Member) (slot : Nat) (suits : Member → Bool) :
    ((new members).slots[slot]?.bind fun indices =>
        indices.findSome? fun index => (new members).members[index]?.filter suits) =
      (new members).members.find? fun member => member.slot == some slot && suits member := by
  have listed :
      ((new members).slots[slot]?.bind fun indices =>
          indices.findSome? fun index => (new members).members[index]?.filter suits) =
        ((new members).slots.getD slot []).findSome? fun index =>
          (new members).members[index]?.filter suits := by
    rw [ExtTreeMap.getD_eq_getD_getElem?]
    cases (new members).slots[slot]? <;> rfl
  rw [listed, new_slots, findSome?_places]
  · rw [map_fst_filter_zipIdx _ fun member => member.slot == some slot, List.find?_filter]
    congr 1
    funext member
    rw [Bool.decide_and, Bool.decide_eq_true, Bool.decide_eq_true]
  · intro entry member
    exact getElem?_of_mem_zipIdx (List.mem_of_mem_filter member)

/-- The first member of a slot. -/
theorem slotArc_eq (members : List Member) (slot : Nat) :
    (new members).slotArc slot =
      (new members).members.find? fun member => member.slot == some slot := by
  have first := findSome?_slots members slot fun _ => true
  simp only [Bool.and_true] at first
  rw [← first]
  unfold slotArc
  cases held : (new members).slots[slot]? with
  | none => rfl
  | some indices =>
    have places := new_slots members slot
    rw [ExtTreeMap.getD_eq_getD_getElem?, held, Option.getD_some] at places
    cases indices with
    | nil => rfl
    | cons index rest =>
      have known : ∃ member, (new members).members[index]? = some member := by
        have listed : index ∈ index :: rest := List.mem_cons_self
        rw [places] at listed
        rcases List.mem_map.mp listed with ⟨entry, member, rfl⟩
        exact ⟨entry.1, getElem?_of_mem_zipIdx (List.mem_of_mem_filter member)⟩
      rcases known with ⟨member, known⟩
      simp [known, Option.filter]

/-- The index of ids is a search. -/
theorem ids_bind
    (distinct : (members.map Member.id).Nodup) (id : Nat) (suits : Member → Bool) :
    ((new members).ids[id]?.bind fun index => (new members).members[index]?.filter suits) =
      (new members).members.find? fun member => member.id == id && suits member := by
  have sorted : ((new members).members.map Member.id).Nodup :=
    ((new_members_perm members).map Member.id).nodup_iff.mpr distinct
  have entries : ((new members).members.zipIdx.map fun entry => entry.1.id).Nodup := by
    have whole := List.zipIdx_map_fst 0 (new members).members
    rw [← whole, List.map_map] at sorted
    exact sorted
  have ids :
      (new members).ids[id]? =
        ((new members).members.zipIdx.find? fun entry => entry.1.id == id).map Prod.snd := by
    rw [new_members] at entries ⊢
    unfold new
    simp only [foldl_enter_ids entries]
    simp
  have first :
      ((new members).members.zipIdx.find? fun entry => entry.1.id == id).map Prod.fst =
        (new members).members.find? fun member => member.id == id := by
    have whole := List.zipIdx_map_fst 0 (new members).members
    conv_rhs => rw [← whole]
    rw [List.find?_map]
    rfl
  rw [← filter_find?_id sorted, ← first, ids]
  cases found : (new members).members.zipIdx.find? fun entry => entry.1.id == id with
  | none => rfl
  | some entry =>
    have held := getElem?_of_mem_zipIdx (List.mem_of_find?_eq_some found)
    simp [held]

/-- The index of identities is a search. -/
theorem getArc_eq
    (distinct : (members.map Member.id).Nodup) (name identity : String) :
    (new members).getArc name identity = findIdentity (new members).members name identity := by
  unfold getArc findIdentity
  split
  · rfl
  · rename_i named key incarnation parts
    split_ifs
    · rfl
    · simp only [findSome?_slots, findMember]
      split
      · rfl
      · exact ids_bind distinct key _

end FrozenMembers

/-! ## The copy of a pool -/

/-- The members in the order of their ids. -/
def BarePool.listing (bare : BarePool) : List Member := bare.members.toList.map Prod.snd

namespace BarePool

variable {bare : BarePool}

theorem mem_listing_of_getElem?
    {id : Nat} {member : Member}
    (held : bare.members[id]? = some member) : member ∈ bare.listing :=
  List.mem_map.mpr ⟨(id, member), ExtTreeMap.mem_toList_iff_getElem?_eq_some.mpr held, rfl⟩

theorem mem_listing (keyed : bare.Keyed) {member : Member} :
    member ∈ bare.listing ↔ bare.members[member.id]? = some member := by
  constructor
  · intro listed
    rcases List.mem_map.mp listed with ⟨⟨id, held⟩, entry, rfl⟩
    have found := ExtTreeMap.mem_toList_iff_getElem?_eq_some.mp entry
    have own := keyed id held found
    subst own
    exact found
  · exact mem_listing_of_getElem?

theorem selected_everyone (bare : BarePool) :
    (bare.selected everyone false).map Prod.snd = bare.listing := by
  unfold listing selected
  simp [wanted_everyone]

theorem selected_distinct
    (keyed : bare.Keyed) (filter : Value) (requireReady : Bool) :
    (((bare.selected filter requireReady).map Prod.snd).map Member.id).Nodup := by
  have ascending := selected_ids_ascending keyed filter requireReady
  exact List.pairwise_map.mpr (ascending.imp fun below => below.ne)

theorem getArc_filtered
    (keyed : bare.Keyed) (filter : Value) (requireReady : Bool) (name identity : String) :
    (bare.filtered filter requireReady).members.getArc name identity =
      findIdentity ((bare.selected filter requireReady).map Prod.snd) name identity := by
  rw [← filtered_members keyed filter requireReady]
  exact FrozenMembers.getArc_eq (selected_distinct keyed filter requireReady) name identity

/-- The map of members is a search. -/
theorem find?_id (keyed : bare.Keyed) (key : Nat) (suits : Member → Bool) :
    bare.members[key]?.filter suits =
      bare.listing.find? fun member => member.id == key && suits member := by
  have first : bare.members[key]? = bare.listing.find? fun member => member.id == key := by
    cases found : bare.members[key]? with
    | none =>
      symm
      rw [List.find?_eq_none]
      intro member listed same
      rw [mem_listing keyed, beq_iff_eq.mp same, found] at listed
      cases listed
    | some member =>
      have own := keyed key member found
      subst own
      have listed := (mem_listing keyed).mpr found
      have somebody : (bare.listing.find? fun other => other.id == member.id).isSome = true :=
        List.find?_isSome.mpr ⟨member, listed, by simp⟩
      rcases Option.isSome_iff_exists.mp somebody with ⟨other, first⟩
      have same := List.find?_some first
      have held := (mem_listing keyed).mp (List.mem_of_find?_eq_some first)
      rw [beq_iff_eq.mp same, found] at held
      rw [first, held]
  have distinct := selected_distinct keyed everyone false
  rw [selected_everyone] at distinct
  rw [first, filter_find?_id distinct]

end BarePool

/-- A pool's index is a search. -/
theorem LookupPool.get_eq
    {pool : LookupPool} (indexed : pool.view.copy.SlotIndexed)
    (keyed : pool.bare.Keyed) (name identity : String) :
    pool.get name identity = findIdentity pool.bare.listing name identity := by
  unfold LookupPool.get findIdentity
  cases identityParts identity with
  | none => rfl
  | some parts =>
    rcases parts with ⟨named, key, incarnation⟩
    by_cases other : named ≠ name
    · simp only [if_pos other]
    · have seated := findSome?_seated indexed key fun member => member.incarnation == incarnation
      have unseated :=
        BarePool.find?_id keyed key fun member =>
          member.slot.isNone && member.incarnation == incarnation
      simp only [if_neg other, findMember]
      rw [← unseated]
      simp only [seated]
      rfl

/--
A lookup by identity finds a member that matches, if there is one, and a frozen
view of the same members finds the same one.  A member is found by its own
identity, or another one that goes by it, so a wait for it to leave goes on.
-/
theorem identity_lookup_is_scan
    (order : HashOrder) (encode : List Member → List UInt8)
    (uses : List LookupPool.Use) (name : String) :
    let pool := uses.foldl (LookupPool.use order encode) {}
    let bare := (uses.filterMap LookupPool.Use.delta?).foldl BarePool.apply {}
    (∀ identity,
      (match pool.get name identity with
        | some member =>
          bare.members[member.id]? = some member ∧ identityMatches name member identity = true
        | none =>
          ∀ (id : Nat) member, bare.members[id]? = some member →
            identityMatches name member identity = false) ∧
        (pool.frozen false).1.members.getArc name identity = pool.get name identity) ∧
      ∀ (id : Nat) member, bare.members[id]? = some member → member.InU64 →
        (∃ found,
          pool.get name (memberIdentity name member) = some found ∧ found.key = member.key ∧
            found.incarnation = member.incarnation) ∧
          ∀ seen : Observation, seen.cached = some pool →
            ((CacheWaiter.mk name (.departure (memberIdentity name member))).observe order
              seen).1.status ≠ .ready := by
  intro pool bare
  rcases LookupPool.empty_sound.uses uses with ⟨sound, reached⟩
  change pool.Sound encode at sound
  have same : pool.bare = bare := reached
  have keyed : bare.Keyed := BarePool.keyed_of_deltas _
  have walks (identity : String) :
      pool.get name identity = findIdentity bare.listing name identity := by
    rw [← same] at keyed ⊢
    exact LookupPool.get_eq sound.slots keyed name identity
  have finds {id : Nat} {member : Member}
      (held : bare.members[id]? = some member) (bounds : member.InU64) :
      ∃ found,
        pool.get name (memberIdentity name member) = some found ∧ found.key = member.key ∧
          found.incarnation = member.incarnation := by
    have own := identityMatches_memberIdentity name bounds
    have listed := BarePool.mem_listing_of_getElem? held
    cases found : pool.get name (memberIdentity name member) with
    | none =>
      rw [walks] at found
      rw [findIdentity_none found listed] at own
      cases own
    | some other =>
      rw [walks] at found
      have parts := identityMatches_iff.mp (findIdentity_some found).2
      rw [identityMatches_iff.mp own, Option.some.injEq, Prod.mk.injEq, Prod.mk.injEq] at parts
      exact ⟨other, rfl, parts.2.1.symm, parts.2.2.symm⟩
  refine ⟨?_, ?_⟩
  · intro identity
    refine ⟨?_, ?_⟩
    · split
      · rename_i member found
        rw [walks] at found
        rcases findIdentity_some found with ⟨listed, suits⟩
        exact ⟨(BarePool.mem_listing keyed).mp listed, suits⟩
      · rename_i nobody
        rw [walks] at nobody
        intro id member held
        exact findIdentity_none nobody (BarePool.mem_listing_of_getElem? held)
    · have frozen := (sound.frozen false).1
      rw [same] at frozen
      rw [walks, frozen, BarePool.getArc_filtered keyed, BarePool.selected_everyone]
  · intro id member held bounds
    refine ⟨finds held bounds, ?_⟩
    intro seen cached ready
    rcases finds held bounds with ⟨found, answer, -⟩
    simp [CacheWaiter.observe, cached, answer] at ready

end Tinyray
