import Tinyray.Registry.History

/-!
# The roster fingerprint

The registry keeps the fingerprint of a pool up to date one exclusive or at a
time.  `rosterOf` is what it stands for, the exclusive or over a member map,
and `Pool.Leads.fingerprinted` says that the two agree in every state.  Since
a member is stored under its own id, the fingerprint is a function of the
tenures that hold the seats.
-/

namespace Tinyray

open Std Foundation

/-- The fingerprint of members. -/
def rosterOf (members : ExtTreeMap Nat Member) : BitVec 64 :=
  combine (· ^^^ ·) 0 (fun _ member => member.rosterHash) members

theorem rosterOf_empty : rosterOf ∅ = 0 := combine_empty _ _ _

section

variable (members : ExtTreeMap Nat Member) {id : Nat} (member : Member)

theorem rosterOf_insert_absent (absent : members[id]? = none) :
    rosterOf (members.insert id member) = rosterOf members ^^^ member.rosterHash :=
  combine_insert _ _ _ members id member absent

theorem rosterOf_erase (present : members[id]? = some member) :
    rosterOf (members.erase id) = rosterOf members ^^^ member.rosterHash := by
  have whole : rosterOf (members.erase id) ^^^ member.rosterHash = rosterOf members :=
    combine_erase (· ^^^ ·) 0 _ members id member present
  rw [← whole, BitVec.xor_assoc, BitVec.xor_self, BitVec.xor_zero]

theorem rosterOf_insert_present
    (present : members[id]? = some member) (next : Member) :
    rosterOf (members.insert id next) =
      rosterOf members ^^^ member.rosterHash ^^^ next.rosterHash := by
  have vacated : members.insert id next = (members.erase id).insert id next := by
    apply ExtTreeMap.ext_getElem?
    intro other
    grind
  rw [vacated, rosterOf_insert_absent _ _ (by simp), rosterOf_erase _ _ present]

end

namespace Pool

/-! ## Registry steps on the member map -/

/-- The fingerprint is right. -/
def Fingerprinted (pool : Pool) : Prop := pool.roster = rosterOf pool.roll

/-- Members are stored under their own ids. -/
def Keyed (pool : Pool) : Prop :=
  ∀ (id : Nat) (member : Member), pool.roll[id]? = some member → member.id = id

/-- The members after a beat. -/
theorem settled_roll_eq
    (pool : Pool) (now ttl : Nat) (beat : Beat) (stateBytes : Nat) :
    (pool.settled now ttl beat stateBytes).roll = if beat.leaving then pool.roll.erase beat.id
      else pool.roll.insert beat.id (pool.seated now ttl beat stateBytes).member := by
  apply ExtTreeMap.ext_getElem?
  intro id
  rw [getElem?_roll]
  unfold settled
  split_ifs
  · simp only [ExtTreeMap.getElem?_erase, getElem?_roll]
    split <;> rfl
  · simp only [ExtTreeMap.getElem?_insert, getElem?_roll]
    split <;> rfl

theorem remove_roll (pool : Pool) (id : Nat) (record : Record) :
    (pool.remove id record).roll = pool.roll.erase id := by
  apply ExtTreeMap.ext_getElem?
  intro other
  simp only [getElem?_roll, remove, ExtTreeMap.getElem?_erase]
  split <;> rfl

theorem renewed_seat
    (record : Record) (now ttl : Nat) (beat : Beat) (stateBytes : Nat) :
    (renewed record now ttl beat stateBytes).member.id = record.member.id ∧
      (renewed record now ttl beat stateBytes).member.incarnation = record.member.incarnation := by
  unfold renewed
  split_ifs <;> exact ⟨rfl, rfl⟩

theorem renewed_rosterHash
    (record : Record) (now ttl : Nat) (beat : Beat) (stateBytes : Nat) :
    (renewed record now ttl beat stateBytes).member.rosterHash = record.member.rosterHash := by
  rcases renewed_seat record now ttl beat stateBytes with ⟨sameId, sameTenure⟩
  rw [Member.rosterHash, Member.rosterHash, sameId, sameTenure]

variable {pool next : Pool}

/-- The fingerprint stays right. -/
theorem settled_fingerprinted
    (fingerprinted : pool.Fingerprinted) (now ttl : Nat) (beat : Beat) (stateBytes : Nat) :
    (pool.settled now ttl beat stateBytes).Fingerprinted := by
  unfold Fingerprinted at fingerprinted ⊢
  rw [settled_roll_eq]
  change pool.rosterAfter beat = _
  unfold rosterAfter
  rw [fingerprinted]
  cases present : pool.members[beat.id]? with
  | none =>
    have absent : pool.roll[beat.id]? = none := by simp [present]
    cases beat.leaving with
    | true =>
      have same : pool.roll.erase beat.id = pool.roll := by
        apply ExtTreeMap.ext_getElem?
        intro other
        grind
      simp [same]
    | false =>
      simp [rosterOf_insert_absent _ _ absent, seated, present]
  | some record =>
    have held : pool.roll[beat.id]? = some record.member := by
      simp [present]
    cases beat.leaving with
    | true => simp [rosterOf_erase _ _ held]
    | false =>
      simp only [Bool.false_eq_true, if_false, rosterOf_insert_present _ _ held, seated, present]
      split_ifs
      · rw [renewed_rosterHash, BitVec.xor_assoc, BitVec.xor_self, BitVec.xor_zero]
      · rfl

/-- The keys stay right. -/
theorem settled_keyed
    (keyed : pool.Keyed) (now ttl : Nat) (beat : Beat) (stateBytes : Nat) :
    (pool.settled now ttl beat stateBytes).Keyed := by
  intro id member found
  rw [settled_roll_eq] at found
  split_ifs at found
  · exact keyed id member (getElem?_erase_cases found).2
  · rcases getElem?_insert_cases found with ⟨rfl, rfl⟩ | ⟨_, found⟩
    · unfold seated
      cases present : pool.members[beat.id]? with
      | none => rfl
      | some record =>
        simp only
        split_ifs
        · rw [(renewed_seat record now ttl beat stateBytes).1]
          exact keyed beat.id record.member (by simp [present])
        · rfl
    · exact keyed id member found

/-- Both invariants speak of member map and fingerprint alone. -/
structure Charted (pool : Pool) : Prop where
  fingerprinted : pool.Fingerprinted
  keyed : pool.Keyed

theorem Charted.congr
    (charted : pool.Charted)
    (roster : next.roster = pool.roster) (roll : next.roll = pool.roll) :
    next.Charted := by
  constructor
  · unfold Fingerprinted
    rw [roster, roll]
    exact charted.fingerprinted
  · unfold Keyed
    rw [roll]
    exact charted.keyed

theorem charted_empty : Charted {} := by
  have noMembers : ({} : Pool).roll = ∅ := by
    apply ExtTreeMap.ext_getElem?
    intro id
    simp
  constructor
  · unfold Fingerprinted
    rw [noMembers, rosterOf_empty]
  · intro id member found
    simp at found

/-- A beat keeps the pool charted. -/
theorem receive_charted
    (charted : pool.Charted) (now ttl : Nat) (beat : Beat) (stateBytes : Nat) :
    (pool.receive now ttl beat stateBytes).pool.Charted := by
  rcases receive_cases pool now ttl beat stateBytes with
    ⟨why, _, exit⟩ | ⟨shaped, ok, _, exit⟩ | ⟨shaped, ok, _, exit⟩
  · rw [exit]
    exact charted
  · rcases shape_ok_fields ok with ⟨_, roster, members, _⟩
    rw [exit]
    exact charted.congr roster (by simp only [roll, members])
  · rcases shape_ok_fields ok with ⟨_, roster, members, _⟩
    have shapedCharted : shaped.Charted := charted.congr roster (by simp only [roll, members])
    have settledCharted : (shaped.settled now ttl beat stateBytes).Charted :=
      ⟨settled_fingerprinted shapedCharted.fingerprinted _ _ _ _,
        settled_keyed shapedCharted.keyed _ _ _ _⟩
    have admitted : (shaped.enroll now ttl beat stateBytes).1.Charted := by
      rw [enroll_eq]
      split
      · exact settledCharted.congr rfl rfl
      · exact settledCharted
    rw [exit]
    unfold raise
    split
    · exact admitted.congr rfl rfl
    · exact admitted

/-- A departure keeps it charted. -/
theorem expire_charted (charted : pool.Charted) (id : Nat) : (pool.expire id).Charted := by
  unfold expire
  cases present : pool.members[id]? with
  | none => exact charted
  | some record =>
    have held : pool.roll[id]? = some record.member := by
      simp [present]
    constructor
    · change pool.roster ^^^ record.member.rosterHash = rosterOf (pool.remove id record).roll
      rw [remove_roll, rosterOf_erase _ _ held, charted.fingerprinted]
    · intro other member found
      change (pool.remove id record).roll[other]? = some member at found
      rw [remove_roll, ExtTreeMap.getElem?_erase] at found
      split_ifs at found
      exact charted.keyed other member found

/-- So does every move. -/
theorem Next.charted
    (step : pool.Next next) (charted : pool.Charted) :
    next.Charted := by
  cases step with
  | receive now ttl beat stateBytes =>
    exact receive_charted charted now ttl beat stateBytes
  | expire id => exact expire_charted charted id
  | forget now alive => exact charted.congr rfl rfl
  | recached alike =>
    have roster := congrArg Pool.roster alike
    have members := congrArg Pool.members alike
    simp only [core_roster, core_members] at roster members
    exact charted.congr roster (by simp only [roll, members])

theorem Leads.charted
    {later : Pool} (leads : pool.Leads later) (charted : pool.Charted) :
    later.Charted :=
  leads.invariant Charted (fun step => step.charted) charted

end Pool

/-! ## The fingerprint depends on seats and tenures only -/

/-- The tenure that holds each seat. -/
def tenures (members : ExtTreeMap Nat Member) : ExtTreeMap Nat Nat :=
  members.map fun _ member => member.incarnation

theorem Pool.Charted.roster_eq {pool : Pool} (charted : pool.Charted) :
    pool.roster = combine (· ^^^ ·) 0 Tinyray.rosterHash (tenures pool.roll) := by
  rw [charted.fingerprinted]
  apply combine_map
  intro id member found
  rw [Member.rosterHash, charted.keyed id member found]

end Tinyray
