import Mathlib.Data.List.Basic

/-!
# Lending one thing at a time

Under one name things are lent one after another, the next one only when the
one before was returned.  `Lending` relates what the lender has written down
to what has been lent so far, to the claims that borrowers have or have had,
and to the number of returns.  A claim may be lost; as long as nothing
disturbs the borrowers, none is.
-/

namespace Tinyray.Foundation

variable {α : Type*}

/-- What is lent is covered by claims on it. -/
structure Lending (lease : Option α) (lent : List α)
    (claims returned : Nat) (calm : Prop) : Prop where
  covered : returned ≤ claims
  claimed : claims ≤ lent.length
  single : lent.length ≤ returned + 1
  /-- What is out is what was lent last. -/
  held : returned < lent.length → lease = lent.getLast?
  spare : lent.length ≤ returned → ∀ item ∈ lent, lease ≠ some item
  kept : calm → claims = lent.length

namespace Lending

variable {lease : Option α} {lent : List α} {claims returned : Nat}
  {calm : Prop}

theorem start (calm : Prop) : Lending none ([] : List α) 0 0 calm where
  covered := Nat.le_refl _
  claimed := Nat.le_refl _
  single := Nat.zero_le _
  held := by simp
  spare := by simp
  kept := fun _ => rfl

/-- What is not written down for anything lent so far is not out. -/
theorem returned_of_spare
    (lending : Lending lease lent claims returned calm)
    (spare : ∀ item ∈ lent, lease ≠ some item) :
    lent.length ≤ returned := by
  by_contra out
  rw [Nat.not_le] at out
  have leased := lending.held out
  cases last : lent.getLast? with
  | none =>
    rw [List.getLast?_eq_none_iff.mp last] at out
    cases out
  | some item =>
    rw [last] at leased
    exact spare item (List.mem_of_getLast? last) leased

/-- More claims than returns: something is out. -/
theorem leased_of_claim
    (lending : Lending lease lent claims returned calm) (claim : returned < claims) :
    ∃ item, lent.getLast? = some item ∧ lease = some item := by
  have out := Nat.lt_of_lt_of_le claim lending.claimed
  cases last : lent.getLast? with
  | none =>
    rw [List.getLast?_eq_none_iff.mp last] at out
    cases out
  | some item => exact ⟨item, rfl, (lending.held out).trans last⟩

/-- While nothing is out, something else may be written down. -/
theorem relet
    (lending : Lending lease lent claims returned calm)
    (before : ∀ item ∈ lent, lease ≠ some item) {prepared : Option α}
    (after : ∀ item ∈ lent, prepared ≠ some item) :
    Lending prepared lent claims returned calm where
  covered := lending.covered
  claimed := lending.claimed
  single := lending.single
  held := by
    intro out
    exact absurd (lending.returned_of_spare before) (Nat.not_le.mpr out)
  spare := fun _ => after
  kept := lending.kept

/-- What has been written down is lent. -/
theorem lend
    {item : α} (lending : Lending (some item) lent claims returned calm) (fresh : item ∉ lent) :
    Lending (some item) (lent ++ [item]) (claims + 1) returned calm := by
  have settled : lent.length ≤ returned := by
    refine lending.returned_of_spare ?_
    rintro other listed same
    cases same
    exact fresh listed
  have covered := lending.covered
  have claimed := lending.claimed
  constructor
  case covered => omega
  case claimed => simpa using claimed
  case single => simpa using settled
  case held =>
      intro out
      rw [List.getLast?_concat]
  case spare =>
      intro late
      rw [List.length_append, List.length_singleton] at late
      omega
  case kept =>
      intro calm
      rw [lending.kept calm, List.length_append, List.length_singleton]

/-- Somebody with a claim returns what is out. -/
theorem giveBack
    (lending : Lending lease lent claims returned calm) (claim : returned < claims) :
    Lending none lent claims (returned + 1) calm := by
  have claimed := lending.claimed
  have single := lending.single
  constructor
  case covered => exact claim
  case claimed => exact claimed
  case single => omega
  case held =>
      intro out
      omega
  case spare => simp
  case kept => exact lending.kept

/-- Claims are lost only where the borrowers are disturbed. -/
theorem forfeit
    (lending : Lending lease lent claims returned calm)
    {left : Nat} {calmer : Prop} (covered : returned ≤ left)
    (fewer : left ≤ claims) (calmly : calmer → calm ∧ left = claims) :
    Lending lease lent left returned calmer where
  covered := covered
  claimed := Nat.le_trans fewer lending.claimed
  single := lending.single
  held := lending.held
  spare := lending.spare
  kept := by
    intro still
    rcases calmly still with ⟨before, same⟩
    exact same.trans (lending.kept before)

end Lending

end Tinyray.Foundation
