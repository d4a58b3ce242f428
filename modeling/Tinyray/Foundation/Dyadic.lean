import Mathlib.Algebra.Order.Field.Power
import Mathlib.Data.Rat.Cast.Order
import Mathlib.Tactic.Linarith
import Mathlib.Tactic.NormNum
import Mathlib.Tactic.Positivity

/-!
# Dyadic numbers in normal form

A floating-point format writes a number as a count of some power of two.  In
normal form the count has at most one bit more than the precision, and has
that leading bit unless the power is the least one of the format.  Two numbers
in normal form are equal only if count and power are.
-/

namespace Tinyray.Foundation

/-- So many times a power of two. -/
def dyadic (count : Nat) (power : Int) : ℚ := count * 2 ^ power

/-- The normal form of a format with this precision and least power. -/
structure Normal (precision : Nat) (least : Int) (count : Nat)
    (power : Int) : Prop where
  narrow : count < 2 ^ (precision + 1)
  least_le : least ≤ power
  leading : least < power → 2 ^ precision ≤ count

theorem dyadic_nonneg (count : Nat) (power : Int) : 0 ≤ dyadic count power := by
  unfold dyadic
  positivity

theorem dyadic_eq_zero_iff (count : Nat) (power : Int) : dyadic count power = 0 ↔ count = 0 := by
  have positive : (2 : ℚ) ^ power ≠ 0 := zpow_ne_zero power two_ne_zero
  simp [dyadic, positive]

variable {left right precision : Nat} {low high least : Int}

/-- A larger power counts fewer. -/
theorem count_eq_of_dyadic_eq
    (ordered : low ≤ high) (same : dyadic left low = dyadic right high) :
    left = right * 2 ^ (high - low).toNat := by
  have split : (2 : ℚ) ^ high = 2 ^ (high - low).toNat * 2 ^ low := by
    rw [← zpow_natCast, ← zpow_add₀ two_ne_zero]
    congr 1
    omega
  have positive : (2 : ℚ) ^ low ≠ 0 := zpow_ne_zero low two_ne_zero
  unfold dyadic at same
  rw [split, ← mul_assoc] at same
  exact_mod_cast mul_right_cancel₀ positive same

/-- Normal forms are unique. -/
theorem Normal.eq_of_le
    (leftNormal : Normal precision least left low)
    (rightNormal : Normal precision least right high) (ordered : low ≤ high)
    (same : dyadic left low = dyadic right high) :
    left = right ∧ low = high := by
  have counted := count_eq_of_dyadic_eq ordered same
  rcases ordered.eq_or_lt with rfl | below
  · rw [Int.sub_self, Int.toNat_zero, pow_zero, Nat.mul_one] at counted
    exact ⟨counted, rfl⟩
  · -- the larger power has its leading bit, so the other count is too wide
    exfalso
    have leading := rightNormal.leading (leftNormal.least_le.trans_lt below)
    have shifted : 2 ^ 1 ≤ 2 ^ (high - low).toNat := Nat.pow_le_pow_right (by decide) (by omega)
    have wide : 2 ^ precision * 2 ^ 1 ≤ left := by
      rw [counted]
      exact Nat.mul_le_mul leading shifted
    have narrow := leftNormal.narrow
    rw [Nat.pow_succ] at narrow
    omega

/-- The normal form of a number is unique. -/
theorem Normal.unique
    (leftNormal : Normal precision least left low)
    (rightNormal : Normal precision least right high)
    (same : dyadic left low = dyadic right high) :
    left = right ∧ low = high := by
  rcases Int.le_total low high with ordered | ordered
  · exact leftNormal.eq_of_le rightNormal ordered same
  · rcases rightNormal.eq_of_le leftNormal ordered same.symm with ⟨counts, powers⟩
    exact ⟨counts.symm, powers.symm⟩

end Tinyray.Foundation
