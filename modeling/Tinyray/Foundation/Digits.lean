import Mathlib.Data.List.Basic

/-!
# Decimal digits

Numbers as they are written in decimal, and what such a text says.
-/

namespace Tinyray.Foundation

/-- Some digits and nothing else. -/
def isDigits (text : List Char) : Bool := !text.isEmpty && text.all Char.isDigit

/-- The number that digits stand for. -/
def digitsValue (text : List Char) : Nat := Nat.ofDigitChars 10 text 0

/-- The digits of a number as they are written. -/
def digitsOf (number : Nat) : List Char := Nat.toDigits 10 number

theorem isDigit_of_mem_digitsOf {number : Nat} {char : Char}
    (listed : char ∈ digitsOf number) :
    char.isDigit = true :=
  Nat.isDigit_of_mem_toDigits (by decide) (by decide) listed

theorem isDigits_digitsOf (number : Nat) : isDigits (digitsOf number) = true := by
  have written : digitsOf number ≠ [] := Nat.toDigits_ne_nil
  have digits : (digitsOf number).all Char.isDigit = true := by
    rw [List.all_eq_true]
    exact fun char member => isDigit_of_mem_digitsOf member
  simp [isDigits, written, digits]

theorem digitsValue_digitsOf (number : Nat) : digitsValue (digitsOf number) = number :=
  Nat.ofDigitChars_toDigits (by decide) (by decide)

theorem digitsOf_injective : Function.Injective digitsOf := by
  intro left right same
  rw [← digitsValue_digitsOf left, same, digitsValue_digitsOf]

/-- No separator or sign is a digit. -/
theorem not_mem_digitsOf
    {char : Char} (noDigit : char.isDigit = false) (number : Nat) :
    char ∉ digitsOf number := by
  intro member
  rw [isDigit_of_mem_digitsOf member] at noDigit
  cases noDigit

end Tinyray.Foundation
