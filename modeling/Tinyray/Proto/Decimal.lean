import Tinyray.Proto.Value

/-!
# The text of a double

Both languages write a double with the fewest digits that read back as the
same double.  They agree on the digits and differ in the notation.  Python
writes an exponent for numbers below 0.0001, with a sign and at least two
digits.  The printer behind `serde_json` writes one more decade out.  Whether
it puts a plus sign before an exponent, and whether it pads it, is left open.
-/

namespace Tinyray

/-- A decimal number, `0.d₁d₂…` times ten to the `point`. -/
structure Decimal where
  negative : Bool
  first : Fin 10
  more : List (Fin 10)
  point : Int
deriving DecidableEq

namespace Decimal

variable (decimal : Decimal)

/-- The digits as characters. -/
def digits : List Char := (decimal.first :: decimal.more).map fun digit => Nat.digitChar digit

/-- The sign, if any. -/
def sign : List Char := if decimal.negative then ['-'] else []

/-- Without an exponent, with at least one digit on both sides. -/
def positional : List Char :=
  if decimal.point ≤ 0 then
    '0' :: '.' :: List.replicate (-decimal.point).toNat '0' ++ decimal.digits
  else if decimal.digits.length ≤ decimal.point.toNat then
    decimal.digits ++ List.replicate (decimal.point.toNat - decimal.digits.length) '0' ++ ['.', '0']
  else decimal.digits.take decimal.point.toNat ++ '.' :: decimal.digits.drop decimal.point.toNat

/-- The digits with the point after the first. -/
def mantissa : List Char :=
  match decimal.digits with
  | first :: second :: rest => first :: '.' :: second :: rest
  | short => short

/-- The exponent of scientific notation. -/
def exponent : Int := decimal.point - 1

/-- Its digits. -/
def exponentDigits (padded : Bool) : List Char :=
  let digits := Nat.toDigits 10 decimal.exponent.natAbs
  if padded ∧ digits.length < 2 then '0' :: digits else digits

/-- Scientific notation. -/
def scientific (plus padded : Bool) : List Char :=
  decimal.mantissa ++ 'e' ::
    (if decimal.exponent < 0 then ['-']
      else if plus then ['+'] else []) ++
    decimal.exponentDigits padded

/-- `float.__repr__` -/
def repr : List Char :=
  decimal.sign ++ if -4 < decimal.point ∧ decimal.point ≤ 16 then decimal.positional
    else decimal.scientific true true

/-- The compact text. -/
def compact (plus padded : Bool) : List Char :=
  decimal.sign ++ if -5 < decimal.point ∧ decimal.point ≤ 16 then decimal.positional
    else decimal.scientific plus padded

/-! ## The difference in length -/

/-- Characters more than `repr` has. -/
def lost : Nat :=
  if decimal.point = -4 then if decimal.more = [] then 2 else 1
  else 0

/-- Characters fewer than `repr` has. -/
def spared (plus padded : Bool) : Nat :=
  if 16 < decimal.point then if plus then 0 else 1
  else if -9 < decimal.point ∧ decimal.point < -4 then if padded then 0 else 1
  else 0

theorem length_digits : decimal.digits.length = decimal.more.length + 1 := by
  simp [digits]

theorem length_mantissa :
    decimal.mantissa.length = if decimal.more = [] then 1 else decimal.more.length + 2 := by
  cases shape : decimal.more with
  | nil | cons second rest => simp [mantissa, digits, shape]

theorem length_exponentDigits (padded : Bool) :
    (decimal.exponentDigits padded).length =
      (Nat.toDigits 10 decimal.exponent.natAbs).length +
        if padded ∧ decimal.exponent.natAbs < 10 then 1 else 0 := by
  have short :
      (Nat.toDigits 10 decimal.exponent.natAbs).length < 2 ↔ decimal.exponent.natAbs < 10 := by
    rw [Nat.lt_succ_iff]
    exact Nat.length_toDigits_le_iff (by decide) (by decide)
  unfold exponentDigits
  simp only [short]
  split <;> simp [*]

theorem length_scientific (plus padded : Bool) :
    (decimal.scientific plus padded).length =
      decimal.mantissa.length + 1 + (if decimal.exponent < 0 ∨ plus then 1 else 0) +
        (decimal.exponentDigits padded).length := by
  unfold scientific
  by_cases below : decimal.exponent < 0
  · simp [below]
    omega
  · cases plus <;> simp [below] <;> omega

theorem length_positional_of_tiny (tiny : decimal.point = -4) :
    decimal.positional.length = (decimal.scientific true true).length + decimal.lost := by
  have exponent : decimal.exponent = -5 := by
    rw [Decimal.exponent, tiny]
    rfl
  have digits : (Nat.toDigits 10 5).length = 1 := by decide
  rw [length_scientific, length_mantissa, length_exponentDigits, exponent]
  by_cases single : decimal.more = []
  · simp [positional, tiny, lost, length_digits, single, digits]
  · simp [positional, tiny, lost, length_digits, single, digits]

theorem length_scientific_add_spared (plus padded : Bool)
    (outside : ¬ (-5 < decimal.point ∧ decimal.point ≤ 16)) :
    (decimal.scientific plus padded).length + decimal.spared plus padded =
      (decimal.scientific true true).length := by
  simp only [length_scientific, length_exponentDigits, spared, exponent]
  rcases plus with _ | _ <;> rcases padded with _ | _ <;> grind

/-- The lengths of both texts. -/
theorem length_compact (plus padded : Bool) :
    (decimal.compact plus padded).length + decimal.spared plus padded =
      decimal.repr.length + decimal.lost := by
  unfold compact repr
  simp only [List.length_append]
  by_cases written : -4 < decimal.point ∧ decimal.point ≤ 16
  · have compact : -5 < decimal.point ∧ decimal.point ≤ 16 := by omega
    have lost : decimal.lost = 0 := by
      rw [Decimal.lost, if_neg (by omega)]
    have spared : decimal.spared plus padded = 0 := by
      rw [Decimal.spared, if_neg (by omega), if_neg (by omega)]
    rw [if_pos written, if_pos compact, lost, spared]
  · by_cases tiny : decimal.point = -4
    · have spared : decimal.spared plus padded = 0 := by
        rw [Decimal.spared, if_neg (by omega), if_neg (by omega)]
      rw [if_neg written, if_pos (by omega), spared, decimal.length_positional_of_tiny tiny]
      omega
    · have lost : decimal.lost = 0 := by
        rw [Decimal.lost, if_neg tiny]
      have outside : ¬ (-5 < decimal.point ∧ decimal.point ≤ 16) := by
        omega
      rw [if_neg written, if_neg outside, lost,
        ← decimal.length_scientific_add_spared plus padded outside]
      omega

end Decimal

/-! ## The shortest digits -/

namespace F64

/-- The sign bit is set. -/
def negative (float : F64) : Bool := float.bits.getLsbD 63

/-- The significand, as a whole number. -/
def significand (float : F64) : Nat :=
  let fraction := (float.bits.extractLsb' 0 52).toNat
  if float.bits.extractLsb' 52 11 = 0#11 then fraction
  else fraction + 2 ^ 52

/-- The power of two that the significand counts. -/
def scale (float : F64) : Int := max 1 ((float.bits.extractLsb' 52 11).toNat : Int) - 1075

/-- The gap below is half the gap above. -/
def uneven (float : F64) : Bool :=
  float.bits.extractLsb' 0 52 == 0#52 && decide (1 < (float.bits.extractLsb' 52 11).toNat)

/-- A quotient of numbers. -/
structure Ratio where
  numerator : Nat
  denominator : Nat

/-- So many quarters of a unit of the significand. -/
def quarters (float : F64) (count : Nat) : Ratio :=
  let power := float.scale - 2
  ⟨count * 2 ^ power.toNat, 2 ^ (-power).toNat⟩

/-- The order of quotients. -/
def Ratio.lt (left right : Ratio) : Bool :=
  decide
    (left.numerator * right.denominator <
      right.numerator * left.denominator)

/-- A whole number times a power of ten. -/
def tens (count : Nat) (power : Int) : Ratio := ⟨count * 10 ^ power.toNat, 10 ^ (-power).toNat⟩

/-- A number that reads back as this double: ties go to the even one. -/
def readsBack (float : F64) (number : Ratio) : Bool :=
  let low := float.quarters (4 * float.significand - if float.uneven then 1 else 2)
  let high := float.quarters (4 * float.significand + 2)
  if float.significand % 2 = 0 then !number.lt low && !high.lt number
  else low.lt number && number.lt high

/-- Zeros after the point. -/
def leadingZeros (number : Ratio) : Nat → Nat
  | 0 => 0
  | fuel + 1 =>
    if number.numerator * 10 < number.denominator then
      leadingZeros ⟨number.numerator * 10, number.denominator⟩ fuel + 1
    else 0

/-- The `point` of a decimal for this number. -/
def pointOf (number : Ratio) : Int :=
  let whole := number.numerator / number.denominator
  if whole = 0 then -(leadingZeros number 400 : Int)
  else (Nat.toDigits 10 whole).length

/-- The nearest of the decimals of so many digits that read back. -/
def nearest (float : F64) (count : Nat) : Option (Nat × Int) :=
  let number := float.quarters (4 * float.significand)
  let power := pointOf number - count
  let unit := tens 1 power
  let scaled : Ratio := ⟨number.numerator * unit.denominator, number.denominator * unit.numerator⟩
  let below := scaled.numerator / scaled.denominator
  let rest := 2 * (scaled.numerator % scaled.denominator)
  let up :=
    decide (scaled.denominator < rest) || (rest == scaled.denominator && below % 2 == 1)
  -- the two decimals around the number, the nearer one first
  let around := if up then [below + 1, below] else [below, below + 1]
  (around.find? fun found => float.readsBack (tens found power)).map fun found => (found, power)

/-- The fewest digits that read back. -/
def fewest (float : F64) (count : Nat) : Nat → Nat × Int
  | 0 => (0, 0)
  | fuel + 1 =>
    match float.nearest count with
    | some found => found
    | none => fewest float (count + 1) fuel

/-- Digits without the zeros at the end. -/
def significantDigits (count : Nat) : List (Fin 10) :=
  (((Nat.toDigits 10 count).map fun char =>
    Fin.ofNat 10 (char.toNat - '0'.toNat)).reverse.dropWhile (fun digit => digit = 0)).reverse

/-- The shortest decimal that reads back. -/
def shortestDecimal (float : F64) : Decimal :=
  if float.isZero then ⟨float.negative, 0, [], 1⟩
  else
    let (count, power) := float.fewest 1 17
    ⟨float.negative, (significantDigits count).headD 0, (significantDigits count).tail,
      power + (Nat.toDigits 10 count).length⟩

end F64

/-- What the two printers have in common, and what is left open. -/
class FloatPrinter where
  shortest : F64 → Decimal
  /-- The compact text has a plus sign before an exponent. -/
  plus : Bool
  /-- The compact text pads an exponent to two digits. -/
  padded : Bool

/-- Neither a sign nor padding, and the digits by definition. -/
@[reducible]
def FloatPrinter.plain : FloatPrinter where
  shortest := F64.shortestDecimal
  plus := false
  padded := false

namespace FloatPrinter

variable [FloatPrinter]

/-- What `repr` prints. -/
def pythonText (float : F64) : List Char := (shortest float).repr

/-- The lengths of the printed texts. -/
instance : FloatFormat where
  textLength float := ((shortest float).compact plus padded).length

end FloatPrinter

example : (F64.shortestDecimal ⟨0x3ee4f8b588e368f1#64, by decide⟩).repr = "1e-05".toList := by
  decide +kernel

example :
    (F64.shortestDecimal ⟨0x400921fb54442d18#64, by decide⟩).repr = "3.141592653589793".toList := by
  decide +kernel

example : (F64.shortestDecimal ⟨0xfe37e43c8800759c#64, by decide⟩).repr = "-1e+300".toList := by
  decide +kernel

end Tinyray
