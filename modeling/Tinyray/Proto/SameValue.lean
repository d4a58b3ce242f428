import Mathlib.Data.List.Perm.Subperm
import Tinyray.Foundation.Dyadic
import Tinyray.Proto.Decimal
import Tinyray.Proto.Types

/-!
# Filter equality

A filter finds a member by the fields of its state.  Numbers are compared by
value there, at any depth: `3` finds `3.0`, and the double `2 ^ 53` does not
find the integer `2 ^ 53 + 1`.  All else is compared as it is written.

`sameValue` is the comparison as the source has it.  `Exact` is what a value
means: every number is the rational it denotes and an object is a finite map.
-/

namespace Tinyray

open Tinyray.Foundation

/-! ## What a double denotes -/

namespace F64

/-- The number a double stands for. -/
def toRat (float : F64) : ℚ :=
  if float.negative then -dyadic float.significand float.scale
  else dyadic float.significand float.scale

/-- The whole part, towards zero. -/
def trunc (float : F64) : Int := float.toRat.num.tdiv float.toRat.den

/-- `fract` -/
def fract (float : F64) : ℚ := float.toRat - float.trunc

/-- A cast to `i64`, which saturates. -/
def asI64 (float : F64) : Int64 := Int64.ofInt (max (-2 ^ 63) (min float.trunc (2 ^ 63 - 1)))

/-- A cast to `u64`, which saturates. -/
def asU64 (float : F64) : UInt64 := UInt64.ofNat (min float.trunc.toNat (2 ^ 64 - 1))

/-- Doubles are in normal form. -/
theorem normal (float : F64) : Normal 52 (-1074) float.significand float.scale := by
  have fraction : (float.bits.extractLsb' 0 52).toNat < 2 ^ 52 := BitVec.isLt _
  unfold significand scale
  by_cases subnormal : float.bits.extractLsb' 52 11 = 0#11
  · simp only [subnormal, if_true]
    refine ⟨by omega, by decide, ?_⟩
    intro above
    exact absurd above (by decide)
  · have positive : 0 < (float.bits.extractLsb' 52 11).toNat := by
      rw [Nat.pos_iff_ne_zero]
      intro zero
      exact subnormal (BitVec.eq_of_toNat_eq zero)
    simp only [subnormal, if_false]
    exact ⟨by omega, by omega, fun _ => by omega⟩

/-- The bits of a double, as numbers. -/
theorem fields (float : F64) :
    (float.bits.extractLsb' 0 52).toNat = float.bits.toNat % 2 ^ 52 ∧
      (float.bits.extractLsb' 52 11).toNat = float.bits.toNat / 2 ^ 52 % 2 ^ 11 ∧
      (float.bits.extractLsb' 0 63).toNat = float.bits.toNat % 2 ^ 63 ∧
      (float.negative = true ↔ 2 ^ 63 ≤ float.bits.toNat) := by
  have bound := float.bits.isLt
  refine ⟨?_, ?_, ?_, ?_⟩
  · simp [BitVec.extractLsb'_toNat]
  · simp [BitVec.extractLsb'_toNat, Nat.shiftRight_eq_div_pow]
  · simp [BitVec.extractLsb'_toNat]
  · unfold negative
    rw [← BitVec.testBit_toNat, Nat.testBit_eq_decide_div_mod_eq, decide_eq_true_iff]
    omega

theorem bits_eq_zero_iff {width : Nat} (bits : BitVec width) :
    bits = BitVec.ofNat width 0 ↔ bits.toNat = 0 := by
  rw [BitVec.toNat_eq, BitVec.toNat_ofNat, Nat.zero_mod]

theorem significand_eq (float : F64) :
    float.significand =
      if (float.bits.extractLsb' 52 11).toNat = 0 then (float.bits.extractLsb' 0 52).toNat
      else (float.bits.extractLsb' 0 52).toNat + 2 ^ 52 := by
  unfold significand
  simp only [bits_eq_zero_iff]

theorem isZero_iff (float : F64) : float.isZero = true ↔ float.significand = 0 := by
  rcases float.fields with ⟨fraction, exponent, low, -⟩
  unfold isZero
  rw [beq_iff_eq, bits_eq_zero_iff, significand_eq]
  split
  · omega
  · constructor <;> omega

theorem toRat_eq_zero_iff (float : F64) : float.toRat = 0 ↔ float.isZero = true := by
  rw [isZero_iff, ← dyadic_eq_zero_iff float.significand float.scale]
  unfold toRat
  split_ifs <;> simp

/-- Sign, significand and scale say all. -/
theorem bits_eq
    {left right : F64} (signs : left.negative = right.negative)
    (significands : left.significand = right.significand) (scales : left.scale = right.scale) :
    left.bits = right.bits := by
  rcases left.fields with ⟨leftFraction, leftExponent, -, leftSign⟩
  rcases right.fields with ⟨rightFraction, rightExponent, -, rightSign⟩
  have leftBound := left.bits.isLt
  have rightBound := right.bits.isLt
  rw [signs, rightSign] at leftSign
  rw [significand_eq, significand_eq] at significands
  unfold scale at scales
  apply BitVec.eq_of_toNat_eq
  split_ifs at significands <;> omega

/-- Equal doubles are equal numbers. -/
theorem eq_iff_toRat (left right : F64) :
    left.eq right = true ↔ left.toRat = right.toRat := by
  unfold F64.eq
  rw [Bool.or_eq_true, beq_iff_eq, Bool.and_eq_true, ← toRat_eq_zero_iff, ← toRat_eq_zero_iff]
  constructor
  · rintro (bits | ⟨leftZero, rightZero⟩)
    · obtain ⟨leftBits, leftFinite⟩ := left
      cases bits
      rfl
    · exact leftZero.trans rightZero.symm
  · intro same
    by_cases zero : right.toRat = 0
    · exact .inr ⟨same.trans zero, zero⟩
    · left
      have leftNonneg := dyadic_nonneg left.significand left.scale
      have rightNonneg := dyadic_nonneg right.significand right.scale
      -- a number other than zero has one sign
      have signs : left.negative = right.negative := by
        unfold toRat at same zero
        cases leftSign : left.negative <;>
          cases rightSign : right.negative <;>
          simp only [leftSign, rightSign, if_true, Bool.false_eq_true, if_false] at same zero ⊢
        · exact absurd (by linarith) zero
        · exact absurd (by linarith) zero
      have counted : dyadic left.significand left.scale = dyadic right.significand right.scale := by
        unfold toRat at same
        rw [signs] at same
        split_ifs at same
        · exact neg_injective same
        · exact same
      rcases left.normal.unique right.normal counted with ⟨significands, scales⟩
      exact bits_eq signs significands scales

theorem fract_eq_zero_iff (float : F64) : float.fract = 0 ↔ ∃ whole : Int, float.toRat = whole := by
  unfold fract
  rw [sub_eq_zero]
  constructor
  · intro whole
    exact ⟨_, whole⟩
  · rintro ⟨whole, same⟩
    unfold trunc
    rw [same]
    simp

theorem trunc_of_eq {float : F64} {whole : Int} (same : float.toRat = whole) :
    float.trunc = whole := by
  unfold trunc
  rw [same]
  simp

end F64

/-! ## Numbers -/

namespace Number

/-- `is_f64` -/
def isF64 : Number → Bool
  | .float _ => true
  | _ => false

/-- `as_i64` -/
def asI64 : Number → Option Int64
  | .posInt value => if value.toNat < 2 ^ 63 then some (Int64.ofInt value.toNat) else none
  | .negInt value _ => some value
  | .float _ => none

/-- `as_u64` -/
def asU64 : Number → Option UInt64
  | .posInt value => some value
  | _ => none

/-- Bounds are checked before casting because the casts saturate. -/
def integerMatchesFloat (integer : Number) (float : F64) : Bool :=
  if float.fract ≠ 0 then false
  else if float.toRat < 0 then
    decide (-2 ^ 63 ≤ float.toRat) && integer.asI64 == some float.asI64
  else
    -- the largest `u64` rounds up to `2 ^ 64`
    decide (float.toRat < 2 ^ 64) && integer.asU64 == some float.asU64

/-- Mixed comparisons turn the double into an integer, never the reverse. -/
def same : Number → Number → Bool
  | .float left, .float right => left.eq right
  | .float left, right => right.integerMatchesFloat left
  | left, .float right => left.integerMatchesFloat right
  | left, right => left.eq right

/-- The number it stands for. -/
def toRat : Number → ℚ
  | .posInt value => value.toNat
  | .negInt value _ => value.toInt
  | .float value => value.toRat

variable {float : F64} {whole : Int} {integer : Number}

/-- A whole double meets an integer. -/
theorem integerMatchesFloat_of_whole
    (same : float.toRat = whole) (integer : Number) :
    integer.integerMatchesFloat float =
      if whole < 0 then
        decide (-2 ^ 63 ≤ whole) && integer.asI64 == some float.asI64
      else
        decide (whole < 2 ^ 64) && integer.asU64 == some float.asU64 := by
  have noFraction : float.fract = 0 := float.fract_eq_zero_iff.2 ⟨_, same⟩
  have negative : float.toRat < 0 ↔ whole < 0 := by
    rw [same]
    exact_mod_cast Iff.rfl
  have above : -2 ^ 63 ≤ float.toRat ↔ -2 ^ 63 ≤ whole := by
    rw [same]
    exact_mod_cast Iff.rfl
  have below : float.toRat < 2 ^ 64 ↔ whole < 2 ^ 64 := by
    rw [same]
    exact_mod_cast Iff.rfl
  simp only [integerMatchesFloat, noFraction, negative, above, below, ne_eq,
    not_true_eq_false, if_false]

theorem asI64_iff
    (same : float.toRat = whole)
    (above : -2 ^ 63 ≤ whole) (negative : whole < 0) (value : Int64) :
    value = float.asI64 ↔ value.toInt = whole := by
  have clamped : max (-2 ^ 63) (min float.trunc (2 ^ 63 - 1)) = whole := by
    rw [F64.trunc_of_eq same]
    omega
  unfold F64.asI64
  rw [clamped, ← Int64.toInt_inj, Int64.toInt_ofInt_of_le above (by omega)]

theorem asU64_iff
    (same : float.toRat = whole) (nonneg : 0 ≤ whole) (below : whole < 2 ^ 64) (value : UInt64) :
    value = float.asU64 ↔ (value.toNat : Int) = whole := by
  have clamped : min float.trunc.toNat (2 ^ 64 - 1) = whole.toNat := by
    rw [F64.trunc_of_eq same]
    omega
  unfold F64.asU64
  rw [clamped, ← UInt64.toNat_inj, UInt64.toNat_ofNat', Nat.mod_eq_of_lt]
  · omega
  · omega

theorem toInt_neg {value : Int64} (negative : value < 0) : value.toInt < 0 := by
  rw [Int64.lt_iff_toInt_lt] at negative
  exact negative

/-- They match if they are equal. -/
theorem integerMatchesFloat_iff_whole
    (isInteger : integer.isF64 = false) (same : float.toRat = whole) :
    integer.integerMatchesFloat float = true ↔ integer.toRat = whole := by
  rw [integerMatchesFloat_of_whole same]
  cases integer with
  | posInt value =>
    have written : (Number.posInt value).toRat = whole ↔ (value.toNat : Int) = whole := by
      rw [toRat]
      exact_mod_cast Iff.rfl
    have bound := value.toNat_lt
    rw [written]
    split_ifs with negative
    · -- the cast gives a negative integer, which no natural one equals
      rw [Bool.and_eq_true, decide_eq_true_iff, beq_iff_eq]
      constructor
      · rintro ⟨above, cast⟩
        rw [asI64] at cast
        split_ifs at cast with small
        rw [Option.some_inj, asI64_iff same above negative,
          Int64.toInt_ofInt_of_le (by omega) (by omega)] at cast
        exact cast
      · intro equal
        omega
    · rw [Bool.and_eq_true, decide_eq_true_iff, beq_iff_eq]
      unfold asU64
      constructor
      · rintro ⟨below, cast⟩
        rw [Option.some_inj, asU64_iff same (by omega) below] at cast
        exact cast
      · intro equal
        refine ⟨by omega, ?_⟩
        rw [Option.some_inj, asU64_iff same (by omega) (by omega)]
        exact equal
  | negInt value below =>
    have written : (Number.negInt value below).toRat = whole ↔ value.toInt = whole := by
      rw [toRat]
      exact_mod_cast Iff.rfl
    have least := value.le_toInt
    have negativeValue := toInt_neg below
    rw [written]
    split_ifs with negative
    · rw [Bool.and_eq_true, decide_eq_true_iff, beq_iff_eq]
      unfold asI64
      constructor
      · rintro ⟨above, cast⟩
        rw [Option.some_inj, asI64_iff same above negative] at cast
        exact cast
      · intro equal
        refine ⟨by omega, ?_⟩
        rw [Option.some_inj, asI64_iff same (by omega) negative]
        exact equal
    · simp only [asU64, reduceCtorEq, Bool.and_eq_true, beq_iff_eq, and_false, false_iff]
      omega
  | float value => cases isInteger

theorem toRat_whole (isInteger : integer.isF64 = false) : ∃ whole : Int, integer.toRat = whole := by
  cases integer with
  | posInt value => exact ⟨value.toNat, rfl⟩
  | negInt value negative => exact ⟨value.toInt, rfl⟩
  | float value => cases isInteger

/-- Any double meets an integer. -/
theorem integerMatchesFloat_iff
    (isInteger : integer.isF64 = false) (float : F64) :
    integer.integerMatchesFloat float = true ↔ integer.toRat = float.toRat := by
  by_cases noFraction : float.fract = 0
  · rcases float.fract_eq_zero_iff.1 noFraction with ⟨whole, same⟩
    rw [same]
    exact integerMatchesFloat_iff_whole isInteger same
  · rcases toRat_whole isInteger with ⟨whole, written⟩
    have unlike : integer.toRat ≠ float.toRat := by
      intro equal
      exact noFraction (float.fract_eq_zero_iff.2 ⟨whole, equal.symm.trans written⟩)
    simp [integerMatchesFloat, noFraction, unlike]

/-- Equal numbers, in any format. -/
theorem same_iff (left right : Number) :
    left.same right = true ↔ left.toRat = right.toRat := by
  cases left with
  | float left =>
    cases right with
    | float right => exact left.eq_iff_toRat right
    | posInt right => exact (integerMatchesFloat_iff rfl left).trans eq_comm
    | negInt right negative =>
      exact (integerMatchesFloat_iff rfl left).trans eq_comm
  | posInt left =>
    cases right with
    | float right => exact integerMatchesFloat_iff rfl right
    | posInt right =>
      simp [same, Number.eq, toRat, UInt64.toNat_inj]
    | negInt right negative =>
      have below := toInt_neg negative
      have unlike : ((left.toNat : Int) : ℚ) ≠ right.toInt := by
        rw [Ne, Int.cast_inj]
        omega
      simpa [same, Number.eq, toRat] using unlike
  | negInt left leftNegative =>
    cases right with
    | float right => exact integerMatchesFloat_iff rfl right
    | posInt right =>
      have below := toInt_neg leftNegative
      have unlike : (left.toInt : ℚ) ≠ (right.toNat : Int) := by
        rw [Ne, Int.cast_inj]
        omega
      simpa [same, Number.eq, toRat] using unlike
    | negInt right negative =>
      simp [same, Number.eq, toRat, Int64.toInt_inj]

end Number

/-! ## Values -/

/-- What a value stands for. -/
inductive Exact where
  | null
  | bool (value : Bool)
  | number (value : ℚ)
  | string (value : String)
  | array (items : List Exact)
  | object (fields : String → Option Exact)

namespace Value

mutual

/-- Nothing but numbers is relaxed: same length, same keys, at any depth. -/
def sameValue : Value → Value → Bool
  | .number left, .number right => left.same right
  | .array left, .array right =>
    left.length == right.length && sameItems left right
  | .object left, .object right =>
    left.length == right.length && sameFields left right
  | left, right => left == right

/-- The items side by side, as far as both lists go. -/
def sameItems : List Value → List Value → Bool
  | left :: leftRest, right :: rightRest => sameValue left right && sameItems leftRest rightRest
  | _, _ => true

/-- Every field of the first object, looked up in the second. -/
def sameFields : List (String × Value) → List (String × Value) → Bool
  | [], _ => true
  | (key, left) :: leftRest, right =>
    ((Value.object right).get key).any (sameValue left) && sameFields leftRest right

end

mutual

/-- What this value stands for. -/
def exact : Value → Exact
  | .null => .null
  | .bool value => .bool value
  | .number value => .number value.toRat
  | .string value => .string value
  | .array items => .array (exactItems items)
  | .object fields => .object (exactFields fields)

def exactItems : List Value → List Exact
  | [] => []
  | item :: rest => exact item :: exactItems rest

def exactFields : List (String × Value) → String → Option Exact
  | [], _ => none
  | (name, value) :: rest, key => if name = key then some (exact value) else exactFields rest key

end

mutual

/-- No object has two fields of one name. -/
def distinctKeys : Value → Bool
  | .array items => distinctItems items
  | .object fields =>
    decide (fields.map Prod.fst).Nodup && distinctFields fields
  | _ => true

def distinctItems : List Value → Bool
  | [] => true
  | item :: rest => distinctKeys item && distinctItems rest

def distinctFields : List (String × Value) → Bool
  | [] => true
  | (_, value) :: rest => distinctKeys value && distinctFields rest

end

end Value

/-- A JSON value as `serde_json` has it: its objects are maps. -/
structure Json where
  value : Value
  distinct : value.distinctKeys = true

namespace Value

theorem get_object_cons (name key : String) (value : Value)
    (rest : List (String × Value)) :
    (Value.object ((name, value) :: rest)).get key =
      if name = key then some value else (Value.object rest).get key := by
  simp only [Value.get, List.find?_cons]
  by_cases same : name = key
  · simp [same]
  · simp [same, beq_eq_false_iff_ne.2 same]

theorem exactFields_eq (fields : List (String × Value)) (key : String) :
    exactFields fields key = ((Value.object fields).get key).map exact := by
  induction fields with
  | nil => rfl
  | cons field rest hypothesis =>
    obtain ⟨name, value⟩ := field
    rw [exactFields, get_object_cons, hypothesis]
    split <;> rfl

theorem get_isSome_iff (fields : List (String × Value)) (key : String) :
    ((Value.object fields).get key).isSome = true ↔ key ∈ fields.map Prod.fst := by
  unfold Value.get
  simp

variable {key : String} {value : Value}

theorem mem_of_get
    {fields : List (String × Value)} (found : (Value.object fields).get key = some value) :
    (key, value) ∈ fields := by
  unfold Value.get at found
  simp only [Option.map_eq_some_iff] at found
  rcases found with ⟨⟨name, held⟩, found, rfl⟩
  have named := List.find?_some found
  simp only [beq_iff_eq] at named
  subst named
  exact List.mem_of_find?_eq_some found

/-- A distinct key is found. -/
theorem get_of_mem
    {fields : List (String × Value)} (distinct : (fields.map Prod.fst).Nodup)
    (member : (key, value) ∈ fields) :
    (Value.object fields).get key = some value := by
  induction fields with
  | nil => cases member
  | cons field rest hypothesis =>
    obtain ⟨name, held⟩ := field
    rw [List.map_cons, List.nodup_cons] at distinct
    rw [get_object_cons]
    rcases List.mem_cons.1 member with same | later
    · cases same
      exact if_pos rfl
    · have unlike : name ≠ key := by
        rintro rfl
        exact distinct.1 (List.mem_map.2 ⟨_, later, rfl⟩)
      rw [if_neg unlike]
      exact hypothesis distinct.2 later

/-- Distinct keys, further down. -/
theorem distinctKeys_of_mem
    {fields : List (String × Value)} (distinct : distinctFields fields = true)
    (member : (key, value) ∈ fields) :
    distinctKeys value = true := by
  induction fields with
  | nil => cases member
  | cons field rest hypothesis =>
    obtain ⟨name, held⟩ := field
    rw [distinctFields, Bool.and_eq_true] at distinct
    rcases List.mem_cons.1 member with same | later
    · cases same
      exact distinct.1
    · exact hypothesis distinct.2 later

/-- When two objects stand for the same. -/
theorem exactFields_eq_iff
    {left right : List (String × Value)} (leftDistinct : (left.map Prod.fst).Nodup)
    (rightDistinct : (right.map Prod.fst).Nodup) :
    exactFields left = exactFields right ↔
      left.length = right.length ∧
        ∀ key value, (key, value) ∈ left →
          ∃ other, (Value.object right).get key = some other ∧ exact value = exact other := by
  have keys (same : exactFields left = exactFields right) (key : String) :
      key ∈ left.map Prod.fst ↔ key ∈ right.map Prod.fst := by
    have found := congrArg Option.isSome (congrFun same key)
    rw [exactFields_eq, exactFields_eq, Option.isSome_map, Option.isSome_map] at found
    rw [← get_isSome_iff, ← get_isSome_iff, found]
  constructor
  · intro same
    constructor
    · have perm := (List.perm_ext_iff_of_nodup leftDistinct rightDistinct).2 (keys same)
      simpa using perm.length_eq
    · intro key value member
      have found := congrFun same key
      rw [exactFields_eq, exactFields_eq, get_of_mem leftDistinct member,
        Option.map_some, eq_comm, Option.map_eq_some_iff] at found
      rcases found with ⟨other, held, equal⟩
      exact ⟨other, held, equal.symm⟩
  · rintro ⟨lengths, inside⟩
    have subset : left.map Prod.fst ⊆ right.map Prod.fst := by
      intro key member
      rcases List.mem_map.1 member with ⟨⟨name, value⟩, listed, rfl⟩
      rcases inside name value listed with ⟨other, held, -⟩
      exact List.mem_map.2 ⟨_, mem_of_get held, rfl⟩
    -- as many keys, so no key of the second object is missing in the first
    have perm : (left.map Prod.fst).Perm (right.map Prod.fst) :=
      (List.subperm_of_subset leftDistinct subset).perm_of_length_le (by simp [lengths])
    funext key
    rw [exactFields_eq, exactFields_eq]
    cases found : (Value.object left).get key with
    | some value =>
      rcases inside key value (mem_of_get found) with ⟨other, held, equal⟩
      rw [held, Option.map_some, Option.map_some, equal]
    | none =>
      have absent : key ∉ right.map Prod.fst := by
        rw [← perm.mem_iff, ← get_isSome_iff, found]
        simp
      rw [← get_isSome_iff, Bool.not_eq_true, Option.isSome_eq_false_iff,
        Option.isNone_iff_eq_none] at absent
      rw [absent]

theorem beq_eq (left right : Value) : (left == right) = eq left right :=
  rfl

mutual

/-- `same_value` is equality of meaning. -/
theorem sameValue_iff
    (left right : Value) (leftDistinct : left.distinctKeys = true)
    (rightDistinct : right.distinctKeys = true) :
    sameValue left right = true ↔ exact left = exact right := by
  cases left with
  | number left =>
    cases right with
    | number right =>
      rw [sameValue, exact, exact, Exact.number.injEq]
      exact left.same_iff right
    | _ => simp [sameValue, exact, beq_eq, eq]
  | array left =>
    cases right with
    | array right =>
      rw [distinctKeys] at leftDistinct rightDistinct
      rw [sameValue, Bool.and_eq_true, beq_iff_eq, exact, exact, Exact.array.injEq]
      exact sameItems_iff left right leftDistinct rightDistinct
    | _ => simp [sameValue, exact, beq_eq, eq]
  | object left =>
    cases right with
    | object right =>
      rw [distinctKeys, Bool.and_eq_true, decide_eq_true_iff] at leftDistinct rightDistinct
      rw [sameValue, Bool.and_eq_true, beq_iff_eq, exact, exact, Exact.object.injEq,
        exactFields_eq_iff leftDistinct.1 rightDistinct.1,
        sameFields_iff left right leftDistinct.2 rightDistinct.2]
    | _ => simp [sameValue, exact, beq_eq, eq]
  | _ => cases right <;> simp [sameValue, exact, beq_eq, eq]

/-- Item by item. -/
theorem sameItems_iff
    (left right : List Value) (leftDistinct : distinctItems left = true)
    (rightDistinct : distinctItems right = true) :
    left.length = right.length ∧ sameItems left right = true ↔
      exactItems left = exactItems right := by
  cases left with
  | nil => cases right <;> simp [sameItems, exactItems]
  | cons item rest =>
    cases right with
    | nil => simp [exactItems]
    | cons other others =>
      rw [distinctItems, Bool.and_eq_true] at leftDistinct rightDistinct
      rw [sameItems, Bool.and_eq_true, exactItems, exactItems, List.cons.injEq,
        sameValue_iff item other leftDistinct.1 rightDistinct.1,
        ← sameItems_iff rest others leftDistinct.2 rightDistinct.2,
        List.length_cons, List.length_cons, Nat.add_right_cancel_iff]
      exact and_left_comm

/-- Field by field. -/
theorem sameFields_iff
    (left right : List (String × Value)) (leftDistinct : distinctFields left = true)
    (rightDistinct : distinctFields right = true) :
    sameFields left right = true ↔
      ∀ key value, (key, value) ∈ left →
        ∃ other, (Value.object right).get key = some other ∧ exact value = exact other := by
  cases left with
  | nil => simp [sameFields]
  | cons field rest =>
    obtain ⟨name, value⟩ := field
    rw [distinctFields, Bool.and_eq_true] at leftDistinct
    have first :
        ((Value.object right).get name).any (sameValue value) = true ↔
          ∃ other, (Value.object right).get name = some other ∧ exact value = exact other := by
      rw [Option.any_eq_true]
      refine exists_congr fun other => and_congr_right fun held => ?_
      exact sameValue_iff value other leftDistinct.1
        (distinctKeys_of_mem rightDistinct (mem_of_get held))
    rw [sameFields, Bool.and_eq_true, first, sameFields_iff rest right leftDistinct.2 rightDistinct]
    constructor
    · rintro ⟨head, tail⟩ key held member
      rcases List.mem_cons.1 member with same | later
      · cases same
        exact head
      · exact tail key held later
    · intro all
      exact ⟨all name value List.mem_cons_self,
        fun key held member => all key held (List.mem_cons_of_mem _ member)⟩

end

end Value

/-! ## Filters -/

/-- A filter that is no object finds everyone. -/
def Member.matches (member : Member) : Value → Bool
  | .object fields =>
    fields.all fun field => (member.state.get field.1).any fun got => got.sameValue field.2
  | _ => true

namespace Exact

/-- The field of a name. -/
def get : Exact → String → Option Exact
  | .object fields, key => fields key
  | _, _ => none

/-- A state has every field of a filter. -/
def Matches (state : Exact) : Exact → Prop
  | .object fields => ∀ key value, fields key = some value → state.get key = some value
  | _ => True

end Exact

namespace Value

theorem exact_get (state : Value) (key : String) :
    state.exact.get key = (state.get key).map exact := by
  cases state with
  | object fields =>
    rw [exact, Exact.get]
    exact exactFields_eq fields key
  | _ => rfl

theorem distinctKeys_get
    {state : Value} (distinct : state.distinctKeys = true) {key : String}
    {value : Value} (found : state.get key = some value) :
    value.distinctKeys = true := by
  cases state with
  | object fields =>
    rw [distinctKeys, Bool.and_eq_true] at distinct
    exact distinctKeys_of_mem distinct.2 (mem_of_get found)
  | _ => cases found

end Value

/-- A filter matches by meaning. -/
theorem Member.matches_iff
    (member : Member) (distinct : member.state.distinctKeys = true) (filter : Json) :
    member.matches filter.value = true ↔ member.state.exact.Matches filter.value.exact := by
  obtain ⟨filter, filterDistinct⟩ := filter
  cases filter with
  | object fields =>
    rw [Value.distinctKeys, Bool.and_eq_true, decide_eq_true_iff] at filterDistinct
    rw [Member.matches, List.all_eq_true, Value.exact, Exact.Matches]
    -- a field of the filter and a key of the map it means
    have field (key : String) (value : Value)
        (listed : (key, value) ∈ fields) :
        ((member.state.get key).any fun got => got.sameValue value) = true ↔
          member.state.exact.get key = some value.exact := by
      rw [Option.any_eq_true, Value.exact_get, Option.map_eq_some_iff]
      refine exists_congr fun got => and_congr_right fun found => ?_
      exact Value.sameValue_iff got value
        (Value.distinctKeys_get distinct found)
        (Value.distinctKeys_of_mem filterDistinct.2 listed)
    constructor
    · intro all key value meant
      rw [Value.exactFields_eq, Option.map_eq_some_iff] at meant
      rcases meant with ⟨written, found, rfl⟩
      have listed := Value.mem_of_get found
      exact (field key written listed).1 (all (key, written) listed)
    · rintro all ⟨key, value⟩ listed
      refine (field key value listed).2 (all key value.exact ?_)
      rw [Value.exactFields_eq, Value.get_of_mem filterDistinct.1 listed, Option.map_some]
  | _ => simp [Member.matches, Value.exact, Exact.Matches]

/--
Two values are the same to a filter exactly when they mean the same, so this
is an equivalence, and filters and states may be replaced by the same ones.
-/
theorem sameValue_is_equality_of_meaning
    (first second third : Json) (member : Member) :
    (first.value.sameValue second.value = true ↔ first.value.exact = second.value.exact) ∧
      first.value.sameValue first.value = true ∧
      first.value.sameValue second.value = second.value.sameValue first.value ∧
      (first.value.sameValue second.value = true → second.value.sameValue third.value = true →
        first.value.sameValue third.value = true) ∧
      (first.value.sameValue second.value = true →
        { member with state := third.value }.matches first.value =
            { member with state := third.value }.matches second.value ∧
          { member with state := first.value }.matches third.value =
            { member with state := second.value }.matches third.value) := by
  have meaning (left right : Json) :
      left.value.sameValue right.value = true ↔ left.value.exact = right.value.exact :=
    Value.sameValue_iff _ _ left.distinct right.distinct
  refine ⟨meaning first second, (meaning first first).2 rfl, ?_, ?_, ?_⟩
  · rw [Bool.eq_iff_iff, meaning, meaning]
    exact eq_comm
  · intro left right
    rw [meaning] at left right ⊢
    exact left.trans right
  · intro same
    rw [meaning] at same
    constructor
    · rw [Bool.eq_iff_iff, Member.matches_iff _ third.distinct,
        Member.matches_iff _ third.distinct, same]
    · rw [Bool.eq_iff_iff, Member.matches_iff _ first.distinct,
        Member.matches_iff _ second.distinct]
      simp only [same]

/-- The double `3.0`. -/
private def threeFloat : F64 := ⟨0x4008000000000000#64, by decide⟩

/-- An object of one number. -/
private def shard (number : Number) : Json := ⟨.object [("shard", .number number)], rfl⟩

/-- A shard computed by a division finds the member that published it. -/
theorem sameValue_three :
    (shard (.posInt 3)).value.sameValue (shard (.float threeFloat)).value = true ∧
      Member.matches ⟨1, none, 1, none, (shard (.posInt 3)).value, true⟩ (shard (.posInt 3)).value =
        Member.matches ⟨1, none, 1, none, (shard (.posInt 3)).value, true⟩
          (shard (.float threeFloat)).value := by
  have same : (shard (.posInt 3)).value.sameValue (shard (.float threeFloat)).value = true := by
    decide +kernel
  have equality :=
    sameValue_is_equality_of_meaning (shard (.posInt 3))
      (shard (.float threeFloat)) (shard (.posInt 3))
      ⟨1, none, 1, none, .null, true⟩
  exact ⟨same, (equality.2.2.2.2 same).1⟩

end Tinyray
