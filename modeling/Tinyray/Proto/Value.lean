import Mathlib.Algebra.Ring.Nat
import Mathlib.Data.List.Basic

/-!
# JSON values

The published state of a member is a JSON value of `serde_json`.  This module
has the value type, the equality that crate gives it and the length of its
compact text.

A number is a non-negative 64-bit integer, a negative one or a finite double.
The text of a double comes from a float printer outside this repository, so
its length is a parameter, `FloatFormat`.
-/

namespace Tinyray

/-- A finite double, by its bits. -/
structure F64 where
  bits : BitVec 64
  finite : bits.extractLsb' 52 11 ≠ 0x7FF#11
deriving DecidableEq

namespace F64

/-- Positive and negative zero. -/
def isZero (float : F64) : Bool := float.bits.extractLsb' 0 63 == 0#63

/-- Equality of doubles: the two zeros are equal, all else goes by the bits. -/
def eq (left right : F64) : Bool :=
  left.bits == right.bits || (left.isZero && right.isZero)

theorem eq_refl (float : F64) : float.eq float = true := by
  simp [F64.eq]

end F64

/-- The numbers of `serde_json`; a negative integer is always below zero. -/
inductive Number where
  | posInt (value : UInt64)
  | negInt (value : Int64) (negative : value < 0)
  | float (value : F64)
deriving DecidableEq

/-- Equality of numbers never crosses the three kinds. -/
def Number.eq : Number → Number → Bool
  | .posInt left, .posInt right => left == right
  | .negInt left _, .negInt right _ => left == right
  | .float left, .float right => left.eq right
  | _, _ => false

theorem Number.eq_refl (number : Number) : number.eq number = true := by
  cases number <;> simp [Number.eq, F64.eq_refl]

/--
JSON values.  The fields of an object are listed by ascending key, the order
in which the ordered map behind `serde_json::Map` hands them out.
-/
inductive Value where
  | null
  | bool (value : Bool)
  | number (value : Number)
  | string (value : String)
  | array (items : List Value)
  | object (fields : List (String × Value))

instance : Inhabited Value := ⟨.null⟩

/-- The value of one field; only objects have any. -/
def Value.get : Value → String → Option Value
  | .object fields, key => (fields.find? fun field => field.1 == key).map Prod.snd
  | _, _ => none

/-! ## Induction over children -/

namespace Value

/-- The values right below. -/
def children : Value → List Value
  | .array items => items
  | .object fields => fields.map Prod.snd
  | _ => []

/-- Children are smaller. -/
theorem sizeOf_child {value child : Value}
    (listed : child ∈ value.children) :
    sizeOf child < sizeOf value := by
  cases value with
  | array items =>
    have smaller : sizeOf child < sizeOf items := List.sizeOf_lt_of_mem listed
    simp only [array.sizeOf_spec]
    omega
  | object fields =>
    rcases List.mem_map.1 listed with ⟨field, held, rfl⟩
    have smaller := List.sizeOf_lt_of_mem held
    have part : sizeOf field = 1 + sizeOf field.1 + sizeOf field.2 := rfl
    simp only [object.sizeOf_spec]
    omega
  | _ => cases listed

theorem children_induction {motive : Value → Prop}
    (grow : ∀ value : Value, (∀ child ∈ value.children, motive child) → motive value)
    (value : Value) :
    motive value :=
  grow value fun child _ => children_induction grow child
termination_by sizeOf value
decreasing_by
  exact sizeOf_child ‹_›

end Value

/-! ## Equality -/

namespace Value

mutual

/-- The structural equality `serde_json` derives. -/
def eq : Value → Value → Bool
  | .null, .null => true
  | .bool left, .bool right => left == right
  | .number left, .number right => left.eq right
  | .string left, .string right => left == right
  | .array left, .array right => eqItems left right
  | .object left, .object right => eqFields left right
  | _, _ => false

def eqItems : List Value → List Value → Bool
  | [], [] => true
  | left :: leftRest, right :: rightRest => eq left right && eqItems leftRest rightRest
  | _, _ => false

def eqFields : List (String × Value) → List (String × Value) → Bool
  | [], [] => true
  | (leftKey, left) :: leftRest, (rightKey, right) :: rightRest =>
    leftKey == rightKey && eq left right && eqFields leftRest rightRest
  | _, _ => false

end

instance : BEq Value := ⟨eq⟩

mutual

/-- Every value equals itself. -/
theorem eq_refl (value : Value) : eq value value = true := by
  cases value with
  | null => rfl
  | bool value => simp [eq]
  | number value => simp [eq, Number.eq_refl]
  | string value => simp [eq]
  | array items =>
    rw [eq]
    exact eqItems_refl items
  | object fields =>
    rw [eq]
    exact eqFields_refl fields

theorem eqItems_refl (items : List Value) : eqItems items items = true := by
  cases items with
  | nil => rfl
  | cons item rest =>
    rw [eqItems, eq_refl item, eqItems_refl rest]
    rfl

theorem eqFields_refl (fields : List (String × Value)) : eqFields fields fields = true := by
  cases fields with
  | nil => rfl
  | cons field rest =>
    obtain ⟨key, value⟩ := field
    rw [eqFields, eq_refl value, eqFields_refl rest]
    simp

end

instance : ReflBEq Value := ⟨eq_refl _⟩

/-! ## Identity -/

mutual

/-- The same value down to the sign of a zero, so with the same text. -/
def identical : Value → Value → Bool
  | .null, .null => true
  | .bool left, .bool right => left == right
  | .number left, .number right => left == right
  | .string left, .string right => left == right
  | .array left, .array right => identicalItems left right
  | .object left, .object right => identicalFields left right
  | _, _ => false

def identicalItems : List Value → List Value → Bool
  | [], [] => true
  | left :: leftRest, right :: rightRest =>
    identical left right && identicalItems leftRest rightRest
  | _, _ => false

def identicalFields : List (String × Value) → List (String × Value) → Bool
  | [], [] => true
  | (leftKey, left) :: leftRest, (rightKey, right) :: rightRest =>
    leftKey == rightKey && identical left right && identicalFields leftRest rightRest
  | _, _ => false

end

mutual

/-- `identical` decides equality. -/
theorem identical_iff (left right : Value) : identical left right = true ↔ left = right := by
  cases left with
  | array leftItems =>
    cases right with
    | array rightItems =>
      rw [identical, identicalItems_iff leftItems rightItems, Value.array.injEq]
    | _ => simp [identical]
  | object leftFields =>
    cases right with
    | object rightFields =>
      rw [identical, identicalFields_iff leftFields rightFields, Value.object.injEq]
    | _ => simp [identical]
  | _ => cases right <;> simp [identical]

theorem identicalItems_iff (left right : List Value) :
    identicalItems left right = true ↔ left = right := by
  cases left with
  | nil => cases right <;> simp [identicalItems]
  | cons item rest =>
    cases right with
    | nil => simp [identicalItems]
    | cons other others =>
      rw [identicalItems, Bool.and_eq_true, identical_iff item other,
        identicalItems_iff rest others, List.cons.injEq]

/-- Field by field. -/
theorem identicalFields_iff (left right : List (String × Value)) :
    identicalFields left right = true ↔ left = right := by
  cases left with
  | nil => cases right <;> simp [identicalFields]
  | cons field rest =>
    cases right with
    | nil => simp [identicalFields]
    | cons other others =>
      obtain ⟨key, value⟩ := field
      obtain ⟨otherKey, otherValue⟩ := other
      rw [identicalFields, Bool.and_eq_true, Bool.and_eq_true, identical_iff value otherValue,
        identicalFields_iff rest others, beq_iff_eq, List.cons.injEq, Prod.mk.injEq]

end

instance : DecidableEq Value := fun left right => decidable_of_iff _ (identical_iff left right)

end Value

/-! ## The length of the compact text -/

/-- The number of characters the float printer writes for a double. -/
class FloatFormat where
  textLength : F64 → Nat

/-- Every double as long as the longest one. -/
@[reducible]
def FloatFormat.widest : FloatFormat where
  textLength _ := 24

/-- Bytes of a character. -/
def jsonCharLength (char : Char) : Nat :=
  if char = '"' ∨ char = '\\' ∨ char = '\n' ∨ char = '\r' ∨ char = '\t' ∨
      char.toNat = 0x08 ∨ char.toNat = 0x0C then 2
  else if char.toNat < 0x20 then 6
  else char.utf8Size

/-- Bytes of a text. -/
def jsonStringLength (text : String) : Nat := 2 + (text.toList.map jsonCharLength).sum

theorem commas_add {α : Type*} (rest : List α) :
    (if rest.isEmpty then 0 else 1) + (rest.length - 1) = rest.length := by
  cases rest with
  | nil => rfl
  | cons second others =>
    simp only [List.isEmpty_cons, Bool.false_eq_true, if_false, List.length_cons]
    omega

variable [FloatFormat]

/-- Bytes of a number. -/
def Number.jsonLength : Number → Nat
  | .posInt value => (Nat.toDigits 10 value.toNat).length
  | .negInt value _ => 1 + (Nat.toDigits 10 value.toInt.natAbs).length
  | .float value => FloatFormat.textLength value

namespace Value

mutual

/-- Bytes of the compact text. -/
def jsonLength : Value → Nat
  | .null => 4
  | .bool value => if value then 4 else 5
  | .number value => value.jsonLength
  | .string value => jsonStringLength value
  | .array items => 2 + jsonItemsLength items
  | .object fields => 2 + jsonFieldsLength fields

def jsonItemsLength : List Value → Nat
  | [] => 0
  | [item] => jsonLength item
  | item :: rest => jsonLength item + 1 + jsonItemsLength rest

def jsonFieldsLength : List (String × Value) → Nat
  | [] => 0
  | [(key, value)] => jsonStringLength key + 1 + jsonLength value
  | (key, value) :: rest => jsonStringLength key + 1 + jsonLength value + 1 + jsonFieldsLength rest

end

end Value

theorem jsonItemsLength_cons (item : Value) (rest : List Value) :
    Value.jsonItemsLength (item :: rest) =
      item.jsonLength + (if rest.isEmpty then 0 else 1) + Value.jsonItemsLength rest := by
  cases rest <;> simp [Value.jsonItemsLength]

theorem jsonFieldsLength_cons (name : String) (value : Value)
    (rest : List (String × Value)) :
    Value.jsonFieldsLength ((name, value) :: rest) =
      jsonStringLength name + 1 + value.jsonLength +
        (if rest.isEmpty then 0 else 1) + Value.jsonFieldsLength rest := by
  cases rest <;> simp [Value.jsonFieldsLength]

theorem jsonItemsLength_eq (items : List Value) :
    Value.jsonItemsLength items = (items.map Value.jsonLength).sum + (items.length - 1) := by
  induction items with
  | nil => rfl
  | cons item rest hypothesis =>
    have commas := commas_add rest
    rw [jsonItemsLength_cons, hypothesis, List.map_cons, List.sum_cons, List.length_cons]
    omega

theorem jsonFieldsLength_eq (fields : List (String × Value)) :
    Value.jsonFieldsLength fields =
      (fields.map fun field => jsonStringLength field.1 + 1 + field.2.jsonLength).sum +
        (fields.length - 1) := by
  induction fields with
  | nil => rfl
  | cons field rest hypothesis =>
    have commas := commas_add rest
    rw [jsonFieldsLength_cons, hypothesis, List.map_cons, List.sum_cons, List.length_cons]
    omega

/--
`serialized_len`: the length of the text, or nothing once the counting
writer has gone past its limit.
-/
def serializedLen (value : Value) (limit : Nat) : Option Nat :=
  if value.jsonLength ≤ limit then some value.jsonLength else none

end Tinyray
