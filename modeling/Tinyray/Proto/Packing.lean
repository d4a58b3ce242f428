import Mathlib.Algebra.Order.BigOperators.Group.List
import Mathlib.Algebra.Order.Group.Nat
import Tinyray.Foundation.Ascii
import Tinyray.Proto.Types
import Tinyray.Proto.Wire

/-!
# Deltas on the wire

A delta is sent as MessagePack with named fields.  In most respects this is
shorter than the compact JSON text.  Two things are longer: a string of 256
bytes or more, whose header has one byte more than the two quotes, and a double
with a short text.  `Value.shortfall` adds up what the texts of the doubles
lack, and `Value.length_packed_le` says that nothing else costs more than one
byte in 256.
-/

namespace Tinyray

open Tinyray.Foundation
open Tinyray.Proto

/-! ## The encoding -/

/-- A packed truth value. -/
def boolBytes (value : Bool) : Bytes := [if value then 0xc3 else 0xc2]

/-- A negative number, in two's complement. -/
def sintBytes (value : Int) : Bytes :=
  let word := (value % 2 ^ 64).toNat
  if -32 ≤ value then toBeBytes 1 word
  else if -2 ^ 7 ≤ value then 0xd0 :: toBeBytes 1 word
  else if -2 ^ 15 ≤ value then 0xd1 :: toBeBytes 2 word
  else if -2 ^ 31 ≤ value then 0xd2 :: toBeBytes 4 word
  else 0xd3 :: toBeBytes 8 word

/-- A packed array. -/
def arrayBytes (items : List Bytes) : Bytes :=
  Pack.header items.length (some (16, 0x90)) none 0xdc 0xdd ++ items.flatten

/-- A map, or a structure with named fields. -/
def mapBytes (fields : List (String × Bytes)) : Bytes :=
  Pack.header fields.length (some (16, 0x80)) none 0xde 0xdf ++
    fields.flatMap fun field => Pack.strBytes field.1 ++ field.2

/-- A packed number. -/
def Number.packed : Number → Bytes
  | .posInt value => Pack.uintBytes value.toNat
  | .negInt value _ => sintBytes value.toInt
  | .float value => 0xcb :: toBeBytes 8 value.bits.toNat

namespace Value

mutual

/-- A packed value. -/
def packed : Value → Bytes
  | .null => [0xc0]
  | .bool value => boolBytes value
  | .number value => value.packed
  | .string value => Pack.strBytes value
  | .array items => arrayBytes (packedItems items)
  | .object fields => mapBytes (packedFields fields)

def packedItems : List Value → List Bytes
  | [] => []
  | item :: rest => item.packed :: packedItems rest

def packedFields : List (String × Value) → List (String × Bytes)
  | [] => []
  | (name, value) :: rest => (name, value.packed) :: packedFields rest

end

end Value

/-- Neither a seat nor a url is written if there is none. -/
def Member.packed (member : Member) : Bytes :=
  mapBytes
    ([("id", Pack.uintBytes member.id)] ++
      (member.slot.map fun slot => ("slot", Pack.uintBytes slot)).toList ++
      [("incarnation", Pack.uintBytes member.incarnation)] ++
      (member.url.map fun url => ("url", Pack.strBytes url)).toList ++
      [("state", member.state.packed), ("ready", boolBytes member.ready)])

/-- A packed delta. -/
def PoolDelta.packed (delta : PoolDelta) : Bytes :=
  mapBytes
    [("version", Pack.uintBytes delta.version), ("roster", Pack.uintBytes delta.roster.toNat),
      ("policy", Pack.strBytes delta.policy),
      ("methods", arrayBytes (delta.methods.map Pack.strBytes)),
      ("size", (delta.size.map Pack.uintBytes).getD [0xc0]),
      ("changed", arrayBytes (delta.changed.map Member.packed)),
      ("removed", arrayBytes (delta.removed.map Pack.uintBytes)), ("full", boolBytes delta.full)]

/-! ## Lengths -/

/-- The bytes before the items of an array or a map. -/
def containerHeader (count : Nat) : Nat := if count < 16 then 1 else if count < 2 ^ 16 then 3 else 5

/-- Bytes before a text. -/
def stringHeader (size : Nat) : Nat :=
  if size < 32 then 1
  else if size < 2 ^ 8 then 2
  else if size < 2 ^ 16 then 3
  else 5

theorem containerHeader_le (count : Nat) : containerHeader count ≤ 5 := by
  unfold containerHeader
  split_ifs <;> decide

theorem length_header (count marker word long : Nat) :
    (Pack.header count (some (16, marker)) none word long).length = containerHeader count := by
  simp only [Pack.header, containerHeader, Option.filter_none]
  split_ifs <;> rfl

@[simp]
theorem length_boolBytes (value : Bool) : (boolBytes value).length = 1 :=
  rfl

/-- A packed text's length. -/
theorem length_strBytes (text : String) :
    (Pack.strBytes text).length = stringHeader text.utf8ByteSize + text.utf8ByteSize := by
  have content : text.toByteArray.data.toList.length = text.utf8ByteSize := rfl
  rw [Pack.strBytes, List.length_append, content]
  congr 1
  unfold Pack.header stringHeader
  by_cases byte : text.utf8ByteSize < 2 ^ 8
  · simp only [Option.filter_some, decide_eq_true byte, if_true]
    split_ifs <;> rfl
  · simp only [Option.filter_some, decide_eq_false byte, Bool.false_eq_true, if_false]
    split_ifs <;> rfl

theorem length_uintBytes_le (value : Nat) : (Pack.uintBytes value).length ≤ 9 := by
  unfold Pack.uintBytes
  split_ifs <;> simp

theorem length_arrayBytes (items : List Bytes) :
    (arrayBytes items).length = containerHeader items.length + (items.map List.length).sum := by
  rw [arrayBytes, List.length_append, length_header, List.length_flatten]

theorem length_arrayBytes_map_le
    {α : Type} (items : List α) {pack : α → Bytes} {bound : α → Nat}
    (within : ∀ item, (pack item).length ≤ bound item) :
    (arrayBytes (items.map pack)).length ≤ 5 + (items.map bound).sum := by
  rw [length_arrayBytes, List.map_map]
  exact Nat.add_le_add (containerHeader_le _) (List.sum_le_sum fun item _ => within item)

/-- The bytes of a field of a map, with its name. -/
def fieldLength (field : String × Bytes) : Nat := (Pack.strBytes field.1).length + field.2.length

theorem fieldLength_mk (name : String) (bytes : Bytes) :
    fieldLength (name, bytes) = (Pack.strBytes name).length + bytes.length := rfl

theorem length_mapBytes (fields : List (String × Bytes)) :
    (mapBytes fields).length = containerHeader fields.length + (fields.map fieldLength).sum := by
  have field :
      (fun field : String × Bytes => (Pack.strBytes field.1 ++ field.2).length) = fieldLength :=
    funext fun field => List.length_append
  rw [mapBytes, List.length_append, length_header, List.length_flatMap, field]

theorem length_strBytes_le (text : String) :
    (Pack.strBytes text).length ≤ text.utf8ByteSize * 6 + 1 := by
  rw [length_strBytes]
  unfold stringHeader
  split_ifs <;> omega

/-- A packed member's length. -/
theorem Member.length_packed_le (member : Member) :
    member.packed.length ≤
      66 + member.state.packed.length +
        (member.url.map fun url => url.utf8ByteSize * 6).getD 0 := by
  have id := length_uintBytes_le member.id
  have incarnation := length_uintBytes_le member.incarnation
  have seat :
      ((member.slot.map fun slot =>
        ("slot", Pack.uintBytes slot)).toList.map fieldLength).sum ≤ 14 := by
    cases member.slot with
    | none => exact Nat.zero_le _
    | some slot => exact Nat.add_le_add_left (length_uintBytes_le slot) 5
  have address :
      ((member.url.map fun url =>
        ("url", Pack.strBytes url)).toList.map fieldLength).sum ≤
        5 + (member.url.map fun url => url.utf8ByteSize * 6).getD 0 := by
    cases member.url with
    | none => exact Nat.zero_le _
    | some url =>
      have content := length_strBytes_le url
      change 4 + (Pack.strBytes url).length ≤ 5 + url.utf8ByteSize * 6
      omega
  have few (count : Nat) (small : count ≤ 6) : containerHeader count = 1 := if_pos (by omega)
  have names :
      (Pack.strBytes "id").length = 3 ∧ (Pack.strBytes "incarnation").length = 12 ∧
        (Pack.strBytes "state").length = 6 ∧ (Pack.strBytes "ready").length = 6 := by
    decide
  rw [packed, length_mapBytes, few]
  · simp only [List.map_append, List.sum_append, List.map_cons,
      List.map_nil, List.sum_cons, List.sum_nil, fieldLength_mk, names, length_boolBytes]
    omega
  · cases member.slot <;> cases member.url <;> simp

/-- A packed delta's length. -/
theorem PoolDelta.length_packed_le (delta : PoolDelta) :
    delta.packed.length ≤
      101 + delta.policy.utf8ByteSize * 6 +
        (delta.methods.map fun name => name.utf8ByteSize * 6 + 3).sum +
        (delta.changed.map fun member => member.packed.length).sum +
        (delta.removed.map fun _ => 9).sum := by
  have names :
      (Pack.strBytes "version").length = 8 ∧ (Pack.strBytes "roster").length = 7 ∧
        (Pack.strBytes "policy").length = 7 ∧ (Pack.strBytes "methods").length = 8 ∧
        (Pack.strBytes "size").length = 5 ∧ (Pack.strBytes "changed").length = 8 ∧
        (Pack.strBytes "removed").length = 8 ∧ (Pack.strBytes "full").length = 5 := by
    decide
  have version := length_uintBytes_le delta.version
  have roster := length_uintBytes_le delta.roster.toNat
  have policy := length_strBytes_le delta.policy
  have size : ((delta.size.map Pack.uintBytes).getD [0xc0]).length ≤ 9 := by
    cases delta.size with
    | none => decide
    | some size => exact length_uintBytes_le size
  have methods :=
    length_arrayBytes_map_le delta.methods fun name =>
      (length_strBytes_le name).trans (Nat.add_le_add_left (by decide : 1 ≤ 3) _)
  have changed :=
    length_arrayBytes_map_le delta.changed fun member => Nat.le_refl member.packed.length
  have removed := length_arrayBytes_map_le delta.removed length_uintBytes_le
  have header : containerHeader 8 = 1 := rfl
  rw [packed, length_mapBytes]
  simp only [List.length_cons, List.length_nil, List.map_cons,
    List.map_nil, List.sum_cons, List.sum_nil, fieldLength_mk, names,
    length_boolBytes, Nat.zero_add, Nat.reduceAdd, header]
  omega

/-! ## The encoding and the JSON text -/

theorem length_marked_le_digits
    {number width : Nat} (positive : 0 < width)
    (large : 10 ^ width ≤ number) (marker : UInt8) (value : Nat) :
    (marker :: toBeBytes width value).length ≤ (Nat.toDigits 10 number).length := by
  rw [List.length_cons, length_toBeBytes, Nat.succ_le_iff, ← Nat.not_le,
    Nat.length_toDigits_le_iff (by decide) positive]
  exact Nat.not_lt.2 large

theorem length_uintBytes_le_digits (value : Nat) :
    (Pack.uintBytes value).length ≤ (Nat.toDigits 10 value).length := by
  unfold Pack.uintBytes
  split_ifs with tiny byte short word
  · exact Nat.length_toDigits_pos
  all_goals exact length_marked_le_digits (by decide) (by omega) _ _

theorem length_sintBytes_le_digits (value : Int) :
    (sintBytes value).length ≤ 1 + (Nat.toDigits 10 value.natAbs).length := by
  unfold sintBytes
  simp only
  split_ifs with tiny byte short word
  · rw [length_toBeBytes]
    exact Nat.le_add_right _ _
  all_goals
    refine Nat.le_add_left_of_le ?_
    exact length_marked_le_digits (by decide) (by omega) _ _

/-- Escapes are not shorter. -/
theorem utf8Size_le_jsonCharLength (char : Char) : char.utf8Size ≤ jsonCharLength char := by
  have ascii (low : char.toNat < 128) : char.utf8Size = 1 := by
    rw [Char.utf8Size_eq_one_iff, UInt32.le_iff_toNat_le]
    exact Nat.le_of_lt_succ low
  unfold jsonCharLength
  split_ifs with short control
  · rw [ascii]
    · decide
    · rcases short with rfl | rfl | rfl | rfl | rfl | code | code
      all_goals first | decide | omega
  · rw [ascii (by omega)]
    decide
  · exact Nat.le_refl _

theorem utf8ByteSize_le_jsonStringLength (text : String) :
    text.utf8ByteSize + 2 ≤ jsonStringLength text := by
  rw [jsonStringLength, utf8ByteSize_eq_sum, Nat.add_comm]
  refine Nat.add_le_add_left ?_ 2
  exact List.sum_le_sum fun char _ => utf8Size_le_jsonCharLength char

theorem length_strBytes_le_json (text : String) :
    256 * (Pack.strBytes text).length ≤ 257 * jsonStringLength text := by
  have quoted := utf8ByteSize_le_jsonStringLength text
  rw [length_strBytes]
  unfold stringHeader
  split_ifs <;> omega

namespace Value

theorem packedItems_eq (items : List Value) : packedItems items = items.map packed := by
  induction items with
  | nil => rfl
  | cons item rest hypothesis =>
    rw [packedItems, hypothesis, List.map_cons]

theorem packedFields_eq (fields : List (String × Value)) :
    packedFields fields = fields.map fun field => (field.1, field.2.packed) := by
  induction fields with
  | nil => rfl
  | cons field rest hypothesis =>
    rw [packedFields, hypothesis, List.map_cons]

end Value

theorem containerHeader_le_separators (count : Nat) :
    256 * containerHeader count ≤ 257 * (2 + (count - 1)) := by
  unfold containerHeader
  split_ifs <;> omega

theorem sum_le_of_each
    {α : Type} {items : List α} {size text lack : α → Nat}
    (each : ∀ item ∈ items, 256 * size item ≤ 257 * text item + 256 * lack item) :
    256 * (items.map size).sum ≤ 257 * (items.map text).sum + 256 * (items.map lack).sum := by
  induction items with
  | nil => exact Nat.le_refl _
  | cons item rest hypothesis =>
    rw [List.forall_mem_cons] at each
    have later := hypothesis each.2
    simp only [List.map_cons, List.sum_cons]
    omega

section

variable [FloatFormat]

/-- What the text of a double lacks for nine bytes. -/
def Number.shortfall : Number → Nat
  | .float value => 9 - FloatFormat.textLength value
  | _ => 0

namespace Value

mutual

/-- What the texts of the doubles in a value lack for nine bytes each. -/
def shortfall : Value → Nat
  | .number value => value.shortfall
  | .array items => shortfallItems items
  | .object fields => shortfallFields fields
  | _ => 0

def shortfallItems : List Value → Nat
  | [] => 0
  | item :: rest => item.shortfall + shortfallItems rest

def shortfallFields : List (String × Value) → Nat
  | [] => 0
  | (_, value) :: rest => value.shortfall + shortfallFields rest

end

end Value

theorem Number.length_packed_le (number : Number) :
    number.packed.length ≤ number.jsonLength + number.shortfall := by
  cases number with
  | posInt value =>
    exact Nat.le_add_right_of_le (length_uintBytes_le_digits value.toNat)
  | negInt value negative =>
    exact Nat.le_add_right_of_le (length_sintBytes_le_digits value.toInt)
  | float value =>
    simp only [packed, jsonLength, shortfall, List.length_cons, length_toBeBytes]
    omega

namespace Value

theorem shortfallItems_eq (items : List Value) :
    shortfallItems items = (items.map shortfall).sum := by
  induction items with
  | nil => rfl
  | cons item rest hypothesis =>
    rw [shortfallItems, hypothesis, List.map_cons, List.sum_cons]

theorem shortfallFields_eq (fields : List (String × Value)) :
    shortfallFields fields = (fields.map fun field => field.2.shortfall).sum := by
  induction fields with
  | nil => rfl
  | cons field rest hypothesis =>
    rw [shortfallFields, hypothesis, List.map_cons, List.sum_cons]

/-- Packed and printed lengths. -/
theorem length_packed_le (value : Value) :
    256 * value.packed.length ≤ 257 * value.jsonLength + 256 * value.shortfall := by
  induction value using children_induction with
  | grow value hypothesis =>
    cases value with
    | null =>
      rw [packed, jsonLength]
      exact Nat.le_add_right_of_le (by decide)
    | bool value =>
      rw [packed, jsonLength]
      refine Nat.le_add_right_of_le ?_
      cases value <;> decide
    | number value =>
      have number := value.length_packed_le
      rw [packed, jsonLength, shortfall]
      omega
    | string value =>
      rw [packed, jsonLength]
      exact Nat.le_add_right_of_le (length_strBytes_le_json value)
    | array items =>
      have header := containerHeader_le_separators items.length
      have inside := sum_le_of_each hypothesis
      rw [children] at inside
      rw [packed, jsonLength, shortfall, length_arrayBytes,
        packedItems_eq, List.length_map, List.map_map, jsonItemsLength_eq, shortfallItems_eq]
      simp only [Function.comp_def]
      omega
    | object fields =>
      have header := containerHeader_le_separators fields.length
      have field (field : String × Value) (listed : field ∈ fields) :
          256 * fieldLength (field.1, field.2.packed) ≤
            257 * (jsonStringLength field.1 + 1 + field.2.jsonLength) +
              256 * field.2.shortfall := by
        have name := length_strBytes_le_json field.1
        have value := hypothesis field.2 (List.mem_map_of_mem listed)
        rw [fieldLength_mk]
        omega
      have inside := sum_le_of_each field
      rw [packed, jsonLength, shortfall, length_mapBytes,
        packedFields_eq, List.length_map, List.map_map, jsonFieldsLength_eq, shortfallFields_eq]
      simp only [Function.comp_def]
      omega

end Value

end

end Tinyray
