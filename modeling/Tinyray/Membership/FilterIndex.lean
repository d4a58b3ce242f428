import Mathlib.Data.List.Sort
import Tinyray.Foundation.BoundedCache
import Tinyray.Proto.SameValue

/-!
# The keys of the filter index

The ids a filter finds are kept under a key that says what the filter says:
its fields by name, each with a scalar.  Filters with nested values, with too
many fields or with long ones have no key and are scanned for each time.

A key keeps `3` and `3.0` apart although a filter does not.  What matters is
the other direction: filters with one key find the same members.
-/

namespace Tinyray

open Tinyray.Foundation

/-- A value that a filter can be indexed by. -/
inductive IndexedScalar where
  | null
  | bool (value : Bool)
  | string (value : String)
  | i64 (value : Int64)
  | u64 (value : UInt64)
  | f64 (bits : BitVec 64)
deriving DecidableEq

namespace IndexedScalar

/-- The scalar of a number. -/
def fromNumber : Number → Option IndexedScalar
  | .float value => some (.f64 value.bits)
  | value =>
    match value.asI64 with
    | some signed => some (.i64 signed)
    | none => value.asU64.map .u64

/-- `IndexedScalar::from_value` -/
def fromValue : Value → Option IndexedScalar
  | .null => some .null
  | .bool value => some (.bool value)
  | .string value => some (.string value)
  | .number value => fromNumber value
  | .array _ => none
  | .object _ => none

/-- `estimated_bytes` -/
def estimatedBytes : IndexedScalar → Nat
  | .null => 1
  | .bool _ => 2
  | .string value => value.utf8ByteSize + 1
  | .i64 _ => 9
  | .u64 _ => 9
  | .f64 _ => 9

/-- The value a scalar was made from; all bits of a key are of a double. -/
def toValue : IndexedScalar → Value
  | .null => .null
  | .bool value => .bool value
  | .string value => .string value
  | .i64 value =>
    if negative : value < 0 then .number (.negInt value negative)
    else .number (.posInt (UInt64.ofNat value.toInt.toNat))
  | .u64 value => .number (.posInt value)
  | .f64 bits =>
    if finite : bits.extractLsb' 52 11 ≠ 0x7FF#11 then .number (.float ⟨bits, finite⟩)
    else .null

theorem toValue_ofInt (value : UInt64) (small : value.toNat < 2 ^ 63) :
    (IndexedScalar.i64 (Int64.ofInt value.toNat)).toValue = .number (.posInt value) := by
  have cast : (Int64.ofInt value.toNat).toInt = value.toNat :=
    Int64.toInt_ofInt_of_le (by omega) (by omega)
  have nonneg : ¬Int64.ofInt value.toNat < 0 := by
    rw [Int64.lt_iff_toInt_lt, cast]
    exact Int.not_lt.2 (Int.natCast_nonneg _)
  rw [toValue, dif_neg nonneg, cast, Int.toNat_natCast, UInt64.ofNat_toNat]

variable {scalar : IndexedScalar}

/-- The number can be read back. -/
theorem toValue_fromNumber
    {number : Number} (indexed : fromNumber number = some scalar) :
    scalar.toValue = .number number := by
  cases number with
  | float value =>
    cases indexed
    exact dif_pos value.finite
  | negInt value negative =>
    cases indexed
    exact dif_pos negative
  | posInt value =>
    simp only [fromNumber, Number.asI64, Number.asU64] at indexed
    split_ifs at indexed with small
    · cases indexed
      exact toValue_ofInt value small
    · cases indexed
      rfl

/-- The value can be read back. -/
theorem toValue_fromValue
    {value : Value} (indexed : fromValue value = some scalar) :
    scalar.toValue = value := by
  cases value with
  | null =>
    cases indexed
    rfl
  | bool value =>
    cases indexed
    rfl
  | string value =>
    cases indexed
    rfl
  | number value => exact toValue_fromNumber indexed
  | array items => cases indexed
  | object fields => cases indexed

end IndexedScalar

/-! ## Keys -/

/-- `FILTER_INDEX_MAX_ENTRIES` -/
def filterIndexMaxEntries : Nat := 32
/-- `FILTER_INDEX_MAX_FIELDS` -/
def filterIndexMaxFields : Nat := 8
/-- `FILTER_INDEX_MAX_KEY_BYTES` -/
def filterIndexMaxKeyBytes : Nat := 4096
/-- `FILTER_INDEX_MAX_IDS_PER_ENTRY` -/
def filterIndexMaxIdsPerEntry : Nat := 8192
/-- `FILTER_INDEX_MAX_BYTES` -/
def filterIndexMaxBytes : Nat := 1024 * 1024
/-- `FILTER_INDEX_ENTRY_OVERHEAD` -/
def filterIndexEntryOverhead : Nat := 128

/-- What an entry is found by. -/
structure IndexedFilterKey where
  requireReady : Bool
  /-- The fields by ascending name. -/
  fields : List (String × IndexedScalar)
deriving DecidableEq

namespace IndexedFilterKey

/-- The fields of a key, with their bytes. -/
def indexFields : List (String × Value) → Nat → Option (List (String × IndexedScalar) × Nat)
  | [], estimatedBytes => some ([], estimatedBytes)
  | (field, value) :: rest, estimatedBytes => do
    let scalar ← IndexedScalar.fromValue value
    let estimatedBytes := estimatedBytes + (field.utf8ByteSize + scalar.estimatedBytes)
    if filterIndexMaxKeyBytes < estimatedBytes then none
    else
      let indexed ← indexFields rest estimatedBytes
      some ((field, scalar) :: indexed.1, indexed.2)

/-- `IndexedFilterKey::from_filter` -/
def fromFilter (filter : Value) (requireReady : Bool) : Option (IndexedFilterKey × Nat) :=
  match filter with
  | .object fields =>
    if fields.isEmpty || filterIndexMaxFields < fields.length then none
    else do
      let indexed ← indexFields fields 1
      some
        ({ requireReady
           fields := indexed.1.insertionSort fun left right => left.1 ≤ right.1 },
          indexed.2)
  | _ => none

/-- The fields can be read back. -/
theorem fields_of_indexFields
    {fields : List (String × Value)} {estimatedBytes : Nat}
    {indexed : List (String × IndexedScalar) × Nat}
    (made : indexFields fields estimatedBytes = some indexed) :
    indexed.1.map (fun field => (field.1, field.2.toValue)) = fields := by
  induction fields generalizing estimatedBytes indexed with
  | nil =>
    cases made
    rfl
  | cons field rest hypothesis =>
    obtain ⟨name, value⟩ := field
    rw [indexFields, Option.bind_eq_bind, Option.bind_eq_some_iff] at made
    rcases made with ⟨scalar, scalarMade, made⟩
    simp only at made
    split_ifs at made
    rw [Option.bind_eq_bind, Option.bind_eq_some_iff] at made
    rcases made with ⟨later, laterMade, ⟨⟩⟩
    rw [List.map_cons, IndexedScalar.toValue_fromValue scalarMade, hypothesis laterMade]

variable {key : IndexedFilterKey}

/-- A key tells its filter. -/
theorem filter_of_key
    {filter : Value} {requireReady : Bool} {bytes : Nat}
    (made : fromFilter filter requireReady = some (key, bytes)) :
    key.requireReady = requireReady ∧
      ∃ fields, filter = .object fields ∧
        (key.fields.map fun field => (field.1, field.2.toValue)).Perm
          fields := by
  cases filter with
  | object fields =>
    simp only [fromFilter] at made
    split_ifs at made
    rw [Option.bind_eq_bind, Option.bind_eq_some_iff] at made
    rcases made with ⟨indexed, indexedMade, ⟨⟩⟩
    refine ⟨rfl, fields, rfl, ?_⟩
    rw [← fields_of_indexFields indexedMade]
    exact (List.perm_insertionSort _ _).map _
  | _ => cases made

theorem matches_of_key
    {left right : Value} {leftReady rightReady : Bool} {leftBytes rightBytes : Nat}
    (leftMade : fromFilter left leftReady = some (key, leftBytes))
    (rightMade : fromFilter right rightReady = some (key, rightBytes)) :
    leftReady = rightReady ∧ ∀ member : Member, member.matches left = member.matches right := by
  rcases filter_of_key leftMade with ⟨rfl, leftFields, rfl, leftPerm⟩
  rcases filter_of_key rightMade with ⟨rfl, rightFields, rfl, rightPerm⟩
  refine ⟨rfl, ?_⟩
  intro member
  exact (leftPerm.symm.trans rightPerm).all_eq

end IndexedFilterKey

/-! ## The index -/

/-- The ids found by a filter, under its key. -/
abbrev FilterIndexCache := BoundedCache IndexedFilterKey (List Nat)

namespace FilterIndexCache

/-- The limits of the index. -/
def limits : CacheLimits where
  entries := filterIndexMaxEntries
  weight := filterIndexMaxBytes

/-- `FilterIndexCache::insert` -/
def insert (order : HashOrder) (index : FilterIndexCache)
    (key : IndexedFilterKey) (keyBytes : Nat) (ids : List Nat) :
    FilterIndexCache :=
  index.put order limits (ids.length ≤ filterIndexMaxIdsPerEntry) key
    (filterIndexEntryOverhead + keyBytes + ids.length * 8) ids

/-! ### Bounds -/

/--
`insert`, or nothing if a subtraction in it saturates or if it still evicts
after as many rounds as there are entries.
-/
def insertStrict (order : HashOrder) (index : FilterIndexCache)
    (key : IndexedFilterKey) (keyBytes : Nat) (ids : List Nat) :
    Option FilterIndexCache :=
  index.putStrict order limits (ids.length ≤ filterIndexMaxIdsPerEntry) key
    (filterIndexEntryOverhead + keyBytes + ids.length * 8) ids

/-- The entry would not be kept. -/
def tooLarge (keyBytes : Nat) (ids : List Nat) : Bool :=
  filterIndexMaxIdsPerEntry < ids.length ||
    filterIndexMaxBytes < filterIndexEntryOverhead + keyBytes + ids.length * 8

/-- What is done to an index. -/
inductive Use where
  | get (key : IndexedFilterKey)
  | insert (order : HashOrder) (key : IndexedFilterKey) (keyBytes : Nat) (ids : List Nat)
  | invalidate
  | fallback

/-- One use of it. -/
def use (index : FilterIndexCache) : Use → FilterIndexCache
  | .get key => (BoundedCache.get index key).2
  | .insert order key keyBytes ids => index.insert order key keyBytes ids
  | .invalidate => BoundedCache.invalidate index
  | .fallback => BoundedCache.fallback index

/-- Many uses of it. -/
def run (index : FilterIndexCache) (uses : List Use) : FilterIndexCache := uses.foldl use index

variable {index : FilterIndexCache}

/-- What `insert` does to the index. -/
theorem insert_spec
    (balanced : index.Balanced limits)
    (order : HashOrder) (key : IndexedFilterKey) (keyBytes : Nat) (ids : List Nat) :
    (index.insert order key keyBytes ids).Balanced limits ∧
      index.insertStrict order key keyBytes ids = some (index.insert order key keyBytes ids) ∧
      (tooLarge keyBytes ids ∨
        (BoundedCache.get (index.insert order key keyBytes ids) key).1 = some ids) := by
  have put :=
    balanced.put order (Nat.zero_lt_succ 31)
      (ids.length ≤ filterIndexMaxIdsPerEntry) key
      (filterIndexEntryOverhead + keyBytes + ids.length * 8) ids
  have large :
      (!decide (ids.length ≤ filterIndexMaxIdsPerEntry) ||
          decide (limits.weight < filterIndexEntryOverhead + keyBytes + ids.length * 8)) =
        tooLarge keyBytes ids := by
    rw [tooLarge, ← decide_not]
    simp only [Nat.not_le]
    rfl
  rw [large] at put
  exact put

theorem balanced_use
    (balanced : index.Balanced limits) (used : Use) :
    (index.use used).Balanced limits := by
  cases used with
  | get key => exact balanced.get key
  | insert order key keyBytes ids =>
    exact (insert_spec balanced order key keyBytes ids).1
  | invalidate => exact BoundedCache.Balanced.invalidate
  | fallback => exact balanced.fallback

theorem balanced_run
    (balanced : index.Balanced limits) (uses : List Use) :
    (index.run uses).Balanced limits :=
  List.foldlRecOn uses use balanced fun _ kept used _ => balanced_use kept used

/--
Whatever is done to an index, whichever time its clock starts with, it counts
what it holds and stays within its limits; the next insertion evicts for a
bounded number of rounds, subtracts no more than was counted, and leaves its
entry there unless that is too large by itself.
-/
theorem filter_index_within_budget (clock : Nat) (uses : List Use) :
    let index := run { clock := clock } uses
    index.weight = (index.entries.map fun entry => entry.2.weight).sum ∧
      index.weight ≤ filterIndexMaxBytes ∧ index.entries.length ≤ filterIndexMaxEntries ∧
      (index.entries.map Prod.fst).Nodup ∧
      ∀ order key keyBytes ids,
        index.insertStrict order key keyBytes ids = some (index.insert order key keyBytes ids) ∧
          (tooLarge keyBytes ids ∨
            (BoundedCache.get (index.insert order key keyBytes ids) key).1 = some ids) := by
  intro index
  have balanced : index.Balanced limits :=
    balanced_run (BoundedCache.balanced_empty limits clock) uses
  refine ⟨balanced.total, balanced.light, balanced.few, balanced.unique, ?_⟩
  intro order key keyBytes ids
  exact (insert_spec balanced order key keyBytes ids).2

end FilterIndexCache

end Tinyray
