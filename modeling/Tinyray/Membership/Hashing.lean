import Tinyray.Foundation.Ascii
import Tinyray.Membership.Queries
import Tinyray.Proto.Text
import Tinyray.Proto.Wire

/-!
# What a digest hashes

`field_digest` feeds a hasher with the ids and tenures of the members and with
the named fields of each, from the lowest id, and nothing says how long a part
is or how many there are.  `Digest.fed` is the sequence of bytes.

Every part can be taken off its front, since words and flags have a fixed
length, a tag says whether there is a url, and a text ends with a byte that no
text has.  So copies with different digests have the same hash only if the
hasher collides.
-/

namespace Tinyray

open Std Foundation
open Tinyray.Proto

/-! ## The bytes -/

/-- `write_u64` and `write_isize` -/
def hashWord (word : Nat) : Bytes := (toBeBytes 8 word).reverse

/-- `write_str` -/
def hashText (text : String) : Bytes := utf8Bytes text ++ [0xff]

section

variable [FloatPrinter]

/-- The bytes of a field that are hashed. -/
def FieldValue.fed : FieldValue → Bytes
  | .ready flag => [if flag then 1 else 0]
  | .url none => hashWord 0
  | .url (some address) => hashWord 1 ++ hashText address
  | .state value =>
    -- a field that is missing is an empty text
    hashText ((value.map fun value => String.ofList value.text).getD "")

/-- What it is fed for one member. -/
def rowFed (row : Nat × Nat × List FieldValue) : Bytes :=
  hashWord row.1 ++ hashWord row.2.1 ++ row.2.2.flatMap FieldValue.fed

/-- The bytes of a digest that are hashed. -/
def Digest.fed (digest : Digest) : Bytes := digest.flatMap rowFed

end

/-! ## Taking the parts off -/

/-- The bytes tell the word. -/
theorem toBeBytes_inj {width left right : Nat}
    (same : toBeBytes width left = toBeBytes width right) :
    left % 256 ^ width = right % 256 ^ width := by
  induction width with
  | zero => rw [Nat.pow_zero, Nat.mod_one, Nat.mod_one]
  | succ width hypothesis =>
    rw [toBeBytes, toBeBytes, List.cons.injEq] at same
    have digit := congrArg UInt8.toNat same.1
    rw [UInt8.toNat_ofNat', UInt8.toNat_ofNat'] at digit
    change left / 256 ^ width % 256 = right / 256 ^ width % 256 at digit
    rw [Nat.mod_pow_succ, Nat.mod_pow_succ, hypothesis same.2, digit]

/-- A hashed word ends where it should. -/
theorem hashWord_separates
    {left right : Nat} (leftWord : left < 2 ^ 64)
    (rightWord : right < 2 ^ 64) {rest other : Bytes}
    (same : hashWord left ++ rest = hashWord right ++ other) :
    left = right ∧ rest = other := by
  have length (word : Nat) : (hashWord word).length = 8 := by
    rw [hashWord, List.length_reverse, length_toBeBytes]
  obtain ⟨words, rests⟩ := List.append_inj same (by rw [length, length])
  have remainders := toBeBytes_inj (List.reverse_injective words)
  rw [show 256 ^ 8 = 2 ^ 64 from rfl, Nat.mod_eq_of_lt leftWord,
    Nat.mod_eq_of_lt rightWord] at remainders
  exact ⟨remainders, rests⟩

theorem prefixFree_hashText : PrefixFree hashText := by
  have separable :=
    @separable_of_all String UInt8 utf8Bytes (fun byte => byte != 0xff)
      (fun _ _ => utf8Bytes_inj.1)
      fun text byte listed => by simpa using utf8Bytes_ne_ff listed
  refine separable.terminated ?_
  rintro rest _ ⟨⟩
  rfl

section

variable [FloatPrinter]

/-- Different states, different texts. -/
theorem stateText_injective
    (distinct : Function.Injective F64.compactText) :
    Function.Injective fun value : Option Value =>
      (value.map fun value => String.ofList value.text).getD "" := by
  have nonempty (value : Value) : String.ofList value.text ≠ "" := by
    obtain ⟨first, later, written, -⟩ := value.text_opens
    rw [written]
    intro empty
    have := congrArg String.toList empty
    simp at this
  intro left right same
  cases left with
  | none =>
    cases right with
    | none => rfl
    | some right => exact absurd same.symm (nonempty right)
  | some left =>
    cases right with
    | none => exact absurd same (nonempty left)
    | some right =>
      have texts := congrArg String.toList same
      simp only [Option.map_some, Option.getD_some, String.toList_ofList] at texts
      rw [Value.text_injective distinct texts]

/-- A hashed field ends where it should. -/
theorem field_separates
    (distinct : Function.Injective F64.compactText)
    (left right : Member) (name : String) {rest other : Bytes}
    (same : (left.field name).fed ++ rest = (right.field name).fed ++ other) :
    left.field name = right.field name ∧ rest = other := by
  unfold Member.field at same ⊢
  split_ifs at same ⊢
  · obtain ⟨flag, rests⟩ := List.cons.inj same
    refine ⟨?_, rests⟩
    revert flag
    cases left.ready <;> cases right.ready <;> decide
  · have zero : 0 < 2 ^ 64 := by decide
    have one : 1 < 2 ^ 64 := by decide
    cases leftUrl : left.url with
    | none =>
      cases rightUrl : right.url with
      | none =>
        rw [leftUrl, rightUrl] at same
        exact ⟨rfl, (hashWord_separates zero zero same).2⟩
      | some url =>
        rw [leftUrl, rightUrl, FieldValue.fed, FieldValue.fed, List.append_assoc] at same
        cases (hashWord_separates zero one same).1
    | some url =>
      cases rightUrl : right.url with
      | none =>
        rw [leftUrl, rightUrl, FieldValue.fed, FieldValue.fed, List.append_assoc] at same
        cases (hashWord_separates one zero same).1
      | some second =>
        rw [leftUrl, rightUrl, FieldValue.fed, FieldValue.fed,
          List.append_assoc, List.append_assoc] at same
        obtain ⟨rfl, rests⟩ :=
          prefixFree_hashText url trivial trivial (hashWord_separates one one same).2
        exact ⟨rfl, rests⟩
  · obtain ⟨texts, rests⟩ := prefixFree_hashText _ trivial trivial same
    rw [stateText_injective distinct texts]
    exact ⟨rfl, rests⟩

/-- The same for many fields. -/
theorem fields_separate
    (distinct : Function.Injective F64.compactText)
    (left right : Member) (fields : List String) {rest other : Bytes}
    (same :
      (fields.map left.field).flatMap FieldValue.fed ++ rest =
        (fields.map right.field).flatMap FieldValue.fed ++ other) :
    fields.map left.field = fields.map right.field ∧ rest = other := by
  induction fields with
  | nil => exact ⟨rfl, same⟩
  | cons name names hypothesis =>
    simp only [List.map_cons, List.flatMap_cons, List.append_assoc] at same ⊢
    obtain ⟨value, later⟩ := field_separates distinct left right name same
    obtain ⟨values, rests⟩ := hypothesis later
    rw [value, values]
    exact ⟨rfl, rests⟩

/-- A row that some member gives; ids and tenures are words. -/
structure RowOf (fields : List String)
    (row : Nat × Nat × List FieldValue) : Prop where
  id : row.1 < 2 ^ 64
  incarnation : row.2.1 < 2 ^ 64
  values : ∃ member : Member, row.2.2 = fields.map member.field

/-- No row is the start of another. -/
theorem prefixFree_rowFed
    (distinct : Function.Injective F64.compactText) (fields : List String) :
    PrefixFree fun row : { row // RowOf fields row } => rowFed row := by
  rintro ⟨⟨leftId, leftTenure, leftValues⟩, left⟩
    ⟨⟨rightId, rightTenure, rightValues⟩, right⟩ rest other - - same
  obtain ⟨leftMember, rfl⟩ := left.values
  obtain ⟨rightMember, rfl⟩ := right.values
  simp only [rowFed, List.append_assoc] at same
  obtain ⟨rfl, tenures⟩ := hashWord_separates left.id right.id same
  obtain ⟨rfl, later⟩ := hashWord_separates left.incarnation right.incarnation tenures
  obtain ⟨values, rests⟩ := fields_separate distinct leftMember rightMember fields later
  refine ⟨Subtype.ext ?_, rests⟩
  simp only [values]

/-- Different digests, different bytes. -/
theorem fed_injective
    (distinct : Function.Injective F64.compactText) {fields : List String} {left right : Digest}
    (leftRows : ∀ row ∈ left, RowOf fields row) (rightRows : ∀ row ∈ right, RowOf fields row)
    (same : left.fed = right.fed) :
    left = right := by
  have words (digest : Digest) (rows : ∀ row ∈ digest, RowOf fields row) :
      digest.fed = (digest.attachWith (RowOf fields) rows).flatMap fun row => rowFed row.val := by
    conv_lhs =>
      rw [Digest.fed, ← List.attachWith_map_subtype_val rows, List.flatMap_map]
  -- no row is fed nothing, so the end of the sequence ends the rows
  have ends (row : { row // RowOf fields row }) (later : Bytes) : rowFed row.val ++ later ≠ [] := by
    simp [rowFed, hashWord, toBeBytes]
  rw [words left leftRows, words right rightRows] at same
  have rows := ((prefixFree_rowFed distinct fields).flatMap _ ends ends (congrArg (· ++ []) same)).1
  rw [← List.attachWith_map_subtype_val leftRows, rows, List.attachWith_map_subtype_val]

end

/-! ## Member maps -/

/-- Members under their ids; ids and tenures are words. -/
structure MemberMap where
  members : ExtTreeMap Nat Member
  keyed : ∀ (id : Nat) (member : Member), members[id]? = some member → member.id = id
  words :
    ∀ (id : Nat) (member : Member),
      members[id]? = some member → member.id < 2 ^ 64 ∧ member.incarnation < 2 ^ 64

namespace MemberMap

/-- The members that deltas describe. -/
def ofDeltas (deltas : List PoolDelta)
    (words :
      ∀ delta ∈ deltas, ∀ member ∈ delta.changed,
        member.id < 2 ^ 64 ∧ member.incarnation < 2 ^ 64) :
    MemberMap where
  members := (deltas.foldl BarePool.apply {}).members
  keyed := BarePool.keyed_of_deltas deltas
  words := BarePool.forall_members_of_deltas words

variable (map : MemberMap) (fields : List String)

/-- The digest over these fields. -/
def digest : Digest := BarePool.fieldDigest { members := map.members } fields

/-- What the digest shows of a member: its tenure and the named fields. -/
def shown (id : Nat) : Option (Nat × List FieldValue) :=
  map.members[id]?.map fun member => (member.incarnation, fields.map member.field)

/-- The digest, by members. -/
theorem digest_eq :
    map.digest fields =
      (map.members.map fun _ member => (member.incarnation, fields.map member.field)).toList := by
  have everyone (entry : Nat × Member) (_ : entry ∈ map.members.toList) :
      BarePool.wanted BarePool.everyone false entry.2 = true := by
    rw [BarePool.wanted_everyone]
    rfl
  rw [digest, BarePool.fieldDigest, BarePool.selected,
    List.filter_eq_self.2 everyone, ExtTreeMap.toList_map]
  refine List.map_congr_left ?_
  intro entry listed
  rw [map.keyed entry.1 entry.2 (ExtTreeMap.mem_toList_iff_getElem?_eq_some.1 listed)]

/-- Digests agree if all fields do. -/
theorem digest_eq_iff (left right : MemberMap) :
    left.digest fields = right.digest fields ↔
      ∀ id, left.shown fields id = right.shown fields id := by
  rw [left.digest_eq, right.digest_eq, ExtTreeMap.toList_inj]
  constructor
  · intro same id
    have found := congrArg (·[id]?) same
    simp only [ExtTreeMap.getElem?_map] at found
    exact found
  · intro same
    refine ExtTreeMap.ext_getElem? ?_
    intro id
    rw [ExtTreeMap.getElem?_map, ExtTreeMap.getElem?_map]
    exact same id

theorem rowOf_of_mem_digest
    (row : Nat × Nat × List FieldValue) (listed : row ∈ map.digest fields) :
    RowOf fields row := by
  obtain ⟨⟨id, member⟩, selected, rfl⟩ := List.mem_map.1 listed
  obtain ⟨idWord, incarnationWord⟩ :=
    map.words id member (BarePool.getElem?_of_mem_selected selected)
  exact ⟨idWord, incarnationWord, member, rfl⟩

variable [FloatPrinter]

/-- The bytes that the hasher is fed for a digest of these fields. -/
def fed : Bytes := (map.digest fields).fed

end MemberMap

/--
If the text of a double says which double it is, two member maps feed the
hasher with the same bytes exactly if they have the same ids and, for each of
them, the same tenure and the same value, or none, for each named field.
-/
theorem field_digest_unambiguous [FloatPrinter]
    (distinct : Function.Injective F64.compactText)
    (fields : List String) (left right : MemberMap) :
    left.fed fields = right.fed fields ↔ ∀ id, left.shown fields id = right.shown fields id := by
  rw [← MemberMap.digest_eq_iff]
  constructor
  · exact fed_injective distinct (left.rowOf_of_mem_digest fields)
      (right.rowOf_of_mem_digest fields)
  · exact congrArg Digest.fed

section

@[reducible]
private def unary : FloatPrinter where
  shortest float := ⟨false, Fin.last 9, List.replicate (float.bits.toNat + 1) (Fin.last 9), 1⟩
  plus := false
  padded := false

/-- One printer with distinct texts. -/
private theorem unary_distinct : Function.Injective (@F64.compactText unary) := by
  have length (float : F64) : (@F64.compactText unary float).length = float.bits.toNat + 3 := by
    change
      (Decimal.compact
        ⟨false, Fin.last 9, List.replicate (float.bits.toNat + 1) (Fin.last 9), 1⟩
        false false).length = _
    simp [Decimal.compact, Decimal.sign, Decimal.positional, Decimal.length_digits]
    omega
  intro left right same
  have lengths := congrArg List.length same
  rw [length, length, Nat.add_right_cancel_iff] at lengths
  cases left
  cases right
  cases BitVec.eq_of_toNat_eq lengths
  rfl

private def dwelling (url : Option String) : MemberMap :=
  MemberMap.ofDeltas
    [{ version := 1, roster := 1, policy := "", methods := [],
       size := none, removed := [], full := true,
       changed :=
        [{ id := 7, slot := none, incarnation := 1, url,
           state := .object [("queue", .array [])], ready := true }] }]
    (by simp)

/-- Whoever moves is as before, except at their address. -/
theorem field_digest_unambiguous_for_moved_member :
    (∀ id, (dwelling none).shown ["queue"] id = (dwelling (some "a")).shown ["queue"] id) ∧
      @MemberMap.fed (dwelling none) ["url"] unary ≠
        @MemberMap.fed (dwelling (some "a")) ["url"] unary := by
  constructor
  · apply (@field_digest_unambiguous unary unary_distinct _ _ _).1
    decide +kernel
  · intro same
    have shown := (@field_digest_unambiguous unary unary_distinct _ _ _).1 same 7
    revert shown
    decide +kernel

end

end Tinyray
