import Mathlib.Algebra.Ring.Nat
import Mathlib.Data.List.Basic

/-!
# Printable ASCII

A text all of whose bytes are printable ASCII has one byte for each of its
characters, so that its length in bytes is its length in characters and a slice
of its bytes is a slice of its characters.
-/

namespace Tinyray.Foundation

/-- The bytes of a text. -/
def utf8Bytes (text : String) : List UInt8 := text.toByteArray.data.toList

/-- A byte of a printable character. -/
def printableByte (byte : UInt8) : Bool := 0x20 ≤ byte && byte ≤ 0x7e

/-- A printable character. -/
def printableChar (char : Char) : Bool := 0x20 ≤ char.toNat && char.toNat ≤ 0x7e

/-- A text of printable ASCII. -/
def printableText (text : String) : Bool := text.toList.all printableChar

@[simp]
theorem printableText_append (first second : String) :
    printableText (first ++ second) = (printableText first && printableText second) := by
  simp [printableText]

theorem utf8Bytes_eq (text : String) :
    utf8Bytes text = text.toList.flatMap String.utf8EncodeChar := by
  rw [utf8Bytes, ← String.utf8Encode_toList, List.utf8Encode]
  simp

theorem utf8Bytes_inj {first second : String} :
    utf8Bytes first = utf8Bytes second ↔ first = second := by
  constructor
  · intro same
    apply String.toByteArray_inj.mp
    apply ByteArray.ext
    exact Array.toList_inj.mp same
  · rintro rfl
    rfl

variable {code : Nat} {char : Char} {text : String} {byte : UInt8}

theorem printableByte_ofNat (byte : code < 256) :
    printableByte (UInt8.ofNat code) = (decide (0x20 ≤ code) && decide (code ≤ 0x7e)) := by
  have value : (UInt8.ofNat code).toNat = code := by
    rw [UInt8.toNat_ofNat', Nat.mod_eq_of_lt byte]
  simp [printableByte, UInt8.le_iff_toNat_le, value]

/-- The first byte of a longer code is no ASCII. -/
theorem printableByte_lead (lead : 192 ≤ code) (byte : code < 256) :
    printableByte (UInt8.ofNat code) = false := by
  rw [printableByte_ofNat byte, Bool.and_eq_false_iff]
  right
  simp only [decide_eq_false_iff_not]
  omega

/-- Only the characters of printable ASCII are encoded by such bytes. -/
theorem utf8EncodeChar_printable (char : Char) :
    (String.utf8EncodeChar char).all printableByte = printableChar char := by
  have code : char.toNat = char.val.toNat := rfl
  unfold String.utf8EncodeChar
  by_cases short : char.val.toNat ≤ 127
  · rw [if_pos short, List.all_cons, printableByte_ofNat (by omega), printableChar, code]
    simp
  · have unprintable : printableChar char = false := by
      rw [printableChar, Bool.and_eq_false_iff, code]
      right
      simp only [decide_eq_false_iff_not]
      omega
    rw [if_neg short, unprintable]
    split_ifs <;>
      · rw [List.all_cons, printableByte_lead (by omega) (by omega)]
        rfl

theorem utf8Bytes_printable (text : String) :
    (utf8Bytes text).all printableByte = printableText text := by
  rw [utf8Bytes_eq, List.all_flatMap, printableText]
  congr 1
  funext char
  exact utf8EncodeChar_printable char

theorem printableChar_utf8Size (printable : printableChar char = true) : char.utf8Size = 1 := by
  simp only [printableChar, Bool.and_eq_true, decide_eq_true_eq] at printable
  rw [Char.utf8Size, if_pos]
  rw [UInt32.le_iff_toNat_le]
  exact Nat.le_trans printable.2 (by decide)

theorem utf8ByteSize_eq_sum (text : String) :
    text.utf8ByteSize = (text.toList.map Char.utf8Size).sum := by
  have bytes : text.utf8ByteSize = (utf8Bytes text).length := rfl
  rw [bytes, utf8Bytes_eq, List.length_flatMap]
  simp only [String.length_utf8EncodeChar]

theorem utf8ByteSize_of_printable (printable : printableText text = true) :
    text.utf8ByteSize = text.length := by
  have sizes : ∀ char ∈ text.toList, char.utf8Size = 1 :=
    fun char member => printableChar_utf8Size (List.all_eq_true.mp printable char member)
  rw [utf8ByteSize_eq_sum, List.map_congr_left sizes, List.map_const',
    List.sum_replicate_nat, Nat.mul_one, String.length_toList]

/-! ## A byte that no text has -/

theorem ofNat_ne_ff (low : code < 255) : UInt8.ofNat code ≠ 0xff := by
  intro same
  have value := congrArg UInt8.toNat same
  rw [UInt8.toNat_ofNat', Nat.mod_eq_of_lt (by omega)] at value
  exact Nat.ne_of_lt low value

/-- No byte of UTF-8 is `0xff`. -/
theorem utf8EncodeChar_ne_ff
    (listed : byte ∈ String.utf8EncodeChar char) :
    byte ≠ 0xff := by
  unfold String.utf8EncodeChar at listed
  simp only at listed
  split_ifs at listed <;>
    simp only [List.mem_cons, List.not_mem_nil, or_false] at listed
  · subst listed
    exact ofNat_ne_ff (by omega)
  · rcases listed with rfl | rfl <;> exact ofNat_ne_ff (by omega)
  · rcases listed with rfl | rfl | rfl <;> exact ofNat_ne_ff (by omega)
  · rcases listed with rfl | rfl | rfl | rfl <;>
      exact ofNat_ne_ff (by omega)

theorem utf8Bytes_ne_ff
    (listed : byte ∈ utf8Bytes text) :
    byte ≠ 0xff := by
  rw [utf8Bytes_eq, List.mem_flatMap] at listed
  rcases listed with ⟨char, -, inside⟩
  exact utf8EncodeChar_ne_ff inside

/-! ## Slices -/

/--
The first bytes of a text, as long as they are there and do not end inside of
a character.
-/
def sliceTo : List Char → Nat → Option (List Char)
  | _, 0 => some []
  | [], _ + 1 => none
  | char :: rest, stop =>
    if char.utf8Size ≤ stop then (sliceTo rest (stop - char.utf8Size)).map (char :: ·)
    else none

/-- A slice of printable text. -/
theorem sliceTo_of_printable
    {text : List Char} (printable : text.all printableChar = true)
    {stop : Nat} (within : stop ≤ text.length) :
    sliceTo text stop = some (text.take stop) := by
  induction text generalizing stop with
  | nil =>
    cases stop with
    | zero => rfl
    | succ stop => simp at within
  | cons char rest hypothesis =>
    cases stop with
    | zero => rfl
    | succ stop =>
      simp only [List.all_cons, Bool.and_eq_true] at printable
      have one := printableChar_utf8Size printable.1
      have inside : stop ≤ rest.length := by simpa using within
      have later := hypothesis printable.2 inside
      simp [sliceTo, one, later]

end Tinyray.Foundation
