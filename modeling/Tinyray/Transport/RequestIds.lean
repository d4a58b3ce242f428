import Tinyray.Codec.MessagePack
import Tinyray.Foundation.Ascii
import Tinyray.Foundation.Splitting
import Tinyray.Transport.Server

/-!
# Derived request ids

The items of a batch and the calls of a process get ids that are derived from
the id of the batch and from the identity of the process.  An id has at most
`maxRpcRequestIdBytes` bytes of printable ASCII.  What is derived is written
out where it fits; otherwise the beginning is cut off and replaced by a digest,
and where not even that fits the digest is all there is.

The number stands at the end of the first two forms, behind the last separator,
and no digest has a separator in it.
-/

namespace Tinyray.Transport

open Tinyray.Codec
open Tinyray.Foundation
open Tinyray.Proto

/-- A hexadecimal digit. -/
def hexDigit (char : Char) : Bool := char.isDigit || ('a' ≤ char && char ≤ 'f')

/-- SHA-256, as far as it is assumed: 64 hexadecimal digits. -/
structure Sha256 where
  hexdigest : List UInt8 → String
  length_hexdigest : ∀ bytes, (hexdigest bytes).length = 64
  hexDigits : ∀ bytes, (hexdigest bytes).toList.all hexDigit = true

/-- A number in decimal. -/
def decimal (number : Nat) : String := String.ofList (digitsOf number)

/-- Subtraction that must not underflow. -/
def checkedSub (left right : Nat) : Option Nat := if right ≤ left then some (left - right) else none

/-- `text[:stop]` of Python; a negative number counts from the end. -/
def slice (text : String) (stop : Int) : String :=
  String.ofList (text.toList.take (if 0 ≤ stop then stop.toNat else (text.length + stop).toNat))

/-- `text.encode("ascii")`; `none` is an error. -/
def encodeAscii (text : String) : Option (List UInt8) :=
  if text.toList.all fun char => char.toNat < 128 then some (utf8Bytes text)
  else none

section

variable (sha256 : Sha256)

/-- `batch_request_id` of Rust; `none` is a panic. -/
def batchRequestId (root : String) (index : Nat) : Option String :=
  let suffix := ":" ++ decimal index
  if root.utf8ByteSize + suffix.utf8ByteSize ≤ maxRpcRequestIdBytes then some (root ++ suffix)
  else do
    let digest := sha256.hexdigest (utf8Bytes root)
    let room ← checkedSub maxRpcRequestIdBytes digest.utf8ByteSize
    let room ← checkedSub room suffix.utf8ByteSize
    let room ← checkedSub room 1
    let head ← sliceTo root.toList room
    some (String.ofList head ++ "~" ++ digest ++ suffix)

/-- `_batch_request_id` of Python; an index below the limit is written. -/
def pythonBatchRequestId (root : String) (index : Nat) : String :=
  let suffix := ":" ++ decimal index
  if root.length + suffix.length ≤ maxRpcRequestIdBytes then root ++ suffix
  else
    let digest := sha256.hexdigest (utf8Bytes root)
    let head := slice root (maxRpcRequestIdBytes - digest.length - suffix.length - 1)
    head ++ "~" ++ digest ++ suffix

/-- `_generated_request_id`; `none` is an error. -/
def generatedRequestId
    (interpreter : Interpreter) (identity : String) (sequence : Nat) :
    Option String :=
  if interpreter.converts (digitsOf sequence) then
    let suffix := "-" ++ decimal sequence
    let direct := identity ++ suffix
    if direct.length ≤ maxRpcRequestIdBytes then some direct
    else do
      let identityDigest := sha256.hexdigest (← encodeAscii identity)
      let fixed := "~" ++ identityDigest ++ suffix
      if fixed.length ≤ maxRpcRequestIdBytes then
        some (slice identity (maxRpcRequestIdBytes - fixed.length) ++ fixed)
      else
        let whole ← encodeAscii (identity ++ "\x00" ++ decimal sequence)
        some (sha256.hexdigest whole)
  else none

end

/-! ## Texts of ids -/

theorem printableAscii_eq (text : String) : printableAscii text = printableText text :=
  utf8Bytes_printable text

theorem validRequestId_iff (requestId : String) :
    validRequestId requestId = true ↔
      requestId ≠ "" ∧ requestId.length ≤ maxRpcRequestIdBytes ∧
        printableText requestId = true := by
  simp only [validRequestId, printableAscii_eq, ne_eq, decide_not,
    Bool.and_eq_true, Bool.not_eq_true', decide_eq_false_iff_not, decide_eq_true_eq, and_assoc]
  refine and_congr_right fun _ => ?_
  refine and_congr_left fun printable => ?_
  rw [utf8ByteSize_of_printable printable]

@[simp]
theorem toList_decimal (number : Nat) : (decimal number).toList = digitsOf number := by
  simp [decimal]

variable {char : Char}

theorem printableChar_between
    {low high : Char} (lowest : 0x20 ≤ low.toNat)
    (highest : high.toNat ≤ 0x7e) (lower : low.val ≤ char.val) (upper : char.val ≤ high.val) :
    printableChar char = true := by
  rw [UInt32.le_iff_toNat_le] at lower upper
  simp only [printableChar, Bool.and_eq_true, decide_eq_true_eq]
  exact ⟨lowest.trans lower, upper.trans highest⟩

theorem isDigit_printable (digit : char.isDigit = true) : printableChar char = true := by
  simp only [Char.isDigit, Bool.and_eq_true, decide_eq_true_eq] at digit
  exact printableChar_between (by decide) (by decide) digit.1 digit.2

theorem printableText_decimal (number : Nat) : printableText (decimal number) = true := by
  have digits := isDigits_digitsOf number
  simp only [isDigits, Bool.and_eq_true, List.all_eq_true] at digits
  rw [printableText, toList_decimal, List.all_eq_true]
  exact fun char member => isDigit_printable (digits.2 char member)

theorem hexDigit_printable (hex : hexDigit char = true) : printableChar char = true := by
  simp only [hexDigit, Bool.or_eq_true, Bool.and_eq_true, decide_eq_true_eq] at hex
  rcases hex with digit | letter
  · exact isDigit_printable digit
  · exact printableChar_between (by decide) (by decide) letter.1 letter.2

theorem Sha256.printableText_hexdigest (sha256 : Sha256)
    (bytes : List UInt8) :
    printableText (sha256.hexdigest bytes) = true := by
  have digits := sha256.hexDigits bytes
  rw [List.all_eq_true] at digits
  rw [printableText, List.all_eq_true]
  exact fun char member => hexDigit_printable (digits char member)

theorem Sha256.not_mem_hexdigest (sha256 : Sha256)
    (other : hexDigit char = false) (bytes : List UInt8) :
    char ∉ (sha256.hexdigest bytes).toList := by
  intro member
  have digit := List.all_eq_true.mp (sha256.hexDigits bytes) char member
  rw [other] at digit
  cases digit

theorem printableText_slice
    {text : String} (printable : printableText text = true) (stop : Int) :
    printableText (slice text stop) = true := by
  rw [printableText, List.all_eq_true] at printable ⊢
  intro char member
  simp only [slice, String.toList_ofList] at member
  exact printable char (List.mem_of_mem_take member)

/-- The number after the last separator. -/
theorem number_behind_separator
    {separator : Char} (noDigit : separator.isDigit = false)
    {first second : String} {left right : Nat}
    (same :
      first ++ (String.singleton separator ++ decimal left) =
        second ++ (String.singleton separator ++ decimal right)) :
    left = right := by
  have cut :
      ∀ (before : String) (number : Nat),
        rsplitOnce separator (before ++ (String.singleton separator ++ decimal number)).toList =
          some (before.toList, digitsOf number) := by
    intro before number
    simp only [String.toList_append, String.toList_singleton, toList_decimal, List.singleton_append]
    exact rsplitOnce_append (not_mem_digitsOf noDigit number) _
  have parts := cut first left
  rw [same, cut second right, Option.some.injEq, Prod.mk.injEq] at parts
  have digits := congrArg digitsValue parts.2
  rw [digitsValue_digitsOf, digitsValue_digitsOf] at digits
  exact digits.symm

/-! ## Items of a batch -/

section

variable {sha256 : Sha256} {root : String} {index : Nat}

theorem length_suffix_index (below : index < maxRpcBatch) :
    0 < (String.singleton ':' ++ decimal index).length ∧
      (String.singleton ':' ++ decimal index).length ≤ 4 := by
  have short : ∀ number < 128, (digitsOf number).length ≤ 3 := by decide
  have digits : (decimal index).length ≤ 3 := by
    rw [← String.length_toList, toList_decimal]
    exact short index below
  rw [String.length_append, String.length_singleton]
  omega

variable {suffix : String}

theorem room_eq (short : suffix.length ≤ 4) :
    (maxRpcRequestIdBytes : Int) - (64 : Nat) - suffix.length - 1 =
      ((200 - 64 - suffix.length - 1 : Nat) : Int) := by
  have limit : maxRpcRequestIdBytes = 200 := rfl
  rw [limit]
  omega

theorem slice_ofNat (text : String) (stop : Nat) :
    slice text stop = String.ofList (text.toList.take stop) := by
  simp [slice]

theorem checkedSub_of_le {left right : Nat} (fits : right ≤ left) :
    checkedSub left right = some (left - right) :=
  if_pos fits

theorem printableText_suffix (separator : Char)
    (printable : printableChar separator = true) (number : Nat) :
    printableText (String.singleton separator ++ decimal number) = true := by
  rw [printableText_append, printableText_decimal, Bool.and_true]
  simp [printableText, printable]

/-- Rust and Python derive the same id. -/
theorem batchRequestId_eq
    (valid : validRequestId root = true) (below : index < maxRpcBatch) :
    batchRequestId sha256 root index = some (pythonBatchRequestId sha256 root index) := by
  rcases (validRequestId_iff root).mp valid with ⟨_, _, printable⟩
  have rootSize := utf8ByteSize_of_printable printable
  have suffixSize := utf8ByteSize_of_printable (printableText_suffix ':' (by decide) index)
  have digestSize := utf8ByteSize_of_printable (sha256.printableText_hexdigest (utf8Bytes root))
  have digestLength := sha256.length_hexdigest (utf8Bytes root)
  have suffixLength := length_suffix_index below
  have colon : ":" = String.singleton ':' := rfl
  unfold batchRequestId pythonBatchRequestId
  rw [colon]
  -- from here on only the lengths of the suffix and the digest matter
  generalize String.singleton ':' ++ decimal index = suffix at *
  generalize sha256.hexdigest (utf8Bytes root) = digest at *
  simp only [rootSize, suffixSize, digestSize, digestLength]
  split_ifs with direct
  · rfl
  · have limit : maxRpcRequestIdBytes = 200 := rfl
    have cut :
        sliceTo root.toList (200 - 64 - suffix.length - 1) =
          some (root.toList.take (200 - 64 - suffix.length - 1)) := by
      apply sliceTo_of_printable printable
      rw [String.length_toList]
      omega
    rw [room_eq suffixLength.2, slice_ofNat, limit, checkedSub_of_le (by omega),
      Option.bind_eq_bind, Option.bind_some, checkedSub_of_le (by omega)]
    simp only [Option.bind_eq_bind, Option.bind_some]
    rw [checkedSub_of_le (by omega), Option.bind_some, cut, Option.bind_some]

theorem length_slice (text : String) (stop : Nat) : (slice text stop).length ≤ stop := by
  rw [slice_ofNat, String.length_ofList]
  exact List.length_take_le _ _

/-- Two texts make a valid id. -/
theorem validRequestId_append
    {first second : String} (firstPrintable : printableText first = true)
    (secondPrintable : printableText second = true) (named : second.length ≠ 0)
    (fits : first.length + second.length ≤ maxRpcRequestIdBytes) :
    validRequestId (first ++ second) = true := by
  rw [validRequestId_iff]
  refine ⟨?_, ?_, ?_⟩
  · intro empty
    have length := congrArg String.length empty
    rw [String.length_append] at length
    exact named (Nat.eq_zero_of_add_eq_zero_left length)
  · rw [String.length_append]
    exact fits
  · rw [printableText_append, firstPrintable, secondPrintable]
    rfl

/-- A shortened text makes one, too. -/
theorem validRequestId_truncated
    {text fixed : String} (printable : printableText text = true)
    (fixedPrintable : printableText fixed = true) (named : fixed.length ≠ 0)
    (fits : fixed.length ≤ maxRpcRequestIdBytes) :
    validRequestId (slice text ((maxRpcRequestIdBytes : Int) - fixed.length) ++ fixed) = true := by
  have room :
      (maxRpcRequestIdBytes : Int) - fixed.length =
        ((maxRpcRequestIdBytes - fixed.length : Nat) : Int) := by
    omega
  have headLength := length_slice text (maxRpcRequestIdBytes - fixed.length)
  rw [room]
  exact validRequestId_append (printableText_slice printable _) fixedPrintable named (by omega)

theorem printableText_fixed
    {digest : String} (digestPrintable : printableText digest = true)
    (suffixPrintable : printableText suffix = true) :
    printableText ("~" ++ digest ++ suffix) = true := by
  simp only [printableText_append, digestPrintable, suffixPrintable, Bool.and_true]
  decide

theorem length_fixed (digest suffix : String) :
    ("~" ++ digest ++ suffix).length = 1 + digest.length + suffix.length := by
  rw [String.length_append, String.length_append]
  rfl

/-- A batch id is valid. -/
theorem pythonBatchRequestId_valid
    (valid : validRequestId root = true) (below : index < maxRpcBatch) :
    validRequestId (pythonBatchRequestId sha256 root index) = true := by
  rcases (validRequestId_iff root).mp valid with ⟨_, _, printable⟩
  have suffixPrintable := printableText_suffix ':' (by decide) index
  have digestPrintable := sha256.printableText_hexdigest (utf8Bytes root)
  have digestLength := sha256.length_hexdigest (utf8Bytes root)
  have suffixLength := length_suffix_index below
  have colon : ":" = String.singleton ':' := rfl
  unfold pythonBatchRequestId
  rw [colon]
  generalize String.singleton ':' ++ decimal index = suffix at *
  generalize sha256.hexdigest (utf8Bytes root) = digest at *
  dsimp only
  split_ifs with direct
  · exact validRequestId_append printable suffixPrintable (by omega) direct
  · have limit : maxRpcRequestIdBytes = 200 := rfl
    have fixedLength := length_fixed digest suffix
    have shape :
        slice root (maxRpcRequestIdBytes - digest.length - suffix.length - 1) ++
            "~" ++ digest ++ suffix =
          slice root ((maxRpcRequestIdBytes : Int) - ("~" ++ digest ++ suffix).length) ++
            ("~" ++ digest ++ suffix) := by
      have room :
          (maxRpcRequestIdBytes : Int) - digest.length - suffix.length - 1 =
            maxRpcRequestIdBytes - ("~" ++ digest ++ suffix).length := by
        omega
      rw [room]
      simp only [String.append_assoc]
    rw [shape]
    exact
      validRequestId_truncated printable
        (printableText_fixed digestPrintable suffixPrintable) (by omega)
        (by omega)

theorem pythonBatchRequestId_ends
    (sha256 : Sha256) (root : String) (index : Nat) :
    ∃ head,
      pythonBatchRequestId sha256 root index = head ++ (String.singleton ':' ++ decimal index) := by
  unfold pythonBatchRequestId
  dsimp only
  split_ifs
  · exact ⟨root, rfl⟩
  · exact ⟨_, rfl⟩

end

/-! ## Calls of a process -/

section

variable {sha256 : Sha256} {interpreter : Interpreter} {identity : String}
  {sequence : Nat}

/-- What is hashed where only the digest fits. -/
def wholeInput (identity : String) (sequence : Nat) : List UInt8 :=
  utf8Bytes (identity ++ "\x00" ++ decimal sequence)

theorem printableChar_ascii
    {char : Char} (printable : printableChar char = true) :
    char.toNat < 128 := by
  simp only [printableChar, Bool.and_eq_true, decide_eq_true_eq] at printable
  omega

variable {text : String} {left right : Nat}

theorem encodeAscii_of_ascii
    (ascii : ∀ char ∈ text.toList, char.toNat < 128) :
    encodeAscii text = some (utf8Bytes text) := by
  unfold encodeAscii
  rw [if_pos]
  rw [List.all_eq_true]
  intro char member
  rw [decide_eq_true_eq]
  exact ascii char member

theorem printableText_ascii (printable : printableText text = true) :
    ∀ char ∈ text.toList, char.toNat < 128 := fun char member =>
  printableChar_ascii (List.all_eq_true.mp printable char member)

theorem encodeAscii_whole
    (printable : printableText identity = true) (sequence : Nat) :
    encodeAscii (identity ++ "\x00" ++ decimal sequence) = some (wholeInput identity sequence) := by
  apply encodeAscii_of_ascii
  intro char member
  rw [String.toList_append, String.toList_append, List.mem_append, List.mem_append] at member
  rcases member with (named | separator) | digit
  · exact printableText_ascii printable char named
  · rw [List.mem_singleton.mp separator]
    decide
  · exact printableText_ascii (printableText_decimal sequence) char digit

theorem wholeInput_injective
    (same : wholeInput identity left = wholeInput identity right) :
    left = right := by
  have texts := congrArg String.toList (utf8Bytes_inj.mp same)
  simp only [String.toList_append, List.append_cancel_left_eq, toList_decimal] at texts
  have digits := congrArg digitsValue texts
  rw [digitsValue_digitsOf, digitsValue_digitsOf] at digits
  exact digits

/-- An id that ends with the number, or the digest of all. -/
def Derived (sha256 : Sha256) (identity : String) (sequence : Nat)
    (requestId : String) : Prop :=
  (∃ head, requestId = head ++ (String.singleton '-' ++ decimal sequence)) ∨
    requestId = sha256.hexdigest (wholeInput identity sequence)

/-- A generated id is valid and derived. -/
theorem generatedRequestId_derived
    (printable : printableText identity = true)
    (converts : interpreter.converts (digitsOf sequence) = true) :
    ∃ requestId,
      generatedRequestId sha256 interpreter identity sequence = some requestId ∧
        validRequestId requestId = true ∧ Derived sha256 identity sequence requestId := by
  have suffixPrintable := printableText_suffix '-' (by decide) sequence
  have suffixNamed : (String.singleton '-' ++ decimal sequence).length ≠ 0 := by
    rw [String.length_append, String.length_singleton]
    omega
  have dash : "-" = String.singleton '-' := rfl
  have digestPrintable := sha256.printableText_hexdigest (utf8Bytes identity)
  have limit : maxRpcRequestIdBytes = 200 := rfl
  unfold generatedRequestId
  rw [if_pos converts, dash]
  by_cases direct :
      (identity ++ (String.singleton '-' ++ decimal sequence)).length ≤ maxRpcRequestIdBytes
  · refine ⟨_, if_pos direct, ?_, .inl ⟨identity, rfl⟩⟩
    rw [String.length_append] at direct
    exact validRequestId_append printable suffixPrintable suffixNamed direct
  · simp only [if_neg direct, encodeAscii_of_ascii (printableText_ascii printable),
      encodeAscii_whole printable, Option.bind_eq_bind, Option.bind_some]
    have fixed := printableText_fixed digestPrintable suffixPrintable
    have fixedLength :=
      length_fixed (sha256.hexdigest (utf8Bytes identity))
        (String.singleton '-' ++ decimal sequence)
    split_ifs with fits
    · refine ⟨_, rfl, ?_, .inl ⟨_, (String.append_assoc ..).symm⟩⟩
      exact validRequestId_truncated printable fixed (by omega) fits
    · refine ⟨_, rfl, ?_, .inr rfl⟩
      have length := sha256.length_hexdigest (wholeInput identity sequence)
      rw [validRequestId_iff]
      refine ⟨?_, by omega, sha256.printableText_hexdigest _⟩
      intro empty
      rw [empty] at length
      cases length

/-- Derived ids are distinct. -/
theorem Derived.injective
    {requestId : String}
    (clear :
      sha256.hexdigest (wholeInput identity left) = sha256.hexdigest (wholeInput identity right) →
        wholeInput identity left = wholeInput identity right)
    (first : Derived sha256 identity left requestId)
    (second : Derived sha256 identity right requestId) :
    left = right := by
  have separated :
      ∀ (head : String) (number other : Nat),
        head ++ (String.singleton '-' ++ decimal number) ≠
          sha256.hexdigest (wholeInput identity other) := by
    intro head number other same
    have dash : hexDigit '-' = false := by decide
    have absent := sha256.not_mem_hexdigest dash (wholeInput identity other)
    rw [← same] at absent
    simp at absent
  rcases first with ⟨head, written⟩ | digest
  · rcases second with ⟨other, again⟩ | digest
    · exact number_behind_separator (by decide) (written.symm.trans again)
    · exact absurd (written.symm.trans digest) (separated head left right)
  · rcases second with ⟨other, again⟩ | later
    · exact absurd (again.symm.trans digest) (separated other right left)
    · exact wholeInput_injective (clear (digest.symm.trans later))

end

/-- SHA-256 is assumed not to collide on what is hashed for the two numbers. -/
theorem derived_request_ids (sha256 : Sha256) (interpreter : Interpreter) :
    (∀ (root : String) (index : Nat),
        validRequestId root = true → index < maxRpcBatch →
          batchRequestId sha256 root index = some (pythonBatchRequestId sha256 root index) ∧
            validRequestId (pythonBatchRequestId sha256 root index) = true) ∧
      (∀ (root : String) (left right : Nat),
        validRequestId root = true →
          left < maxRpcBatch → right < maxRpcBatch →
            pythonBatchRequestId sha256 root left = pythonBatchRequestId sha256 root right →
              left = right) ∧
      (∀ (identity : String) (sequence : Nat),
        printableAscii identity = true → 0 < sequence →
          interpreter.converts (digitsOf sequence) = true →
            ∃ requestId,
              generatedRequestId sha256 interpreter identity sequence = some requestId ∧
                validRequestId requestId = true) ∧
      ∀ (identity : String) (left right : Nat),
        printableAscii identity = true → 0 < left → 0 < right →
          interpreter.converts (digitsOf left) = true →
          interpreter.converts (digitsOf right) = true →
          (sha256.hexdigest (wholeInput identity left) =
              sha256.hexdigest (wholeInput identity right) →
            wholeInput identity left = wholeInput identity right) →
          generatedRequestId sha256 interpreter identity left =
              generatedRequestId sha256 interpreter identity right →
            left = right := by
  refine ⟨?_, ?_, ?_, ?_⟩
  · intro root index valid below
    exact ⟨batchRequestId_eq valid below, pythonBatchRequestId_valid valid below⟩
  · intro root left right _ _ _ same
    rcases pythonBatchRequestId_ends sha256 root left with ⟨first, written⟩
    rcases pythonBatchRequestId_ends sha256 root right with ⟨second, again⟩
    rw [written, again] at same
    exact number_behind_separator (by decide) same
  · intro identity sequence printable _ converts
    rw [printableAscii_eq] at printable
    rcases generatedRequestId_derived printable converts with ⟨requestId, generated, valid, _⟩
    exact ⟨requestId, generated, valid⟩
  · intro identity left right printable _ _ writesLeft writesRight clear same
    rw [printableAscii_eq] at printable
    rcases generatedRequestId_derived printable writesLeft with
      ⟨first, generatedFirst, _, derivedFirst⟩
    rcases generatedRequestId_derived printable writesRight with
      ⟨second, generatedSecond, _, derivedSecond⟩
    rw [generatedFirst, generatedSecond, Option.some.injEq] at same
    rw [← same] at derivedSecond
    exact derivedFirst.injective clear derivedSecond

/-- A digest that tells inputs of even length from those of odd length. -/
private def parityDigest : Sha256 where
  hexdigest := fun bytes =>
    if bytes.length % 2 = 0 then String.ofList (List.replicate 64 '0')
    else String.ofList (List.replicate 64 '1')
  length_hexdigest := by
    intro bytes
    split_ifs <;> rw [String.length_ofList, List.length_replicate]
  hexDigits := by
    intro bytes
    split_ifs <;> decide

/-- The id of a number with 202 digits is a digest, and that of 1 is not. -/
theorem derived_request_ids_long :
    generatedRequestId parityDigest { maxStrDigits := 4300 } "anon" 1 ≠
      generatedRequestId parityDigest { maxStrDigits := 4300 } "anon" (10 ^ 201) := by
  intro same
  have equal :=
    (derived_request_ids parityDigest { maxStrDigits := 4300 }).2.2.2
      "anon" 1 (10 ^ 201) (by decide +kernel) (by decide +kernel)
      (by decide +kernel) (by decide +kernel) (by decide +kernel)
      (by decide +kernel) same
  revert equal
  decide +kernel

/-- The interpreter does not write a number of 4301 digits. -/
theorem generated_request_id_unwritten :
    generatedRequestId parityDigest { maxStrDigits := 4300 } "anon" (10 ^ 4300) = none := by
  have long : Interpreter.converts { maxStrDigits := 4300 } (digitsOf (10 ^ 4300)) ≠ true := by
    decide +kernel
  exact if_neg long

end Tinyray.Transport
