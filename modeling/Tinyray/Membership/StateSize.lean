import Mathlib.Algebra.Ring.Int.Defs
import Tinyray.Proto.Decimal
import Tinyray.Registry.Pool

/-!
# The size of a published state

Python checks the state it publishes by the length of the text `json.dumps`
writes: ASCII, with a blank after every comma and colon.  What it sends is
that text read again.  The registry counts the bytes of the compact text of
what it was sent.

The two lengths are compared exactly.  The compact text saves the blanks and
most escapes, and loses on doubles from 0.00001 up to 0.0001, which Python
writes with an exponent.
-/

namespace Tinyray.Membership

open Tinyray.FloatPrinter

/-! ## Values of Python -/

/-- The code points of a text; halves of surrogate pairs may occur. -/
abbrev PyText := List (Fin 0x110000)

/-- The keys that `json.dumps` takes. -/
inductive PyKey where
  | none
  | bool (value : Bool)
  | int (value : Int)
  | float (value : F64)
  /-- An infinite double, or one that is not a number. -/
  | nonfinite
  | str (text : PyText)

/-- What `json.dumps` takes; a tuple is a list. -/
inductive PyValue where
  | none
  | bool (value : Bool)
  | int (value : Int)
  | float (value : F64)
  | nonfinite
  | str (text : PyText)
  | list (items : List PyValue)
  | dict (fields : List (PyKey × PyValue))

/-- A text as code points. -/
def pyText (text : List Char) : PyText := text.map fun char => Fin.ofNat _ char.toNat

/-- `repr` of an integer -/
def intText (value : Int) : List Char :=
  (if value < 0 then ['-'] else []) ++ Nat.toDigits 10 value.natAbs

namespace PyText

/-- Characters `json.dumps` writes for a code point. -/
def codeLength (code : Nat) : Nat :=
  if code = 0x22 ∨ code = 0x5c ∨ code = 0x0a ∨ code = 0x0d ∨ code = 0x09 ∨
      code = 0x08 ∨ code = 0x0c then 2
  else if 0x20 ≤ code ∧ code ≤ 0x7e then 1
  else if code < 0x10000 then 6
  else 12

/-- Characters for a text, with its quotes. -/
def dumpsLength (text : PyText) : Nat := 2 + (text.map fun code => codeLength code.val).sum

/-- The first half of a pair. -/
def high (code : Nat) : Bool := 0xd800 ≤ code && code < 0xdc00

/-- The second half of a pair. -/
def low (code : Nat) : Bool := 0xdc00 ≤ code && code < 0xe000

/-- The character of two halves of a surrogate pair. -/
def joined (first second : Nat) : Nat := 0x10000 + (first - 0xd800) * 0x400 + (second - 0xdc00)

/--
The text that is read back and packed.  Two halves next to each other become
one character; a single half cannot be packed.
-/
def decode : PyText → Option (List Char)
  | [] => some []
  | first :: rest =>
    if high first then
      match rest with
      | [] => .none
      | second :: others =>
        if low second then
          (decode others).map fun later => Char.ofNat (joined first second) :: later
        else .none
    else if low first then .none
    else (decode rest).map fun later => Char.ofNat first :: later

/-- Characters the compact text saves on a code point. -/
def codeSaved (code : Nat) : Nat :=
  if code < 0x7f then 0
  else if code = 0x7f then 5
  else if code < 0x800 then 4
  else if high code ∨ low code then 4
  else if code < 0x10000 then 3
  else 8

/-- Bytes fewer than `json.dumps` has. -/
def saved (text : PyText) : Nat := (text.map fun code => codeSaved code.val).sum

/-! ### Texts -/

variable {code : Nat}

theorem toNat_ofNat_of_valid (valid : code.isValidChar) : (Char.ofNat code).toNat = code := by
  rw [Char.ofNat, dif_pos valid]
  rfl

/-- A character's length, both ways. -/
theorem jsonCharLength_ofNat (valid : code.isValidChar) :
    jsonCharLength (Char.ofNat code) + codeSaved code = codeLength code := by
  have same := toNat_ofNat_of_valid valid
  have size (char : Char) :
      char.utf8Size = if char.toNat ≤ 0x7f then 1 else if char.toNat ≤ 0x7ff then 2
        else if char.toNat ≤ 0xffff then 3 else 4 := rfl
  have escapes (char : Char) : Char.ofNat code = char ↔ code = char.toNat := by
    rw [← Char.toNat_inj, same]
  simp only [Nat.isValidChar] at valid
  simp only [jsonCharLength, codeLength, codeSaved, escapes, same, size, high, low]
  grind

theorem codeLength_of_wide (wide : 0x7e < code)
    (short : code < 0x10000) :
    codeLength code = 6 := by
  rw [codeLength, if_neg (by omega), if_neg (by omega), if_pos short]

theorem codeLength_of_astral (astral : 0x10000 ≤ code) : codeLength code = 12 := by
  rw [codeLength, if_neg (by omega), if_neg (by omega), if_neg (by omega)]

theorem codeSaved_of_half (lower : 0xd800 ≤ code)
    (upper : code < 0xe000) :
    codeSaved code = 4 := by
  have half : high code ∨ low code := by
    simp only [high, low, Bool.and_eq_true, decide_eq_true_eq]
    omega
  rw [codeSaved, if_neg (by omega), if_neg (by omega), if_neg (by omega), if_pos half]

theorem codeSaved_of_astral (astral : 0x10000 ≤ code) : codeSaved code = 8 := by
  have whole : ¬ (high code ∨ low code) := by
    simp only [high, low, Bool.and_eq_true, decide_eq_true_eq]
    omega
  rw [codeSaved, if_neg (by omega), if_neg (by omega), if_neg (by omega),
    if_neg whole, if_neg (by omega)]

/-- A pair is one character. -/
theorem jsonCharLength_joined {first second : Nat}
    (upper : high first) (lower : low second) :
    jsonCharLength (Char.ofNat (joined first second)) + codeSaved first + codeSaved second =
      codeLength first + codeLength second := by
  simp only [high, low, Bool.and_eq_true, decide_eq_true_eq] at upper lower
  have range : 0x10000 ≤ joined first second ∧ joined first second < 0x110000 := by
    unfold joined
    omega
  have valid : (joined first second).isValidChar := by
    rw [Nat.isValidChar]
    omega
  have length := jsonCharLength_ofNat valid
  rw [codeLength_of_astral range.1, codeSaved_of_astral range.1] at length
  rw [codeLength_of_wide (by omega) (by omega), codeLength_of_wide (by omega) (by omega),
    codeSaved_of_half (by omega) (by omega), codeSaved_of_half (by omega) (by omega)]
  omega

/-- A text's length, both ways. -/
theorem jsonStringLength_decode {text : PyText} {chars : List Char}
    (read : text.decode = some chars) :
    jsonStringLength (String.ofList chars) + text.saved = text.dumpsLength := by
  have lengths :
      (chars.map jsonCharLength).sum + text.saved =
        (text.map fun code => codeLength code.val).sum := by
    induction text using decode.induct generalizing chars with
    | case1 =>
      cases read
      rfl
    | case2 first upper =>
      simp [decode, upper] at read
    | case3 first upper second others lower hypothesis =>
      rw [decode, if_pos upper] at read
      simp only [lower, if_true, Option.map_eq_some_iff] at read
      obtain ⟨later, laterRead, rfl⟩ := read
      have length := jsonCharLength_joined upper lower
      have rest := hypothesis laterRead
      simp only [List.map_cons, List.sum_cons, saved] at rest ⊢
      omega
    | case4 first upper second others lower =>
      simp [decode, upper, lower] at read
    | case5 first rest upper lower =>
      rw [decode.eq_def] at read
      simp [upper, lower] at read
    | case6 first others upper lower hypothesis =>
      rw [decode.eq_def] at read
      simp only [upper, lower, Bool.false_eq_true, if_false] at read
      obtain ⟨later, laterRead, rfl⟩ := Option.map_eq_some_iff.mp read
      have valid : (first : Nat).isValidChar := by
        simp only [high, low, Bool.and_eq_true, decide_eq_true_eq] at *
        simp only [Nat.isValidChar]
        omega
      have length := jsonCharLength_ofNat valid
      have rest := hypothesis laterRead
      simp only [List.map_cons, List.sum_cons, saved] at rest ⊢
      omega
  rw [jsonStringLength, dumpsLength, String.toList_ofList]
  omega

end PyText

section

variable [FloatPrinter]

/-- A key as text. -/
def PyKey.text : PyKey → PyText
  | .none => pyText "null".toList
  | .bool value => pyText (if value then "true" else "false").toList
  | .int value => pyText (intText value)
  | .float value => pyText (pythonText value)
  | .nonfinite => []
  | .str text => text

/-- The name a key has when it is read back. -/
def PyKey.name (key : PyKey) : Option String := key.text.decode.map String.ofList

/-- A later field has the same name, so this one is not read back. -/
def recurs (key : PyKey) (later : List (PyKey × PyValue)) : Bool :=
  later.any fun field => field.1.name == key.name

/-- Objects list their fields by ascending name. -/
def insertField (name : String) (value : Value) : List (String × Value) → List (String × Value)
  | [] => [(name, value)]
  | (other, content) :: rest =>
    if name < other then (name, value) :: (other, content) :: rest
    else (other, content) :: insertField name value rest

namespace PyValue

mutual

/-- Characters of the text of `json.dumps`. -/
def dumpsLength : PyValue → Nat
  | .none => 4
  | .bool value => if value then 4 else 5
  | .int value => (intText value).length
  | .float value => (pythonText value).length
  | .nonfinite => 0
  | .str text => text.dumpsLength
  | .list items => 2 + dumpsItems items
  | .dict fields => 2 + dumpsFields fields

def dumpsItems : List PyValue → Nat
  | [] => 0
  | item :: rest => dumpsLength item + (if rest.isEmpty then 0 else 2) + dumpsItems rest

def dumpsFields : List (PyKey × PyValue) → Nat
  | [] => 0
  | (key, value) :: rest =>
    key.text.dumpsLength + 2 + dumpsLength value +
      (if rest.isEmpty then 0 else 2) + dumpsFields rest

end

mutual

/-- `allow_nan=False` does not object. -/
def finite : PyValue → Bool
  | .nonfinite => false
  | .list items => finiteItems items
  | .dict fields => finiteFields fields
  | _ => true

def finiteItems : List PyValue → Bool
  | [] => true
  | item :: rest => finite item && finiteItems rest

def finiteFields : List (PyKey × PyValue) → Bool
  | [] => true
  | (.nonfinite, _) :: _ => false
  | (_, value) :: rest => finite value && finiteFields rest

end

mutual

/--
What arrives at the registry after `json.loads`, MessagePack and
`serde_json`.  Of fields with one name the last is kept; integers beyond 64
bits cannot be packed.
-/
def decode : PyValue → Option Value
  | .none => some .null
  | .bool value => some (.bool value)
  | .int value =>
    if value < 0 then
      if small : Int64.ofInt value < 0 ∧ (Int64.ofInt value).toInt = value then
        some (.number (.negInt (Int64.ofInt value) small.1))
      else .none
    else if value < 2 ^ 64 then some (.number (.posInt (UInt64.ofNat value.toNat)))
    else .none
  | .float value => some (.number (.float value))
  | .nonfinite => .none
  | .str text => text.decode.map fun chars => .string (String.ofList chars)
  | .list items => (decodeItems items).map .array
  | .dict fields => (decodeFields fields).map .object

def decodeItems : List PyValue → Option (List Value)
  | [] => some []
  | item :: rest => do
    let value ← decode item
    let later ← decodeItems rest
    some (value :: later)

def decodeFields : List (PyKey × PyValue) → Option (List (String × Value))
  | [] => some []
  | (key, value) :: rest => do
    let later ← decodeFields rest
    if recurs key rest then some later
    else do
      let name ← key.name
      let content ← decode value
      some (insertField name content later)

end

end PyValue

/-- Why a state is not published. -/
inductive StateRefusal where
  | notCompliant
  | tooLarge (message : String)
  | unpackable
deriving DecidableEq

/-- `Member._encode_state`, up to what the registry decodes from it. -/
def encodeState (fields : List (PyKey × PyValue)) : Except StateRefusal Value :=
  let state := PyValue.dict fields
  if !state.finite then .error .notCompliant
  else if state.dumpsLength > maxState then
    .error
      (.tooLarge
        ("state is " ++ toString state.dumpsLength ++ " bytes, over the " ++ toString maxState ++
          " limit; the registry copies it to every subscriber, " ++
          "so publish a reference and let peers fetch the payload " ++ "themselves"))
  else
    match state.decode with
    | .none => .error .unpackable
    | some value => .ok value

/-! ## The two lengths -/

namespace PyValue

mutual

/-- Characters by which the compact text is longer. -/
def lost : PyValue → Nat
  | .float value => (shortest value).lost
  | .list items => lostItems items
  | .dict fields => lostFields fields
  | _ => 0

def lostItems : List PyValue → Nat
  | [] => 0
  | item :: rest => lost item + lostItems rest

def lostFields : List (PyKey × PyValue) → Nat
  | [] => 0
  | (key, value) :: rest => (if recurs key rest then 0 else lost value) + lostFields rest

end

mutual

/--
Characters the compact text saves: blanks, escapes, signs and zeros of
exponents, and the fields that are not read back.
-/
def saved : PyValue → Nat
  | .float value => (shortest value).spared plus padded
  | .str text => text.saved
  | .list items => savedItems items
  | .dict fields => savedFields fields
  | _ => 0

def savedItems : List PyValue → Nat
  | [] => 0
  | item :: rest => saved item + (if rest.isEmpty then 0 else 1) + savedItems rest

def savedFields : List (PyKey × PyValue) → Nat
  | [] => 0
  | (key, value) :: rest =>
    (if recurs key rest then key.text.dumpsLength + 2 + dumpsLength value + 2
      else key.text.saved + 1 + saved value + if rest.isEmpty then 0 else 1) + savedFields rest

end

end PyValue

/-! ### Separators -/

omit [FloatPrinter] in
theorem insertField_isEmpty (name : String) (value : Value)
    (fields : List (String × Value)) :
    (insertField name value fields).isEmpty = false := by
  cases fields with
  | nil => rfl
  | cons field rest =>
    rw [insertField]
    split <;> rfl

/-- The order of fields costs nothing. -/
theorem jsonFieldsLength_insertField (name : String) (value : Value)
    (fields : List (String × Value)) :
    Value.jsonFieldsLength (insertField name value fields) =
      Value.jsonFieldsLength ((name, value) :: fields) := by
  induction fields with
  | nil => rfl
  | cons field rest hypothesis =>
    obtain ⟨other, content⟩ := field
    rw [insertField]
    split
    · rfl
    · rw [jsonFieldsLength_cons, hypothesis, insertField_isEmpty]
      simp only [jsonFieldsLength_cons, List.isEmpty_cons]
      split <;> simp <;> omega

theorem PyValue.decodeItems_isEmpty {items : List PyValue}
    {decoded : List Value} (read : decodeItems items = some decoded) :
    decoded.isEmpty = items.isEmpty := by
  cases items with
  | nil =>
    cases read
    rfl
  | cons item rest =>
    simp only [decodeItems, Option.bind_eq_bind, Option.bind_eq_some_iff, Option.some.injEq] at read
    obtain ⟨_, _, _, _, rfl⟩ := read
    rfl

variable {key : PyKey} {decoded : List (String × Value)}
  {fields : List (PyKey × PyValue)}

/-- How one field is decoded. -/
theorem PyValue.decodeFields_cons {value : PyValue}
    {rest : List (PyKey × PyValue)} (read : decodeFields ((key, value) :: rest) = some decoded) :
    ∃ later, decodeFields rest = some later ∧
      ((recurs key rest = true ∧ rest.isEmpty = false ∧ decoded = later) ∨
        (¬ recurs key rest = true ∧
          ∃ name content,
            key.name = some name ∧ value.decode = some content ∧
              decoded = insertField name content later)) := by
  simp only [decodeFields, Option.bind_eq_bind, Option.bind_eq_some_iff] at read
  obtain ⟨later, laterRead, kept⟩ := read
  refine ⟨later, laterRead, ?_⟩
  by_cases repeated : recurs key rest
  · rw [if_pos repeated] at kept
    cases kept
    refine Or.inl ⟨repeated, ?_, rfl⟩
    cases rest with
    | nil => simp [recurs] at repeated
    | cons => rfl
  · rw [if_neg repeated] at kept
    simp only [Option.bind_eq_some_iff, Option.some.injEq] at kept
    obtain ⟨name, nameRead, content, contentRead, rfl⟩ := kept
    exact Or.inr ⟨repeated, name, content, nameRead, contentRead, rfl⟩

theorem PyValue.decodeFields_isEmpty
    (read : decodeFields fields = some decoded) :
    decoded.isEmpty = fields.isEmpty := by
  induction fields generalizing decoded with
  | nil =>
    cases read
    rfl
  | cons field rest hypothesis =>
    obtain ⟨later, laterRead, ⟨_, followed, rfl⟩ | ⟨_, _, _, _, _, rfl⟩⟩ := decodeFields_cons read
    · exact (hypothesis laterRead).trans followed
    · exact insertField_isEmpty _ _ _

/-! ### Values -/

/-- An integer's length. -/
theorem jsonLength_decode_int {value : Int} {decoded : Value}
    (read : (PyValue.int value).decode = some decoded) :
    decoded.jsonLength = (intText value).length := by
  rw [PyValue.decode] at read
  by_cases below : value < 0
  · rw [if_pos below] at read
    split at read
    · rename_i small
      cases read
      rw [Value.jsonLength, Number.jsonLength, small.2]
      simp [intText, below, Nat.add_comm]
    · cases read
  · rw [if_neg below] at read
    split at read
    · rename_i small
      cases read
      have natural : (UInt64.ofNat value.toNat).toNat = value.natAbs := by
        rw [UInt64.toNat_ofNat']
        omega
      rw [Value.jsonLength, Number.jsonLength, natural]
      simp [intText, below]
    · cases read

theorem jsonStringLength_name {name : String}
    (read : key.name = some name) :
    jsonStringLength name + key.text.saved = key.text.dumpsLength := by
  obtain ⟨chars, decoded, rfl⟩ := Option.map_eq_some_iff.mp read
  exact PyText.jsonStringLength_decode decoded

namespace PyValue

mutual

/-- A state's length, both ways. -/
theorem jsonLength_decode (state : PyValue) {decoded : Value}
    (read : state.decode = some decoded) :
    decoded.jsonLength + state.saved = state.dumpsLength + state.lost := by
  cases state with
  | none =>
    cases read
    rfl
  | bool value =>
    cases read
    rfl
  | int value =>
    rw [jsonLength_decode_int read]
    simp [saved, dumpsLength, lost]
  | float value =>
    cases read
    simp only [saved, dumpsLength, lost]
    exact (shortest value).length_compact plus padded
  | nonfinite => cases read
  | str text =>
    obtain ⟨chars, textRead, rfl⟩ := Option.map_eq_some_iff.mp read
    simp only [saved, dumpsLength, lost, Value.jsonLength]
    exact PyText.jsonStringLength_decode textRead
  | list items =>
    obtain ⟨values, itemsRead, rfl⟩ := Option.map_eq_some_iff.mp read
    have items := jsonItemsLength_decode items itemsRead
    simp only [saved, dumpsLength, lost, Value.jsonLength]
    omega
  | dict fields =>
    obtain ⟨values, fieldsRead, rfl⟩ := Option.map_eq_some_iff.mp read
    have fields := jsonFieldsLength_decode fields fieldsRead
    simp only [saved, dumpsLength, lost, Value.jsonLength]
    omega

/-- The items' length, both ways. -/
theorem jsonItemsLength_decode (items : List PyValue)
    {decoded : List Value} (read : decodeItems items = some decoded) :
    Value.jsonItemsLength decoded + savedItems items = dumpsItems items + lostItems items := by
  cases items with
  | nil =>
    cases read
    rfl
  | cons item rest =>
    simp only [decodeItems, Option.bind_eq_bind, Option.bind_eq_some_iff, Option.some.injEq] at read
    obtain ⟨value, itemRead, later, laterRead, rfl⟩ := read
    have first := jsonLength_decode item itemRead
    have others := jsonItemsLength_decode rest laterRead
    rw [jsonItemsLength_cons, savedItems, dumpsItems, lostItems, decodeItems_isEmpty laterRead]
    split <;> omega

/-- The fields' length, both ways. -/
theorem jsonFieldsLength_decode (fields : List (PyKey × PyValue))
    {decoded : List (String × Value)} (read : decodeFields fields = some decoded) :
    Value.jsonFieldsLength decoded + savedFields fields =
      dumpsFields fields + lostFields fields := by
  cases fields with
  | nil =>
    cases read
    rfl
  | cons field rest =>
    obtain ⟨key, value⟩ := field
    obtain ⟨later, laterRead, kept⟩ := decodeFields_cons read
    have others := jsonFieldsLength_decode rest laterRead
    rw [savedFields, dumpsFields, lostFields]
    obtain ⟨repeated, followed, rfl⟩ |
      ⟨repeated, name, content, nameRead, contentRead, rfl⟩ := kept
    · -- a field that recurs is followed by a separator
      simp only [repeated, followed, if_true, Bool.false_eq_true, if_false]
      omega
    · have first := jsonLength_decode value contentRead
      have named := jsonStringLength_name nameRead
      rw [jsonFieldsLength_insertField, jsonFieldsLength_cons,
        decodeFields_isEmpty laterRead, if_neg repeated, if_neg repeated]
      split <;> omega

end

end PyValue

/-! ## The check -/

/-- What an accepted state is. -/
theorem encodeState_eq_ok {value : Value}
    (accepted : encodeState fields = .ok value) :
    (PyValue.dict fields).dumpsLength ≤ maxState ∧ (PyValue.dict fields).decode = some value := by
  simp only [encodeState] at accepted
  split at accepted
  · cases accepted
  · split at accepted
    · cases accepted
    · rename_i fits
      cases decoded : (PyValue.dict fields).decode with
      | none =>
        rw [decoded] at accepted
        cases accepted
      | some other =>
        rw [decoded] at accepted
        cases accepted
        exact ⟨Nat.le_of_not_lt fits, rfl⟩

/--
A state that Python accepts passes the registry's check unless its doubles
below 0.0001 lose more than the rest of the text saves and leaves free.
-/
theorem state_size_agrees_iff {fields : List (PyKey × PyValue)}
    {value : Value} (accepted : encodeState fields = .ok value) :
    (serializedLen value maxState).isSome ↔
      (PyValue.dict fields).lost ≤
        (maxState - (PyValue.dict fields).dumpsLength) + (PyValue.dict fields).saved := by
  obtain ⟨fits, read⟩ := encodeState_eq_ok accepted
  have lengths := PyValue.jsonLength_decode _ read
  have size : (serializedLen value maxState).isSome ↔ value.jsonLength ≤ maxState := by
    unfold serializedLen
    split <;> simp [*]
  rw [size]
  omega

end

/-- The double nearest to `1e-05`. -/
private def tinyFloat : F64 := ⟨0x3ee4f8b588e368f1#64, by decide⟩

/-- A state of tiny numbers. -/
private def tinyFloats (count : Nat) : List (PyKey × PyValue) :=
  [(.str (pyText ['a']), .list (List.replicate count (.float tinyFloat)))]

section

attribute [local instance] FloatPrinter.plain

theorem state_size_agrees_for_one :
    ∃ value, encodeState (tinyFloats 1) = .ok value ∧ (serializedLen value maxState).isSome := by
  have accepted :
      encodeState (tinyFloats 1) = .ok (.object [("a", .array [.number (.float tinyFloat)])]) := by
    decide +kernel
  exact ⟨_, accepted, (state_size_agrees_iff accepted).mpr (by decide +kernel)⟩

theorem tiny_floats_outgrow_the_check :
    (encodeState (tinyFloats 2048)).toOption.map (fun value => serializedLen value maxState) =
      some none := by
  decide +kernel

end

end Tinyray.Membership
