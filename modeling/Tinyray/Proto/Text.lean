import Mathlib.Tactic.IntervalCases
import Tinyray.Foundation.Digits
import Tinyray.Foundation.PrefixFree
import Tinyray.Foundation.Reading
import Tinyray.Proto.Decimal

/-!
# The compact text of a value

`to_string` and `to_writer` of `serde_json` write the same text.  Its length
is the one that `Value.jsonLength` counts.

The text says which value it was written for, if the text of a double says
which double: brackets, quotes and first letters tell the kinds apart, a
string ends at the first quote that is not escaped, and a number at the first
character that no number has.
-/

namespace Tinyray

open Tinyray.Foundation

/-! ## Writing -/

/-- A character inside a text. -/
def jsonChar (char : Char) : List Char :=
  if char = '"' then ['\\', '"']
  else if char = '\\' then ['\\', '\\']
  else if char = '\n' then ['\\', 'n']
  else if char = '\r' then ['\\', 'r']
  else if char = '\t' then ['\\', 't']
  else if char.toNat = 0x08 then ['\\', 'b']
  else if char.toNat = 0x0C then ['\\', 'f']
  else if char.toNat < 0x20 then
    ['\\', 'u', '0', '0', Nat.digitChar (char.toNat / 16), Nat.digitChar (char.toNat % 16)]
  else [char]

/-- A text in quotes. -/
def jsonString (text : String) : List Char := '"' :: (text.toList.flatMap jsonChar ++ ['"'])

section Writing

variable [FloatPrinter]

/-- The text of a double. -/
def F64.compactText (float : F64) : List Char :=
  (FloatPrinter.shortest float).compact FloatPrinter.plus FloatPrinter.padded

/-- The text of a number. -/
def Number.text : Number → List Char
  | .posInt value => digitsOf value.toNat
  | .negInt value _ => '-' :: digitsOf value.toInt.natAbs
  | .float value => value.compactText

namespace Value

mutual

/-- The text of a value. -/
def text : Value → List Char
  | .null => "null".toList
  | .bool value => (if value then "true" else "false").toList
  | .number value => value.text
  | .string value => jsonString value
  | .array items => '[' :: (itemsText items ++ [']'])
  | .object fields => '{' :: (fieldsText fields ++ ['}'])

def itemsText : List Value → List Char
  | [] => []
  | [item] => text item
  | item :: rest => text item ++ ',' :: itemsText rest

def fieldsText : List (String × Value) → List Char
  | [] => []
  | [(key, value)] => jsonString key ++ ':' :: text value
  | (key, value) :: rest => jsonString key ++ ':' :: text value ++ ',' :: fieldsText rest

end

end Value

end Writing

/-! ## Characters and strings -/

/-- A digit's value. -/
def hexValue (char : Char) : Nat :=
  if char.isDigit then char.toNat - '0'.toNat
  else char.toNat - 'a'.toNat + 10

/-- Read what follows a backslash. -/
def readEscape : List Char → Option (Char × List Char)
  | 'u' :: _ :: _ :: high :: low :: rest =>
    some (Char.ofNat (16 * hexValue high + hexValue low), rest)
  | 'n' :: rest => some ('\n', rest)
  | 'r' :: rest => some ('\r', rest)
  | 't' :: rest => some ('\t', rest)
  | 'b' :: rest => some (Char.ofNat 0x08, rest)
  | 'f' :: rest => some (Char.ofNat 0x0C, rest)
  | char :: rest => some (char, rest)
  | [] => none

variable {char : Char}

/-- Most characters stand for themselves. -/
theorem jsonChar_plain (quote : char ≠ '"')
    (backslash : char ≠ '\\') (control : ¬char.toNat < 0x20) :
    jsonChar char = [char] ∧ jsonCharLength char = char.utf8Size := by
  have above (other : Char) (low : other.toNat < 0x20) : char ≠ other := by
    rintro rfl
    exact control low
  have newline := above '\n' (by decide)
  have carriage := above '\r' (by decide)
  have tab := above '\t' (by decide)
  have backspace : char.toNat ≠ 0x08 := by omega
  have feed : char.toNat ≠ 0x0C := by omega
  constructor
  · rw [jsonChar, if_neg quote, if_neg backslash, if_neg newline,
      if_neg carriage, if_neg tab, if_neg backspace, if_neg feed, if_neg control]
  · rw [jsonCharLength, if_neg, if_neg control]
    simp only [quote, backslash, newline, carriage, tab, backspace, feed,
      or_self, not_false_eq_true]

/-- The others are escapes. -/
theorem jsonChar_cases (char : Char) :
    (char ≠ '"' ∧ char ≠ '\\' ∧ jsonChar char = [char]) ∨
      ∃ escape, jsonChar char = '\\' :: escape ∧ Encodes readEscape escape char := by
  by_cases quote : char = '"'
  · subst quote
    exact .inr ⟨['"'], rfl, fun _ => rfl⟩
  by_cases backslash : char = '\\'
  · subst backslash
    exact .inr ⟨['\\'], rfl, fun _ => rfl⟩
  by_cases control : char.toNat < 0x20
  · right
    rw [← Char.ofNat_toNat char]
    generalize char.toNat = code at control
    interval_cases code <;> exact ⟨_, rfl, fun _ => rfl⟩
  · exact .inl ⟨quote, backslash, (jsonChar_plain quote backslash control).1⟩

/-- No coded character starts another. -/
theorem prefixFree_jsonChar : PrefixFree jsonChar := by
  intro left right rest other _ _ same
  rcases jsonChar_cases left with ⟨-, leftPlain, left⟩ | ⟨escape, left, reads⟩
  · rcases jsonChar_cases right with ⟨-, -, right⟩ | ⟨escape, right, -⟩
    · rw [left, right] at same
      exact List.cons.inj same
    · rw [left, right] at same
      exact absurd (List.cons.inj same).1 leftPlain
  · rcases jsonChar_cases right with ⟨-, rightPlain, right⟩ | ⟨other', right, others⟩
    · rw [left, right] at same
      exact absurd (List.cons.inj same).1.symm rightPlain
    · rw [left, right] at same
      have later : escape ++ rest = other' ++ other := (List.cons.inj same).2
      have read := reads rest
      rw [later, others] at read
      cases read
      exact ⟨rfl, rfl⟩

theorem jsonChar_ne_quote (char : Char) (later rest : List Char) :
    jsonChar char ++ later ≠ '"' :: rest := by
  rcases jsonChar_cases char with ⟨plain, -, written⟩ | ⟨_, written, -⟩
  · rw [written]
    intro same
    exact plain (List.cons.inj same).1
  · rw [written]
    intro same
    exact absurd (List.cons.inj same).1 (by decide)

theorem prefixFree_jsonString : PrefixFree jsonString := by
  intro left right rest other _ _ same
  have inside :=
    prefixFree_jsonChar.flatMap.terminated fun rest char later => jsonChar_ne_quote char later rest
  obtain ⟨chars, rests⟩ := inside left.toList trivial trivial (List.cons.inj same).2
  exact ⟨String.toList_inj.1 chars, rests⟩

/-! ## Numbers -/

/-- It can be part of a number. -/
def numberChar (char : Char) : Bool :=
  char.isDigit || char == '-' || char == '+' || char == '.' || char == 'e'

/-- What can stand after a number. -/
def EndsNumber (rest : List Char) : Prop := ∀ char ∈ rest.head?, numberChar char = false

theorem numberChar_of_mem_digitsOf {number : Nat}
    (listed : char ∈ digitsOf number) :
    numberChar char = true := by
  simp [numberChar, isDigit_of_mem_digitsOf listed]

theorem digitsOf_ne_minus (left right : Nat) : digitsOf left ≠ '-' :: digitsOf right := by
  intro same
  have listed : '-' ∈ digitsOf left := by simp [same]
  exact not_mem_digitsOf (by decide) left listed

/-- The kind of value that a character opens; 6 if it opens none. -/
def kindOf (first : Char) : Nat :=
  if first = 'n' then 0
  else if first = 't' ∨ first = 'f' then 1
  else if first = '"' then 2
  else if first = '[' then 3
  else if first = '{' then 4
  else if numberChar first then 5
  else 6

theorem kindOf_of_numberChar {first : Char}
    (number : numberChar first = true) :
    kindOf first = 5 := by
  have other (char : Char) (apart : numberChar char = false) : first ≠ char := by
    rintro rfl
    rw [number] at apart
    cases apart
  simp [kindOf, number, other 'n' (by decide), other 't' (by decide),
    other 'f' (by decide), other '"' (by decide), other '[' (by decide), other '{' (by decide)]

namespace Decimal

variable (decimal : Decimal)

theorem numberChar_of_mem_digits {char : Char}
    (listed : char ∈ decimal.digits) :
    numberChar char = true := by
  have digits (digit : Fin 10) : numberChar (Nat.digitChar digit) = true := by
    revert digit
    decide
  simp only [Decimal.digits, List.mem_map, List.bind_eq_flatMap,
    List.pure_def, List.mem_flatMap, List.mem_singleton] at listed
  rcases listed with ⟨_, ⟨digit, -, rfl⟩, rfl⟩
  exact digits digit

variable {char : Char} {padded : Bool}

/-- What positional notation is made of. -/
theorem numberChar_of_mem_positional (listed : char ∈ decimal.positional) :
    numberChar char = true := by
  rw [positional] at listed
  split_ifs at listed
  · simp only [List.cons_append, List.mem_cons, List.mem_append, List.mem_replicate] at listed
    rcases listed with rfl | rfl | ⟨-, rfl⟩ | digit
    · rfl
    · rfl
    · rfl
    · exact decimal.numberChar_of_mem_digits digit
  · simp only [List.mem_cons, List.mem_append, List.mem_replicate,
      List.not_mem_nil, or_false] at listed
    rcases listed with (digit | ⟨-, rfl⟩) | rfl | rfl
    · exact decimal.numberChar_of_mem_digits digit
    · rfl
    · rfl
    · rfl
  · simp only [List.mem_cons, List.mem_append] at listed
    rcases listed with digit | rfl | digit
    · exact decimal.numberChar_of_mem_digits (List.mem_of_mem_take digit)
    · rfl
    · exact decimal.numberChar_of_mem_digits (List.mem_of_mem_drop digit)

/-- What a mantissa is made of. -/
theorem numberChar_of_mem_mantissa (listed : char ∈ decimal.mantissa) : numberChar char = true := by
  have digits := @decimal.numberChar_of_mem_digits char
  rw [mantissa] at listed
  split at listed
  · rename_i first second rest written
    rw [written] at digits
    simp only [List.mem_cons] at listed digits
    rcases listed with first | rfl | later
    · exact digits (.inl first)
    · rfl
    · exact digits (.inr later)
  · exact digits listed

theorem numberChar_of_mem_exponentDigits
    (listed : char ∈ decimal.exponentDigits padded) :
    numberChar char = true := by
  rw [exponentDigits] at listed
  split_ifs at listed
  · rcases List.mem_cons.1 listed with rfl | digit
    · rfl
    · exact numberChar_of_mem_digitsOf digit
  · exact numberChar_of_mem_digitsOf listed

/-- What a double's text is made of. -/
theorem numberChar_of_mem_compact {plus : Bool}
    (listed : char ∈ decimal.compact plus padded) :
    numberChar char = true := by
  rw [compact, List.mem_append] at listed
  rcases listed with sign | listed
  · rw [Decimal.sign] at sign
    split_ifs at sign
    · cases List.mem_singleton.1 sign
      rfl
    · cases sign
  · split_ifs at listed
    · exact decimal.numberChar_of_mem_positional listed
    · simp only [scientific, List.mem_append, List.mem_cons] at listed
      rcases listed with (digit | rfl | sign) | digit
      · exact decimal.numberChar_of_mem_mantissa digit
      · rfl
      · split_ifs at sign
        · cases List.mem_singleton.1 sign
          rfl
        · cases List.mem_singleton.1 sign
          rfl
        · cases sign
      · exact decimal.numberChar_of_mem_exponentDigits digit

/-- A double has a point or an exponent. -/
theorem marked_compact (plus padded : Bool) :
    '.' ∈ decimal.compact plus padded ∨ 'e' ∈ decimal.compact plus padded := by
  rw [compact]
  split
  · left
    refine List.mem_append_right _ ?_
    rw [positional]
    split_ifs <;> simp
  · right
    refine List.mem_append_right _ ?_
    simp [scientific]

end Decimal

section Reading

variable [FloatPrinter]

namespace Number

theorem numberChar_of_mem_text {number : Number} {char : Char}
    (listed : char ∈ number.text) :
    numberChar char = true := by
  cases number with
  | posInt value => exact numberChar_of_mem_digitsOf listed
  | negInt value negative =>
    rcases List.mem_cons.1 listed with rfl | digit
    · rfl
    · exact numberChar_of_mem_digitsOf digit
  | float value => exact Decimal.numberChar_of_mem_compact _ listed

theorem text_ne_nil (number : Number) : number.text ≠ [] := by
  cases number with
  | posInt value => exact Nat.toDigits_ne_nil
  | negInt value negative => exact List.cons_ne_nil _ _
  | float value =>
    intro empty
    have marked := Decimal.marked_compact
      (FloatPrinter.shortest value) FloatPrinter.plus FloatPrinter.padded
    rw [Number.text, F64.compactText] at empty
    rw [empty] at marked
    simp at marked

/-- An integer never looks like a double. -/
theorem digitsOf_ne_compactText (number : Nat) (float : F64) :
    digitsOf number ≠ float.compactText ∧ '-' :: digitsOf number ≠ float.compactText := by
  have marked : '.' ∈ float.compactText ∨ 'e' ∈ float.compactText := Decimal.marked_compact _ _ _
  have point : '.' ∉ digitsOf number := not_mem_digitsOf (by decide) _
  have exponent : 'e' ∉ digitsOf number := not_mem_digitsOf (by decide) _
  constructor
  · intro same
    rw [← same] at marked
    exact marked.elim point exponent
  · intro same
    rw [← same] at marked
    simp [point, exponent] at marked

/-- The text of a number says which number it is, if that of a double does. -/
theorem text_injective (distinct : Function.Injective F64.compactText) :
    Function.Injective Number.text := by
  intro left right same
  cases left with
  | posInt left =>
    cases right with
    | posInt right =>
      rw [posInt.injEq, ← UInt64.toNat_inj]
      exact digitsOf_injective same
    | negInt right negative =>
      exact absurd same (digitsOf_ne_minus _ _)
    | float right => exact absurd same (digitsOf_ne_compactText _ _).1
  | negInt left leftNegative =>
    cases right with
    | posInt right => exact absurd same.symm (digitsOf_ne_minus _ _)
    | negInt right rightNegative =>
      have sizes := digitsOf_injective (List.cons.inj same).2
      have leftBelow : left.toInt < 0 := Int64.lt_iff_toInt_lt.1 leftNegative
      have rightBelow : right.toInt < 0 := Int64.lt_iff_toInt_lt.1 rightNegative
      rw [negInt.injEq, ← Int64.toInt_inj]
      omega
    | float right => exact absurd same (digitsOf_ne_compactText _ _).2
  | float left =>
    cases right with
    | posInt right => exact absurd same.symm (digitsOf_ne_compactText _ _).1
    | negInt right negative =>
      exact absurd same.symm (digitsOf_ne_compactText _ _).2
    | float right => rw [distinct same]

theorem separable_text (distinct : Function.Injective F64.compactText) :
    Separable EndsNumber Number.text :=
  separable_of_all (text_injective distinct) fun _ _ => numberChar_of_mem_text

end Number

/-! ## Values -/

namespace Value

/-- The kind of a value. -/
def kind : Value → Nat
  | .null => 0
  | .bool _ => 1
  | .string _ => 2
  | .array _ => 3
  | .object _ => 4
  | .number _ => 5

/-- The first character tells the kind. -/
theorem text_opens (value : Value) :
    ∃ first later, value.text = first :: later ∧ kindOf first = value.kind := by
  cases value with
  | null => exact ⟨'n', "ull".toList, by rw [text]; rfl, by decide⟩
  | bool value =>
    cases value with
    | false => exact ⟨'f', "alse".toList, by rw [text]; rfl, by decide⟩
    | true => exact ⟨'t', "rue".toList, by rw [text]; rfl, by decide⟩
  | number value =>
    obtain ⟨first, later, written⟩ := List.exists_cons_of_ne_nil value.text_ne_nil
    have listed : first ∈ value.text := by simp [written]
    exact ⟨first, later, by rw [text, written],
      kindOf_of_numberChar (Number.numberChar_of_mem_text listed)⟩
  | string value => exact ⟨'"', _, by rw [text, jsonString], rfl⟩
  | array items => exact ⟨'[', _, by rw [text], rfl⟩
  | object fields => exact ⟨'{', _, by rw [text], rfl⟩

theorem kind_eq_of_text
    {left right : Value} {rest other : List Char}
    (same : left.text ++ rest = right.text ++ other) :
    left.kind = right.kind := by
  obtain ⟨first, _, leftText, leftKind⟩ := left.text_opens
  obtain ⟨second, _, rightText, rightKind⟩ := right.text_opens
  rw [leftText, rightText] at same
  rw [← leftKind, ← rightKind, (List.cons.inj same).1]

theorem text_ne_close
    (value : Value) {close : Char} (closes : kindOf close = 6) (later rest : List Char) :
    value.text ++ later ≠ close :: rest := by
  obtain ⟨first, _, written, opens⟩ := value.text_opens
  rw [written]
  intro same
  rw [(List.cons.inj same).1, closes] at opens
  cases value <;> cases opens

theorem itemsText_eq (items : List Value) : itemsText items = separated ',' text items := by
  induction items with
  | nil => rfl
  | cons item rest hypothesis =>
    cases rest with
    | nil => rw [itemsText, separated, List.flatMap_nil, List.append_nil]
    | cons second later =>
      rw [itemsText, hypothesis]
      · rfl
      · exact List.cons_ne_nil _ _

/-- A field and its name. -/
def fieldText (field : String × Value) : List Char := jsonString field.1 ++ ':' :: field.2.text

/-- Fields, with commas in between. -/
theorem fieldsText_eq (fields : List (String × Value)) :
    fieldsText fields = separated ',' fieldText fields := by
  induction fields with
  | nil => rfl
  | cons field rest hypothesis =>
    obtain ⟨name, value⟩ := field
    cases rest with
    | nil =>
      rw [fieldsText, separated, List.flatMap_nil, List.append_nil, fieldText]
    | cons second later =>
      rw [fieldsText, hypothesis]
      · rfl
      · exact List.cons_ne_nil _ _

theorem separates_fieldText
    {field : String × Value} (value : Separates EndsNumber text field.2) :
    Separates EndsNumber fieldText field := by
  intro right rest other restEnds otherEnds same
  simp only [fieldText, List.append_assoc, List.cons_append] at same
  obtain ⟨names, later⟩ := prefixFree_jsonString field.1 trivial trivial same
  obtain ⟨values, rests⟩ := value restEnds otherEnds (List.cons.inj later).2
  exact ⟨Prod.ext names values, rests⟩

theorem fieldText_ne_close (field : String × Value) (later rest : List Char) :
    fieldText field ++ later ≠ '}' :: rest := by
  intro same
  rw [fieldText, jsonString] at same
  cases (List.cons.inj same).1

/-- A text shows where it ends. -/
theorem separable_text (distinct : Function.Injective F64.compactText) :
    Separable EndsNumber text := by
  have ends {char : Char} (apart : numberChar char = false)
      (rest : List Char) : EndsNumber (char :: rest) := by
    rintro _ ⟨⟩
    exact apart
  intro left
  induction left using children_induction with
  | grow left hypothesis =>
    intro right rest other restEnds otherEnds same
    have kinds := kind_eq_of_text same
    cases left with
    | null =>
      cases right with
      | null => exact ⟨rfl, List.append_cancel_left same⟩
      | _ => cases kinds
    | bool left =>
      cases right with
      | bool right => cases left <;> cases right <;> simp_all [text]
      | _ => cases kinds
    | number left =>
      cases right with
      | number right =>
        rw [text, text] at same
        obtain ⟨rfl, rests⟩ :=
          left.separable_text distinct restEnds otherEnds same
        exact ⟨rfl, rests⟩
      | _ => cases kinds
    | string left =>
      cases right with
      | string right =>
        rw [text, text] at same
        obtain ⟨rfl, rests⟩ := prefixFree_jsonString left trivial trivial same
        exact ⟨rfl, rests⟩
      | _ => cases kinds
    | array left =>
      cases right with
      | array right =>
        simp only [text, itemsText_eq] at same
        obtain ⟨rfl, rests⟩ :=
          Separates.separated (by decide) (ends (by decide))
            (ends (by decide))
            (fun item => text_ne_close item (by decide))
            hypothesis trivial trivial (List.cons.inj same).2
        exact ⟨rfl, rests⟩
      | _ => cases kinds
    | object left =>
      cases right with
      | object right =>
        simp only [text, fieldsText_eq] at same
        obtain ⟨rfl, rests⟩ :=
          Separates.separated (by decide) (ends (by decide))
            (ends (by decide)) fieldText_ne_close
            (fun field listed =>
              separates_fieldText (hypothesis field.2 (List.mem_map_of_mem listed)))
            trivial trivial (List.cons.inj same).2
        exact ⟨rfl, rests⟩
      | _ => cases kinds

theorem text_injective (distinct : Function.Injective F64.compactText) :
    Function.Injective Value.text := by
  intro left right same
  have nothing : EndsNumber [] := by
    rintro _ ⟨⟩
  refine (separable_text distinct left nothing nothing ?_).1
  rw [same]

end Value

end Reading

/-! ## Lengths -/

/-- Bytes of a text. -/
def utf8Length (text : List Char) : Nat := (text.map Char.utf8Size).sum

@[simp]
theorem utf8Length_nil : utf8Length [] = 0 := rfl

@[simp]
theorem utf8Length_cons (char : Char) (text : List Char) :
    utf8Length (char :: text) = char.utf8Size + utf8Length text := rfl

@[simp]
theorem utf8Length_append (left right : List Char) :
    utf8Length (left ++ right) = utf8Length left + utf8Length right := by
  simp [utf8Length]

theorem utf8Size_of_numberChar (number : numberChar char = true) : char.utf8Size = 1 := by
  simp only [numberChar, Bool.or_eq_true, beq_iff_eq] at number
  rcases number with (((digit | rfl) | rfl) | rfl) | rfl
  · rw [Char.utf8Size_eq_one_iff]
    simp only [Char.isDigit, Bool.and_eq_true, decide_eq_true_eq] at digit
    exact UInt32.le_trans digit.2 (by decide)
  · rfl
  · rfl
  · rfl
  · rfl

theorem utf8Length_of_numberChar {text : List Char}
    (number : ∀ char ∈ text, numberChar char = true) :
    utf8Length text = text.length := by
  induction text with
  | nil => rfl
  | cons first rest hypothesis =>
    rw [List.forall_mem_cons] at number
    rw [utf8Length_cons, utf8Size_of_numberChar number.1,
      hypothesis number.2, List.length_cons, Nat.add_comm]

/-- Bytes of a coded character. -/
theorem utf8Length_jsonChar (char : Char) : utf8Length (jsonChar char) = jsonCharLength char := by
  by_cases quote : char = '"'
  · subst quote
    rfl
  by_cases backslash : char = '\\'
  · subst backslash
    rfl
  by_cases control : char.toNat < 0x20
  · rw [← Char.ofNat_toNat char]
    generalize char.toNat = code at control
    interval_cases code <;> rfl
  · obtain ⟨written, length⟩ := jsonChar_plain quote backslash control
    rw [written, length]
    rfl

/-- Bytes of a coded text. -/
theorem utf8Length_jsonString (text : String) :
    utf8Length (jsonString text) = jsonStringLength text := by
  have inside (chars : List Char) :
      utf8Length (chars.flatMap jsonChar) = (chars.map jsonCharLength).sum := by
    induction chars with
    | nil => rfl
    | cons char rest hypothesis =>
      rw [List.flatMap_cons, utf8Length_append, utf8Length_jsonChar,
        hypothesis, List.map_cons, List.sum_cons]
  rw [jsonString, utf8Length_cons, utf8Length_append, inside, jsonStringLength]
  have quote : Char.utf8Size '"' = 1 := rfl
  simp only [utf8Length_cons, utf8Length_nil, quote]
  omega

/-- Bytes of a list, with its commas. -/
theorem utf8Length_separated
    {α : Type} (code : α → List Char) (items : List α) :
    utf8Length (separated ',' code items) =
      (items.map fun item => utf8Length (code item)).sum + (items.length - 1) := by
  have comma : Char.utf8Size ',' = 1 := rfl
  have later (rest : List α) :
      utf8Length (rest.flatMap fun item => ',' :: code item) =
        (rest.map fun item => utf8Length (code item)).sum + rest.length := by
    induction rest with
    | nil => rfl
    | cons item rest hypothesis =>
      simp only [List.flatMap_cons, utf8Length_append, utf8Length_cons,
        hypothesis, comma, List.map_cons, List.sum_cons, List.length_cons]
      omega
  cases items with
  | nil => rfl
  | cons item rest =>
    rw [separated, utf8Length_append, later, List.map_cons,
      List.sum_cons, List.length_cons, Nat.add_sub_cancel, Nat.add_assoc]

section

variable [FloatPrinter]

theorem Number.utf8Length_written (number : Number) :
    utf8Length number.text = number.jsonLength := by
  rw [utf8Length_of_numberChar fun _ => numberChar_of_mem_text]
  cases number with
  | posInt value => rfl
  | negInt value negative =>
    rw [text, List.length_cons, jsonLength, Nat.add_comm]
    rfl
  | float value => rfl

/-- The text has as many bytes as are counted for it. -/
theorem Value.utf8Length_text (value : Value) : utf8Length value.text = value.jsonLength := by
  induction value using children_induction with
  | grow value hypothesis =>
    cases value with
    | null => rw [text, jsonLength]; rfl
    | bool value => cases value <;> rw [text, jsonLength] <;> rfl
    | number value => rw [text, jsonLength, Number.utf8Length_written]
    | string value => rw [text, jsonLength, utf8Length_jsonString]
    | array items =>
      have brackets : Char.utf8Size '[' = 1 ∧ Char.utf8Size ']' = 1 := ⟨rfl, rfl⟩
      rw [children] at hypothesis
      rw [text, jsonLength, itemsText_eq, utf8Length_cons,
        utf8Length_append, utf8Length_separated, jsonItemsLength_eq, List.map_congr_left hypothesis]
      simp only [utf8Length_cons, utf8Length_nil, brackets]
      omega
    | object fields =>
      have braces : Char.utf8Size '{' = 1 ∧ Char.utf8Size '}' = 1 := ⟨rfl, rfl⟩
      have colon : Char.utf8Size ':' = 1 := rfl
      have field (field : String × Value) (listed : field ∈ fields) :
          utf8Length (fieldText field) = jsonStringLength field.1 + 1 + field.2.jsonLength := by
        rw [fieldText, utf8Length_append, utf8Length_jsonString, utf8Length_cons, colon,
          hypothesis field.2 (List.mem_map_of_mem listed), Nat.add_assoc]
      rw [text, jsonLength, fieldsText_eq, utf8Length_cons,
        utf8Length_append, utf8Length_separated, jsonFieldsLength_eq, List.map_congr_left field]
      simp only [utf8Length_cons, utf8Length_nil, braces]
      omega

end

end Tinyray
