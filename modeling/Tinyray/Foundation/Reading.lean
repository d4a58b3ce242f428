import Mathlib.Data.List.Basic

/-!
# Reading items off a stream

A reader takes one item off the front of a stream, finds that the stream has
ended, or fails.  If the encodings of items delimit themselves, a stream of
encoded items that breaks off within an item is read as exactly the items
that are complete.  A counted list is read item by item.
-/

namespace Tinyray.Foundation

variable {α β ε : Type*}

/-- Read items until the stream ends or the reader fails. -/
def readAll (read : List α → Except ε (Option (β × List α))) : Nat → List α → List β × Option ε
  | 0, _ => ([], none)
  | fuel + 1, stream =>
    match read stream with
    | .error error => ([], some error)
    | .ok none => ([], none)
    | .ok (some (item, rest)) =>
      let later := readAll read fuel rest
      (item :: later.1, later.2)

/-- A complete item is read back, and less than an item is not an item. -/
structure SelfDelimiting
    (read : List α → Except ε (Option (β × List α)))
    (encode : β → List α) (valid : β → Prop) : Prop where
  whole :
    ∀ {item : β} (rest : List α), valid item → read (encode item ++ rest) = .ok (some (item, rest))
  broken :
    ∀ {item : β} {front : List α}, valid item → front <+: encode item →
      front.length < (encode item).length → ∀ found, read front ≠ .ok (some found)

namespace SelfDelimiting

variable {read : List α → Except ε (Option (β × List α))}
  {encode : β → List α} {valid : β → Prop}

/-- Whole items are read first. -/
theorem readAll_append
    (delimiting : SelfDelimiting read encode valid)
    {items : List β} (sound : ∀ item ∈ items, valid item) (rest : List α) (fuel : Nat) :
    (readAll read (items.length + fuel) (items.flatMap encode ++ rest)).1 =
      items ++ (readAll read fuel rest).1 := by
  induction items with
  | nil => simp
  | cons item items hypothesis =>
    have next := delimiting.whole (items.flatMap encode ++ rest) (sound item List.mem_cons_self)
    have later := hypothesis fun other listed => sound other (List.mem_cons_of_mem _ listed)
    have count : (item :: items).length + fuel = items.length + fuel + 1 := by
      simp only [List.length_cons]
      omega
    rw [count, List.flatMap_cons, List.append_assoc, readAll, next]
    simp only [later, List.cons_append]

/-- A stream that breaks off within an item shows the items before it. -/
theorem readAll_broken
    (delimiting : SelfDelimiting read encode valid)
    {items : List β} (sound : ∀ item ∈ items, valid item)
    {front : List α} {fuel : Nat} (enough : items.length ≤ fuel)
    (broken : ∀ found, read front ≠ .ok (some found)) :
    (readAll read fuel (items.flatMap encode ++ front)).1 = items := by
  obtain ⟨extra, rfl⟩ := Nat.exists_eq_add_of_le enough
  rw [delimiting.readAll_append sound]
  cases extra with
  | zero => simp [readAll]
  | succ extra =>
    rw [readAll]
    cases outcome : read front with
    | error error => simp
    | ok found =>
      cases found with
      | none => simp
      | some found => exact absurd outcome (broken found)

end SelfDelimiting

/-! ## A counted list of items -/

section

variable (read : List α → Option (β × List α))

/-- So many items off the front of a stream. -/
def readExactly : Nat → List α → Option (List β × List α)
  | 0, stream => some ([], stream)
  | count + 1, stream => do
    let (item, rest) ← read stream
    let (items, last) ← readExactly count rest
    some (item :: items, last)

/-- The code of one item, whatever comes after it. -/
def Encodes (code : List α) (item : β) : Prop := ∀ rest, read (code ++ rest) = some (item, rest)

variable {read}

theorem readExactly_flatten {codes : List (List α)} {items : List β}
    (encodes : List.Forall₂ (Encodes read) codes items) (rest : List α) :
    readExactly read items.length (codes.flatten ++ rest) = some (items, rest) := by
  induction encodes with
  | nil => rfl
  | cons first _ hypothesis =>
    rw [List.flatten_cons, List.append_assoc, List.length_cons, readExactly, first]
    simp only [Option.bind_eq_bind, Option.bind_some, hypothesis]

end

end Tinyray.Foundation
