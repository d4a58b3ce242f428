import Mathlib.Data.List.TakeWhile
import Mathlib.Logic.Function.Basic

/-!
# Codes that can be told apart

Codes are written one after another, without their lengths.  A code is
separable if whoever knows that one of its words stands at the front can tell
which it is, provided that what follows ends the word; it is prefix-free if
anything may follow.
-/

namespace Tinyray.Foundation

variable {α β : Type*}

/-- This word can be taken off the front of what it is followed by. -/
def Separates (ends : List β → Prop) (code : α → List β) (left : α) : Prop :=
  ∀ ⦃right : α⦄ ⦃rest other : List β⦄,
    ends rest → ends other → code left ++ rest = code right ++ other → left = right ∧ rest = other

/-- Every word can. -/
def Separable (ends : List β → Prop) (code : α → List β) : Prop :=
  ∀ left : α, Separates ends code left

/-- Words can be taken off the front of anything. -/
abbrev PrefixFree (code : α → List β) : Prop := Separable (fun _ => True) code

variable {code : α → List β} {ends : List β → Prop}

/-- Words of some symbols are ended by any other symbol. -/
theorem separable_of_all
    {inside : β → Bool} (injective : Function.Injective code)
    (within : ∀ item, ∀ symbol ∈ code item, inside symbol = true) :
    Separable (fun rest => ∀ symbol ∈ rest.head?, inside symbol = false) code := by
  intro left right rest other restEnds otherEnds same
  have cut (item : α) {rest : List β}
      (ends : ∀ symbol ∈ rest.head?, inside symbol = false) :
      (code item ++ rest).takeWhile inside = code item := by
    rw [List.takeWhile_append_of_pos (within item)]
    cases rest with
    | nil => simp
    | cons first rest =>
      rw [List.takeWhile_cons_of_neg (by simp [ends first rfl]), List.append_nil]
  have words : code left = code right := by
    rw [← cut left restEnds, same, cut right otherEnds]
  refine ⟨injective words, ?_⟩
  rw [words] at same
  exact List.append_cancel_left same

/-- A symbol that ends the words can be written after them. -/
theorem Separable.terminated
    (separable : Separable ends code) {stop : β} (closes : ∀ rest, ends (stop :: rest)) :
    PrefixFree fun item => code item ++ [stop] := by
  intro left right rest other _ _ same
  rw [List.append_assoc, List.append_assoc] at same
  obtain ⟨items, rests⟩ := separable left (closes rest) (closes other) same
  exact ⟨items, (List.cons.inj rests).2⟩

/-- A sequence of words is ended by what no word begins. -/
theorem Separates.flatMap
    {left : List α} (each : ∀ item ∈ left, Separates ends code item)
    (starts : ∀ item later, ends (code item ++ later)) :
    Separates
      (fun rest => ends rest ∧ ∀ item later, code item ++ later ≠ rest)
      (fun items => items.flatMap code) left := by
  have follows (items : List α) {rest : List β} (rests : ends rest) :
      ends (items.flatMap code ++ rest) := by
    cases items with
    | nil => exact rests
    | cons item items =>
      rw [List.flatMap_cons, List.append_assoc]
      exact starts item _
  induction left with
  | nil =>
    intro right rest other restEnds _ same
    cases right with
    | nil => exact ⟨rfl, same⟩
    | cons item items =>
      simp only [List.flatMap_nil, List.nil_append, List.flatMap_cons, List.append_assoc] at same
      exact absurd same.symm (restEnds.2 item _)
  | cons first items hypothesis =>
    rw [List.forall_mem_cons] at each
    intro right rest other restEnds otherEnds same
    cases right with
    | nil =>
      simp only [List.flatMap_nil, List.nil_append, List.flatMap_cons, List.append_assoc] at same
      exact absurd same (otherEnds.2 first _)
    | cons item others =>
      simp only [List.flatMap_cons, List.append_assoc] at same
      obtain ⟨rfl, later⟩ := each.1 (follows items restEnds.1) (follows others otherEnds.1) same
      obtain ⟨rfl, rests⟩ := hypothesis each.2 restEnds otherEnds later
      exact ⟨rfl, rests⟩

theorem PrefixFree.flatMap (prefixFree : PrefixFree code) :
    Separable (fun rest => ∀ item later, code item ++ later ≠ rest)
      fun items : List α => items.flatMap code :=
  fun _ _ _ _ restEnds otherEnds =>
    Separates.flatMap (fun item _ => prefixFree item)
      (fun _ _ => trivial) ⟨trivial, restEnds⟩ ⟨trivial, otherEnds⟩

/-! ## Words with a symbol between them -/

/-- The items with commas between them. -/
def separated (comma : β) (code : α → List β) : List α → List β
  | [] => []
  | item :: rest => code item ++ rest.flatMap fun item => comma :: code item

/-- Another symbol closes such a sequence. -/
theorem Separates.separated
    {comma close : β} (apart : comma ≠ close) (commaEnds : ∀ rest, ends (comma :: rest))
    (closeEnds : ∀ rest, ends (close :: rest))
    (opens : ∀ item later rest, code item ++ later ≠ close :: rest)
    {left : List α} (each : ∀ item ∈ left, Separates ends code item) :
    Separates (fun _ => True) (fun items => separated comma code items ++ [close]) left := by
  have follows (items : List α) (rest : List β) :
      ends ((items.flatMap fun item => comma :: code item) ++ close :: rest) := by
    cases items with
    | nil => exact closeEnds rest
    | cons item items => exact commaEnds _
  have closes (rest : List β) :
      ends (close :: rest) ∧ ∀ item later, (comma :: code item) ++ later ≠ close :: rest :=
    ⟨closeEnds rest, fun _ _ same => apart (List.cons.inj same).1⟩
  intro right rest other _ _ same
  simp only [List.append_assoc, List.singleton_append] at same
  cases left with
  | nil =>
    cases right with
    | nil => exact ⟨rfl, (List.cons.inj same).2⟩
    | cons item items =>
      simp only [Foundation.separated, List.append_assoc] at same
      exact absurd same.symm (opens item _ _)
  | cons first items =>
    rw [List.forall_mem_cons] at each
    cases right with
    | nil =>
      simp only [Foundation.separated, List.append_assoc] at same
      exact absurd same (opens first _ _)
    | cons item others =>
      simp only [Foundation.separated, List.append_assoc] at same
      obtain ⟨rfl, later⟩ := each.1 (follows items rest) (follows others other) same
      have each' : ∀ item ∈ items, Separates ends (fun item => comma :: code item) item :=
        fun item listed right rest other restEnds otherEnds same =>
          each.2 item listed restEnds otherEnds (List.cons.inj same).2
      obtain ⟨rfl, rests⟩ :=
        Separates.flatMap each' (fun _ _ => commaEnds _) (closes rest) (closes other) later
      exact ⟨rfl, (List.cons.inj rests).2⟩

end Tinyray.Foundation
