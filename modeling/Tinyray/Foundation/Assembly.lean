import Mathlib.Data.List.Basic

/-!
# Mappings built entry by entry

A mapping is the list of its entries in the order in which their keys came up.
An entry whose key is the same as an earlier one replaces the value and leaves
the key.  What counts as the same key is up to a test.
-/

namespace Tinyray.Foundation

universe u v w x

variable {α : Type u} {β : Type v} {α' : Type w} {β' : Type x}

section

variable (same : α → α → Bool)

/-- The mapping with a value set. -/
def upsert (key : α) (value : β) : List (α × β) → List (α × β)
  | [] => [(key, value)]
  | (other, old) :: rest =>
    if same other key then (other, value) :: rest
    else (other, old) :: upsert key value rest

/-- Enter the entries one after the other. -/
def assemble (entries : List (α × β)) : List (α × β) :=
  entries.foldl (fun built entry => upsert same entry.1 entry.2 built) []

/-- The same for a set: of items that are the same, the first stays. -/
def gather (items : List α) : List α :=
  (assemble same (items.map fun item => (item, ()))).map Prod.fst

/-- No two keys are the same. -/
def Distinct (entries : List (α × β)) : Prop :=
  entries.Pairwise fun earlier later => same earlier.1 later.1 = false

end

variable {same : α → α → Bool} {same' : α' → α' → Bool}
  {entries built : List (α × β)} {key : α}

theorem Distinct.map_values
    (distinct : Distinct same entries) (value : β → β') :
    Distinct same (entries.map (Prod.map id value)) := by
  unfold Distinct
  rw [List.pairwise_map]
  exact distinct

theorem upsert_of_fresh
    (fresh : ∀ entry ∈ built, same entry.1 key = false) (value : β) :
    upsert same key value built = built ++ [(key, value)] := by
  induction built with
  | nil => rfl
  | cons entry rest hypothesis =>
    rw [upsert, fresh entry List.mem_cons_self,
      hypothesis fun other listed => fresh other (List.mem_cons_of_mem _ listed)]
    rfl

/-- Entries with distinct keys are all there. -/
theorem assemble_of_distinct (distinct : Distinct same entries) :
    assemble same entries = entries := by
  have onto :
      ∀ (built entries : List (α × β)), Distinct same (built ++ entries) →
        entries.foldl (fun built entry => upsert same entry.1 entry.2 built) built =
          built ++ entries := by
    intro built entries distinct
    induction entries generalizing built with
    | nil => exact (List.append_nil built).symm
    | cons entry rest hypothesis =>
      have fresh : ∀ other ∈ built, same other.1 entry.1 = false :=
        fun other listed =>
          (List.pairwise_append.1 distinct).2.2 other listed entry List.mem_cons_self
      rw [List.foldl_cons, upsert_of_fresh fresh, hypothesis]
      · rw [List.append_assoc, List.singleton_append]
      · rw [List.append_assoc, List.singleton_append]
        exact distinct
  exact onto [] entries distinct

theorem gather_of_distinct
    {items : List α}
    (distinct : items.Pairwise fun earlier later => same earlier later = false) :
    gather same items = items := by
  have entries : Distinct same (items.map fun item => (item, ())) := by
    unfold Distinct
    rw [List.pairwise_map]
    exact distinct
  rw [gather, assemble_of_distinct entries, List.map_map]
  exact List.map_id items

/-- `upsert` brings one key at most. -/
theorem mem_upsert
    {value : β} {entry : α × β} (member : entry ∈ upsert same key value built) :
    entry.1 = key ∨ ∃ other ∈ built, entry.1 = other.1 := by
  induction built with
  | nil =>
    rw [upsert, List.mem_singleton] at member
    exact .inl (congrArg Prod.fst member)
  | cons first rest hypothesis =>
    rw [upsert] at member
    split_ifs at member with found
    · rcases List.mem_cons.1 member with rfl | later
      · exact .inr ⟨first, List.mem_cons_self, rfl⟩
      · exact .inr ⟨entry, List.mem_cons_of_mem _ later, rfl⟩
    · rcases List.mem_cons.1 member with rfl | later
      · exact .inr ⟨first, List.mem_cons_self, rfl⟩
      · rcases hypothesis later with new | ⟨other, listed, same⟩
        · exact .inl new
        · exact .inr ⟨other, List.mem_cons_of_mem _ listed, same⟩

/-- `upsert` keeps keys distinct. -/
theorem upsert_distinct
    (distinct : Distinct same built) (key : α) (value : β) :
    Distinct same (upsert same key value built) := by
  induction built with
  | nil => exact List.pairwise_singleton _ _
  | cons first rest hypothesis =>
    rcases List.pairwise_cons.1 distinct with ⟨before, later⟩
    rw [upsert]
    split_ifs with found
    · exact List.pairwise_cons.2 ⟨before, later⟩
    · refine List.pairwise_cons.2 ⟨?_, hypothesis later⟩
      intro entry member
      rcases mem_upsert member with rfl | ⟨other, listed, equal⟩
      · exact Bool.eq_false_iff.2 found
      · rw [equal]
        exact before other listed

/-- Assembled keys are distinct. -/
theorem assemble_distinct (entries : List (α × β)) : Distinct same (assemble same entries) := by
  have kept :
      ∀ (built entries : List (α × β)), Distinct same built →
        Distinct same
          (entries.foldl
            (fun built entry => upsert same entry.1 entry.2 built)
            built) := by
    intro built entries distinct
    induction entries generalizing built with
    | nil => exact distinct
    | cons entry rest hypothesis =>
      exact hypothesis _ (upsert_distinct distinct entry.1 entry.2)
  exact kept [] entries List.Pairwise.nil

theorem assemble_assemble (entries : List (α × β)) :
    assemble same (assemble same entries) = assemble same entries :=
  assemble_of_distinct (assemble_distinct entries)

section

variable {key : α → α'} {value : β → β'}

/-- `upsert` commutes with a renaming. -/
theorem upsert_map
    {new : α} {built : List (α × β)}
    (respects : ∀ entry ∈ built, same' (key entry.1) (key new) = same entry.1 new)
    (brought : β) :
    upsert same' (key new) (value brought) (built.map (Prod.map key value)) =
      (upsert same new brought built).map (Prod.map key value) := by
  induction built with
  | nil => rfl
  | cons first rest hypothesis =>
    have here := respects first List.mem_cons_self
    have later := hypothesis fun entry listed => respects entry (List.mem_cons_of_mem _ listed)
    rw [List.map_cons, upsert]
    simp only [Prod.map_fst, Prod.map_snd]
    rw [upsert, here]
    split_ifs with found
    · rfl
    · rw [List.map_cons, ← later]
      rfl

/-- Renaming keys and values, where keys stay the same or different. -/
theorem assemble_map
    {entries : List (α × β)}
    (respects :
      ∀ first ∈ entries, ∀ second ∈ entries,
        same' (key first.1) (key second.1) = same first.1 second.1) :
    assemble same' (entries.map (Prod.map key value)) =
      (assemble same entries).map (Prod.map key value) := by
  have onto :
      ∀ built later : List (α × β), (∀ entry ∈ built, ∃ other ∈ entries, entry.1 = other.1) →
        (∀ entry ∈ later, entry ∈ entries) →
        (later.map (Prod.map key value)).foldl
            (fun built entry => upsert same' entry.1 entry.2 built)
            (built.map (Prod.map key value)) =
          (later.foldl
            (fun built entry => upsert same entry.1 entry.2 built)
            built).map (Prod.map key value) := by
    intro built later known listed
    induction later generalizing built with
    | nil => rfl
    | cons entry rest hypothesis =>
      have here := listed entry List.mem_cons_self
      have step :
          upsert same' (key entry.1) (value entry.2) (built.map (Prod.map key value)) =
            (upsert same entry.1 entry.2 built).map (Prod.map key value) := by
        refine upsert_map ?_ entry.2
        intro other member
        rcases known other member with ⟨origin, origins, equal⟩
        rw [equal]
        exact respects origin origins entry here
      rw [List.map_cons, List.foldl_cons, List.foldl_cons]
      simp only [Prod.map_fst, Prod.map_snd]
      rw [step]
      refine hypothesis _ ?_ ?_
      · intro other member
        rcases mem_upsert member with equal | ⟨origin, origins, equal⟩
        · exact ⟨entry, here, equal⟩
        · rw [equal]
          exact known origin origins
      · exact fun other member => listed other (List.mem_cons_of_mem _ member)
  refine onto [] entries ?_ fun _ member => member
  intro entry member
  cases member

end

end Tinyray.Foundation
