import Mathlib.Data.List.Perm.Basic
import Mathlib.Data.List.Perm.Subperm

/-!
# Searching a tree with a stack

What is still to be looked at lies on a stack.  Every round takes the node on
top and, unless the search stops there, puts its children on the stack, the
last of them on top.

`nodes` lists a tree by plain recursion, as `unfolds` says.  The search needs
no more rounds than there are nodes, looks at none of them twice, and comes to
its end without stopping exactly if it would stop at none of them.
-/

namespace Tinyray.Foundation

variable {α β : Type*}

section

variable (children : α → List α) (stops : α → Bool)

/--
Whether the search came to its end without stopping, and the nodes it took
from the stack; nothing if it still goes on after so many rounds.
-/
def search : Nat → List α → Option (Bool × List α)
  | _, [] => some (true, [])
  | 0, _ :: _ => none
  | rounds + 1, top :: rest =>
    if stops top then some (false, [top])
    else (search rounds ((children top).reverse ++ rest)).map fun found => (found.1, top :: found.2)

end

variable {children nodes : α → List α}

/-- A round takes one node off what is still to be looked at. -/
theorem flatMap_nodes_perm
    (unfolds : ∀ node, nodes node = node :: (children node).flatMap nodes)
    (top : α) (rest : List α) :
    ((top :: rest).flatMap nodes).Perm (top :: ((children top).reverse ++ rest).flatMap nodes) := by
  have turned : ((children top).reverse.flatMap nodes).Perm ((children top).flatMap nodes) :=
    (List.reverse_perm _).flatMap_right nodes
  rw [List.flatMap_cons, unfolds top, List.flatMap_append]
  exact (turned.symm.append_right _).cons top

/-- What the search finds, given enough rounds. -/
theorem search_spec
    (unfolds : ∀ node, nodes node = node :: (children node).flatMap nodes)
    (stops : α → Bool) {rounds : Nat} {stack : List α}
    (enough : (stack.flatMap nodes).length ≤ rounds) :
    ∃ visited,
      search children stops rounds stack =
          some ((stack.flatMap nodes).all fun node => !stops node, visited) ∧
        visited.Subperm (stack.flatMap nodes) := by
  -- the nodes below the stack become fewer with every round
  induction rounds generalizing stack with
  | zero =>
    cases stack with
    | nil => exact ⟨[], rfl, List.nil_subperm⟩
    | cons top rest => simp [unfolds top] at enough
  | succ rounds hypothesis =>
    cases stack with
    | nil => exact ⟨[], rfl, List.nil_subperm⟩
    | cons top rest =>
      have taken := flatMap_nodes_perm unfolds top rest
      rw [taken.length_eq, List.length_cons] at enough
      rw [taken.all_eq, List.all_cons, search]
      by_cases stopped : stops top
      · refine ⟨[top], by simp [stopped], ?_⟩
        refine List.Subperm.trans ?_ taken.symm.subperm
        exact (List.subperm_cons top).2 List.nil_subperm
      · obtain ⟨visited, found, among⟩ := hypothesis (Nat.le_of_succ_le_succ enough)
        refine ⟨top :: visited, by simp [stopped, found], ?_⟩
        refine List.Subperm.trans ?_ taken.symm.subperm
        exact (List.subperm_cons top).2 among

/-- What was chosen among images has sources that were chosen. -/
theorem exists_sources_of_subperm
    {image : α → β} {sources : List α} {chosen : List β}
    (among : chosen.Subperm (sources.map image)) :
    ∃ picked : List α, picked.Subperm sources ∧ chosen = picked.map image := by
  rcases among with ⟨listed, perm, sublist⟩
  rcases List.sublist_map_iff.1 sublist with ⟨kept, keptSublist, rfl⟩
  have composed : Relation.Comp (· = List.map image ·) List.Perm chosen kept := by
    rw [List.eq_map_comp_perm]
    exact perm.symm
  rcases composed with ⟨picked, same, pickedPerm⟩
  exact ⟨picked, ⟨kept, pickedPerm.symm, keptSublist⟩, same⟩

end Tinyray.Foundation
