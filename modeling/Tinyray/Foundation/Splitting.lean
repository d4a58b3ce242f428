import Mathlib.Data.List.TakeWhile

/-!
# Splitting at a separator

A text can be cut at the first or at the last place where a separator stands.
Writing two parts with the separator between them and cutting gives the parts
back as long as the separator does not stand in the part the cut comes from.
-/

namespace Tinyray.Foundation

variable {α : Type*} [DecidableEq α]

/-- What stands before the first separator, and what comes after it. -/
def partition (separator : α) (text : List α) : List α × List α :=
  (text.takeWhile (· ≠ separator), (text.dropWhile (· ≠ separator)).drop 1)

/-- Cut at the last separator, if there is one. -/
def rsplitOnce (separator : α) (text : List α) : Option (List α × List α) :=
  if separator ∈ text then
    let cut := partition separator text.reverse
    some (cut.2.reverse, cut.1.reverse)
  else none

theorem not_mem_partition (separator : α) (text : List α) :
    separator ∉ (partition separator text).1 := by
  intro member
  simpa using List.mem_takeWhile_imp member

/-- A text is split at its separator. -/
theorem partition_append
    {separator : α} {before : List α} (absent : separator ∉ before) (after : List α) :
    partition separator (before ++ separator :: after) = (before, after) := by
  have others : ∀ symbol ∈ before, decide (symbol ≠ separator) = true := by
    rintro symbol member
    rw [decide_eq_true_iff]
    rintro rfl
    exact absent member
  unfold partition
  rw [List.takeWhile_append_of_pos others, List.dropWhile_append_of_pos others]
  simp

theorem rsplitOnce_append
    {separator : α} {after : List α} (absent : separator ∉ after) (before : List α) :
    rsplitOnce separator (before ++ separator :: after) = some (before, after) := by
  have reversed :
      (before ++ separator :: after).reverse = after.reverse ++ separator :: before.reverse := by
    simp
  unfold rsplitOnce
  rw [if_pos (by simp), reversed, partition_append (by simpa using absent)]
  simp

end Tinyray.Foundation
