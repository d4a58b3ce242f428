import Mathlib.Data.List.Basic

/-!
# Loops that stop at the first failure

A loop takes its items one after another.  Each item is checked before
anything is done for it, and the first failure, of a check or of what is
done, ends the loop.
-/

namespace Tinyray.Foundation

universe u v w

section

variable {Item : Type u} {Failure : Type v} {Result : Type w}

/-- What a loop has done so far. -/
structure Progress (Result : Type w) where
  /-- The results of the items that succeeded, in order. -/
  results : List Result := []
  /-- The positions for which something was done, in order. -/
  invoked : List Nat := []

variable (check : Nat → Item → Except Failure Unit)
variable (invoke : Nat → Item → Except Failure Result)

/-- What comes of one item. -/
def attempt (index : Nat) (item : Item) : Except Failure Result :=
  match check index item with
  | .error failure => .error failure
  | .ok () => invoke index item

/-- The position and the failure that ended the loop come with it. -/
def sequentially (index : Nat) (progress : Progress Result) :
    List Item → Progress Result × Option (Nat × Failure)
  | [] => (progress, none)
  | item :: rest =>
    match check index item with
    | .error failure => (progress, some (index, failure))
    | .ok () =>
      let reached :=
        { progress with invoked := progress.invoked ++ [index] }
      match invoke index item with
      | .error failure => (reached, some (index, failure))
      | .ok result =>
        sequentially (index + 1)
          { reached with results := progress.results ++ [result] }
          rest

/-- The items up to the remaining ones succeed with these results. -/
inductive Completes (step : Nat → Item → Except Failure Result) :
    Nat → List Item → List Result → List Item → Prop
  | start (index : Nat) (items : List Item) : Completes step index items [] items
  | next {index : Nat} {item : Item} {items remaining : List Item}
      {result : Result} {results : List Result}
      (succeeded : step index item = .ok result)
      (later : Completes step (index + 1) items results remaining) :
      Completes step index (item :: items) (result :: results) remaining

variable {index : Nat} {items remaining : List Item} {results : List Result}

theorem Completes.length_eq {step : Nat → Item → Except Failure Result}
    (completes : Completes step index items results remaining) :
    items.length = results.length + remaining.length := by
  induction completes with
  | start => simp
  | next _ _ hypothesis =>
    simp only [List.length_cons, hypothesis]
    omega

theorem attempt_eq_ok_iff {item : Item} {result : Result} :
    attempt check invoke index item = .ok result ↔
      check index item = .ok () ∧ invoke index item = .ok result := by
  unfold attempt
  cases checked : check index item <;> simp

/-- The items that succeed are taken one after another. -/
theorem sequentially_of_completes
    (completes : Completes (attempt check invoke) index items results remaining)
    (progress : Progress Result) :
    sequentially check invoke index progress items =
      sequentially check invoke (index + results.length)
        { results := progress.results ++ results
          invoked := progress.invoked ++ List.range' index results.length }
        remaining := by
  induction completes generalizing progress with
  | start => simp
  | next succeeded later hypothesis =>
    obtain ⟨checked, invoked⟩ := (attempt_eq_ok_iff check invoke).mp succeeded
    rw [sequentially]
    simp only [checked, invoked]
    rw [hypothesis]
    simp [List.range'_succ, Nat.add_comm, Nat.add_left_comm]

/-- Every item succeeds, or there is a first one that does not. -/
theorem completes_or_fails (step : Nat → Item → Except Failure Result)
    (index : Nat) (items : List Item) :
    (∃ results, Completes step index items results []) ∨
      ∃ results item remaining failure, Completes step index items results (item :: remaining) ∧
        step (index + results.length) item = .error failure := by
  induction items generalizing index with
  | nil => exact .inl ⟨[], .start index []⟩
  | cons item items hypothesis =>
    cases outcome : step index item with
    | error failure =>
      exact .inr ⟨[], item, items, failure, .start index _, by simpa using outcome⟩
    | ok result =>
      rcases hypothesis (index + 1) with
        ⟨results, completes⟩ |
        ⟨results, failed, remaining, failure, completes, fails⟩
      · exact .inl ⟨_, .next outcome completes⟩
      · refine .inr ⟨_, failed, remaining, failure, .next outcome completes, ?_⟩
        rwa [List.length_cons, ← Nat.add_assoc, Nat.add_right_comm]

/-- The positions before this one, perhaps with this one. -/
def Reaches (invoked : List Nat) (index : Nat) : Prop :=
  invoked = List.range index ∨ invoked = List.range (index + 1)

/-- The loop ends with the results up to the first failure. -/
theorem sequentially_of_fails {item : Item}
    {failure : Failure}
    (completes : Completes (attempt check invoke) 0 items results (item :: remaining))
    (fails : attempt check invoke results.length item = .error failure) :
    ∃ invoked,
      sequentially check invoke 0 {} items = (⟨results, invoked⟩, some (results.length, failure)) ∧
        Reaches invoked results.length := by
  rw [sequentially_of_completes check invoke completes]
  rw [attempt] at fails
  simp only [Nat.zero_add, List.nil_append, sequentially, ← List.range_eq_range']
  cases checked : check results.length item with
  | error refused =>
    rw [checked] at fails
    cases fails
    exact ⟨_, rfl, .inl rfl⟩
  | ok =>
    rw [checked] at fails
    simp only at fails
    simp only [fails]
    exact ⟨_, rfl, .inr List.range_succ.symm⟩

theorem sequentially_of_all
    (completes : Completes (attempt check invoke) 0 items results []) :
    sequentially check invoke 0 {} items = (⟨results, List.range results.length⟩, none) := by
  rw [sequentially_of_completes check invoke completes]
  simp [sequentially, List.range_eq_range']

end

end Tinyray.Foundation
