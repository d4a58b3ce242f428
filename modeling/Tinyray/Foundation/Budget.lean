import Mathlib.Algebra.BigOperators.Group.List.Basic
import Mathlib.Algebra.Order.BigOperators.Group.List
import Mathlib.Algebra.Order.Sub.Basic
import Mathlib.Algebra.Order.Sub.Prod
import Mathlib.Algebra.Ring.Nat

/-!
# Budgets

A budget has a limit and knows how much of it is used.  An admission takes
something from several budgets, one after the other; when one of them refuses,
what was taken before is given back.  `Accurate` says that every budget is used
by what is held and by nothing else, and that no limit is exceeded.

How a budget decides is a parameter: a budget may refuse whenever it likes, as
long as it grants only what fits (`Grants`).
-/

namespace Tinyray.Foundation

variable {ι α : Type*} [DecidableEq ι]

/-- How much there is, and how much of it is taken. -/
@[ext]
structure Budget (α : Type*) where
  limit : α
  used : α

namespace Budget

/-- Take something. -/
def acquire [Add α] (budget : Budget α) (amount : α) : Budget α :=
  { budget with used := budget.used + amount }

/-- Give something back. -/
def release [Sub α] (budget : Budget α) (amount : α) : Budget α :=
  { budget with used := budget.used - amount }

end Budget

section

variable [AddMonoid α]

/-- What an admission takes from one level. -/
def demand (charges : List (ι × α))
    (level : ι) : α :=
  (charges.map fun charge => if charge.1 = level then charge.2 else 0).sum

@[simp]
theorem demand_nil (level : ι) : demand ([] : List (ι × α)) level = 0 :=
  rfl

@[simp]
theorem demand_cons (charge : ι × α) (rest : List (ι × α)) (level : ι) :
    demand (charge :: rest) level =
      (if charge.1 = level then charge.2 else 0) + demand rest level := by
  simp [demand]

end

/-- The order of the charges does not matter. -/
theorem demand_reverse [AddCommMonoid α]
    (charges : List (ι × α)) (level : ι) :
    demand charges.reverse level = demand charges level := by
  simp [demand, List.sum_reverse]

/-! ## Taking and giving back -/

section

variable [Sub α]

/--
Take the amounts one after the other.  The first part is the level that has
refused; what was taken before it is then given back, the last first.
-/
def acquireAll (tryAcquire : Budget α → α → Option (Budget α)) :
    (ι → Budget α) → List (ι × α) → Option ι × (ι → Budget α)
  | budgets, [] => (none, budgets)
  | budgets, (level, amount) :: rest =>
    match tryAcquire (budgets level) amount with
    | none => (some level, budgets)
    | some next =>
      let later := acquireAll tryAcquire (Function.update budgets level next) rest
      match later.1 with
      | none => later
      | some refused =>
        (some refused, Function.update later.2 level ((later.2 level).release amount))

/-- Give the amounts back one after the other. -/
def releaseAll : (ι → Budget α) → List (ι × α) → (ι → Budget α)
  | budgets, [] => budgets
  | budgets, (level, amount) :: rest =>
    releaseAll
      (Function.update budgets level ((budgets level).release amount))
      rest

theorem releaseAll_limit
    (budgets : ι → Budget α) (charges : List (ι × α)) (level : ι) :
    (releaseAll budgets charges level).limit = (budgets level).limit := by
  induction charges generalizing budgets with
  | nil => rfl
  | cons charge rest hypothesis =>
    rw [releaseAll, hypothesis]
    by_cases same : level = charge.1
    · subst same
      simp [Budget.release]
    · simp [same]

theorem releaseEach_limit
    (budgets : ι → Budget α) (gone : List (List (ι × α))) (level : ι) :
    (gone.foldl releaseAll budgets level).limit = (budgets level).limit := by
  induction gone generalizing budgets with
  | nil => rfl
  | cons charges rest hypothesis =>
    rw [List.foldl_cons, hypothesis, releaseAll_limit]

end

section

variable [AddCommMonoid α] [PartialOrder α]
  {tryAcquire : Budget α → α → Option (Budget α)}
  {budgets : ι → Budget α}

/-- Only what fits is granted, and it is counted. -/
structure Grants (tryAcquire : Budget α → α → Option (Budget α)) : Prop where
  counts :
    ∀ {budget next amount}, tryAcquire budget amount = some next → next = budget.acquire amount
  fits :
    ∀ {budget next amount}, tryAcquire budget amount = some next →
      budget.used ≤ budget.limit → budget.used + amount ≤ budget.limit

/-- Every budget is used by what is held, and no limit is exceeded. -/
structure Accurate (budgets : ι → Budget α) (held : List (List (ι × α))) : Prop where
  used : ∀ level, (budgets level).used = (held.map fun charges => demand charges level).sum
  within : ∀ level, (budgets level).used ≤ (budgets level).limit

theorem accurate_unused [CanonicallyOrderedAdd α] (limit : ι → α) :
    Accurate (fun level => { limit := limit level, used := 0 }) [] where
  used := fun _ => rfl
  within := fun _ => zero_le

variable {held : List (List (ι × α))} {charges : List (ι × α)}

theorem Accurate.perm
    {again : List (List (ι × α))} (accurate : Accurate budgets held)
    (permuted : held.Perm again) :
    Accurate budgets again where
  used := by
    intro level
    rw [accurate.used level]
    exact (permuted.map _).sum_eq
  within := accurate.within

variable [Sub α]

/-- What is granted is counted at every level, and fits. -/
theorem acquireAll_granted
    (grants : Grants tryAcquire)
    (granted : (acquireAll tryAcquire budgets charges).1 = none) (level : ι)
    (within : (budgets level).used ≤ (budgets level).limit) :
    ((acquireAll tryAcquire budgets charges).2 level).limit = (budgets level).limit ∧
      ((acquireAll tryAcquire budgets charges).2 level).used =
        (budgets level).used + demand charges level ∧
      (budgets level).used + demand charges level ≤ (budgets level).limit := by
  induction charges generalizing budgets with
  | nil => simpa [acquireAll] using within
  | cons charge rest hypothesis =>
    rcases charge with ⟨first, amount⟩
    simp only [acquireAll] at granted ⊢
    cases taken : tryAcquire (budgets first) amount with
    | none =>
      simp only [taken] at granted
      cases granted
    | some next =>
      simp only [taken] at granted ⊢
      cases later : (acquireAll tryAcquire (Function.update budgets first next) rest).1 with
      | some other =>
        simp only [later] at granted
        cases granted
      | none =>
        have fits := grants.fits taken
        cases grants.counts taken
        by_cases same : first = level
        · subst same
          have counted := hypothesis later (by simpa [Budget.acquire] using fits within)
          simpa [Budget.acquire, add_assoc] using counted
        · have other : level ≠ first := fun equal => same equal.symm
          have counted := hypothesis later (by simpa [other] using within)
          simpa [same, other] using counted

/-- Taking keeps the books right. -/
theorem Accurate.acquireAll
    (accurate : Accurate budgets held) (grants : Grants tryAcquire)
    (granted : (acquireAll tryAcquire budgets charges).1 = none) :
    Accurate (Foundation.acquireAll tryAcquire budgets charges).2 (charges :: held) where
  used := by
    intro level
    have counted := acquireAll_granted grants granted level (accurate.within level)
    rw [counted.2.1, accurate.used level, List.map_cons, List.sum_cons, add_comm]
  within := by
    intro level
    have counted := acquireAll_granted grants granted level (accurate.within level)
    rw [counted.1, counted.2.1]
    exact counted.2.2

variable [OrderedSub α]

/-- What is given back, by level. -/
theorem releaseAll_used
    (budgets : ι → Budget α) (charges : List (ι × α)) (level : ι) :
    (releaseAll budgets charges level).used = (budgets level).used - demand charges level := by
  induction charges generalizing budgets with
  | nil => simp [releaseAll]
  | cons charge rest hypothesis =>
    rw [releaseAll, hypothesis, demand_cons]
    by_cases same : charge.1 = level
    · subst same
      simp [Budget.release, tsub_add_eq_tsub_tsub]
    · have other : level ≠ charge.1 := fun equal => same equal.symm
      simp [same, other]

section

variable [IsOrderedCancelAddMonoid α]
  {charges : List (ι × α)} {held : List (List (ι × α))}

/-- A refusal leaves everything as it was. -/
theorem acquireAll_refused
    (grants : Grants tryAcquire) {level : ι}
    (refused : (acquireAll tryAcquire budgets charges).1 = some level) :
    (acquireAll tryAcquire budgets charges).2 = budgets := by
  induction charges generalizing budgets level with
  | nil => rfl
  | cons charge rest hypothesis =>
    rcases charge with ⟨first, amount⟩
    simp only [acquireAll] at refused ⊢
    cases granted : tryAcquire (budgets first) amount with
    | none => rfl
    | some next =>
      simp only [granted] at refused ⊢
      cases later : (acquireAll tryAcquire (Function.update budgets first next) rest).1 with
      | none =>
        simp only [later] at refused
        cases refused
      | some other =>
        have restored := hypothesis later
        have taken := grants.counts granted
        -- what the later ones have left is the budget after taking
        simp only [restored, Function.update_self, Function.update_idem]
        rw [taken]
        have back : ((budgets first).acquire amount).release amount = budgets first := by
          simp [Budget.acquire, Budget.release]
        rw [back, Function.update_eq_self]

/-- What is given back at once leaves everything as it was. -/
theorem releaseAll_acquireAll
    (grants : Grants tryAcquire) (granted : (acquireAll tryAcquire budgets charges).1 = none)
    (within : ∀ level, (budgets level).used ≤ (budgets level).limit) :
    releaseAll (acquireAll tryAcquire budgets charges).2 charges.reverse = budgets := by
  funext level
  have counted := acquireAll_granted grants granted level (within level)
  have limit := releaseAll_limit (acquireAll tryAcquire budgets charges).2 charges.reverse level
  have used := releaseAll_used (acquireAll tryAcquire budgets charges).2 charges.reverse level
  rw [counted.1] at limit
  rw [counted.2.1, demand_reverse, add_tsub_cancel_right] at used
  exact Budget.ext limit used

theorem Accurate.releaseAll [CanonicallyOrderedAdd α]
    (accurate : Accurate budgets (charges :: held)) :
    Accurate (releaseAll budgets charges) held where
  used := by
    intro level
    rw [releaseAll_used, accurate.used level, List.map_cons, List.sum_cons, add_tsub_cancel_left]
  within := by
    intro level
    rw [releaseAll_used, releaseAll_limit]
    exact tsub_le_self.trans (accurate.within level)

theorem Accurate.releaseEach [CanonicallyOrderedAdd α]
    {gone : List (List (ι × α))} (accurate : Accurate budgets (gone ++ held)) :
    Accurate (gone.foldl Foundation.releaseAll budgets) held := by
  induction gone generalizing budgets with
  | nil => exact accurate
  | cons charges rest hypothesis =>
    exact hypothesis (Accurate.releaseAll accurate)

end

end

end Tinyray.Foundation
