import Mathlib.Data.List.Basic

/-!
# Runs of partial step functions

A machine is a step function that may refuse an event in some state.
`execute` runs a list of events, `obeys` says that every step of a run met a
condition, and `execute_invariant` is the induction rule: what holds at the
start and survives every step that meets the condition holds at the end.
`execute_countP_le` bounds how often events are seen that lower a measure.
-/

namespace Tinyray.Foundation

universe u

variable {σ : Type*} {ε : Type*} (step : σ → ε → Option σ)

/-- A step in several parts succeeds if all of them do. -/
theorem bind_some_iff {α β : Type u} {option : Option α}
    {next : α → Option β} {result : β} :
    option >>= next = some result ↔ ∃ value, option = some value ∧ next value = some result := by
  rw [Option.bind_eq_bind, Option.bind_eq_some_iff]

/-- Run a list of events, if none of them is refused. -/
def execute : σ → List ε → Option σ
  | state, [] => some state
  | state, event :: rest =>
    match step state event with
    | none => none
    | some next => execute next rest

/-- Every step of a run meets a condition. -/
def obeys (condition : σ → ε → Bool) : σ → List ε → Bool
  | _, [] => true
  | state, event :: rest =>
    condition state event && match step state event with
      | none => true
      | some next => obeys condition next rest

variable {step}
  {state final : σ} {events : List ε} {condition : σ → ε → Bool}
  {property : σ → Prop}
  {event : ε} {rest more : List ε}

/-- The first step of a run. -/
theorem execute_cons
    (ran : execute step state (event :: rest) = some final) :
    ∃ next, step state event = some next ∧ execute step next rest = some final := by
  rw [execute] at ran
  cases stepped : step state event with
  | none =>
    rw [stepped] at ran
    cases ran
  | some next =>
    rw [stepped] at ran
    exact ⟨next, rfl, ran⟩

/-- Two runs in a row are a run. -/
theorem execute_append
    {middle : σ} (ran : execute step state events = some middle)
    (continued : execute step middle more = some final) :
    execute step state (events ++ more) = some final := by
  induction events generalizing state with
  | nil =>
    cases ran
    exact continued
  | cons event rest hypothesis =>
    rcases execute_cons ran with ⟨next, stepped, ran⟩
    simp only [List.cons_append, execute, stepped]
    exact hypothesis ran

/-- A run can be cut anywhere. -/
theorem execute_split
    (ran : execute step state (events ++ more) = some final) :
    ∃ middle, execute step state events = some middle ∧ execute step middle more = some final := by
  induction events generalizing state with
  | nil => exact ⟨state, rfl, ran⟩
  | cons event rest hypothesis =>
    rcases execute_cons ran with ⟨next, stepped, ran⟩
    rcases hypothesis ran with ⟨middle, reached, continued⟩
    refine ⟨middle, ?_, continued⟩
    simp only [execute, stepped]
    exact reached

theorem obeys_cons
    {next : σ} (obeyed : obeys step condition state (event :: rest))
    (stepped : step state event = some next) :
    condition state event = true ∧ obeys step condition next rest := by
  simp only [obeys, stepped, Bool.and_eq_true] at obeyed
  exact obeyed

/-- Rules can be joined. -/
theorem obeys_and
    {first second : σ → ε → Bool} (obeyedFirst : obeys step first state events)
    (obeyedSecond : obeys step second state events) :
    obeys step (fun state event => first state event && second state event) state events := by
  induction events generalizing state with
  | nil => rfl
  | cons event rest hypothesis =>
    simp only [obeys, Bool.and_eq_true] at obeyedFirst obeyedSecond ⊢
    refine ⟨⟨obeyedFirst.1, obeyedSecond.1⟩, ?_⟩
    cases stepped : step state event with
    | none => rfl
    | some next =>
      simp only [stepped] at obeyedFirst obeyedSecond
      exact hypothesis obeyedFirst.2 obeyedSecond.2

/-- Induction over the steps of a run. -/
theorem execute_invariant
    (preserved :
      ∀ {state next : σ} {event : ε},
        step state event = some next → condition state event = true →
          property state → property next)
    (ran : execute step state events = some final)
    (obeyed : obeys step condition state events)
    (start : property state) :
    property final := by
  induction events generalizing state with
  | nil =>
    cases ran
    exact start
  | cons event rest hypothesis =>
    rcases execute_cons ran with ⟨next, stepped, ran⟩
    rcases obeys_cons obeyed stepped with ⟨met, obeyed⟩
    exact hypothesis ran obeyed (preserved stepped met start)

/-- What survives every step needs no condition. -/
theorem execute_preserves
    (preserved :
      ∀ {state next : σ} {event : ε}, step state event = some next → property state → property next)
    (ran : execute step state events = some final)
    (start : property state) :
    property final := by
  induction events generalizing state with
  | nil =>
    cases ran
    exact start
  | cons event rest hypothesis =>
    rcases execute_cons ran with ⟨next, stepped, ran⟩
    exact hypothesis ran (preserved stepped start)

/-- A run is matched by another machine if each of its steps is. -/
theorem execute_simulation
    {τ φ : Type*} {other : τ → φ → Option τ} {related : σ → τ → Prop}
    (matched :
      ∀ {state next : σ} {event : ε} {image : τ},
        step state event = some next → related state image →
          ∃ answers reached, execute other image answers = some reached ∧ related next reached)
    {image : τ}
    (ran : execute step state events = some final)
    (start : related state image) :
    ∃ answers reached, execute other image answers = some reached ∧ related final reached := by
  induction events generalizing state image with
  | nil =>
    cases ran
    exact ⟨[], image, rfl, start⟩
  | cons event rest hypothesis =>
    rcases execute_cons ran with ⟨next, stepped, ran⟩
    rcases matched stepped start with ⟨answers, middle, first, start⟩
    rcases hypothesis ran start with ⟨more, reached, second, related⟩
    exact ⟨answers ++ more, reached, execute_append first second, related⟩

/-- Events that lower a measure which no other step raises. -/
theorem execute_countP_le
    {counted : ε → Bool} {measure : σ → Nat}
    (preserved :
      ∀ {state next : σ} {event : ε},
        step state event = some next → condition state event = true →
          property state → property next)
    (lowered :
      ∀ {state next : σ} {event : ε},
        step state event = some next → condition state event = true →
          property state → measure next + (counted event).toNat ≤ measure state)
    (ran : execute step state events = some final)
    (obeyed : obeys step condition state events)
    (start : property state) :
    events.countP counted + measure final ≤ measure state := by
  induction events generalizing state with
  | nil =>
    cases ran
    simp
  | cons event rest hypothesis =>
    rcases execute_cons ran with ⟨next, stepped, ran⟩
    rcases obeys_cons obeyed stepped with ⟨met, obeyed⟩
    have later := hypothesis ran obeyed (preserved stepped met start)
    have now := lowered stepped met start
    rw [List.countP_cons]
    cases counts : counted event with
    | false =>
      rw [counts] at now
      simp only [Bool.toNat_false, Bool.false_eq_true, if_false] at now ⊢
      omega
    | true =>
      rw [counts] at now
      simp only [Bool.toNat_true, if_true] at now ⊢
      omega

end Tinyray.Foundation
