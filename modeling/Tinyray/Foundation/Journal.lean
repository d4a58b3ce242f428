import Mathlib.Data.List.Basic
import Mathlib.Data.List.Range

/-!
# Bounded change journals

A store numbers its changes and remembers, for the last few of them, which
key each one touched.  A reader who knows the store as it was at some number
can be brought up to date by sending the current value of every key touched
since, as long as the journal still reaches back to that number.

The journal is a list of pairs of a number and a key, oldest first.
`Contiguous` says that it holds exactly the last `min version cap` changes,
`Recalls` what a snapshot taken earlier still shares with the present, and
`patched_eq_of_recalls` is the correctness of the replay.
-/

namespace Tinyray.Foundation

variable {κ : Type*} {ν : Type*} {α : Type*}

/-! ## Dropping the oldest entries -/

/-- Pop entries from the front while more than `cap` of them are left. -/
def trimFront (cap : Nat) : List α → List α
  | [] => []
  | entry :: rest =>
    if (entry :: rest).length > cap then trimFront cap rest
    else entry :: rest

/-- Only the last entries are left. -/
theorem trimFront_eq_drop (cap : Nat) (entries : List α) :
    trimFront cap entries = entries.drop (entries.length - cap) := by
  induction entries with
  | nil => simp [trimFront]
  | cons entry rest hypothesis =>
    rw [trimFront]
    split_ifs with tooLong
    · rw [hypothesis]
      have count : (entry :: rest).length - cap = (rest.length - cap) + 1 := by
        simp only [List.length_cons] at tooLong ⊢
        omega
      rw [count, List.drop_succ_cons]
    · have count : (entry :: rest).length - cap = 0 := by omega
      rw [count, List.drop_zero]

/-! ## Journals without gaps -/

/-- The number of the oldest change still in the journal, `0` for none. -/
def oldest (log : List (Nat × κ)) : Nat := (log.head?.map Prod.fst).getD 0

/--
The journal holds the last `min version cap` changes, one entry for each
number, in ascending order and ending at `version`.
-/
def Contiguous (cap version : Nat) (log : List (Nat × κ)) : Prop :=
  log.map Prod.fst = List.range' (version + 1 - min version cap) (min version cap)

/-- Record one more change and forget what no longer fits. -/
def push (cap version : Nat) (key : κ) (log : List (Nat × κ)) : List (Nat × κ) :=
  trimFront cap (log ++ [(version + 1, key)])

namespace Contiguous

variable {cap version : Nat} {log : List (Nat × κ)}

theorem empty (cap : Nat) : Contiguous cap 0 ([] : List (Nat × κ)) := by
  simp [Contiguous]

theorem length_eq (contiguous : Contiguous cap version log) : log.length = min version cap := by
  have lengths := congrArg List.length contiguous
  simpa using lengths

theorem le_version
    (contiguous : Contiguous cap version log) {entry : Nat × κ} (member : entry ∈ log) :
    entry.1 ≤ version := by
  have numbered : entry.1 ∈ log.map Prod.fst := List.mem_map_of_mem member
  rw [contiguous, List.mem_range'_1] at numbered
  omega

/-- The oldest version in the log. -/
theorem oldest_eq
    (contiguous : Contiguous cap version log) (positive : 0 < min version cap) :
    oldest log = version + 1 - min version cap := by
  cases log with
  | nil =>
    have count := contiguous.length_eq
    simp only [List.length_nil] at count
    omega
  | cons entry rest =>
    have heads := congrArg List.head? contiguous
    obtain ⟨count, countEq⟩ : ∃ count, min version cap = count + 1 :=
      ⟨min version cap - 1, by omega⟩
    rw [countEq] at heads ⊢
    simp only [List.map_cons, List.head?_cons, List.range'_succ, Option.some.injEq] at heads
    simp [oldest, heads]

/-- The oldest version is not ahead. -/
theorem oldest_le
    (contiguous : Contiguous cap version log) :
    oldest log ≤ version + 1 := by
  by_cases positive : 0 < min version cap
  · rw [contiguous.oldest_eq positive]
    omega
  · have count := contiguous.length_eq
    have empty : log = [] := by
      apply List.eq_nil_of_length_eq_zero
      omega
    simp [empty, oldest]

/-- The numbers before the oldest entry is dropped. -/
private theorem numbers_append
    (contiguous : Contiguous cap version log) (key : κ) :
    (log ++ [(version + 1, key)]).map Prod.fst =
      List.range' (version + 1 - min version cap) (min version cap + 1) := by
  rw [List.map_append, contiguous, List.range'_concat]
  simp only [List.map_cons, List.map_nil, Nat.one_mul,
    List.append_cancel_left_eq, List.cons.injEq, and_true]
  omega

/-- Recording a change keeps the journal free of gaps. -/
theorem push
    (contiguous : Contiguous cap version log) (key : κ) :
    Contiguous cap (version + 1) (push cap version key log) := by
  have count : (log ++ [(version + 1, key)]).length = min version cap + 1 := by
    simp [contiguous.length_eq]
  rw [Contiguous, Foundation.push, trimFront_eq_drop, List.map_drop,
    contiguous.numbers_append key, count, List.drop_range']
  congr 1 <;> omega

/-- Skipping by position and selecting by number agree on numbered lists. -/
private theorem drop_eq_filter_of_numbered
    (cursor : Nat) (entries : List (Nat × κ)) (start : Nat)
    (numbered : entries.map Prod.fst = List.range' start entries.length) :
    entries.drop (cursor + 1 - start) = entries.filter (fun entry => cursor < entry.1) := by
  induction entries generalizing start with
  | nil => simp
  | cons entry rest hypothesis =>
    simp only [List.map_cons, List.length_cons, List.range'_succ, List.cons.injEq] at numbered
    obtain ⟨headNumber, restNumbered⟩ := numbered
    have later := hypothesis (start + 1) restNumbered
    by_cases kept : cursor < start
    · have skipNone : cursor + 1 - start = 0 := by omega
      have skipNoneLater : cursor + 1 - (start + 1) = 0 := by omega
      rw [skipNoneLater, List.drop_zero] at later
      rw [skipNone, List.drop_zero, List.filter_cons, headNumber,
        if_pos (by simpa using kept), ← later]
    · have skipHead : cursor + 1 - start = (cursor + 1 - (start + 1)) + 1 := by
        omega
      rw [skipHead, List.drop_succ_cons, later, List.filter_cons,
        headNumber, if_neg (by simpa using kept)]

/--
What is left after skipping up to a cursor's position are exactly the
changes made after it.
-/
theorem drop_eq_filter
    (contiguous : Contiguous cap version log) (cursor : Nat) :
    log.drop (cursor + 1 - oldest log) = log.filter (fun entry => cursor < entry.1) := by
  by_cases positive : 0 < min version cap
  · rw [contiguous.oldest_eq positive]
    apply drop_eq_filter_of_numbered
    rw [contiguous.length_eq]
    exact contiguous
  · have count := contiguous.length_eq
    have empty : log = [] := by
      apply List.eq_nil_of_length_eq_zero
      omega
    simp [empty]

/--
A cursor behind the present that the journal reaches back to has its
position inside the journal.
-/
theorem position_lt_length
    (contiguous : Contiguous cap version log)
    (roomy : 0 < cap) {cursor : Nat} (behind : cursor < version)
    (reaches : oldest log ≤ cursor + 1) :
    cursor + 1 - oldest log < log.length := by
  have positive : 0 < min version cap := by omega
  rw [contiguous.oldest_eq positive] at reaches ⊢
  rw [contiguous.length_eq]
  omega

/-- Exactly the entries from the new start on survive a recorded change. -/
theorem mem_push_iff
    (contiguous : Contiguous cap version log) (roomy : 0 < cap) (key : κ) (entry : Nat × κ) :
    entry ∈ Foundation.push cap version key log ↔
      entry ∈ log ++ [(version + 1, key)] ∧
        oldest (Foundation.push cap version key log) ≤ entry.1 := by
  have start := (contiguous.push key).oldest_eq (by omega)
  have count : (log ++ [(version + 1, key)]).length = min version cap + 1 := by
    simp [contiguous.length_eq]
  have numbered :
      (log ++ [(version + 1, key)]).map Prod.fst =
        List.range' (version + 1 - min version cap) (log ++ [(version + 1, key)]).length := by
    rw [count]
    exact contiguous.numbers_append key
  -- the entries dropped by position are those below the new start
  have selected := drop_eq_filter_of_numbered (version + 1 - min (version + 1) cap) _ _ numbered
  have position :
      version + 1 - min (version + 1) cap + 1 - (version + 1 - min version cap) =
        (log ++ [(version + 1, key)]).length - cap := by
    rw [count]
    omega
  rw [position] at selected
  rw [start, Foundation.push, trimFront_eq_drop, selected, List.mem_filter, decide_eq_true_iff]
  constructor
  · rintro ⟨member, later⟩
    exact ⟨member, by omega⟩
  · rintro ⟨member, later⟩
    exact ⟨member, by omega⟩

/-- Forgetting the oldest change never moves the start of the journal back. -/
theorem oldest_le_oldest_push
    (contiguous : Contiguous cap version log) (roomy : 0 < cap) (key : κ) :
    oldest log ≤ oldest (Foundation.push cap version key log) := by
  have pushed := contiguous.push key
  rw [pushed.oldest_eq (by omega)]
  by_cases positive : 0 < min version cap
  · rw [contiguous.oldest_eq positive]
    omega
  · have count := contiguous.length_eq
    have empty : log = [] := by
      apply List.eq_nil_of_length_eq_zero
      omega
    simp [empty, oldest]

end Contiguous

/-! ## What the past still shares with the present -/

/--
A snapshot taken at number `version` agrees with the present on every key
the journal does not name after `version`, if the journal reaches back there.
-/
def Recalls
    (log : List (Nat × κ)) (version : Nat) (past present : κ → Option ν) : Prop :=
  oldest log ≤ version + 1 →
    ∀ key, (∀ entry ∈ log, version < entry.1 → entry.2 ≠ key) → past key = present key

namespace Recalls

variable {cap version taken : Nat} {log : List (Nat × κ)}
  {past present next : κ → Option ν}

theorem refl (log : List (Nat × κ)) (version : Nat)
    (present : κ → Option ν) :
    Recalls log version present present :=
  fun _ _ _ => rfl

/-- A change of one key, recorded under that key, is remembered. -/
theorem push
    (recalls : Recalls log taken past present) (contiguous : Contiguous cap version log)
    (roomy : 0 < cap) (behind : taken ≤ version) {key : κ}
    (others : ∀ other, other ≠ key → next other = present other) :
    Recalls (Foundation.push cap version key log) taken past next := by
  intro reaches other untouched
  have recorded : (version + 1, key) ∈ Foundation.push cap version key log := by
    rw [contiguous.mem_push_iff roomy]
    refine ⟨by simp, ?_⟩
    rw [(contiguous.push key).oldest_eq (by omega)]
    omega
  have otherNe : other ≠ key := fun equal => untouched _ recorded (by simp; omega) equal.symm
  rw [others other otherNe]
  refine recalls ((contiguous.oldest_le_oldest_push roomy key).trans reaches) other ?_
  -- an entry that fell out of the journal is older than the snapshot
  intro entry member later
  refine untouched entry ?_ later
  rw [contiguous.mem_push_iff roomy]
  exact ⟨List.mem_append_left _ member, by omega⟩

/-- Snapshots with the present's number are the present. -/
theorem eq_of_current
    (recalls : Recalls log version past present) (contiguous : Contiguous cap version log) :
    past = present := by
  funext key
  refine recalls contiguous.oldest_le key ?_
  intro entry member later
  exact absurd (contiguous.le_version member) (by omega)

end Recalls

/-! ## Replaying the journal -/

/-- The keys changed after `cursor`, as the journal has them. -/
def changedSince (cursor : Nat) (log : List (Nat × κ)) : List κ :=
  (log.drop (cursor + 1 - oldest log)).map Prod.snd

/-- Overwrite the past at the given keys by the present. -/
def patched [DecidableEq κ]
    (keys : List κ) (past present : κ → Option ν) : κ → Option ν :=
  fun key => if key ∈ keys then present key else past key

/--
Sending the present value of every key changed since a cursor brings any
snapshot taken at the cursor or later up to date.
-/
theorem patched_eq_of_recalls [DecidableEq κ]
    {cap version cursor taken : Nat} {log : List (Nat × κ)}
    {past present : κ → Option ν} {keys : List κ} (contiguous : Contiguous cap version log)
    (recalls : Recalls log taken past present)
    (reaches : oldest log ≤ cursor + 1) (since : cursor ≤ taken)
    (exact : ∀ key, key ∈ keys ↔ key ∈ changedSince cursor log) :
    patched keys past present = present := by
  funext key
  rw [patched]
  split_ifs with sent
  · rfl
  · refine recalls (by omega) key ?_
    intro entry member later equal
    apply sent
    rw [exact, changedSince, contiguous.drop_eq_filter, List.mem_map]
    exact ⟨entry, List.mem_filter.mpr ⟨member, by simpa using lt_of_le_of_lt since later⟩, equal⟩

end Tinyray.Foundation
