import Mathlib.Data.List.Basic

/-!
# Streams that are cut into pieces

What is written to a stream arrives in order, but in pieces of any size.  A
read finds the next piece, or as much of it as there is room for.  A write
takes as much as it likes of what it is offered.
-/

namespace Tinyray.Foundation

universe u v w

/-! ## Reading -/

/-- What is still to come, in the pieces that the reads will find. -/
structure Source (α : Type u) where
  pieces : List (List α)
  nonempty : ∀ piece ∈ pieces, piece ≠ []

namespace Source

variable {α : Type u}

/-- What is still to be read. -/
def items (source : Source α) : List α := source.pieces.flatten

/-- A read with room for so many items; it finds nothing at the end. -/
def read (room : Nat) : Source α → List α × Source α
  | ⟨[], nonempty⟩ => ([], ⟨[], nonempty⟩)
  | ⟨piece :: later, nonempty⟩ =>
    have others : ∀ other ∈ later, other ≠ [] :=
      fun other listed => nonempty other (List.mem_cons_of_mem _ listed)
    if left : piece.drop room = [] then (piece, ⟨later, others⟩)
    else
      (piece.take room,
        ⟨piece.drop room :: later,
          fun _ listed => (List.mem_cons.1 listed).elim (fun first => first ▸ left) (others _)⟩)

/-- A read takes the items off the front. -/
theorem read_items (room : Nat) (source : Source α) :
    (source.read room).1 ++ (source.read room).2.items = source.items := by
  rcases source with ⟨_ | ⟨piece, later⟩, nonempty⟩
  · rfl
  · unfold read items
    simp only
    split_ifs with left
    · rfl
    · simp only [List.flatten_cons]
      rw [← List.append_assoc, List.take_append_drop]

theorem length_read_le (room : Nat) (source : Source α) : (source.read room).1.length ≤ room := by
  rcases source with ⟨_ | ⟨piece, later⟩, nonempty⟩
  · exact Nat.zero_le room
  · unfold read
    simp only
    split_ifs with left
    · exact List.drop_eq_nil_iff.1 left
    · exact List.length_take_le room piece

variable {source : Source α} {size : Nat} {received : List α}

/-- A read with some room finds nothing only at the end. -/
theorem items_of_read_eq_nil
    (room : Nat) (positive : 0 < room) (nothing : (source.read room).1 = []) :
    source.items = [] := by
  rcases source with ⟨_ | ⟨piece, later⟩, nonempty⟩
  · rfl
  · have some := nonempty piece List.mem_cons_self
    unfold read at nothing
    simp only at nothing
    split_ifs at nothing with left
    · exact absurd nothing some
    · rcases List.take_eq_nil_iff.1 nothing with zero | empty
      · omega
      · exact absurd empty some

/--
Reads until there are so many items.  If the stream ends before, it says how
many there were.
-/
def fill (size : Nat) (received : List α) (source : Source α) : Except Nat (List α) × Source α :=
  if received.length < size then
    match source.read (size - received.length) with
    | ([], next) => (.error received.length, next)
    | (first :: found, next) => fill size (received ++ first :: found) next
  else (.ok received, source)
termination_by size - received.length
decreasing_by
  simp only [List.length_append, List.length_cons]
  omega

/-- However the stream is cut, its front part is what is read. -/
theorem fill_enough
    (fits : received.length ≤ size) (enough : size ≤ received.length + source.items.length) :
    ∃ last,
      source.fill size received =
          (.ok (received ++ source.items.take (size - received.length)), last) ∧
        last.items = source.items.drop (size - received.length) := by
  fun_induction fill size received source with
  | case1 received source short next nothing =>
    have ended : source.items = [] :=
      items_of_read_eq_nil (size - received.length) (by omega) (by rw [nothing])
    rw [ended] at enough
    simp only [List.length_nil] at enough
    omega
  | case2 received source short first found next read hypothesis =>
    have items := read_items (size - received.length) source
    have room := length_read_le (size - received.length) source
    rw [read] at items room
    simp only at items room
    rcases hypothesis (by rw [List.length_append]; omega)
        (by
          rw [← items, List.length_append] at enough
          rw [List.length_append]
          omega) with
      ⟨last, filled, rest⟩
    have less :
        size - (received ++ first :: found).length =
          size - received.length - (first :: found).length := by
      rw [List.length_append]
      omega
    refine ⟨last, ?_, ?_⟩
    · rw [filled, less, ← items, List.take_append, List.take_of_length_le room, List.append_assoc]
    · rw [rest, less, ← items, List.drop_append, List.drop_eq_nil_of_le room, List.nil_append]
  | case3 received source full =>
    have done : size - received.length = 0 := by omega
    rw [done]
    exact ⟨source, by simp, rfl⟩

/-- If the stream is too short, all of it is read. -/
theorem fill_short
    (short : received.length + source.items.length < size) :
    ∃ last,
      source.fill size received = (.error (received.length + source.items.length), last) ∧
        last.items = [] := by
  fun_induction fill size received source with
  | case1 received source less next nothing =>
    have ended : source.items = [] :=
      items_of_read_eq_nil (size - received.length) (by omega) (by rw [nothing])
    have items := read_items (size - received.length) source
    rw [nothing, ended] at items
    rw [ended]
    exact ⟨next, rfl, items⟩
  | case2 received source less first found next read hypothesis =>
    have items := read_items (size - received.length) source
    rw [read] at items
    simp only at items
    have length :
        (received ++ first :: found).length + next.items.length =
          received.length + source.items.length := by
      rw [← items, List.length_append, List.length_append]
      omega
    rw [← length]
    exact hypothesis (by omega)
  | case3 received source full => omega

end Source

/-! ## Writing -/

/-- What has been written, and with how many writes. -/
structure Sink (α : Type u) where
  sent : List α := []
  writes : Nat := 0

/--
A write takes some of what it is offered, starting from the front; how much it
would take is up to the receiver.
-/
def Sink.write {α : Type u} (sink : Sink α) (takes : Nat → Nat)
    (offered : List α) : Nat × Sink α :=
  let written := min (takes sink.writes) offered.length
  (written, ⟨sink.sent ++ offered.take written, sink.writes + 1⟩)

/-! ## One item after another -/

section

variable {σ : Type u} {β : Type v} {ε : Type w}

/-- Reading until there is no item; with the error, if there is one. -/
inductive Reads (read : σ → Except ε (Option β) × σ) : σ → List β → Option ε → σ → Prop
  | ended {state last : σ} (reads : read state = (.ok none, last)) : Reads read state [] none last
  | failed {state last : σ} {error : ε}
      (reads : read state = (.error error, last)) :
      Reads read state [] (some error) last
  | next {state later last : σ} {item : β} {items : List β}
      {error : Option ε} (reads : read state = (.ok (some item), later))
      (rest : Reads read later items error last) :
      Reads read state (item :: items) error last

/-- What a read gives where no item follows. -/
def stop : Option ε → Except ε (Option β)
  | none => .ok none
  | some error => .error error

variable {state : σ} {error : Option ε}

theorem Reads.of_stop
    {read : σ → Except ε (Option β) × σ} {last : σ} (reads : read state = (stop error, last)) :
    Reads read state [] error last := by
  cases error with
  | none => exact .ended reads
  | some error => exact .failed reads

variable {α : Type*}

/-- A stream of items that are read back one by one. -/
theorem Reads.of_flatMap
    {read : σ → Except ε (Option β) × σ} {view : σ → List α}
    {encode : β → List α} {valid : β → Prop}
    (whole :
      ∀ state item rest, valid item → view state = encode item ++ rest →
        ∃ later, read state = (.ok (some item), later) ∧ view later = rest)
    {tail left : List α}
    (stops :
      ∀ state, view state = tail → ∃ last, read state = (stop error, last) ∧ view last = left)
    {items : List β} (sound : ∀ item ∈ items, valid item)
    (shows : view state = items.flatMap encode ++ tail) :
    ∃ last, Reads read state items error last ∧ view last = left := by
  induction items generalizing state with
  | nil =>
    rcases stops state shows with ⟨last, reads, rest⟩
    exact ⟨last, .of_stop reads, rest⟩
  | cons item items hypothesis =>
    rw [List.flatMap_cons, List.append_assoc] at shows
    rcases whole state item _ (sound item List.mem_cons_self) shows with ⟨later, reads, rest⟩
    rcases hypothesis
        (fun other listed => sound other (List.mem_cons_of_mem _ listed))
        rest with
      ⟨last, others, left⟩
    exact ⟨last, .next reads others, left⟩

end

end Tinyray.Foundation
