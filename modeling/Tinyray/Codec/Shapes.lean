import Tinyray.Codec.MessagePack

/-!
# The shape of a value

Values without extensions, with their integers replaced, and the two shapes
that a value can come back in: all its containers read as arrays and maps, or
with the sets and keys that hold a large integer as they were.
-/

namespace Tinyray.Codec

open Tinyray.Foundation

/--
A value of Python: what is hashed is hashable, and no item of a set and no key
of a mapping is there twice.
-/
inductive Sound : Py → Prop
  | none : Sound .none
  | bool (value : Bool) : Sound (.bool value)
  | int (value : Int) : Sound (.int value)
  | str (text : String) : Sound (.str text)
  | bytes (bytes : List UInt8) : Sound (.bytes bytes)
  | list {items : List Py} (each : ∀ item ∈ items, Sound item) : Sound (.list items)
  | tuple {items : List Py} (each : ∀ item ∈ items, Sound item) : Sound (.tuple items)
  | set {items : List Py} (each : ∀ item ∈ items, Sound item)
      (hashable : ∀ item ∈ items, item.hashable = true)
      (distinct : items.Pairwise fun left right => left.same right = false) :
      Sound (.set items)
  | frozenset {items : List Py} (each : ∀ item ∈ items, Sound item)
      (hashable : ∀ item ∈ items, item.hashable = true)
      (distinct : items.Pairwise fun left right => left.same right = false) :
      Sound (.frozenset items)
  | dict {entries : List (Py × Py)} (keys : ∀ entry ∈ entries, Sound entry.1)
      (values : ∀ entry ∈ entries, Sound entry.2)
      (hashable : ∀ entry ∈ entries, entry.1.hashable = true)
      (distinct : Distinct Py.same entries) :
      Sound (.dict entries)

/-- A value of Python that can be sent. -/
structure Message where
  value : Py
  sound : Sound value

/-! ## Replacing integers -/

mutual

/-- The value with other integers. -/
def Py.replace (change : Int → Int) : Py → Py
  | .int value => .int (change value)
  | .list items => .list (replaceItems change items)
  | .tuple items => .tuple (replaceItems change items)
  | .set items => .set (replaceItems change items)
  | .frozenset items => .frozenset (replaceItems change items)
  | .dict entries => .dict (replaceEntries change entries)
  | value => value

def replaceItems (change : Int → Int) : List Py → List Py
  | [] => []
  | item :: rest => item.replace change :: replaceItems change rest

def replaceEntries (change : Int → Int) : List (Py × Py) → List (Py × Py)
  | [] => []
  | (key, value) :: rest => (key.replace change, value.replace change) :: replaceEntries change rest

end

/--
Integers are replaced one-to-one by integers of 64 bits; one becomes equal to
a truth value only if it was.
-/
structure OneToOne (change : Int → Int) (leaves : List Py) : Prop where
  fits : ∀ value, .int value ∈ leaves → fits64 (change value) = true
  injective :
    ∀ left right, .int left ∈ leaves → .int right ∈ leaves →
      change left = change right → left = right
  bools :
    ∀ value truth, .int value ∈ leaves → .bool truth ∈ leaves →
      (change value = truth.toInt ↔ value = truth.toInt)

/-! ## Shapes -/

mutual

/-- Every container that is no mapping as an array. -/
def ordinary (inKey : Bool) : Py → Py
  | .list items | .tuple items | .set items | .frozenset items =>
    if inKey then .tuple (ordinaryItems inKey items)
    else .list (ordinaryItems inKey items)
  | .dict entries => .dict (assemble Py.same (ordinaryEntries entries))
  | value => value

def ordinaryItems (inKey : Bool) : List Py → List Py
  | [] => []
  | item :: rest => ordinary inKey item :: ordinaryItems inKey rest

def ordinaryEntries : List (Py × Py) → List (Py × Py)
  | [] => []
  | (key, value) :: rest => (ordinary true key, ordinary false value) :: ordinaryEntries rest

end

/-- There is an integer in it that MessagePack does not have. -/
def Py.hasLarge (value : Py) : Bool := value.leaves.any Py.large

mutual

/--
The same, but a set that has a large integer is a set with its items as they
are, and a mapping with such a key has all its keys as they are.
-/
def kept : Py → Py
  | .list items | .tuple items => .list (keptItems items)
  | .set items | .frozenset items =>
    if items.any Py.hasLarge then .set items
    else .list (ordinaryItems false items)
  | .dict entries =>
    if (entries.map Prod.fst).any Py.hasLarge then .dict (keptEntries id entries)
    else .dict (assemble Py.same (keptEntries (ordinary true) entries))
  | value => value

def keptItems : List Py → List Py
  | [] => []
  | item :: rest => kept item :: keptItems rest

def keptEntries (key : Py → Py) : List (Py × Py) → List (Py × Py)
  | [] => []
  | entry :: rest => (key entry.1, kept entry.2) :: keptEntries key rest

end

mutual

/-- There is a frozenset in this key. -/
def Py.hasFrozenset : Py → Bool
  | .frozenset _ => true
  | .tuple items => anyFrozenset items
  | _ => false

def anyFrozenset : List Py → Bool
  | [] => false
  | item :: rest => item.hasFrozenset || anyFrozenset rest

end

mutual

/--
No set holds a large integer, and no mapping with a large integer in a key has
a frozenset in a key.
-/
def plain : Py → Bool
  | .list items | .tuple items => allPlain items
  | .set items | .frozenset items => !items.any Py.hasLarge
  | .dict entries =>
    allValuesPlain entries &&
      (!(entries.map Prod.fst).any Py.hasLarge || !anyFrozenset (entries.map Prod.fst))
  | _ => true

def allPlain : List Py → Bool
  | [] => true
  | item :: rest => plain item && allPlain rest

def allValuesPlain : List (Py × Py) → Bool
  | [] => true
  | entry :: rest => plain entry.2 && allValuesPlain rest

end

/-! ## Lists of items and entries -/

section

variable {items : List Py} {entries : List (Py × Py)}

@[simp]
theorem allHashable_eq : Py.allHashable items = items.all Py.hashable := by
  induction items with
  | nil => rfl
  | cons item rest hypothesis =>
    rw [Py.allHashable, hypothesis, List.all_cons]

@[simp]
theorem replaceItems_eq (change : Int → Int) :
    replaceItems change items = items.map (Py.replace change) := by
  induction items with
  | nil => rfl
  | cons item rest hypothesis =>
    rw [replaceItems, hypothesis, List.map_cons]

@[simp]
theorem replaceEntries_eq (change : Int → Int) :
    replaceEntries change entries =
      entries.map (Prod.map (Py.replace change) (Py.replace change)) := by
  induction entries with
  | nil => rfl
  | cons entry rest hypothesis =>
    rw [replaceEntries, hypothesis]
    rfl

@[simp]
theorem ordinaryItems_eq (inKey : Bool) :
    ordinaryItems inKey items = items.map (ordinary inKey) := by
  induction items with
  | nil => rfl
  | cons item rest hypothesis =>
    rw [ordinaryItems, hypothesis, List.map_cons]

@[simp]
theorem ordinaryEntries_eq :
    ordinaryEntries entries = entries.map (Prod.map (ordinary true) (ordinary false)) := by
  induction entries with
  | nil => rfl
  | cons entry rest hypothesis =>
    rw [ordinaryEntries, hypothesis]
    rfl

@[simp]
theorem keptItems_eq : keptItems items = items.map kept := by
  induction items with
  | nil => rfl
  | cons item rest hypothesis =>
    rw [keptItems, hypothesis, List.map_cons]

@[simp]
theorem keptEntries_eq (key : Py → Py) :
    keptEntries key entries = entries.map (Prod.map key kept) := by
  induction entries with
  | nil => rfl
  | cons entry rest hypothesis =>
    rw [keptEntries, hypothesis]
    rfl

@[simp]
theorem allPlain_eq : allPlain items = items.all plain := by
  induction items with
  | nil => rfl
  | cons item rest hypothesis =>
    rw [allPlain, hypothesis, List.all_cons]

@[simp]
theorem allValuesPlain_eq : allValuesPlain entries = entries.all fun entry => plain entry.2 := by
  induction entries with
  | nil => rfl
  | cons entry rest hypothesis =>
    rw [allValuesPlain, hypothesis, List.all_cons]

@[simp]
theorem anyFrozenset_eq : anyFrozenset items = items.any Py.hasFrozenset := by
  induction items with
  | nil => rfl
  | cons item rest hypothesis =>
    rw [anyFrozenset, hypothesis, List.any_cons]

theorem mem_leavesOf {leaf : Py} :
    leaf ∈ Py.leavesOf items ↔ ∃ item ∈ items, leaf ∈ item.leaves := by
  induction items with
  | nil => simp [Py.leavesOf]
  | cons item rest hypothesis =>
    simp [Py.leavesOf, hypothesis]

theorem mem_leavesOfEntries {leaf : Py} :
    leaf ∈ Py.leavesOfEntries entries ↔
      ∃ entry ∈ entries, leaf ∈ entry.1.leaves ∨ leaf ∈ entry.2.leaves := by
  induction entries with
  | nil => simp [Py.leavesOfEntries]
  | cons entry rest hypothesis =>
    simp [Py.leavesOfEntries, hypothesis, or_assoc]

theorem any_leavesOf (test : Py → Bool) :
    (Py.leavesOf items).any test = items.any fun item => item.leaves.any test := by
  induction items with
  | nil => rfl
  | cons item rest hypothesis =>
    rw [Py.leavesOf, List.any_append, hypothesis, List.any_cons]

end

theorem any_congr {α : Type*} {items : List α} {left right : α → Bool}
    (agree : ∀ item ∈ items, left item = right item) :
    items.any left = items.any right := by
  have mapped := congrArg (List.any · id) (List.map_congr_left agree)
  simpa only [List.any_map, Function.id_comp] using mapped

theorem all_congr {α : Type*} {items : List α} {left right : α → Bool}
    (agree : ∀ item ∈ items, left item = right item) :
    items.all left = items.all right := by
  have mapped := congrArg (List.all · id) (List.map_congr_left agree)
  simpa only [List.all_map, Function.id_comp] using mapped

/-! ## Leaves -/

/-- A value whose leaves are all among these. -/
def Py.Among (leaves : List Py) (value : Py) : Prop := ∀ leaf ∈ value.leaves, leaf ∈ leaves

section

variable {property : Py → Prop} {items : List Py}
  {entries : List (Py × Py)}

theorem leaves_items
    (each : ∀ leaf ∈ Py.leavesOf items, property leaf) :
    ∀ item ∈ items, ∀ leaf ∈ item.leaves, property leaf :=
  fun item listed leaf member => each leaf (mem_leavesOf.2 ⟨item, listed, member⟩)

theorem leaves_entries
    (each : ∀ leaf ∈ Py.leavesOfEntries entries, property leaf) :
    ∀ entry ∈ entries,
      (∀ leaf ∈ entry.1.leaves, property leaf) ∧ ∀ leaf ∈ entry.2.leaves, property leaf :=
  fun entry listed =>
    ⟨fun leaf member => each leaf (mem_leavesOfEntries.2 ⟨entry, listed, .inl member⟩),
      fun leaf member => each leaf (mem_leavesOfEntries.2 ⟨entry, listed, .inr member⟩)⟩

end

/-! ## Replacing and comparing -/

section

variable {change : Int → Int} {leaves : List Py}

theorem hashable_replace {value : Py} (sound : Sound value) :
    (value.replace change).hashable = value.hashable := by
  induction sound with
  | tuple each hypothesis =>
    simp only [Py.replace, Py.hashable, allHashable_eq, replaceItems_eq, List.all_map]
    exact all_congr hypothesis
  | _ => rfl

/-- What is the same stays the same, and what is different, different. -/
def Respects (change : Int → Int) (leaves : List Py) (left : Py) : Prop :=
  ∀ right : Py, right.Among leaves →
    (left.replace change).same (right.replace change) = left.same right

/-- Replacing integers keeps lists alike. -/
theorem sameItems_replace {lefts rights : List Py}
    (each : ∀ left ∈ lefts, Respects change leaves left)
    (among : ∀ right ∈ rights, right.Among leaves) :
    Py.sameItems (lefts.map (Py.replace change)) (rights.map (Py.replace change)) =
      Py.sameItems lefts rights := by
  induction lefts generalizing rights with
  | nil => cases rights <;> rfl
  | cons left lefts hypothesis =>
    cases rights with
    | nil => rfl
    | cons right rights =>
      rw [List.map_cons, List.map_cons, Py.sameItems, Py.sameItems,
        each left List.mem_cons_self right (among right List.mem_cons_self),
        hypothesis
          (fun other listed => each other (List.mem_cons_of_mem _ listed))
          (fun other listed => among other (List.mem_cons_of_mem _ listed))]

/-- The same for sets. -/
theorem sameAmong_replace {lefts rights : List Py}
    (each : ∀ left ∈ lefts, Respects change leaves left)
    (among : ∀ right ∈ rights, right.Among leaves) :
    Py.sameAmong (lefts.map (Py.replace change)) (rights.map (Py.replace change)) =
      Py.sameAmong lefts rights := by
  induction lefts with
  | nil => rfl
  | cons left lefts hypothesis =>
    have first :
        (rights.map (Py.replace change)).any (Py.same (left.replace change)) =
          rights.any (Py.same left) := by
      rw [List.any_map]
      exact any_congr fun right listed => each left List.mem_cons_self right (among right listed)
    rw [List.map_cons, Py.sameAmong, Py.sameAmong, first,
      hypothesis fun other listed => each other (List.mem_cons_of_mem _ listed)]

/-- Replacing integers keeps equality. -/
theorem same_replace (oneToOne : OneToOne change leaves) {left : Py}
    (sound : Sound left) (among : left.Among leaves) :
    Respects change leaves left := by
  induction sound with
  | none | str text | bytes bytes | list each hypothesis =>
    intro right _; cases right <;> rfl
  | set each hashable distinct hypothesis
  | dict keys values hashable distinct keysHypothesis valuesHypothesis =>
    intro right _
    cases right <;> rfl
  | bool truth =>
    intro right amongRight
    cases right with
    | int value =>
      have numbers :=
        oneToOne.bools value truth (amongRight _ List.mem_cons_self) (among _ List.mem_cons_self)
      simp only [Py.replace, Py.same]
      rw [Bool.eq_iff_iff, beq_iff_eq, beq_iff_eq, eq_comm, numbers, eq_comm]
    | _ => rfl
  | int value =>
    intro right amongRight
    have member := among _ List.mem_cons_self
    cases right with
    | bool truth =>
      have numbers := oneToOne.bools value truth member (amongRight _ List.mem_cons_self)
      simp only [Py.replace, Py.same]
      rw [Bool.eq_iff_iff, beq_iff_eq, beq_iff_eq, numbers]
    | int other =>
      have injective := oneToOne.injective value other member (amongRight _ List.mem_cons_self)
      simp only [Py.replace, Py.same]
      rw [Bool.eq_iff_iff, beq_iff_eq, beq_iff_eq]
      exact ⟨injective, congrArg change⟩
    | _ => rfl
  | tuple each hypothesis =>
    intro right amongRight
    cases right with
    | tuple rights =>
      simp only [Py.replace, Py.same, replaceItems_eq]
      exact sameItems_replace
        (fun item listed => hypothesis item listed (leaves_items among item listed))
        (leaves_items amongRight)
    | _ => rfl
  | frozenset each hashable distinct hypothesis =>
    intro right amongRight
    cases right with
    | frozenset rights =>
      simp only [Py.replace, Py.same, replaceItems_eq, List.length_map]
      rw [sameAmong_replace
        (fun item listed => hypothesis item listed (leaves_items among item listed))
        (leaves_items amongRight)]
    | _ => rfl

/-- Distinct items stay distinct. -/
theorem distinct_replace (oneToOne : OneToOne change leaves)
    {items : List Py} (each : ∀ item ∈ items, Sound item)
    (among : ∀ item ∈ items, item.Among leaves)
    (distinct : items.Pairwise fun left right => left.same right = false) :
    (items.map (Py.replace change)).Pairwise fun left right => left.same right = false := by
  rw [List.pairwise_map]
  refine distinct.imp_of_mem ?_
  intro left right leftListed rightListed different
  rw [same_replace oneToOne (each left leftListed) (among left leftListed)
    right (among right rightListed)]
  exact different

/-- And it keeps values sound. -/
theorem sound_replace (oneToOne : OneToOne change leaves) {value : Py}
    (sound : Sound value) (among : value.Among leaves) :
    Sound (value.replace change) := by
  induction sound with
  | none => exact .none
  | bool truth => exact .bool truth
  | int number => exact .int _
  | str text => exact .str text
  | bytes bytes => exact .bytes bytes
  | list each hypothesis =>
    rw [Py.replace, replaceItems_eq]
    refine .list (List.forall_mem_map.2 ?_)
    intro item listed
    exact hypothesis item listed (leaves_items among item listed)
  | tuple each hypothesis =>
    rw [Py.replace, replaceItems_eq]
    refine .tuple (List.forall_mem_map.2 ?_)
    intro item listed
    exact hypothesis item listed (leaves_items among item listed)
  | set each hashable distinct hypothesis =>
    rw [Py.replace, replaceItems_eq]
    refine .set (List.forall_mem_map.2 ?_) (List.forall_mem_map.2 ?_)
      (distinct_replace oneToOne each (leaves_items among) distinct)
    · intro item listed
      exact hypothesis item listed (leaves_items among item listed)
    · intro item listed
      rw [hashable_replace (each item listed)]
      exact hashable item listed
  | frozenset each hashable distinct hypothesis =>
    rw [Py.replace, replaceItems_eq]
    refine .frozenset (List.forall_mem_map.2 ?_)
      (List.forall_mem_map.2 ?_)
      (distinct_replace oneToOne each (leaves_items among) distinct)
    · intro item listed
      exact hypothesis item listed (leaves_items among item listed)
    · intro item listed
      rw [hashable_replace (each item listed)]
      exact hashable item listed
  | dict keys values hashable distinct keysHypothesis valuesHypothesis =>
    rw [Py.replace, replaceEntries_eq]
    have amongEntries := leaves_entries among
    refine .dict (List.forall_mem_map.2 ?_) (List.forall_mem_map.2 ?_) (List.forall_mem_map.2 ?_) ?_
    · intro entry listed
      exact keysHypothesis entry listed (amongEntries entry listed).1
    · intro entry listed
      exact valuesHypothesis entry listed (amongEntries entry listed).2
    · intro entry listed
      rw [Prod.map_fst, hashable_replace (keys entry listed)]
      exact hashable entry listed
    · unfold Distinct
      rw [List.pairwise_map]
      refine distinct.imp_of_mem ?_
      intro left right leftListed rightListed different
      simp only [Prod.map_fst]
      rw [same_replace oneToOne (keys left leftListed)
        (amongEntries left leftListed).1 right.1
        (amongEntries right rightListed).1]
      exact different

end

/-! ## Keys read as tuples -/

section

variable {key : Py}

/-- Decoded keys are hashable. -/
theorem hashable_ordinary (sound : Sound key)
    (hashable : key.hashable = true) :
    (ordinary true key).hashable = true := by
  induction sound with
  | tuple each hypothesis =>
    simp only [Py.hashable, allHashable_eq, List.all_eq_true] at hashable
    simp only [ordinary, if_true, ordinaryItems_eq, Py.hashable,
      allHashable_eq, List.all_map, List.all_eq_true]
    exact fun item listed => hypothesis item listed (hashable item listed)
  | frozenset each items distinct hypothesis =>
    simp only [ordinary, if_true, ordinaryItems_eq, Py.hashable,
      allHashable_eq, List.all_map, List.all_eq_true]
    exact fun item listed => hypothesis item listed (items item listed)
  | list | set | dict => cases hashable
  | _ => rfl

/-- Decoded keys are sound. -/
theorem sound_ordinary (sound : Sound key)
    (hashable : key.hashable = true) :
    Sound (ordinary true key) := by
  induction sound with
  | tuple each hypothesis =>
    simp only [Py.hashable, allHashable_eq, List.all_eq_true] at hashable
    simp only [ordinary, if_true, ordinaryItems_eq]
    refine .tuple ?_
    intro item listed
    rcases List.mem_map.1 listed with ⟨origin, member, rfl⟩
    exact hypothesis origin member (hashable origin member)
  | frozenset each items distinct hypothesis =>
    simp only [ordinary, if_true, ordinaryItems_eq]
    refine .tuple ?_
    intro item listed
    rcases List.mem_map.1 listed with ⟨origin, member, rfl⟩
    exact hypothesis origin member (items origin member)
  | list | set | dict => cases hashable
  | none => exact .none
  | bool truth => exact .bool truth
  | int value => exact .int value
  | str text => exact .str text
  | bytes bytes => exact .bytes bytes

/-- Decoded keys have no new leaves. -/
theorem among_ordinary {leaves : List Py} (sound : Sound key)
    (hashable : key.hashable = true) (among : key.Among leaves) :
    (ordinary true key).Among leaves := by
  induction sound with
  | tuple each hypothesis =>
    simp only [Py.hashable, allHashable_eq, List.all_eq_true] at hashable
    simp only [ordinary, if_true, ordinaryItems_eq]
    intro leaf member
    rcases mem_leavesOf.1 member with ⟨item, listed, inside⟩
    rcases List.mem_map.1 listed with ⟨origin, origins, rfl⟩
    exact hypothesis origin origins (hashable origin origins)
      (leaves_items among origin origins) leaf inside
  | frozenset each items distinct hypothesis =>
    simp only [ordinary, if_true, ordinaryItems_eq]
    intro leaf member
    rcases mem_leavesOf.1 member with ⟨item, listed, inside⟩
    rcases List.mem_map.1 listed with ⟨origin, origins, rfl⟩
    exact hypothesis origin origins (items origin origins)
      (leaves_items among origin origins) leaf inside
  | list | set | dict => cases hashable
  | _ => exact among

/-- Decoded keys have no frozenset. -/
theorem hasFrozenset_ordinary (sound : Sound key)
    (hashable : key.hashable = true) :
    (ordinary true key).hasFrozenset = false := by
  induction sound with
  | tuple each hypothesis =>
    simp only [Py.hashable, allHashable_eq, List.all_eq_true] at hashable
    simp only [ordinary, if_true, ordinaryItems_eq, Py.hasFrozenset,
      anyFrozenset_eq, List.any_map, List.any_eq_false, Bool.not_eq_true]
    exact fun item listed => hypothesis item listed (hashable item listed)
  | frozenset each items distinct hypothesis =>
    simp only [ordinary, if_true, ordinaryItems_eq, Py.hasFrozenset,
      anyFrozenset_eq, List.any_map, List.any_eq_false, Bool.not_eq_true]
    exact fun item listed => hypothesis item listed (items item listed)
  | list | set | dict => cases hashable
  | _ => rfl

/-- Other keys come back as they were. -/
theorem ordinary_of_no_frozenset (sound : Sound key)
    (hashable : key.hashable = true) (without : key.hasFrozenset = false) :
    ordinary true key = key := by
  induction sound with
  | tuple each hypothesis =>
    simp only [Py.hashable, allHashable_eq, List.all_eq_true] at hashable
    simp only [Py.hasFrozenset, anyFrozenset_eq, List.any_eq_false, Bool.not_eq_true] at without
    simp only [ordinary, if_true, ordinaryItems_eq]
    rw [List.map_congr_left fun item listed =>
      hypothesis item listed (hashable item listed) (without item listed)]
    rw [List.map_id']
  | frozenset => cases without
  | list | set | dict => cases hashable
  | _ => rfl

theorem ordinary_ordinary_key (sound : Sound key)
    (hashable : key.hashable = true) :
    ordinary true (ordinary true key) = ordinary true key :=
  ordinary_of_no_frozenset (sound_ordinary sound hashable)
    (hashable_ordinary sound hashable)
    (hasFrozenset_ordinary sound hashable)

end

/-! ## Values read as arrays -/

section

variable {change : Int → Int} {leaves : List Py}

/-- Decoding commutes with replacing. -/
theorem ordinary_replace (oneToOne : OneToOne change leaves) {value : Py}
    (sound : Sound value) (among : value.Among leaves) (inKey : Bool) :
    ordinary inKey (value.replace change) = (ordinary inKey value).replace change := by
  have items {items : List Py}
      (each :
        ∀ item ∈ items, ∀ inKey,
          ordinary inKey (item.replace change) =
            (ordinary inKey item).replace change) (inKey : Bool) :
      (items.map (Py.replace change)).map (ordinary inKey) =
        (items.map (ordinary inKey)).map (Py.replace change) := by
    rw [List.map_map, List.map_map]
    exact List.map_congr_left fun item listed => each item listed inKey
  induction sound generalizing inKey with
  | list each hypothesis | tuple each hypothesis
  | set each hashable distinct hypothesis
  | frozenset each hashable distinct hypothesis =>
    have all :=
      items (fun item listed =>
        hypothesis item listed (leaves_items among item listed))
        inKey
    cases inKey <;>
      simpa only [Py.replace, ordinary, replaceItems_eq, ordinaryItems_eq,
        if_true, if_false, Bool.false_eq_true, Py.list.injEq, Py.tuple.injEq] using all
  | dict keys values hashable distinct keysHypothesis valuesHypothesis =>
    have amongEntries := leaves_entries among
    simp only [Py.replace, ordinary, replaceEntries_eq, ordinaryEntries_eq]
    rw [← assemble_map]
    · rw [List.map_map, List.map_map]
      congr 2
      refine List.map_congr_left fun entry listed => ?_
      exact Prod.ext
        (keysHypothesis entry listed (amongEntries entry listed).1 true)
        (valuesHypothesis entry listed (amongEntries entry listed).2 false)
    · intro first firstListed second secondListed
      rcases List.mem_map.1 firstListed with ⟨left, lefts, rfl⟩
      rcases List.mem_map.1 secondListed with ⟨right, rights, rfl⟩
      exact same_replace oneToOne
        (sound_ordinary (keys left lefts) (hashable left lefts))
        (among_ordinary (keys left lefts) (hashable left lefts) (amongEntries left lefts).1) _
        (among_ordinary (keys right rights) (hashable right rights) (amongEntries right rights).1)
  | _ => rfl

/-- Assembling twice is assembling once. -/
theorem assemble_ordinary {entries : List (Py × Py)} {read : Py → Py}
    (keys : ∀ entry ∈ entries, Sound entry.1)
    (hashable : ∀ entry ∈ entries, entry.1.hashable = true)
    (values : ∀ entry ∈ entries, ordinary false (read entry.2) = ordinary false entry.2) :
    assemble Py.same
        ((assemble Py.same (entries.map (Prod.map (ordinary true) read))).map
          (Prod.map (ordinary true) (ordinary false))) =
      assemble Py.same (entries.map (Prod.map (ordinary true) (ordinary false))) := by
  have twice :
      (entries.map (Prod.map (ordinary true) read)).map
          (Prod.map (ordinary true) (ordinary false)) =
        entries.map (Prod.map (ordinary true) (ordinary false)) := by
    rw [List.map_map]
    refine List.map_congr_left fun entry listed => ?_
    exact Prod.ext
      (ordinary_ordinary_key (keys entry listed) (hashable entry listed))
      (values entry listed)
  rw [← assemble_map, twice, assemble_assemble]
  intro first firstListed second secondListed
  rcases List.mem_map.1 firstListed with ⟨left, lefts, rfl⟩
  rcases List.mem_map.1 secondListed with ⟨right, rights, rfl⟩
  simp only [Prod.map_fst]
  rw [ordinary_ordinary_key (keys left lefts) (hashable left lefts),
    ordinary_ordinary_key (keys right rights) (hashable right rights)]

theorem map_ordinary {items : List Py} {read : Py → Py}
    (each : ∀ item ∈ items, ordinary false (read item) = ordinary false item) :
    (items.map read).map (ordinary false) = items.map (ordinary false) := by
  rw [List.map_map]
  exact List.map_congr_left each

theorem ordinary_ordinary {value : Py} (sound : Sound value) :
    ordinary false (ordinary false value) = ordinary false value := by
  induction sound with
  | list each hypothesis | tuple each hypothesis
  | set each hashable distinct hypothesis
  | frozenset each hashable distinct hypothesis =>
    simp only [ordinary, ordinaryItems_eq, Bool.false_eq_true, if_false, map_ordinary hypothesis]
  | dict keys values hashable distinct _ valuesHypothesis =>
    simp only [ordinary, ordinaryEntries_eq, assemble_ordinary keys hashable valuesHypothesis]
  | _ => rfl

/-- Decoding what was kept loses no more. -/
theorem ordinary_kept {value : Py} (sound : Sound value) :
    ordinary false (kept value) = ordinary false value := by
  have set {items : List Py} (each : ∀ item ∈ items, Sound item) :
      ordinary false
          (if items.any Py.hasLarge then .set items
            else .list (items.map (ordinary false))) =
        .list (items.map (ordinary false)) := by
    split_ifs
    · simp only [ordinary, ordinaryItems_eq, Bool.false_eq_true, if_false]
    · simp only [ordinary, ordinaryItems_eq, Bool.false_eq_true, if_false,
        map_ordinary fun item listed => ordinary_ordinary (each item listed)]
  induction sound with
  | list each hypothesis | tuple each hypothesis =>
    simp only [kept, keptItems_eq, ordinary, ordinaryItems_eq,
      Bool.false_eq_true, if_false, map_ordinary hypothesis]
  | set each hashable distinct hypothesis
  | frozenset each hashable distinct hypothesis =>
    simp only [kept, ordinaryItems_eq, set each]
    simp only [ordinary, ordinaryItems_eq, Bool.false_eq_true, if_false]
  | dict keys values hashable distinct _ valuesHypothesis =>
    simp only [kept, keptEntries_eq]
    split_ifs
    · simp only [ordinary, ordinaryEntries_eq, List.map_map]
      congr 2
      refine List.map_congr_left fun entry listed => ?_
      exact Prod.ext rfl (valuesHypothesis entry listed)
    · simp only [ordinary, ordinaryEntries_eq, assemble_ordinary keys hashable valuesHypothesis]
  | _ => rfl

/-- Plain values fare as usual. -/
theorem kept_of_plain {value : Py} (sound : Sound value)
    (isPlain : plain value = true) :
    kept value = ordinary false value := by
  induction sound with
  | list each hypothesis | tuple each hypothesis =>
    simp only [plain, allPlain_eq, List.all_eq_true] at isPlain
    simp only [kept, keptItems_eq, ordinary, ordinaryItems_eq, Bool.false_eq_true, if_false]
    rw [List.map_congr_left fun item listed => hypothesis item listed (isPlain item listed)]
  | set each hashable distinct hypothesis
  | frozenset each hashable distinct hypothesis =>
    simp only [plain, Bool.not_eq_true'] at isPlain
    simp only [kept, isPlain, ordinary, Bool.false_eq_true, if_false]
  | @dict entries keys values hashable distinct _ valuesHypothesis =>
    simp only [plain, allValuesPlain_eq, Bool.and_eq_true,
      List.all_eq_true, Bool.or_eq_true, Bool.not_eq_true'] at isPlain
    rcases isPlain with ⟨plainValues, plainKeys⟩
    have read :
        entries.map (Prod.map (ordinary true) kept) =
          entries.map (Prod.map (ordinary true) (ordinary false)) :=
      List.map_congr_left fun entry listed =>
        Prod.ext rfl (valuesHypothesis entry listed (plainValues entry listed))
    simp only [kept, ordinary, keptEntries_eq, ordinaryEntries_eq]
    split_ifs with large
    · have without : ∀ entry ∈ entries, entry.1.hasFrozenset = false := by
        rcases plainKeys with small | without
        · rw [large] at small
          cases small
        · simp only [anyFrozenset_eq, List.any_map, List.any_eq_false, Bool.not_eq_true] at without
          exact without
      have keysKept :
          entries.map (Prod.map id kept) = entries.map (Prod.map (ordinary true) kept) :=
        List.map_congr_left fun entry listed =>
          Prod.ext
            (ordinary_of_no_frozenset (keys entry listed)
              (hashable entry listed) (without entry listed)).symm
            rfl
      rw [← read, ← keysKept, assemble_of_distinct (distinct.map_values kept)]
    · rw [read]
  | _ => rfl

end

end Tinyray.Codec
