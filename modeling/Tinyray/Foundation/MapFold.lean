import Mathlib.Data.List.Basic
import Mathlib.Data.List.Perm.Basic

/-!
# Combining the entries of a finite map

A commutative combination of the entries of a finite map can be kept up to
date while single entries come and go.  `combine` is the combination from
scratch.  `combine_insert` and `combine_erase` are the two incremental
updates; neither depends on the order in which the entries arrived.  The
`_cases` lemmas say where an entry found after an update comes from.
-/

namespace Tinyray.Foundation

open Std

variable {κ : Type*} {ν : Type*} {β : Type*} {cmp : κ → κ → Ordering}
  [TransCmp cmp]

/-- Combine the weights of all entries. -/
def combine (op : β → β → β) (unit : β) (weight : κ → ν → β)
    (entries : ExtTreeMap κ ν cmp) : β :=
  entries.foldl (fun total key value => op total (weight key value)) unit

@[simp]
theorem combine_empty (op : β → β → β) (unit : β) (weight : κ → ν → β) :
    combine op unit weight (∅ : ExtTreeMap κ ν cmp) = unit := by
  rw [combine, ExtTreeMap.foldl_eq_foldl_toList,
    ExtTreeMap.toList_eq_nil_iff.mpr rfl, List.foldl_nil]

variable [LawfulEqCmp cmp]

/-! ## Entries after an update -/

variable {entries : ExtTreeMap κ ν cmp} {key other : κ} {found : ν}
  {value : ν}

theorem getElem?_insert_ne (different : key ≠ other) :
    (entries.insert key value)[other]? = entries[other]? := by
  rw [ExtTreeMap.getElem?_insert, if_neg fun same => different (LawfulEqCmp.eq_of_compare same)]

/-- An entry after an insertion is the new one or was there before. -/
theorem getElem?_insert_cases
    (present : (entries.insert key value)[other]? = some found) :
    (key = other ∧ value = found) ∨ (key ≠ other ∧ entries[other]? = some found) := by
  by_cases same : key = other
  · subst same
    rw [ExtTreeMap.getElem?_insert_self] at present
    exact Or.inl ⟨rfl, Option.some.inj present⟩
  · rw [getElem?_insert_ne same] at present
    exact Or.inr ⟨same, present⟩

theorem getElem?_modify_cases
    {change : ν → ν} (present : (entries.modify key change)[other]? = some found) :
    (key = other ∧ ∃ before, entries[other]? = some before ∧ change before = found) ∨
      (key ≠ other ∧ entries[other]? = some found) := by
  by_cases same : key = other
  · subst same
    rw [ExtTreeMap.getElem?_modify_self] at present
    exact Or.inl ⟨rfl, Option.map_eq_some_iff.mp present⟩
  · rw [ExtTreeMap.getElem?_modify,
      if_neg fun equal => same (LawfulEqCmp.eq_of_compare equal)] at present
    exact Or.inr ⟨same, present⟩

theorem getElem?_erase_ne
    (different : key ≠ other) :
    (entries.erase key)[other]? = entries[other]? := by
  rw [ExtTreeMap.getElem?_erase, if_neg fun same => different (LawfulEqCmp.eq_of_compare same)]

theorem getElem?_erase_cases
    (present : (entries.erase key)[other]? = some found) :
    key ≠ other ∧ entries[other]? = some found := by
  rw [ExtTreeMap.getElem?_erase] at present
  split_ifs at present with same
  exact ⟨fun equal => same (equal ▸ ReflCmp.compare_self), present⟩

/-! ## Entries as lists -/

theorem nodup_toList (entries : ExtTreeMap κ ν cmp) : entries.toList.Nodup := by
  refine List.Pairwise.imp ?_ entries.distinct_keys_toList
  rintro left right distinct rfl
  exact distinct ReflCmp.compare_self

/-- Erasing takes one entry out. -/
theorem toList_erase_perm
    (entries : ExtTreeMap κ ν cmp) (key : κ) (value : ν) (present : entries[key]? = some value) :
    entries.toList.Perm ((key, value) :: (entries.erase key).toList) := by
  have fresh : (key, value) ∉ (entries.erase key).toList := by
    rw [ExtTreeMap.mem_toList_iff_getElem?_eq_some]
    simp
  rw [List.perm_ext_iff_of_nodup (nodup_toList _) (List.nodup_cons.mpr ⟨fresh, nodup_toList _⟩)]
  rintro ⟨otherKey, otherValue⟩
  simp only [ExtTreeMap.mem_toList_iff_getElem?_eq_some,
    List.mem_cons, Prod.mk.injEq, ExtTreeMap.getElem?_erase]
  by_cases same : key = otherKey
  · subst same
    rw [if_pos ReflCmp.compare_self, present]
    simp [eq_comm]
  · simp [same, Ne.symm same]

/-- Inserting puts one entry in. -/
theorem toList_insert_perm
    (entries : ExtTreeMap κ ν cmp) (key : κ) (value : ν) (absent : entries[key]? = none) :
    (entries.insert key value).toList.Perm ((key, value) :: entries.toList) := by
  have erased : (entries.insert key value).erase key = entries := by
    apply ExtTreeMap.ext_getElem?
    intro other
    rw [ExtTreeMap.getElem?_erase, ExtTreeMap.getElem?_insert]
    split_ifs with same
    · rw [← LawfulEqCmp.eq_of_compare same, absent]
    · rfl
  have taken :=
    toList_erase_perm (entries.insert key value) key value ExtTreeMap.getElem?_insert_self
  rw [erased] at taken
  exact taken

/-- The keys of the entries that are wanted. -/
theorem keys_filter (entries : ExtTreeMap κ ν cmp) (wanted : ν → Bool) :
    (entries.keys.filter fun key => entries[key]?.any wanted) =
      (entries.toList.filter fun entry => wanted entry.2).map Prod.fst := by
  rw [← ExtTreeMap.map_fst_toList_eq_keys, List.filter_map]
  congr 1
  apply List.filter_congr
  rintro ⟨key, value⟩ listed
  rw [ExtTreeMap.mem_toList_iff_getElem?_eq_some] at listed
  simp [listed]

/-- Maps with entries for the same keys list the same keys. -/
theorem keys_of_isSome
    {left : ExtTreeMap κ ν cmp} {right : ExtTreeMap κ β cmp}
    (alike : ∀ key : κ, left[key]?.isSome = right[key]?.isSome) :
    left.keys = right.keys := by
  have units : (left.map fun _ _ => ()) = right.map fun _ _ => () := by
    apply ExtTreeMap.ext_getElem?
    intro key
    have same := alike key
    rw [ExtTreeMap.getElem?_map, ExtTreeMap.getElem?_map]
    revert same
    cases left[key]? <;> cases right[key]? <;> simp
  rw [← ExtTreeMap.keys_map (f := fun _ _ => ()), units, ExtTreeMap.keys_map]

omit [LawfulEqCmp cmp] in
/-- Looking up the keys of some entries gives their values. -/
theorem filterMap_map_fst
    {listed : List (κ × ν)} (held : ∀ entry ∈ listed, entries[entry.1]? = some entry.2) :
    (listed.map Prod.fst).filterMap (fun key => entries[key]?) = listed.map Prod.snd := by
  rw [List.filterMap_map, ← List.filterMap_eq_map]
  exact List.filterMap_congr held

/-! ## Many updates at once -/

section

variable [DecidableEq κ]

/-- Values written in any order, as long as no two of them clash. -/
theorem getElem?_foldl_insert
    (key : ν → κ) {view : κ → Option ν} {written : List ν}
    (faithful : ∀ value ∈ written, view (key value) = some value)
    (base : ExtTreeMap κ ν cmp) (wanted : κ) :
    (written.foldl
        (fun entries value => entries.insert (key value) value)
        base)[wanted]? =
      if wanted ∈ written.map key then view wanted else base[wanted]? := by
  induction written generalizing base with
  | nil => simp
  | cons value rest hypothesis =>
    have later :=
      hypothesis
        (fun other member => faithful other (List.mem_cons_of_mem _ member))
        (base.insert (key value) value)
    rw [List.foldl_cons, later, ExtTreeMap.getElem?_insert]
    by_cases again : wanted ∈ rest.map key
    · rw [if_pos again, List.map_cons, if_pos (List.mem_cons_of_mem _ again)]
    · rw [if_neg again]
      by_cases here : wanted = key value
      · subst here
        simp [faithful value List.mem_cons_self]
      · simp [again, here, Ne.symm here]

/-- A lookup after erasing many keys. -/
theorem getElem?_foldl_erase
    (erased : List κ) (base : ExtTreeMap κ ν cmp) (wanted : κ) :
    (erased.foldl (fun entries key => entries.erase key) base)[wanted]? =
      if wanted ∈ erased then none else base[wanted]? := by
  induction erased generalizing base with
  | nil => simp
  | cons key rest hypothesis =>
    rw [List.foldl_cons, hypothesis, ExtTreeMap.getElem?_erase]
    by_cases here : wanted = key
    · subst here
      simp
    · simp [here, Ne.symm here]

end

/-- After many insertions a key is there if it was, or was inserted. -/
theorem isSome_foldl_insert
    {α : Type*} (key : α → κ) (value : α → ν) (written : List α)
    (base : ExtTreeMap κ ν cmp) (wanted : κ) :
    (written.foldl
        (fun entries item => entries.insert (key item) (value item))
        base)[wanted]?.isSome = true ↔
      base[wanted]?.isSome = true ∨ ∃ item ∈ written, key item = wanted := by
  induction written generalizing base with
  | nil => simp
  | cons item rest hypothesis =>
    rw [List.foldl_cons, hypothesis, ExtTreeMap.getElem?_insert]
    by_cases here : key item = wanted
    · simp [here]
    · simp [here]

section

variable {σ : Type*} {touch : σ → κ → ν → σ} {read : σ → κ → Option β}
  (others :
    ∀ state key value other, other ≠ key → read (touch state key value) other = read state other)

include others

variable {listed : List (κ × ν)} {wanted : κ}

omit [TransCmp cmp] [LawfulEqCmp cmp] in
/-- Other keys leave a reading alone. -/
theorem read_foldl_absent
    (missing : ∀ value, (wanted, value) ∉ listed) (state : σ) :
    read (listed.foldl (fun s e => touch s e.1 e.2) state) wanted = read state wanted := by
  induction listed generalizing state with
  | nil => rfl
  | cons entry rest hypothesis =>
    rcases entry with ⟨key, held⟩
    have otherKey : wanted ≠ key := by
      rintro rfl
      exact missing held List.mem_cons_self
    rw [List.foldl_cons,
      hypothesis fun value member => missing value (List.mem_cons_of_mem _ member)]
    exact others state key held wanted otherKey

variable
  (own :
    ∀ left right key value, read left key = read right key →
      read (touch left key value) key = read (touch right key value) key)

include own

omit [TransCmp cmp] [LawfulEqCmp cmp] in
/-- Only its own key matters. -/
theorem read_foldl_present
    {value : ν} (distinct : listed.Pairwise fun left right => left.1 ≠ right.1)
    (member : (wanted, value) ∈ listed) (state : σ) :
    read (listed.foldl (fun s e => touch s e.1 e.2) state) wanted =
      read (touch state wanted value) wanted := by
  induction listed generalizing state with
  | nil => cases member
  | cons entry rest hypothesis =>
    rcases entry with ⟨key, held⟩
    rcases List.pairwise_cons.mp distinct with ⟨fresh, distinct⟩
    rw [List.foldl_cons]
    rcases List.mem_cons.mp member with here | later
    · cases here
      exact read_foldl_absent others (fun value member => fresh (wanted, value) member rfl) _
    · have otherKey : wanted ≠ key := fun same => fresh (wanted, value) later same.symm
      rw [hypothesis distinct later]
      exact own _ _ wanted value (others state key held wanted otherKey)

variable (touch read)

/--
A walk over the entries of a map in which each step touches one key of some
state: what the state shows at a key depends on that key's entry alone.
-/
theorem read_foldl (entries : ExtTreeMap κ ν cmp) (start : σ) (wanted : κ) :
    read (entries.foldl touch start) wanted = match entries[wanted]? with
      | none => read start wanted
      | some value => read (touch start wanted value) wanted := by
  have distinct : entries.toList.Pairwise (fun left right => left.1 ≠ right.1) := by
    refine List.Pairwise.imp ?_ entries.distinct_keys_toList
    rintro left right apart same
    rw [same] at apart
    exact apart ReflCmp.compare_self
  rw [ExtTreeMap.foldl_eq_foldl_toList]
  cases found : entries[wanted]? with
  | none =>
    refine read_foldl_absent others ?_ start
    simp [ExtTreeMap.mem_toList_iff_getElem?_eq_some, found]
  | some value =>
    refine read_foldl_present others own distinct ?_ start
    rw [ExtTreeMap.mem_toList_iff_getElem?_eq_some]
    exact found

end

/-! ## Weights -/

/-- The combination sees of each value only its weight. -/
theorem combine_map
    {ω : Type*} (op : β → β → β) (unit : β)
    {weight : κ → ν → β} {other : κ → ω → β} {view : κ → ν → ω} (entries : ExtTreeMap κ ν cmp)
    (agree :
      ∀ key value, entries[key]? = some value → weight key value = other key (view key value)) :
    combine op unit weight entries = combine op unit other (entries.map view) := by
  simp only [combine, ExtTreeMap.foldl_eq_foldl_toList, ExtTreeMap.toList_map, List.foldl_map]
  apply List.foldl_ext
  rintro total ⟨key, value⟩ member
  rw [agree key value (ExtTreeMap.mem_toList_iff_getElem?_eq_some.mp member)]

/-! ## Incremental updates -/

section

variable (op : β → β → β) (unit : β) (weight : κ → ν → β)
  [Std.Commutative op] [Std.Associative op]

/-- A permutation of the entries does not change the combination. -/
theorem foldl_eq_of_perm
    {left right : List (κ × ν)} (perm : left.Perm right) (start : β) :
    left.foldl (fun total entry => op total (weight entry.1 entry.2)) start =
      right.foldl (fun total entry => op total (weight entry.1 entry.2)) start := by
  have commutes :
      RightCommutative (fun (total : β) (entry : κ × ν) => op total (weight entry.1 entry.2)) := by
    constructor
    intro total first second
    ac_rfl
  exact perm.foldl_eq start

/-- The start can be pulled out. -/
theorem foldl_op_start (entries : List (κ × ν)) (start extra : β) :
    entries.foldl (fun total entry => op total (weight entry.1 entry.2)) (op start extra) =
      op
        (entries.foldl (fun total entry => op total (weight entry.1 entry.2)) start)
        extra := by
  induction entries generalizing start with
  | nil => rfl
  | cons entry rest hypothesis =>
    simp only [List.foldl_cons]
    rw [← hypothesis]
    congr 1
    ac_rfl

theorem combine_insert
    (entries : ExtTreeMap κ ν cmp) (key : κ) (value : ν) (absent : entries[key]? = none) :
    combine op unit weight (entries.insert key value) =
      op (combine op unit weight entries) (weight key value) := by
  simp only [combine, ExtTreeMap.foldl_eq_foldl_toList]
  rw [foldl_eq_of_perm op weight (toList_insert_perm entries key value absent),
    List.foldl_cons, foldl_op_start]

theorem combine_erase
    (entries : ExtTreeMap κ ν cmp) (key : κ) (value : ν) (present : entries[key]? = some value) :
    op (combine op unit weight (entries.erase key)) (weight key value) =
      combine op unit weight entries := by
  simp only [combine, ExtTreeMap.foldl_eq_foldl_toList]
  rw [foldl_eq_of_perm op weight (toList_erase_perm entries key value present),
    List.foldl_cons, foldl_op_start]

end

end Tinyray.Foundation
