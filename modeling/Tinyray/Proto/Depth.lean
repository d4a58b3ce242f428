import Mathlib.Data.List.Nodup
import Tinyray.Foundation.Worklist
import Tinyray.Proto.Value

/-!
# The depth of a value

The registry and the client refuse values that are nested too deeply.  The
check must not recurse itself, so it keeps the nodes it has not looked at on a
stack, each with its depth.

Here the check is compared with plain recursion: `height` is how far the
deepest node lies below the root, and `located` has every node with the way
that leads to it.
-/

namespace Tinyray

open Tinyray.Foundation

/-- `MAX_VALUE_DEPTH` -/
def maxValueDepth : Nat := 128

namespace Value

/-! ## The check -/

/-- What a visit pushes. -/
def pushed (node : Value × Nat) : List (Value × Nat) :=
  node.1.children.map fun value => (value, node.2 + 1)

/-- The search stops here. -/
def tooDeep (node : Value × Nat) : Bool := maxValueDepth < node.2

/-- The search for a deep value. -/
def depthSearch (rounds : Nat) (value : Value) : Option (Bool × List (Value × Nat)) :=
  search pushed tooDeep rounds [(value, 0)]

/-- `value_within_depth_limit`, if its loop ends after so many rounds. -/
def withinDepthLimit (rounds : Nat) (value : Value) : Option Bool :=
  (depthSearch rounds value).map Prod.fst

/-! ## Depth by recursion -/

mutual

/-- How many containers the deepest node lies below the root. -/
def height : Value → Nat
  | .array items => heightOfItems items
  | .object fields => heightOfFields fields
  | _ => 0

def heightOfItems : List Value → Nat
  | [] => 0
  | item :: rest => max (height item + 1) (heightOfItems rest)

def heightOfFields : List (String × Value) → Nat
  | [] => 0
  | (_, value) :: rest => max (height value + 1) (heightOfFields rest)

end

mutual

/-- Every node, with the positions of the children that lead to it. -/
def located : Value → List (List Nat × Value)
  | .array items => ([], .array items) :: locatedItems 0 items
  | .object fields => ([], .object fields) :: locatedFields 0 fields
  | value => [([], value)]

def locatedItems : Nat → List Value → List (List Nat × Value)
  | _, [] => []
  | position, item :: rest =>
    (located item).map (fun node => (position :: node.1, node.2)) ++
      locatedItems (position + 1) rest

def locatedFields : Nat → List (String × Value) → List (List Nat × Value)
  | _, [] => []
  | position, (_, value) :: rest =>
    (located value).map (fun node => (position :: node.1, node.2)) ++
      locatedFields (position + 1) rest

end

/-- The node that a way leads to. -/
def descend : Value → List Nat → Option Value
  | value, [] => some value
  | value, position :: way => value.children[position]?.bind fun child => child.descend way

/-! ## Fields as items -/

theorem heightOfFields_eq (fields : List (String × Value)) :
    heightOfFields fields = heightOfItems (fields.map Prod.snd) := by
  induction fields with
  | nil => rfl
  | cons field rest hypothesis =>
    obtain ⟨name, value⟩ := field
    rw [heightOfFields, List.map_cons, heightOfItems, hypothesis]

theorem height_eq (value : Value) : value.height = heightOfItems value.children := by
  cases value with
  | array items => rw [height, children]
  | object fields => rw [height, children, heightOfFields_eq]
  | _ => rfl

theorem locatedFields_eq (position : Nat)
    (fields : List (String × Value)) :
    locatedFields position fields = locatedItems position (fields.map Prod.snd) := by
  induction fields generalizing position with
  | nil => rfl
  | cons field rest hypothesis =>
    obtain ⟨name, value⟩ := field
    rw [locatedFields, List.map_cons, locatedItems, hypothesis]

theorem located_eq (value : Value) :
    value.located = ([], value) :: locatedItems 0 value.children := by
  cases value with
  | array items => rw [located, children]
  | object fields => rw [located, children, locatedFields_eq]
  | _ => rfl

/-! ## The ways to the nodes -/

variable {position limit : Nat} {items : List Value} {value : Value}

/-- Which nodes items have. -/
theorem mem_locatedItems
    {found : List Nat × Value} :
    found ∈ locatedItems position items ↔
      ∃ (offset : Nat) (item : Value) (node : List Nat × Value),
        items[offset]? = some item ∧ node ∈ item.located ∧
          found = ((position + offset) :: node.1, node.2) := by
  induction items generalizing position with
  | nil => simp [locatedItems]
  | cons item rest hypothesis =>
    rw [locatedItems, List.mem_append, List.mem_map, hypothesis]
    constructor
    · rintro (⟨node, held, rfl⟩ | ⟨offset, other, node, listed, held, rfl⟩)
      · exact ⟨0, item, node, rfl, held, rfl⟩
      · refine ⟨offset + 1, other, node, listed, held, ?_⟩
        rw [Nat.add_right_comm, Nat.add_assoc]
    · rintro ⟨offset, other, node, listed, held, rfl⟩
      cases offset with
      | zero =>
        cases listed
        exact .inl ⟨node, held, rfl⟩
      | succ offset =>
        refine .inr ⟨offset, other, node, listed, held, ?_⟩
        rw [Nat.add_right_comm, Nat.add_assoc]

theorem descend_of_mem_located
    {node : List Nat × Value} (held : node ∈ value.located) :
    value.descend node.1 = some node.2 := by
  induction value using children_induction generalizing node with
  | grow value hypothesis =>
    rw [located_eq, List.mem_cons, mem_locatedItems] at held
    rcases held with rfl | ⟨offset, child, node, listed, held, rfl⟩
    · rfl
    · have reached := hypothesis child (List.mem_of_getElem? listed) held
      rw [Nat.zero_add, descend, listed, Option.bind_some, reached]

/-- Places of items are distinct. -/
theorem nodup_locatedItems
    (nodup : ∀ item ∈ items, (item.located.map Prod.fst).Nodup) :
    ((locatedItems position items).map Prod.fst).Nodup := by
  induction items generalizing position with
  | nil => exact List.nodup_nil
  | cons item rest hypothesis =>
    have first := nodup item List.mem_cons_self
    have later :=
      @hypothesis (position + 1) fun other listed => nodup other (List.mem_cons_of_mem _ listed)
    have ways :
        ((item.located.map fun node => (position :: node.1, node.2)).map Prod.fst) =
          (item.located.map Prod.fst).map (List.cons position) := by
      simp [Function.comp_def]
    rw [locatedItems, List.map_append, ways, List.nodup_append]
    refine ⟨List.Nodup.map List.cons_injective first, later, ?_⟩
    -- the ways through later children start with a later position
    intro way here other there
    rcases List.mem_map.1 here with ⟨way, -, rfl⟩
    rcases List.mem_map.1 there with ⟨found, held, rfl⟩
    rcases mem_locatedItems.1 held with ⟨offset, child, node, -, -, rfl⟩
    intro same
    rw [List.cons.injEq] at same
    omega

theorem nodup_located (value : Value) : (value.located.map Prod.fst).Nodup := by
  induction value using children_induction with
  | grow value hypothesis =>
    rw [located_eq, List.map_cons, List.nodup_cons]
    refine ⟨?_, nodup_locatedItems hypothesis⟩
    intro listed
    rcases List.mem_map.1 listed with ⟨found, held, empty⟩
    rcases mem_locatedItems.1 held with ⟨offset, child, node, -, -, rfl⟩
    cases empty

/-! ## The height -/

theorem heightOfItems_le_iff  :
    heightOfItems items ≤ limit ↔ ∀ item ∈ items, item.height + 1 ≤ limit := by
  induction items with
  | nil => simp [heightOfItems]
  | cons item rest hypothesis =>
    rw [heightOfItems, Nat.max_le, hypothesis, List.forall_mem_cons]

/-- The height is the longest place. -/
theorem height_le_iff  : value.height ≤ limit ↔ ∀ node ∈ value.located, node.1.length ≤ limit := by
  induction value using children_induction generalizing limit with
  | grow value hypothesis =>
    rw [height_eq, heightOfItems_le_iff, located_eq, List.forall_mem_cons]
    constructor
    · intro low
      refine ⟨Nat.zero_le _, ?_⟩
      intro found held
      rcases mem_locatedItems.1 held with ⟨offset, child, node, listed, inside, rfl⟩
      have listed := List.mem_of_getElem? listed
      have deep := low child listed
      have short := (@hypothesis child listed (limit - 1)).1 (by omega) node inside
      simp only [List.length_cons]
      omega
    · rintro ⟨-, short⟩ child listed
      obtain ⟨offset, position⟩ := List.mem_iff_getElem?.1 listed
      have within (node : List Nat × Value)
          (inside : node ∈ child.located) :
          node.1.length + 1 ≤ limit :=
        short _ (mem_locatedItems.2 ⟨offset, child, node, position, inside, rfl⟩)
      have root := within ([], child) (by simp [located_eq child])
      have low :=
        (@hypothesis child listed (limit - 1)).2
          fun node inside => by
            have := within node inside
            omega
      simp only [List.length_nil] at root
      omega

/-! ## The check is exact -/

/-- The nodes below a node that is on the stack, as they are put there. -/
def nodes (node : Value × Nat) : List (Value × Nat) :=
  node.1.located.map fun found => (found.2, node.2 + found.1.length)

/-- Places and depths of items. -/
theorem map_locatedItems (position depth : Nat) (items : List Value) :
    (locatedItems position items).map (fun found => (found.2, depth + found.1.length)) =
      (items.map fun item => (item, depth + 1)).flatMap nodes := by
  induction items generalizing position with
  | nil => rfl
  | cons item rest hypothesis =>
    rw [locatedItems, List.map_append, hypothesis,
      List.map_cons, List.flatMap_cons, nodes, List.map_map]
    congr 1
    apply List.map_congr_left
    intro node _
    simp only [Function.comp, List.length_cons]
    rw [Nat.add_right_comm, Nat.add_assoc]

theorem nodes_unfolds (node : Value × Nat) : nodes node = node :: (pushed node).flatMap nodes := by
  rw [nodes, located_eq, List.map_cons, map_locatedItems]
  rfl

/--
However deep or large a value is, the check comes to an answer within as many
rounds as the value has nodes, and the answer is whether the value is not too
high.  The nodes it looked at are at the ends of different ways.
-/
theorem depth_check_exact
    (value : Value) {rounds : Nat} (enough : value.located.length ≤ rounds) :
    withinDepthLimit rounds value = some (decide (value.height ≤ maxValueDepth)) ∧
      ∃ (visited : List (Value × Nat)) (ways : List (List Nat)),
        (depthSearch rounds value).map Prod.snd = some visited ∧ ways.Nodup ∧
          visited.map some =
            ways.map fun way => (value.descend way).map fun node => (node, way.length) := by
  have listed :
      [(value, 0)].flatMap nodes = value.located.map fun found => (found.2, found.1.length) := by
    simp [nodes]
  have fits : ([(value, 0)].flatMap nodes).length ≤ rounds := by
    rw [listed, List.length_map]
    exact enough
  obtain ⟨visited, found, among⟩ := search_spec nodes_unfolds tooDeep fits
  have answer :
      ([(value, 0)].flatMap nodes).all (fun node => !tooDeep node) =
        decide (value.height ≤ maxValueDepth) := by
    rw [Bool.eq_iff_iff, List.all_eq_true, decide_eq_true_iff,
      height_le_iff, listed, List.forall_mem_map]
    simp [tooDeep]
  rw [answer] at found
  rw [listed] at among
  rcases exists_sources_of_subperm among with ⟨picked, fewer, rfl⟩
  refine ⟨by rw [withinDepthLimit, depthSearch, found]; rfl,
    _, picked.map Prod.fst, by rw [depthSearch, found]; rfl, ?_, ?_⟩
  · rcases fewer with ⟨kept, perm, sublist⟩
    exact (perm.map Prod.fst).nodup_iff.1 ((value.nodup_located).sublist (sublist.map Prod.fst))
  · rw [List.map_map, List.map_map]
    apply List.map_congr_left
    intro node held
    simp only [Function.comp]
    rw [descend_of_mem_located (fewer.subset held)]
    rfl

theorem depth_check_exact_for_pair :
    (array [null, object [("nested", null)]]).located.length ≤ 4 ∧
      withinDepthLimit 4 (array [null, object [("nested", null)]]) = some true :=
  ⟨by decide, (depth_check_exact (array [null, object [("nested", null)]]) (by decide)).1⟩

example :
    let nest := fun value => object [("nested", value)]
    withinDepthLimit 130 (Nat.repeat nest 128 null) = some true ∧
      withinDepthLimit 130 (Nat.repeat nest 129 null) = some false := by
  decide +kernel

end Value

end Tinyray
