import Tinyray.Codec.Shapes

/-!
# Large integers and the shape of a value

A value with integers of 64 bits comes back with its sets and tuples as lists,
and with the frozensets and tuples of its keys as tuples.  A large integer
changes this only for the set, or the keys of the mapping, that it is in: they
come back as they were.
-/

namespace Tinyray.Codec

open Tinyray.Foundation

/-! ## Where a large integer is -/

section

variable {items : List Py} {entries : List (Py × Py)}

theorem hasLarge_items : (Py.leavesOf items).any Py.large = items.any Py.hasLarge :=
  any_leavesOf Py.large

theorem hasLarge_dict :
    (Py.dict entries).hasLarge = entries.any fun entry => entry.1.hasLarge || entry.2.hasLarge := by
  unfold Py.hasLarge
  rw [Py.leaves]
  induction entries with
  | nil => rfl
  | cons entry rest hypothesis =>
    rw [Py.leavesOfEntries, List.any_append, List.any_append, hypothesis, List.any_cons]

@[simp]
theorem wires_eq : wires items = items.map Py.wire := by
  induction items with
  | nil => rfl
  | cons item rest hypothesis =>
    rw [wires, hypothesis, List.map_cons]

@[simp]
theorem wirePairs_eq : wirePairs entries = entries.map (Prod.map Py.wire Py.wire) := by
  induction entries with
  | nil => rfl
  | cons entry rest hypothesis =>
    rw [wirePairs, hypothesis]
    rfl

@[simp]
theorem prepareItems_eq (asKey : Bool) : prepareItems asKey items = items.map (prepare asKey) := by
  induction items with
  | nil => rfl
  | cons item rest hypothesis =>
    rw [prepareItems, hypothesis, List.map_cons]

@[simp]
theorem prepareEntries_eq (asKey : Bool) :
    prepareEntries asKey entries = entries.map (Prod.map (prepare asKey) (prepare false)) := by
  induction entries with
  | nil => rfl
  | cons entry rest hypothesis =>
    rw [prepareEntries, hypothesis]
    rfl

end

/-! ## Preparing -/

theorem hasLarge_int (value : Int) : (Py.int value).hasLarge = !fits64 value := by
  simp [Py.hasLarge, Py.leaves, Py.large]

variable {items : List Py} {value : Py}

theorem prepareItems_of_small
    (each : ∀ item ∈ items, item.hasLarge = false → prepare false item = item)
    (small : items.any Py.hasLarge = false) :
    prepareItems false items = items := by
  simp only [List.any_eq_false, Bool.not_eq_true] at small
  rw [prepareItems_eq, List.map_congr_left fun item listed => each item listed (small item listed)]
  exact List.map_id' items

/-- Small values are sent as they are. -/
theorem prepare_of_small (sound : Sound value)
    (small : value.hasLarge = false) :
    prepare false value = value := by
  induction sound with
  | int number =>
    rw [hasLarge_int, Bool.not_eq_false'] at small
    rw [prepare, if_pos small]
  | list each hypothesis =>
    rw [Py.hasLarge, Py.leaves, hasLarge_items] at small
    rw [prepare, prepareItems_of_small hypothesis small]
  | tuple each hypothesis =>
    rw [Py.hasLarge, Py.leaves, hasLarge_items] at small
    simp only [prepare, prepareItems_of_small hypothesis small, Bool.false_eq_true, if_false]
  | set each hashable distinct hypothesis =>
    rw [Py.hasLarge, Py.leaves, hasLarge_items] at small
    simp only [prepare, prepareItems_of_small hypothesis small,
      allHashable_eq, List.all_eq_true.2 hashable, if_true, gather_of_distinct distinct]
  | frozenset each hashable distinct hypothesis =>
    rw [Py.hasLarge, Py.leaves, hasLarge_items] at small
    simp only [prepare, prepareItems_of_small hypothesis small,
      allHashable_eq, List.all_eq_true.2 hashable, if_true,
      gather_of_distinct distinct, Bool.false_eq_true, if_false]
  | @dict entries keys values hashable distinct keysHypothesis
      valuesHypothesis =>
      rw [hasLarge_dict] at small
      simp only [List.any_eq_false, Bool.not_eq_true, Bool.or_eq_false_iff] at small
      have same : entries.map (Prod.map (prepare false) (prepare false)) = entries := by
        rw [List.map_congr_left fun entry listed =>
          show Prod.map (prepare false) (prepare false) entry = entry from
            Prod.ext
              (keysHypothesis entry listed (small entry listed).1)
              (valuesHypothesis entry listed (small entry listed).2)]
        exact List.map_id' entries
      have keysHashable : (entries.map Prod.fst).all Py.hashable = true := by
        rw [List.all_map, List.all_eq_true]
        exact hashable
      simp only [prepare, prepareEntries_eq, same, allHashable_eq,
        keysHashable, if_true, assemble_of_distinct distinct]
  | _ => rfl

theorem allHashable_prepareItems
    (each : ∀ item ∈ items, (prepare false item).hashable = !item.hasLarge) :
    Py.allHashable (prepareItems false items) = !items.any Py.hasLarge := by
  rw [prepareItems_eq, allHashable_eq, List.all_map, List.not_any_eq_all_not]
  exact all_congr each

/-- A prepared key is hashable if small. -/
theorem hashable_prepare {key : Py} (sound : Sound key)
    (hashable : key.hashable = true) :
    (prepare false key).hashable = !key.hasLarge := by
  induction sound with
  | int value =>
    rw [prepare, hasLarge_int, Bool.not_not]
    cases fits64 value <;> rfl
  | tuple each hypothesis =>
    simp only [Py.hashable, allHashable_eq, List.all_eq_true] at hashable
    rw [Py.hasLarge, Py.leaves, hasLarge_items,
      ← allHashable_prepareItems fun item listed => hypothesis item listed (hashable item listed)]
    rfl
  | frozenset each items distinct hypothesis =>
    rw [Py.hasLarge, Py.leaves, hasLarge_items,
      ← allHashable_prepareItems fun item listed => hypothesis item listed (items item listed)]
    simp only [prepare, Bool.false_eq_true, if_false]
    cases Py.allHashable (prepareItems false _) <;> rfl
  | list | set | dict => cases hashable
  | _ => rfl

theorem allHashable_prepared
    (each : ∀ item ∈ items, Sound item) (hashable : ∀ item ∈ items, item.hashable = true) :
    Py.allHashable (prepareItems false items) = !items.any Py.hasLarge :=
  allHashable_prepareItems fun item listed =>
    hashable_prepare (each item listed) (hashable item listed)

theorem gather_prepared
    (each : ∀ item ∈ items, Sound item)
    (distinct : items.Pairwise fun left right => left.same right = false)
    (small : items.any Py.hasLarge = false) :
    gather Py.same (prepareItems false items) = items := by
  rw [prepareItems_of_small (fun item listed => prepare_of_small (each item listed)) small,
    gather_of_distinct distinct]

variable {entries : List (Py × Py)} {leaves : List Py}

/-- Prepared keys are hashable if small. -/
theorem allHashable_preparedKeys
    (keys : ∀ entry ∈ entries, Sound entry.1)
    (hashable : ∀ entry ∈ entries, entry.1.hashable = true) :
    Py.allHashable ((prepareEntries false entries).map Prod.fst) =
      !(entries.map Prod.fst).any Py.hasLarge := by
  have fronts :
      (prepareEntries false entries).map Prod.fst = prepareItems false (entries.map Prod.fst) := by
    rw [prepareEntries_eq, prepareItems_eq, List.map_map, List.map_map]
    rfl
  rw [fronts]
  exact allHashable_prepared (List.forall_mem_map.2 keys) (List.forall_mem_map.2 hashable)

/-- Small keys stay distinct. -/
theorem assemble_prepared
    (keys : ∀ entry ∈ entries, Sound entry.1) (distinct : Distinct Py.same entries)
    (small : (entries.map Prod.fst).any Py.hasLarge = false) :
    assemble Py.same (prepareEntries false entries) =
      entries.map (Prod.map id (prepare false)) := by
  simp only [List.any_map, List.any_eq_false, Function.comp_apply, Bool.not_eq_true] at small
  have kept : prepareEntries false entries = entries.map (Prod.map id (prepare false)) := by
    rw [prepareEntries_eq]
    refine List.map_congr_left fun entry listed => ?_
    exact Prod.ext (prepare_of_small (keys entry listed) (small entry listed)) rfl
  rw [kept, assemble_of_distinct (distinct.map_values _)]

/-- No large integer is left. -/
theorem hasLarge_prepare (sound : Sound value) : (prepare false value).hasLarge = false := by
  have items {items : List Py}
      (each : ∀ item ∈ items, (prepare false item).hasLarge = false) :
      (Py.leavesOf (prepareItems false items)).any Py.large = false := by
    rw [hasLarge_items, prepareItems_eq, List.any_map]
    simp only [List.any_eq_false, Function.comp_apply, Bool.not_eq_true]
    exact each
  induction sound with
  | int value =>
    rw [prepare]
    split_ifs with fits
    · rw [hasLarge_int, fits]
      rfl
    · rfl
  | list each hypothesis | tuple each hypothesis =>
    exact items hypothesis
  | set each hashable distinct hypothesis =>
    simp only [prepare, allHashable_prepared each hashable]
    split_ifs with small
    · rw [Bool.not_eq_true'] at small
      rw [gather_prepared each distinct small, Py.hasLarge, Py.leaves, hasLarge_items, small]
    · rfl
  | frozenset each hashable distinct hypothesis =>
    simp only [prepare, Bool.false_eq_true, if_false, allHashable_prepared each hashable]
    split_ifs with small
    · rw [Bool.not_eq_true'] at small
      rw [gather_prepared each distinct small, Py.hasLarge, Py.leaves, hasLarge_items, small]
    · rfl
  | dict keys values hashable distinct keysHypothesis valuesHypothesis =>
    simp only [prepare, allHashable_preparedKeys keys hashable]
    split_ifs with small
    · rw [Bool.not_eq_true'] at small
      rw [assemble_prepared keys distinct small, hasLarge_dict, List.any_map]
      simp only [List.any_map, List.any_eq_false, Function.comp_apply, Bool.not_eq_true] at small
      simp only [List.any_eq_false, Function.comp_apply, Prod.map_fst,
        Prod.map_snd, id_eq, Bool.not_eq_true, Bool.or_eq_false_iff]
      exact fun entry listed => ⟨small entry listed, valuesHypothesis entry listed⟩
    · rfl
  | _ => rfl

/-! ## Reading back -/

section

variable {interpreter : Interpreter}
  {inKey : Bool} {value : Py}

theorem decodeItems_of {α : Type*} {items : List α}
    {packed : α → Wire} {read : α → Py}
    (each : ∀ item ∈ items, decode interpreter inKey (packed item) = some (read item)) :
    decodeItems interpreter inKey (items.map packed) = some (items.map read) := by
  induction items with
  | nil => rfl
  | cons item rest hypothesis =>
    rw [List.map_cons, decodeItems, each item List.mem_cons_self,
      hypothesis fun other listed => each other (List.mem_cons_of_mem _ listed)]
    rfl

/-- Entries are read one by one. -/
theorem decodeEntries_of {α β : Type*} {entries : List (α × β)}
    {packedKey : α → Wire} {packed : β → Wire} {readKey : α → Py} {read : β → Py}
    (keys :
      ∀ entry ∈ entries, decode interpreter inKey (packedKey entry.1) = some (readKey entry.1))
    (values : ∀ entry ∈ entries, decode interpreter false (packed entry.2) = some (read entry.2)) :
    decodeEntries interpreter inKey (entries.map (Prod.map packedKey packed)) =
      some (entries.map (Prod.map readKey read)) := by
  induction entries with
  | nil => rfl
  | cons entry rest hypothesis =>
    rw [List.map_cons, Prod.map, decodeEntries,
      keys entry List.mem_cons_self, values entry List.mem_cons_self,
      hypothesis
        (fun other listed => keys other (List.mem_cons_of_mem _ listed))
        (fun other listed => values other (List.mem_cons_of_mem _ listed))]
    rfl

theorem toDict_of {entries : List (Py × Py)}
    (hashable : ∀ entry ∈ entries, entry.1.hashable = true) :
    toDict entries = some (.dict (assemble Py.same entries)) := by
  rw [toDict, allHashable_eq, List.all_map, if_pos]
  exact List.all_eq_true.2 hashable

/-- What ordinary decoding makes of a value. -/
theorem decode_wire (sound : Sound value) (inKey : Bool)
    (hashable : inKey = true → value.hashable = true) :
    decode interpreter inKey value.wire = some (ordinary inKey value) := by
  induction sound generalizing inKey with
  | list each hypothesis
  | set each items distinct hypothesis =>
    cases inKey with
    | true => cases hashable rfl
    | false =>
      simp only [Py.wire, wires_eq, decode, ordinary, ordinaryItems_eq]
      rw [decodeItems_of fun item listed => hypothesis item listed false (by simp)]
      rfl
  | tuple each hypothesis =>
    simp only [Py.hashable, allHashable_eq, List.all_eq_true] at hashable
    simp only [Py.wire, wires_eq, decode, ordinary, ordinaryItems_eq]
    rw [decodeItems_of fun item listed =>
      hypothesis item listed inKey fun key => hashable key item listed]
    cases inKey <;> rfl
  | frozenset each items distinct hypothesis =>
    simp only [Py.wire, wires_eq, decode, ordinary, ordinaryItems_eq]
    rw [decodeItems_of fun item listed => hypothesis item listed inKey fun _ => items item listed]
    cases inKey <;> rfl
  | dict keys values keysHashable distinct keysHypothesis
      valuesHypothesis =>
      cases inKey with
      | true => cases hashable rfl
      | false =>
        simp only [Py.wire, wirePairs_eq, decode, Bool.false_eq_true,
          if_false, ordinary, ordinaryEntries_eq]
        rw [decodeEntries_of
          (fun entry listed => keysHypothesis entry listed true fun _ => keysHashable entry listed)
          (fun entry listed => valuesHypothesis entry listed false (by simp))]
        refine toDict_of ?_
        intro entry listed
        rcases List.mem_map.1 listed with ⟨origin, member, rfl⟩
        exact hashable_ordinary (keys origin member) (keysHashable origin member)
  | _ => rfl

/-- A written integer is read back. -/
theorem readInt_intText {value : Int}
    (written : interpreter.converts (digitsOf value.natAbs) = true) :
    interpreter.readInt (intText value) = some value := by
  have digits : interpreter.readDigits (digitsOf value.natAbs) = some value.natAbs := by
    rw [Interpreter.readDigits, isDigits_digitsOf, written, digitsValue_digitsOf]
    rfl
  unfold intText
  split_ifs with negative
  · rw [List.singleton_append, Interpreter.readInt, digits,
      Option.map_some, Option.some.injEq, Int.ofNat_eq_natCast]
    omega
  · have unsigned : '-' ∉ digitsOf value.natAbs := not_mem_digitsOf rfl value.natAbs
    rw [List.nil_append]
    unfold Interpreter.readInt
    split
    · rename_i rest equal
      rw [equal] at unsigned
      exact absurd List.mem_cons_self unsigned
    · rw [digits, Option.map_some, Option.some.injEq, Int.ofNat_eq_natCast]
      omega

section

variable {items : List Py} {asKey inKey : Bool} {read : Py → Py}

theorem decodeItems_prepared
    (each : ∀ item ∈ items, decode interpreter inKey (prepare asKey item).wire = some (read item)) :
    decodeItems interpreter inKey (wires (prepareItems asKey items)) = some (items.map read) := by
  rw [prepareItems_eq, wires_eq, List.map_map]
  exact decodeItems_of each

theorem decode_array_prepared
    (each : ∀ item ∈ items, decode interpreter false (prepare asKey item).wire = some (read item)) :
    decode interpreter false (.array (wires (prepareItems asKey items))) =
      some (.list (items.map read)) := by
  rw [decode, decodeItems_prepared each]
  rfl

variable {entries : List (Py × Py)} {readKey : Py → Py}

/-- Prepared entries, one by one. -/
theorem decodeEntries_prepared
    (keys :
      ∀ entry ∈ entries,
        decode interpreter inKey (prepare asKey entry.1).wire = some (readKey entry.1))
    (values :
      ∀ entry ∈ entries,
        decode interpreter false (prepare false entry.2).wire = some (read entry.2)) :
    decodeEntries interpreter inKey (wirePairs (prepareEntries asKey entries)) =
      some (entries.map (Prod.map readKey read)) := by
  rw [prepareEntries_eq, wirePairs_eq, List.map_map]
  change
    decodeEntries interpreter inKey
        (entries.map
          (Prod.map (fun key => (prepare asKey key).wire)
            (fun value => (prepare false value).wire))) =
      _
  exact decodeEntries_of keys values

end

/-- A prepared key comes back. -/
theorem decode_key {key : Py} (sound : Sound key)
    (hashable : key.hashable = true)
    (written : ∀ leaf ∈ key.leaves, interpreter.writes leaf = true) :
    decode interpreter false (prepare true key).wire = some key := by
  induction sound with
  | int value =>
    rw [prepare]
    split_ifs with fits
    · rfl
    · have converts := written _ List.mem_cons_self
      rw [Interpreter.writes, Bool.or_eq_true] at converts
      rw [Py.wire, decode, readInt_intText (converts.resolve_left fits)]
      rfl
  | tuple each hypothesis =>
    simp only [Py.hashable, allHashable_eq, List.all_eq_true] at hashable
    have read :=
      decodeItems_prepared fun item listed =>
        hypothesis item listed (hashable item listed) (leaves_items written item listed)
    rw [List.map_id'] at read
    simp only [prepare, if_true, Py.wire, decode]
    rw [read]
    rfl
  | frozenset each hashables distinct hypothesis =>
    have read :=
      decodeItems_prepared fun item listed =>
        hypothesis item listed (hashables item listed) (leaves_items written item listed)
    rw [List.map_id'] at read
    simp only [prepare, if_true, Py.wire, decode]
    rw [read]
    simp only [Option.bind_eq_bind, Option.bind_some,
      Bool.false_eq_true, if_false, iterate, allHashable_eq,
      List.all_eq_true.2 hashables, if_true, gather_of_distinct distinct]
  | list | set | dict => cases hashable
  | _ => rfl

section

variable {items : List Py}

/-- A prepared set comes back. -/
theorem decode_bigSet (each : ∀ item ∈ items, Sound item)
    (hashable : ∀ item ∈ items, item.hashable = true)
    (distinct : items.Pairwise fun left right => left.same right = false)
    (written : ∀ leaf ∈ Py.leavesOf items, interpreter.writes leaf = true) :
    decode interpreter false (.bigSet (wires (prepareItems true items))) = some (.set items) := by
  have read :=
    decodeItems_prepared fun item listed =>
      decode_key (each item listed) (hashable item listed) (leaves_items written item listed)
  rw [List.map_id'] at read
  rw [decode, read]
  simp only [Option.bind_eq_bind, Option.bind_some, allHashable_eq,
    List.all_eq_true.2 hashable, if_true, gather_of_distinct distinct]

theorem decode_array_wires (each : ∀ item ∈ items, Sound item) :
    decode interpreter false (.array (wires items)) =
      some (.list (items.map (ordinary false))) := by
  rw [decode, wires_eq,
    decodeItems_of fun item listed => decode_wire (each item listed) false nofun]
  rfl

end

/-- A prepared value comes back, but for keys. -/
theorem decode_prepared (sound : Sound value)
    (written : ∀ leaf ∈ value.leaves, interpreter.writes leaf = true) :
    decode interpreter false (prepare false value).wire = some (kept value) := by
  induction sound with
  | int value =>
    exact decode_key (.int value) rfl written
  | list each hypothesis =>
    rw [prepare, Py.wire, kept, keptItems_eq]
    exact decode_array_prepared fun item listed =>
      hypothesis item listed (leaves_items written item listed)
  | tuple each hypothesis =>
    simp only [prepare, Bool.false_eq_true, if_false, Py.wire, kept, keptItems_eq]
    exact decode_array_prepared fun item listed =>
      hypothesis item listed (leaves_items written item listed)
  | set each hashable distinct hypothesis =>
    simp only [prepare, kept, allHashable_prepared each hashable]
    cases large : List.any _ Py.hasLarge with
    | true =>
      simp only [Bool.not_true, Bool.false_eq_true, if_false, if_true]
      exact decode_bigSet each hashable distinct written
    | false =>
      simp only [Bool.not_false, Bool.false_eq_true, if_false, if_true,
        gather_prepared each distinct large, ordinaryItems_eq]
      exact decode_array_wires each
  | frozenset each hashable distinct hypothesis =>
    simp only [prepare, kept, allHashable_prepared each hashable, Bool.false_eq_true, if_false]
    cases large : List.any _ Py.hasLarge with
    | true =>
      simp only [Bool.not_true, Bool.false_eq_true, if_false, if_true]
      exact decode_bigSet each hashable distinct written
    | false =>
      simp only [Bool.not_false, Bool.false_eq_true, if_false, if_true,
        gather_prepared each distinct large, ordinaryItems_eq]
      exact decode_array_wires each
  | @dict entries keys values hashable distinct keysHypothesis
      valuesHypothesis =>
      have leaves := leaves_entries written
      have readValues (entry : Py × Py) (listed : entry ∈ entries) :=
        valuesHypothesis entry listed (leaves entry listed).2
      simp only [prepare, kept, keptEntries_eq, allHashable_preparedKeys keys hashable]
      cases large : List.any _ Py.hasLarge with
      | true =>
        simp only [Bool.not_true, Bool.false_eq_true, if_false, if_true]
        have read :
            decodeEntries interpreter false (wirePairs (prepareEntries true entries)) =
              some (entries.map (Prod.map id kept)) :=
          decodeEntries_prepared
            (fun entry listed =>
              decode_key (keys entry listed) (hashable entry listed) (leaves entry listed).1)
            readValues
        simp only [Py.wire, decode]
        rw [read, Option.bind_eq_bind, Option.bind_some, toDict_of,
          assemble_of_distinct (distinct.map_values kept)]
        intro entry listed
        rcases List.mem_map.1 listed with ⟨origin, member, rfl⟩
        exact hashable origin member
      | false =>
        have read :
            decodeEntries interpreter true
                (entries.map (Prod.map Py.wire fun value => (prepare false value).wire)) =
              some (entries.map (Prod.map (ordinary true) kept)) :=
          decodeEntries_of
            (fun entry listed =>
              decode_wire (keys entry listed) true fun _ => hashable entry listed)
            readValues
        simp only [Bool.not_false, Bool.false_eq_true, if_false, if_true,
          assemble_prepared keys distinct large, Py.wire, wirePairs_eq, List.map_map, decode]
        refine (congrArg (Option.bind · toDict) read).trans ?_
        rw [Option.bind_some, toDict_of]
        intro entry listed
        rcases List.mem_map.1 listed with ⟨origin, member, rfl⟩
        exact hashable_ordinary (keys origin member) (hashable origin member)
  | _ => rfl

end

/-! ## Sending -/

/-- Small values lose what they always lose. -/
theorem kept_of_small (sound : Sound value)
    (small : value.hasLarge = false) :
    kept value = ordinary false value := by
  refine kept_of_plain sound ?_
  have all {items : List Py}
      (each : ∀ item ∈ items, item.hasLarge = false → plain item = true)
      (small : (Py.leavesOf items).any Py.large = false) :
      items.all plain = true := by
    rw [hasLarge_items, List.any_eq_false] at small
    rw [List.all_eq_true]
    exact fun item listed => each item listed (Bool.eq_false_iff.2 (small item listed))
  induction sound with
  | list each hypothesis | tuple each hypothesis =>
    rw [plain, allPlain_eq]
    exact all hypothesis small
  | set each hashable distinct hypothesis
  | frozenset each hashable distinct hypothesis =>
    rw [plain, ← hasLarge_items]
    exact congrArg not small
  | @dict entries keys values hashable distinct _ valuesHypothesis =>
    rw [hasLarge_dict] at small
    simp only [List.any_eq_false, Bool.not_eq_true, Bool.or_eq_false_iff] at small
    have smallKeys : (entries.map Prod.fst).any Py.hasLarge = false := by
      simp only [List.any_map, List.any_eq_false, Function.comp_apply, Bool.not_eq_true]
      exact fun entry listed => (small entry listed).1
    rw [plain, smallKeys, allValuesPlain_eq, Bool.not_false,
      Bool.true_or, Bool.and_true, List.all_eq_true]
    exact fun entry listed => valuesHypothesis entry listed (small entry listed).2
  | _ => rfl

/-- What arrives is `kept`. -/
theorem sends_eq {interpreter : Interpreter}
    (sound : Sound value) (written : ∀ leaf ∈ value.leaves, interpreter.writes leaf = true) :
    interpreter.sends value = some (kept value) := by
  rw [Interpreter.sends, Interpreter.dumps, encode]
  cases large : value.leaves.any Py.large with
  | false =>
    rw [kept_of_small sound large]
    exact decode_wire sound false nofun
  | true =>
    have fits := hasLarge_prepare sound
    rw [Py.hasLarge] at fits
    simp only [if_true, List.all_eq_true.2 written, encode,
      prepareBigints, fits, Bool.false_eq_true, if_false]
    exact decode_prepared sound written

/-- Replacing integers works leaf by leaf. -/
theorem leaves_replace (change : Int → Int)
    (sound : Sound value) :
    (value.replace change).leaves = value.leaves.map (Py.replace change) := by
  have all {items : List Py}
      (each : ∀ item ∈ items, (item.replace change).leaves = item.leaves.map (Py.replace change)) :
      Py.leavesOf (replaceItems change items) = (Py.leavesOf items).map (Py.replace change) := by
    induction items with
    | nil => rfl
    | cons item rest hypothesis =>
      rw [replaceItems, Py.leavesOf, Py.leavesOf, List.map_append, each item List.mem_cons_self,
        hypothesis fun other listed => each other (List.mem_cons_of_mem _ listed)]
  induction sound with
  | list each hypothesis | tuple each hypothesis
  | set each hashable distinct hypothesis
  | frozenset each hashable distinct hypothesis =>
    exact all hypothesis
  | @dict entries keys values hashable distinct keysHypothesis
      valuesHypothesis =>
      clear keys values hashable distinct
      rw [Py.replace, Py.leaves, Py.leaves]
      induction entries with
      | nil => rfl
      | cons entry rest hypothesis =>
        rw [replaceEntries, Py.leavesOfEntries, Py.leavesOfEntries,
          List.map_append, List.map_append, keysHypothesis entry List.mem_cons_self,
          valuesHypothesis entry List.mem_cons_self,
          hypothesis
            (fun other listed => keysHypothesis other (List.mem_cons_of_mem _ listed))
            (fun other listed => valuesHypothesis other (List.mem_cons_of_mem _ listed))]
  | _ => rfl

/-- No leaf is large after it. -/
theorem small_replace {change : Int → Int}
    (sound : Sound value) (oneToOne : OneToOne change value.leaves) :
    ∀ leaf ∈ (value.replace change).leaves, leaf.large = false := by
  rw [leaves_replace change sound]
  intro leaf listed
  rcases List.mem_map.1 listed with ⟨origin, member, rfl⟩
  cases origin with
  | int number =>
    rw [Py.replace, Py.large, oneToOne.fits number member]
    rfl
  | _ => rfl

/--
A value and the value with its integers replaced by integers of 64 bits come
back in the same shape, up to the sets and keys that large integers keep as
they are: read as arrays, what comes back differs in the integers only.  It
does so as it is if no set holds a large integer, and no mapping with a large
integer in a key has a frozenset in a key.
-/
theorem large_integers_keep_shape
    (interpreter : Interpreter) (message : Message)
    (written : ∀ leaf ∈ message.value.leaves, interpreter.writes leaf = true)
    (change : Int → Int) (oneToOne : OneToOne change message.value.leaves) :
    ∃ result,
      interpreter.sends message.value = some result ∧
        interpreter.sends (message.value.replace change) =
          some ((ordinary false result).replace change) ∧
        (plain message.value = true →
          interpreter.sends (message.value.replace change) = some (result.replace change)) := by
  rcases message with ⟨value, sound⟩
  have among : value.Among value.leaves := fun _ member => member
  have replaced := sound_replace oneToOne sound among
  have small := small_replace sound oneToOne
  have writes : ∀ leaf ∈ (value.replace change).leaves, interpreter.writes leaf = true := by
    intro leaf listed
    have fits := small leaf listed
    cases leaf with
    | int number =>
      rw [Py.large, Bool.not_eq_false'] at fits
      rw [Interpreter.writes, fits, Bool.true_or]
    | _ => rfl
  have none : (value.replace change).hasLarge = false := by
    rw [Py.hasLarge, List.any_eq_false]
    exact fun leaf listed => Bool.eq_false_iff.1 (small leaf listed)
  have counterpart :
      interpreter.sends (value.replace change) = some ((ordinary false value).replace change) := by
    rw [sends_eq replaced writes, kept_of_small replaced none,
      ordinary_replace oneToOne sound among]
  refine ⟨kept value, sends_eq sound written, ?_, ?_⟩
  · rw [counterpart, ordinary_kept sound]
  · intro isPlain
    rw [counterpart, kept_of_plain sound isPlain]

private def usual : Interpreter := ⟨4300⟩

/-- Every integer among the leaves is this one; there are no others but texts. -/
private def OnlyLarge (leaves : List Py) : Prop :=
  ∀ leaf ∈ leaves, leaf = .int (2 ^ 70) ∨ ∃ text, leaf = .str text

private theorem OnlyLarge.writes (only : OnlyLarge leaves) :
    ∀ leaf ∈ leaves, usual.writes leaf = true := by
  intro leaf listed
  rcases only leaf listed with rfl | ⟨text, rfl⟩
  · decide +kernel
  · rfl

/-- A constant is one-to-one on one leaf. -/
private theorem OnlyLarge.oneToOne
    (only : OnlyLarge leaves) : OneToOne (fun _ => 1) leaves where
  fits := fun _ _ => by decide
  injective := by
    intro left right leftListed rightListed _
    have large (value : Int) (listed : .int value ∈ leaves) : value = 2 ^ 70 := by
      simpa using only _ listed
    rw [large left leftListed, large right rightListed]
  bools := by
    intro value truth _ listed
    simpa using only _ listed

/-- A mapping with a large integer in a key and in a value. -/
theorem large_integer_in_key :
    ∃ result,
      usual.sends
          (.dict
            [(.tuple [.int (2 ^ 70), .str "a"], .list [.str "b", .int (2 ^ 70)])]) = some result ∧
        usual.sends (.dict [(.tuple [.int 1, .str "a"], .list [.str "b", .int 1])]) =
          some (result.replace fun _ => 1) := by
  have items (text : String) :
      (∀ item ∈ [Py.int (2 ^ 70), .str text], Sound item) ∧
        ∀ item ∈ [Py.str text, .int (2 ^ 70)], Sound item := by
    simp [Sound.int, Sound.str]
  have sound :
      Sound (.dict [(.tuple [.int (2 ^ 70), .str "a"], .list [.str "b", .int (2 ^ 70)])]) := by
    refine .dict ?_ ?_ ?_ (List.pairwise_singleton _ _) <;>
      intro entry listed <;> rw [List.mem_singleton.1 listed]
    · exact .tuple (items "a").1
    · exact .list (items "b").2
    · rfl
  have only : OnlyLarge [.int (2 ^ 70), .str "a", .str "b", .int (2 ^ 70)] := by
    simp [OnlyLarge]
  rcases large_integers_keep_shape usual ⟨_, sound⟩ only.writes (fun _ => 1) only.oneToOne with
    ⟨result, sent, -, shape⟩
  exact ⟨result, sent, shape rfl⟩

/-- A set with a large integer comes back as a set, a small one as a list. -/
theorem large_integer_keeps_set :
    OneToOne (fun _ => 1) (Py.set [.int (2 ^ 70)]).leaves ∧
      usual.sends (.set [.int (2 ^ 70)]) = some (.set [.int (2 ^ 70)]) ∧
      usual.sends ((Py.set [.int (2 ^ 70)]).replace fun _ => 1) = some (.list [.int 1]) := by
  have sound (value : Int) : Sound (.set [.int value]) := by
    refine .set ?_ ?_ (List.pairwise_singleton _ _) <;>
      intro item listed <;> rw [List.mem_singleton.1 listed]
    · exact .int _
    · rfl
  have writes : ∀ leaf ∈ (Py.set [.int 1]).leaves, usual.writes leaf = true := by
    intro leaf listed
    rw [List.mem_singleton.1 listed]
    decide
  have only : OnlyLarge [.int (2 ^ 70)] := by
    simp [OnlyLarge]
  refine ⟨only.oneToOne, ?_, ?_⟩
  · exact sends_eq (sound (2 ^ 70)) only.writes
  · exact sends_eq (sound 1) writes

end Tinyray.Codec
