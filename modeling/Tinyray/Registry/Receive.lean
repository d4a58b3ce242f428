import Tinyray.Registry.Pool

/-!
# What one beat can do to a pool

Every proof about the beat handler goes through the case analyses of this
module: `receive_cases` splits the handler into its three exits, `shape_ok`
says what the shape stage may touch, and `enroll_eq` lists the six effects
of an accepted beat.
-/

namespace Tinyray

open Std Foundation

namespace Pool

/-! ## Fields touched by the small updates -/

@[simp]
theorem bump_version (pool : Pool) (id : Nat) : (pool.bump id).version = pool.version + 1 := rfl

@[simp]
theorem bump_members (pool : Pool) (id : Nat) : (pool.bump id).members = pool.members := rfl

@[simp]
theorem bump_log (pool : Pool) (id : Nat) :
    (pool.bump id).log = push logCap pool.version id pool.log := rfl

/-! ## The stages of the handler -/

/-- What `shape` may set. -/
theorem shape_ok
    {pool shaped : Pool} {beat : Beat} (ok : pool.shape beat = .ok shaped) :
    shaped = pool ∨
      ∃ policy size methods,
        shaped =
          { pool with
            policy := policy
            size := size
            methods := methods
            cache := {} } := by
  unfold shape at ok
  split at ok
  · split at ok
    · cases ok
      exact Or.inr ⟨_, _, _, rfl⟩
    · cases ok
      exact Or.inl rfl
  · split at ok
    · cases ok
    · split at ok
      · cases ok
        exact Or.inr ⟨_, _, _, rfl⟩
      · cases ok
        exact Or.inl rfl

theorem shape_ok_fields
    {pool shaped : Pool} {beat : Beat} (ok : pool.shape beat = .ok shaped) :
    shaped.version = pool.version ∧ shaped.roster = pool.roster ∧ shaped.members = pool.members ∧
      shaped.high = pool.high ∧ shaped.gone = pool.gone ∧ shaped.log = pool.log := by
  rcases shape_ok ok with rfl | ⟨policy, size, methods, rfl⟩
  · exact ⟨rfl, rfl, rfl, rfl, rfl, rfl⟩
  · exact ⟨rfl, rfl, rfl, rfl, rfl, rfl⟩

/-- The ways a beat is received. -/
theorem receive_cases
    (pool : Pool) (now ttl : Nat) (beat : Beat) (stateBytes : Nat) :
    (∃ why,
      pool.shape beat = .error why ∧
        pool.receive now ttl beat stateBytes =
          { pool := pool, accepted := false, refused := some why }) ∨
    (∃ shaped,
      pool.shape beat = .ok shaped ∧ shaped.superseded beat = true ∧
        pool.receive now ttl beat stateBytes =
          { pool := shaped, accepted := false }) ∨
    (∃ shaped,
      pool.shape beat = .ok shaped ∧ shaped.superseded beat = false ∧
        pool.receive now ttl beat stateBytes =
          { pool := (shaped.enroll now ttl beat stateBytes).1.raise (shaped.watermark beat.id) beat
            accepted := true
            deferred := (shaped.enroll now ttl beat stateBytes).2 }) := by
  unfold receive
  cases shapeEq : pool.shape beat with
  | error why =>
    exact Or.inl ⟨why, rfl, rfl⟩
  | ok shaped =>
    cases decision : shaped.superseded beat with
    | true =>
      exact Or.inr (Or.inl ⟨shaped, rfl, decision, by simp [decision]⟩)
    | false =>
      exact Or.inr (Or.inr ⟨shaped, rfl, decision, by simp [decision]⟩)

/-- When nobody later has the seat. -/
theorem superseded_eq_false_iff (pool : Pool) (beat : Beat) :
    pool.superseded beat = false ↔
      (beat.exclusive = true → ∀ current ∈ pool.stored beat.id, current = beat.incarnation) ∧
      (beat.leaving = false → ∀ departed ∈ pool.gone[beat.id]?, departed.1 < beat.incarnation) ∧
      pool.watermark beat.id ≤ beat.incarnation ∧
      ∀ current ∈ pool.stored beat.id, current ≤ beat.incarnation := by
  simp only [superseded, occupied, straggler, Bool.or_eq_false_iff,
    decide_eq_false_iff_not, Nat.not_lt]
  cases pool.stored beat.id <;> cases pool.gone[beat.id]? <;>
    cases beat.exclusive <;> cases beat.leaving <;>
    simp [and_assoc]

/-! ## The effect of an accepted beat -/

/-- The record after the beat. -/
def seated (pool : Pool) (now ttl : Nat) (beat : Beat)
    (stateBytes : Nat) : Record :=
  let fresh : Record :=
    { member := memberOf beat
      publication := beat.publication
      expiresAt := now + ttl
      stateBytes := stateBytes }
  match pool.members[beat.id]? with
  | some record =>
    if record.member.incarnation = beat.incarnation then renewed record now ttl beat stateBytes
    else fresh
  | none => fresh

/-- The beat changes what is shown. -/
def moves (pool : Pool) (beat : Beat) : Bool :=
  match pool.members[beat.id]? with
  | some record =>
    beat.leaving || record.member.incarnation != beat.incarnation ||
      (newer record.publication beat.publication && differs record beat)
  | none => !beat.leaving

/-- The fingerprint after an accepted beat. -/
def rosterAfter (pool : Pool) (beat : Beat) : BitVec 64 :=
  match pool.members[beat.id]? with
  | some record =>
    if beat.leaving then pool.roster ^^^ record.member.rosterHash
    else if record.member.incarnation = beat.incarnation then pool.roster
    else pool.roster ^^^ record.member.rosterHash ^^^ (memberOf beat).rosterHash
  | none =>
    if beat.leaving then pool.roster
    else pool.roster ^^^ (memberOf beat).rosterHash

/-- An accepted beat, before its change is numbered. -/
def settled (pool : Pool) (now ttl : Nat) (beat : Beat)
    (stateBytes : Nat) : Pool :=
  { pool with
    members :=
      if beat.leaving then pool.members.erase beat.id
      else pool.members.insert beat.id (pool.seated now ttl beat stateBytes)
    roster := pool.rosterAfter beat
    gone :=
      if beat.leaving then pool.gone.insert beat.id (beat.incarnation, now + ttl)
      else pool.gone }

theorem erase_of_absent
    {entries : ExtTreeMap Nat Record} {id : Nat} (absent : entries[id]? = none) :
    entries.erase id = entries := by
  apply ExtTreeMap.ext_getElem?
  intro other
  grind

theorem insert_erase
    (entries : ExtTreeMap Nat Record) (id : Nat) (record : Record) :
    (entries.erase id).insert id record = entries.insert id record := by
  apply ExtTreeMap.ext_getElem?
  intro other
  grind

/-- Enrolling, in one expression. -/
theorem enroll_eq
    (pool : Pool) (now ttl : Nat) (beat : Beat) (stateBytes : Nat) :
    (pool.enroll now ttl beat stateBytes).1 =
      if pool.moves beat then (pool.settled now ttl beat stateBytes).bump beat.id
      else pool.settled now ttl beat stateBytes := by
  cases present : pool.members[beat.id]? with
  | none =>
    cases leaving : beat.leaving with
    | true =>
      simp [enroll, leave, moves, settled, rosterAfter, present, leaving, erase_of_absent]
    | false =>
      simp [enroll, arrive, moves, settled, rosterAfter, seated, present, leaving]
  | some record =>
    cases leaving : beat.leaving with
    | true =>
      simp [enroll, leave, moves, settled, rosterAfter, present, leaving, remove, bump]
    | false =>
      by_cases same : record.member.incarnation = beat.incarnation
      · simp only [enroll, renew, moves, settled, rosterAfter, seated, present, leaving, same]
        split_ifs <;> simp_all
      · simp [enroll, arrive, moves, settled, rosterAfter, seated,
          present, leaving, same, remove, insert_erase]

end Pool

end Tinyray
