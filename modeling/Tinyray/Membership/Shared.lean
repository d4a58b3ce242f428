import Tinyray.Membership.Cache

/-!
# The client's side of a beat

`Shared` is what the heartbeat loop and the callers of a client share: what
the client publishes about itself, the pools it watches and its copies of
them.  `compose` makes a beat of it and `handle` takes in the answer.

Bells, counters of beats and failures, and sockets have no part in either and
are left out.
-/

namespace Tinyray

open Std Foundation

/-- What a member tells its pool about itself. -/
structure Published where
  state : Value
  ready : Bool
  url : Option String
  /-- Which publication this is. -/
  version : Nat

/-- What the client's threads share. -/
structure Shared where
  pool : String
  id : Nat
  slot : Option Nat
  incarnation : Nat
  policy : String
  size : Option Nat
  methods : List String
  published : Published
  leaving : Bool
  exclusive : Bool
  watch : List String
  cache : ExtTreeMap String CachedPool
  accepted : Bool
  /-- Why the registry refused, if it gave a reason. -/
  refused : Option Disagreement
  /-- The publication the registry has acknowledged. -/
  confirmed : Nat
  intervalMs : Nat
  holdMs : Nat
  /-- The registry process the cache came from, `0` before the first. -/
  seenEpoch : Nat
  registryProtocol : Nat
  registryVersion : String

namespace Shared

/-- `Shared::new` -/
def new (pool : String) (id incarnation : Nat) (policy : String)
    (slot size : Option Nat) (url : Option String)
    (methods : List String) (exclusive : Bool) : Shared where
  pool := pool
  id := id
  slot := slot
  incarnation := incarnation
  policy := policy
  size := size
  methods := methods
  published :=
    { state := .object [], ready := false, url := url, version := 0 }
  leaving := false
  exclusive := exclusive
  watch := []
  cache := ∅
  accepted := true
  refused := none
  confirmed := 0
  intervalMs := 1000
  holdMs := 0
  seenEpoch := 0
  registryProtocol := 0
  registryVersion := ""

/-! ## What a caller may do -/

/-- Put a publication in place of the present one, under the next number. -/
def republish (shared : Shared) (state : Value) (ready : Bool)
    (url : Option String) : Shared :=
  { shared with
    published :=
      { state := state
        ready := ready
        url := url
        version := shared.published.version + 1 } }

/-- `Shared::set_state` -/
def setState (shared : Shared) (state : Value) (ready : Bool) : Shared :=
  if shared.published.state == state && shared.published.ready == ready then shared
  else shared.republish state ready shared.published.url

/-- `Shared::set_state_only` -/
def setStateOnly (shared : Shared) (state : Value) : Shared :=
  if shared.published.state == state then shared
  else shared.republish state shared.published.ready shared.published.url

/-- `Shared::set_ready` -/
def setReady (shared : Shared) (ready : Bool) : Shared :=
  if shared.published.ready == ready then shared
  else shared.republish shared.published.state ready shared.published.url

/-- `Shared::set_url` -/
def setUrl (shared : Shared) (url : Option String) : Shared :=
  if shared.published.url == url then shared
  else shared.republish shared.published.state shared.published.ready url

/-- Publish the server's endpoint. -/
def advertise (shared : Shared) (endpoint : String) : Shared :=
  shared.republish shared.published.state shared.published.ready (some endpoint)

/-- Watch more pools. -/
def watchPools : Shared → List String → Shared
  | shared, [] => shared
  | shared, name :: rest =>
    if name ∈ shared.watch then shared.watchPools rest
    else if shared.watch.length ≥ maxWatch then shared
    else
      { shared with watch := shared.watch ++ [name] }.watchPools rest

/-- The calls that change what a client publishes or watches. -/
inductive Call where
  | setState (state : Value) (ready : Bool)
  | setStateOnly (state : Value)
  | setReady (ready : Bool)
  | setUrl (url : Option String)
  | advertise (endpoint : String)
  | watch (pools : List String)
  | leave

/-- What a call does. -/
def call (shared : Shared) : Call → Shared
  | .setState state ready => shared.setState state ready
  | .setStateOnly state => shared.setStateOnly state
  | .setReady ready => shared.setReady ready
  | .setUrl url => shared.setUrl url
  | .advertise endpoint => shared.advertise endpoint
  | .watch pools => shared.watchPools pools
  | .leave => { shared with leaving := true }

/-! ## Beats and answers -/

/-- The version of each copy. -/
def seen (shared : Shared) : ExtTreeMap String Nat :=
  shared.watch.foldl
    (fun seen name =>
      match shared.cache[name]? with
      | some cached => seen.insert name cached.version
      | none => seen)
    ∅

/-- A beat, and the publication it shows. -/
def compose (shared : Shared) : Beat × Nat :=
  ({ pool := shared.pool
     slot := shared.slot
     id := shared.id
     incarnation := shared.incarnation
     publication := some shared.published.version
     policy := shared.policy
     size := shared.size
     url := shared.published.url
     state := shared.published.state
     ready := shared.published.ready
     leaving := shared.leaving
     exclusive := shared.exclusive
     methods := shared.methods
     watch := shared.watch
     seen := shared.seen
     holdMs := shared.holdMs },
    shared.published.version)

/-- `note_registry` -/
def noteRegistry (shared : Shared) (ack : BeatAck) : Shared :=
  { shared with
    registryProtocol := ack.protocol
    registryVersion := ack.version }

/-- Take one delta into the cache; after a restart only full ones count. -/
def merge (restarted : Bool)
    (progress : ExtTreeMap String CachedPool × Bool) (name : String)
    (delta : PoolDelta) : ExtTreeMap String CachedPool × Bool :=
  if restarted && !delta.full then progress
  else
    let cached := progress.1.getD name {}
    if delta.version < cached.version then (progress.1.insert name cached, progress.2)
    else (progress.1.insert name (cached.apply delta), true)

/-- The answer comes from another registry process than the cache. -/
def restarted (shared : Shared) (ack : BeatAck) : Bool :=
  shared.seenEpoch != 0 && shared.seenEpoch != ack.epoch

/-- The client after an answer, whether it is still in, what changed. -/
def apply (shared : Shared) (ack : BeatAck) : Shared × Bool × Bool :=
  let restarted := shared.restarted ack
  let cache := if restarted then ∅ else shared.cache
  let changed := restarted && !shared.cache.isEmpty
  if !ack.accepted then
    ({ shared with
        seenEpoch := ack.epoch
        cache := cache
        accepted := false
        refused :=
          match ack.refused with
          | some why => some why
          | none => shared.refused },
      false, changed || shared.accepted)
  else
    let merged := ack.pools.foldl (merge restarted) (cache, changed)
    ({ shared with seenEpoch := ack.epoch, cache := merged.1 }, true, merged.2)

/--
What loop and one-shot beats do with an answer to a beat that showed the
publication `showing`.
-/
def handle (shared : Shared) (ack : BeatAck) (showing : Nat) : Shared :=
  let noted :=
    { shared with
      intervalMs := ack.ttlMs / 4
      holdMs := min (max (ack.ttlMs / 4) 50) 30000 }.noteRegistry ack
  let applied := noted.apply ack
  if applied.2.1 then
    { applied.1 with confirmed := max applied.1.confirmed showing }
  else applied.1

/-! ## What an answer does -/

/-- The copies an answer starts from. -/
def kept (shared : Shared) (ack : BeatAck) : ExtTreeMap String CachedPool :=
  if shared.restarted ack then ∅ else shared.cache

/-- A delta applied, unless it is old. -/
def merged (cached : CachedPool) (delta : PoolDelta) : CachedPool :=
  if delta.version < cached.version then cached else cached.apply delta

/-- The copy of a pool after merging. -/
theorem getElem?_foldl_merge
    (restarted : Bool) (pools : ExtTreeMap String PoolDelta)
    (cache : ExtTreeMap String CachedPool) (flag : Bool) (name : String) :
    (pools.foldl (merge restarted) (cache, flag)).1[name]? = match pools[name]? with
      | none => cache[name]?
      | some delta =>
        if restarted && !delta.full then cache[name]?
        else some (merged (cache.getD name {}) delta) := by
  have walked :=
    read_foldl (merge restarted)
      (fun progress name => progress.1[name]?) ?_ ?_ pools
      (cache, flag) name
  · simp only at walked
    rw [walked]
    cases pools[name]? with
    | none => rfl
    | some delta =>
      simp only [merge, merged]
      split
      · rfl
      · split <;> simp
  · intro progress key delta other otherKey
    simp only [merge]
    split
    · rfl
    · split <;>
        simp [ExtTreeMap.getElem?_insert, Ne.symm otherKey]
  · intro left right key delta same
    simp only [merge, ExtTreeMap.getD_eq_getD_getElem?, same]
    split
    · exact same
    · split <;> simp

@[simp]
theorem apply_seenEpoch (shared : Shared) (ack : BeatAck) :
    (shared.apply ack).1.seenEpoch = ack.epoch := by
  unfold apply
  simp only
  split <;> rfl

theorem apply_alive (shared : Shared) (ack : BeatAck) : (shared.apply ack).2.1 = ack.accepted := by
  unfold apply
  simp only
  cases ack.accepted <;> rfl

/-- The copy of a pool after an answer. -/
theorem getElem?_apply_cache
    (shared : Shared) (ack : BeatAck) (name : String) :
    (shared.apply ack).1.cache[name]? =
      if ack.accepted then
        match ack.pools[name]? with
        | none => (shared.kept ack)[name]?
        | some delta =>
          if shared.restarted ack && !delta.full then (shared.kept ack)[name]?
          else some (merged ((shared.kept ack).getD name {}) delta)
      else (shared.kept ack)[name]? := by
  unfold apply
  cases ack.accepted with
  | false => rfl
  | true => exact getElem?_foldl_merge _ _ _ _ _

theorem apply_published (shared : Shared) (ack : BeatAck) :
    (shared.apply ack).1.published = shared.published := by
  unfold apply
  simp only
  split <;> rfl

theorem apply_confirmed (shared : Shared) (ack : BeatAck) :
    (shared.apply ack).1.confirmed = shared.confirmed := by
  unfold apply
  simp only
  split <;> rfl

theorem handle_seenEpoch
    (shared : Shared) (ack : BeatAck) (showing : Nat) :
    (shared.handle ack showing).seenEpoch = ack.epoch := by
  unfold handle
  simp only
  split <;> exact apply_seenEpoch _ _

/-- Nothing else touches the copies. -/
theorem handle_cache
    (shared : Shared) (ack : BeatAck) (showing : Nat) :
    (shared.handle ack showing).cache = (shared.apply ack).1.cache := by
  have noted :
      ∀ other : Shared, other.seenEpoch = shared.seenEpoch →
        other.cache = shared.cache → (other.apply ack).1.cache = (shared.apply ack).1.cache := by
    intro other epoch cache
    have sameRestart : other.restarted ack = shared.restarted ack := by
      simp only [restarted, epoch]
    have sameKept : other.kept ack = shared.kept ack := by
      simp only [kept, sameRestart, cache]
    apply ExtTreeMap.ext_getElem?
    intro name
    rw [getElem?_apply_cache, getElem?_apply_cache, sameRestart, sameKept]
  unfold handle
  simp only
  split <;> exact noted _ rfl rfl

/-! ## What a call leaves alone -/

theorem watchPools_eq (shared : Shared) (pools : List String) :
    ∃ watch, shared.watchPools pools = { shared with watch := watch } := by
  induction pools generalizing shared with
  | nil => exact ⟨_, rfl⟩
  | cons name rest hypothesis =>
    rw [watchPools]
    split_ifs
    · exact hypothesis shared
    · exact ⟨_, rfl⟩
    · exact hypothesis _

theorem unchanged_or_republished (shared : Shared) (same : Bool)
    (state : Value) (ready : Bool) (url : Option String) :
    (if same then shared else shared.republish state ready url) = shared ∨
      (if same then shared else shared.republish state ready url) =
        shared.republish state ready url := by
  cases same with
  | false => exact Or.inr rfl
  | true => exact Or.inl rfl

/-- What a call can change. -/
theorem call_cases (shared : Shared) (call : Call) :
    (∃ watch, shared.call call = { shared with watch := watch }) ∨
      shared.call call = { shared with leaving := true } ∨ shared.call call = shared ∨
      ∃ state ready url, shared.call call = shared.republish state ready url := by
  cases call with
  | watch pools => exact Or.inl (shared.watchPools_eq pools)
  | leave => exact Or.inr (Or.inl rfl)
  | advertise endpoint => exact Or.inr (Or.inr (Or.inr ⟨_, _, _, rfl⟩))
  | setState | setStateOnly | setReady | setUrl =>
    rcases unchanged_or_republished shared _ _ _ _ with unchanged | republished
    · exact Or.inr (Or.inr (Or.inl unchanged))
    · exact Or.inr (Or.inr (Or.inr ⟨_, _, _, republished⟩))

theorem call_frame (shared : Shared) (call : Call) :
    (shared.call call).cache = shared.cache ∧ (shared.call call).seenEpoch = shared.seenEpoch := by
  rcases shared.call_cases call with
    ⟨watch, called⟩ | called | called | ⟨state, ready, url, called⟩ <;>
  · rw [called]
    exact ⟨rfl, rfl⟩

/-- A cursor is a copy's version. -/
theorem mem_seen
    (shared : Shared) {name : String} {cursor : Nat} (sent : shared.seen[name]? = some cursor) :
    ∃ cached, shared.cache[name]? = some cached ∧ cached.version = cursor := by
  revert sent
  unfold seen
  refine List.foldlRecOn shared.watch _
    (motive := fun seen : ExtTreeMap String Nat =>
      seen[name]? = some cursor →
        ∃ cached, shared.cache[name]? = some cached ∧ cached.version = cursor) ?_ ?_
  · intro sent
    simp at sent
  · intro seen known watched _ sent
    cases copy : shared.cache[watched]? with
    | none =>
      rw [copy] at sent
      exact known sent
    | some cached =>
      rw [copy] at sent
      rcases getElem?_insert_cases sent with ⟨rfl, same⟩ | ⟨_, sent⟩
      · exact ⟨cached, copy, same⟩
      · exact known sent

end Shared

end Tinyray
