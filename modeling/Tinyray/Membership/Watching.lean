import Tinyray.Membership.Coherence
import Tinyray.Membership.Frozen

/-!
# Watching a pool

`changes()` hands out snapshots of a pool, one whenever it has moved.  A
watcher remembers the version it saw last and, if it was asked for some
fields only, a digest of them; it waits when neither has changed.

The watcher reads the cache one piece at a time, and an answer may be applied
between any two reads.  `Vigil` is a client with a watcher: each of its moves
is a step of the client and its registries, or one read of the watcher.
-/

namespace Tinyray

open Std Foundation

/-- What a reader gets: the revision, and the members if there is a copy. -/
structure Snapshot where
  revision : Nat
  view : Option FrozenPool

namespace Snapshot

/-- What a copy shows. -/
def of : Option CachedPool → Snapshot
  | none => { revision := 0, view := none }
  | some cached =>
    { revision := cached.version, view := some (cached.frozen false) }

/-- The members it shows. -/
def members (snapshot : Snapshot) : List Member :=
  match snapshot.view with
  | none => []
  | some view => view.members.members

/-- Ids, tenures and some fields of the members. -/
def digest (snapshot : Snapshot) (fields : List String) : Digest :=
  snapshot.members.map fun member => (member.id, member.incarnation, fields.map member.field)

end Snapshot

/-- Where a watcher stands, by what it does next. -/
inductive WatchPhase where
  /-- Made, and about to take the digest to compare with. -/
  | digesting
  /-- Made, and about to record the revision to start from. -/
  | basing
  /-- Has handed over a snapshot, or none yet. -/
  | idle
  /-- In a step, about to ask for the version. -/
  | looking
  /-- In a step, about to take a digest. -/
  | comparing
  /-- In a step, about to take the snapshot to hand over. -/
  | fetching
  | waiting
  | ended
  | fenced
deriving DecidableEq

/-- One call of `watch`. -/
structure Watching where
  pool : String
  fields : Option (List String)
  seen : Int
  /-- `none` stands for `_NO_DIGEST`; a pool without a copy has none. -/
  digest : Option (Option Digest)
  closed : Bool
  phase : WatchPhase
  /-- The snapshot handed over last, at first the one of the baseline. -/
  last : Option Snapshot

namespace Watching

/-- `_Watching(pool, since, fields)`, up to its first read of the cache. -/
def new (pool : String) (since : Option Int)
    (fields : Option (List String)) : Watching where
  pool := pool
  fields := fields
  seen := since.getD 0
  digest := none
  closed := false
  phase :=
    match since, fields with
    | none, some _ => .digesting
    | none, none => .basing
    | some _, _ => .idle
  last := none

/-- Begin a step: closed, fenced and out of time come first. -/
def enter (watching : Watching) (accepted overdue : Bool) : Option Watching :=
  if watching.phase = .idle ∨ watching.phase = .waiting then
    some
      { watching with
        phase :=
          if watching.closed then .ended
          else if !accepted then .fenced
          else if overdue then .ended
          else .looking }
  else none

/-- Wait again, or end. -/
def rest (watching : Watching) (overdue : Bool) : Watching :=
  { watching with phase := if overdue then .ended else .waiting }

/-- The digest of a copy. -/
def digestOf (watching : Watching) (copy : Option CachedPool) : Option Digest :=
  copy.map fun cached => cached.fieldDigest (watching.fields.getD [])

/-- Look whether the version has moved. -/
def look (watching : Watching) (copy : Option CachedPool)
    (overdue : Bool) : Watching :=
  match copy with
  | none => watching.rest overdue
  | some cached =>
    if (cached.version : Int) = watching.seen then watching.rest overdue
    else
      { watching with
        seen := cached.version
        phase := if watching.fields.isNone then .fetching else .comparing }

/-- Take a digest: something moved, but maybe nothing that was named. -/
def compare (watching : Watching) (copy : Option CachedPool)
    (overdue : Bool) : Watching :=
  if some (watching.digestOf copy) = watching.digest then watching.rest overdue
  else
    { watching with
      digest := some (watching.digestOf copy)
      phase := .fetching }

/-- The next look at the cache. -/
def read (watching : Watching) (shared : Shared) (overdue : Bool) : Option Watching :=
  let copy := shared.cache[watching.pool]?
  match watching.phase with
  | .digesting =>
    some
      { watching with
        digest := some (watching.digestOf copy)
        phase := .basing }
  | .basing =>
    some
      { watching with
        seen := (Snapshot.of copy).revision
        last := some (Snapshot.of copy)
        phase := .idle }
  | .looking => some (watching.look copy overdue)
  | .comparing => some (watching.compare copy overdue)
  | .fetching =>
    some
      { watching with last := some (Snapshot.of copy), phase := .idle }
  | _ => none

/-- A watcher that will not wait again. -/
def concluded (watching : Watching) : Bool := watching.phase == .ended || watching.phase == .fenced

/-- The copy may change before it is read. -/
def between (watching : Watching) : Bool :=
  watching.fields.isSome && (watching.phase == .basing || watching.phase == .fetching)

/-- A copy shows what a snapshot showed, as far as the watcher asked. -/
def Same (watching : Watching) (cached : CachedPool)
    (last : Snapshot) : Prop :=
  match watching.fields with
  | none => (Snapshot.of (some cached)).members = last.members ∧ cached.version = last.revision
  | some names => (Snapshot.of (some cached)).digest names = last.digest names

end Watching

/-- A system and a watcher. -/
structure Vigil where
  system : System
  watching : Option Watching := none

namespace Vigil

/-- A step of either. -/
inductive Move where
  | act (action : Action)
  | watch (pool : String) (since : Option Int) (fields : Option (List String))
  | enter (overdue : Bool)
  | read (overdue : Bool)
  | close

variable [FloatFormat]

/-- One step of a system that is watched. -/
def step (vigil : Vigil) : Move → Option Vigil
  | .act action =>
    (vigil.system.step action).map fun next =>
      { vigil with system := next }
  | .watch pool since fields => some { vigil with watching := some (.new pool since fields) }
  | .enter overdue => do
    let watching ← vigil.watching
    let next ← watching.enter vigil.system.client.accepted overdue
    some { vigil with watching := some next }
  | .read overdue => do
    let watching ← vigil.watching
    let next ← watching.read vigil.system.client overdue
    some { vigil with watching := some next }
  | .close => do
    let watching ← vigil.watching
    some { vigil with watching := some { watching with closed := true } }

/--
No answer of another registry process is applied under a watcher, and no
answer at all between a digest and the snapshot that goes with it.
-/
def steady (vigil : Vigil) : Move → Bool
  | .act (.apply index) =>
    vigil.system.orderly (.apply index) && match vigil.watching, vigil.system.replies[index]? with
      | some watching, some reply =>
        watching.concluded || !watching.between && !vigil.system.client.restarted reply.ack
      | _, _ => true
  | _ => true

end Vigil

/-! ## Snapshots and digests -/

namespace Snapshot

theorem digest_some (cached : CachedPool) (names : List String) :
    (Snapshot.of (some cached)).digest names =
      (cached.fieldDigest names).insertionSort fun left right => left.1 ≤ right.1 := by
  change ((cached.makeNative (cached.listed false)).members.map _) = _
  unfold CachedPool.makeNative CachedPool.fieldDigest CachedPool.digestOf
  rw [FrozenMembers.new_members]
  exact List.map_insertionSort _ _ _ _ fun left _ right _ => Iff.rfl

/-- Equal digests of copies and views. -/
theorem digest_congr
    {left right : Option CachedPool} {names : List String}
    (same :
      (left.map fun cached => cached.fieldDigest names) =
        right.map fun cached => cached.fieldDigest names) :
    (Snapshot.of left).digest names = (Snapshot.of right).digest names := by
  cases left with
  | none =>
    cases right with
    | none => rfl
    | some cached => cases same
  | some cached =>
    cases right with
    | none => cases same
    | some other =>
      have digests : cached.fieldDigest names = other.fieldDigest names := Option.some.inj same
      rw [digest_some, digest_some, digests]

theorem members_congr
    {left right : CachedPool} (same : left.members = right.members) :
    (Snapshot.of (some left)).members = (Snapshot.of (some right)).members := by
  have frozen := (PoolView.worked_out_of_members same).1 false
  exact congrArg FrozenMembers.members frozen

end Snapshot

/-! ## What a watcher knows of the client's cache -/

section

variable [FloatFormat]

/-- A copy the client had, or none at all, before its present one. -/
def System.Had (system : System) (pool : String) : Option CachedPool → Prop
  | none => True
  | some copy =>
    CopyOf system.processes system.client.seenEpoch pool copy ∧
      ∃ cached, system.client.cache[pool]? = some cached ∧ copy.version ≤ cached.version

namespace System

variable {system : System} {pool : String} {cached : CachedPool}

theorem had_now (coherent : system.Coherent) (pool : String) :
    system.Had pool system.client.cache[pool]? := by
  cases copy : system.client.cache[pool]? with
  | none => trivial
  | some cached =>
    exact ⟨coherent.copies pool cached copy, cached, copy, Nat.le_refl _⟩

/-- What the client hears comes from the process it has heard before. -/
def Running (system : System) (action : Action) : Prop :=
  ∀ reply, system.applies action = some reply → system.client.restarted reply.ack = false

variable {next : System} {action : Action} {known : Option CachedPool}

/-- Copies only get newer. -/
theorem step_newer
    (coherent : system.Coherent) (stepped : system.step action = some next)
    (running : system.Running action) (copy : system.client.cache[pool]? = some cached) :
    next.client.seenEpoch = system.client.seenEpoch ∧
      ∃ later, next.client.cache[pool]? = some later ∧ cached.version ≤ later.version := by
  cases step_turn stepped with
  | stays cache epoch requests applied =>
    rw [cache]
    exact ⟨epoch, cached, copy, Nat.le_refl _⟩
  | sends loop parked sent =>
    rw [sent]
    exact ⟨rfl, cached, copy, Nat.le_refl _⟩
  | hears reply sent listed answered heard =>
    have steady := running reply answered
    have epoch : system.client.seenEpoch = reply.ack.epoch := by
      rcases restarted_eq_false steady with unheard | same
      · rw [coherent.unheard unheard] at copy
        simp at copy
      · exact same
    rw [heard]
    refine ⟨?_, ?_⟩
    · rw [epoch]
      exact Shared.handle_seenEpoch _ _ _
    · change ∃ later, (system.client.handle reply.ack sent.showing).cache[pool]? = some later ∧ _
      rw [Shared.handle_cache]
      exact apply_newer steady copy

/-- A known copy stays known. -/
theorem Had.step
    (coherent : system.Coherent) (stepped : system.step action = some next)
    (running : system.Running action) (had : system.Had pool known) :
    next.Had pool known := by
  cases known with
  | none => trivial
  | some copy =>
    rcases had with ⟨shown, cached, held, older⟩
    rcases step_newer coherent stepped running held with ⟨epoch, later, found, newer⟩
    refine ⟨?_, later, found, older.trans newer⟩
    rw [epoch]
    exact shown.grow (step_grown stepped)

/-- Version zero has no members. -/
theorem CopyOf.members_of_zero
    {processes : ExtTreeMap Nat Process} {epoch : Nat} {name : String}
    (copy : CopyOf processes epoch name cached) (zero : cached.version = 0) :
    cached.members = ∅ := by
  rcases copy with ⟨process, _, past, visited, shows⟩
  have start := Registry.mem_history_self process.start name process.events
  rw [show process.start.pool name = {} from Registry.pool_new _ _ _] at start
  have alike := same_version_alike visited start (shows.version.symm.trans zero)
  rw [shows.members, alike.1]
  apply ExtTreeMap.ext_getElem?
  intro id
  simp

/-- A copy that is not newer is the same. -/
theorem Had.same
    (coherent : system.Coherent) (had : system.Had pool known)
    (copy : system.client.cache[pool]? = some cached)
    (notNewer : cached.version ≤ (Snapshot.of known).revision) :
    (Snapshot.of (some cached)).members = (Snapshot.of known).members ∧
      cached.version = (Snapshot.of known).revision := by
  have current := coherent.copies pool cached copy
  cases known with
  | none =>
    have zero : cached.version = 0 := Nat.le_zero.mp notNewer
    have nobody := CopyOf.members_of_zero current zero
    have empty : cached.members = ({} : CachedPool).members := nobody
    refine ⟨?_, zero⟩
    rw [Snapshot.members_congr empty]
    rfl
  | some old =>
    rcases had with ⟨shown, held, found, older⟩
    rw [copy] at found
    cases found
    have version : cached.version = old.version := Nat.le_antisymm notNewer older
    rcases current with ⟨process, running, past, visited, shows⟩
    rcases shown with ⟨other, found, past', visited', shows'⟩
    rw [running] at found
    cases found
    have alike :=
      same_version_alike visited visited' (shows.version.symm.trans (version.trans shows'.version))
    refine ⟨Snapshot.members_congr ?_, version⟩
    rw [shows.members, shows'.members, alike.1]

end System

/-! ## The invariant -/

namespace Watching

/-- The digest is that of this copy. -/
def HoldsDigest (watching : Watching) (known : Option CachedPool) : Prop :=
  watching.fields.isSome = true → watching.digest = some (watching.digestOf known)

/-- This copy is what was yielded last. -/
structure Matches (watching : Watching) (system : System)
    (known : Option CachedPool) (last : Snapshot) : Prop where
  had : system.Had watching.pool known
  shown :
    match watching.fields with
    | none => last = Snapshot.of known
    | some names => last.digest names = (Snapshot.of known).digest names
  digest : watching.HoldsDigest known

/-- The copy is at least as new. -/
def Behind (watching : Watching) (system : System) : Prop :=
  ∃ cached, system.client.cache[watching.pool]? = some cached ∧ watching.seen ≤ cached.version

/-- What holds of a watcher, by where it stands. -/
def Abreast (watching : Watching) (system : System) : Prop :=
  match watching.phase with
  | .digesting => watching.last = none
  | .basing => watching.HoldsDigest system.client.cache[watching.pool]?
  | .idle | .looking | .waiting =>
    ∀ last, watching.last = some last →
      ∃ known, watching.Matches system known last ∧ watching.seen ≤ (Snapshot.of known).revision
  | .comparing =>
    watching.fields.isSome = true ∧ watching.Behind system ∧
      ∀ last, watching.last = some last → ∃ known, watching.Matches system known last
  | .fetching => watching.Behind system ∧ watching.HoldsDigest system.client.cache[watching.pool]?
  | .ended | .fenced => True

end Watching

namespace Watching

variable {watching next : Watching} {system after : System}

/-- The same for the watcher's fields. -/
theorem Matches.same
    (coherent : system.Coherent) {known : Option CachedPool}
    {last : Snapshot} (matched : watching.Matches system known last) {cached : CachedPool}
    (copy : system.client.cache[watching.pool]? = some cached)
    (notNewer : cached.version ≤ (Snapshot.of known).revision) :
    watching.Same cached last := by
  rcases matched.had.same coherent copy notNewer with ⟨members, version⟩
  have shown := matched.shown
  unfold Same
  cases fields : watching.fields with
  | none =>
    rw [fields] at shown
    simp only at shown ⊢
    rw [shown]
    exact ⟨members, version⟩
  | some names =>
    rw [fields] at shown
    simp only at shown ⊢
    rw [shown, Snapshot.digest, Snapshot.digest, members]

theorem Matches.act
    (coherent : system.Coherent) {action : Action} (stepped : system.step action = some after)
    (running : system.Running action) {known : Option CachedPool} {last : Snapshot}
    (matched : watching.Matches system known last) :
    watching.Matches after known last :=
  ⟨matched.had.step coherent stepped running, matched.shown, matched.digest⟩

theorem Behind.act
    (coherent : system.Coherent) {action : Action} (stepped : system.step action = some after)
    (running : system.Running action) (behind : watching.Behind system) :
    watching.Behind after := by
  rcases behind with ⟨cached, copy, seen⟩
  rcases System.step_newer coherent stepped running copy with ⟨_, later, held, newer⟩
  exact ⟨later, held, seen.trans (Int.ofNat_le.mpr newer)⟩

/-- Other actions keep the digest. -/
theorem HoldsDigest.act
    {action : Action} (stepped : system.step action = some after)
    (apart : watching.fields.isSome = true → system.applies action = none)
    (holds : watching.HoldsDigest system.client.cache[watching.pool]?) :
    watching.HoldsDigest after.client.cache[watching.pool]? := by
  intro fields
  have quiet := apart fields
  have cache : after.client.cache = system.client.cache := by
    cases System.step_turn stepped with
    | stays cache epoch requests applied => exact cache
    | sends loop parked sent =>
      rw [sent]
      rfl
    | hears reply sent listed answered heard =>
      rw [quiet] at answered
      cases answered
  rw [cache]
  exact holds fields

/-- Actions keep a watcher abreast. -/
theorem Abreast.act
    (coherent : system.Coherent) {action : Action} (stepped : system.step action = some after)
    (met :
      watching.concluded = false →
        ∀ reply, system.applies action = some reply →
          watching.between = false ∧ system.client.restarted reply.ack = false)
    (abreast : watching.Abreast system) :
    watching.Abreast after := by
  have running (live : watching.concluded = false) : system.Running action :=
    fun reply answered => (met live reply answered).2
  have apart (live : watching.concluded = false)
      (phase : watching.phase = .basing ∨ watching.phase = .fetching)
      (fields : watching.fields.isSome = true) :
      system.applies action = none := by
    cases answered : system.applies action with
    | none => rfl
    | some reply =>
      have notBetween := (met live reply answered).1
      rcases phase with phase | phase <;>
        simp [between, fields, phase] at notBetween
  unfold Abreast at abreast ⊢
  cases phase : watching.phase with
  | digesting =>
    rw [phase] at abreast
    exact abreast
  | basing =>
    rw [phase] at abreast
    exact HoldsDigest.act stepped (apart (by simp [concluded, phase]) (Or.inl phase)) abreast
  | comparing =>
    rw [phase] at abreast
    rcases abreast with ⟨fields, behind, shown⟩
    have steady := running (by simp [concluded, phase])
    refine ⟨fields, behind.act coherent stepped steady, ?_⟩
    intro last handed
    rcases shown last handed with ⟨known, matched⟩
    exact ⟨known, matched.act coherent stepped steady⟩
  | fetching =>
    rw [phase] at abreast
    rcases abreast with ⟨behind, holds⟩
    have live : watching.concluded = false := by simp [concluded, phase]
    exact
      ⟨behind.act coherent stepped (running live),
        HoldsDigest.act stepped (apart live (Or.inr phase)) holds⟩
  | ended => trivial
  | fenced => trivial
  | _ =>
    rw [phase] at abreast
    intro last handed
    rcases abreast last handed with ⟨known, matched, seen⟩
    exact ⟨known, matched.act coherent stepped (running (by simp [concluded, phase])), seen⟩

end Watching

/-! ## Every move keeps it -/

namespace Watching

variable {watching next : Watching} {system : System}

/-- A new watcher is abreast. -/
theorem new_abreast (pool : String) (since : Option Int)
    (fields : Option (List String)) (system : System) :
    (Watching.new pool since fields).Abreast system := by
  cases since with
  | none =>
    cases fields with
    | none =>
      intro impossible
      cases impossible
    | some names => exact rfl
  | some version =>
    intro last impossible
    cases impossible

variable {known : Option CachedPool} {last : Snapshot} {names : List String}

theorem Matches.phased
    (matched : watching.Matches system known last) (phase : WatchPhase) (closed : Bool) :
    { watching with phase := phase, closed := closed }.Matches system known last :=
  ⟨matched.had, matched.shown, matched.digest⟩

/-- Going on keeps it abreast. -/
theorem Abreast.enter
    {accepted overdue : Bool} (entered : watching.enter accepted overdue = some next)
    (abreast : watching.Abreast system) :
    next.Abreast system := by
  unfold Watching.enter at entered
  split at entered
  · rename_i idle
    cases entered
    have shown :
        ∀ last, watching.last = some last →
          ∃ known, watching.Matches system known last ∧
            watching.seen ≤ (Snapshot.of known).revision := by
      unfold Abreast at abreast
      rcases idle with phase | phase <;>
        · rw [phase] at abreast
          exact abreast
    unfold Abreast
    simp only
    split_ifs
    · trivial
    · trivial
    · trivial
    · intro last handed
      rcases shown last handed with ⟨known, matched, seen⟩
      exact ⟨known, matched.phased _ _, seen⟩
  · cases entered

/-- What a watcher knows that has decided to wait. -/
def Rested (watching : Watching) (system : System) : Prop :=
  watching.phase = .waiting →
    ∀ last cached, watching.last = some last →
      system.client.cache[watching.pool]? = some cached →
        ∃ known, watching.Matches system known last ∧ cached.version ≤ (Snapshot.of known).revision

variable {overdue : Bool}

/-- A watcher may rest on the last view. -/
theorem rest_abreast
    (shown :
      ∀ last, watching.last = some last →
        ∃ known, watching.Matches system known last ∧ watching.seen ≤ (Snapshot.of known).revision ∧
          ∀ cached,
            system.client.cache[watching.pool]? = some cached →
              cached.version ≤ (Snapshot.of known).revision) :
    (watching.rest overdue).Abreast system ∧ (watching.rest overdue).Rested system := by
  constructor
  · unfold Abreast Watching.rest
    simp only
    split_ifs
    · trivial
    · intro last handed
      rcases shown last handed with ⟨known, matched, seen, _⟩
      exact ⟨known, matched.phased _ _, seen⟩
  · intro _ last cached handed copy
    rcases shown last handed with ⟨known, matched, _, newest⟩
    exact ⟨known, matched.phased _ _, newest cached copy⟩

theorem matches_now
    (coherent : system.Coherent)
    (holds : watching.HoldsDigest system.client.cache[watching.pool]?) :
    watching.Matches system system.client.cache[watching.pool]?
      (Snapshot.of system.client.cache[watching.pool]?) := by
  refine ⟨System.had_now coherent _, ?_, holds⟩
  split <;> rfl

/-- An equal digest renews the match. -/
theorem Matches.renew
    (coherent : system.Coherent) (matched : watching.Matches system known last)
    (fields : watching.fields = some names)
    (same : some (watching.digestOf system.client.cache[watching.pool]?) = watching.digest) :
    watching.Matches system system.client.cache[watching.pool]? last := by
  refine ⟨System.had_now coherent _, ?_, fun _ => same.symm⟩
  have holds := matched.digest (by rw [fields]; rfl)
  rw [← same] at holds
  have digests := Option.some.inj holds
  simp only [digestOf, fields, Option.getD_some] at digests
  have shown := matched.shown
  rw [fields] at shown ⊢
  simp only at shown ⊢
  rw [shown, Snapshot.digest_congr digests]

/-- Closing keeps it abreast. -/
theorem Abreast.close (abreast : watching.Abreast system) :
    { watching with closed := true }.Abreast system := by
  unfold Abreast at abreast ⊢
  cases phase : watching.phase with
  | comparing =>
    rw [phase] at abreast
    rcases abreast with ⟨fields, behind, shown⟩
    refine ⟨fields, behind, ?_⟩
    intro last handed
    rcases shown last handed with ⟨known, matched⟩
    exact ⟨known, matched.phased _ _⟩
  | digesting | basing | fetching =>
    rw [phase] at abreast
    exact abreast
  | ended => trivial
  | fenced => trivial
  | _ =>
    rw [phase] at abreast
    intro last handed
    rcases abreast last handed with ⟨known, matched, seen⟩
    exact ⟨known, matched.phased _ _, seen⟩

/-- A look keeps it abreast. -/
theorem look_abreast
    (shown :
      ∀ last, watching.last = some last →
        ∃ known, watching.Matches system known last ∧
          watching.seen ≤ (Snapshot.of known).revision) :
    (watching.look system.client.cache[watching.pool]? overdue).Abreast system ∧
      (watching.look system.client.cache[watching.pool]? overdue).Rested system := by
  cases copy : system.client.cache[watching.pool]? with
  | none =>
    apply rest_abreast
    intro last handed
    rcases shown last handed with ⟨known, matched, seen⟩
    refine ⟨known, matched, seen, ?_⟩
    intro cached held
    rw [copy] at held
    cases held
  | some cached =>
    unfold look
    simp only
    split_ifs with still bare
    · apply rest_abreast
      intro last handed
      rcases shown last handed with ⟨known, matched, seen⟩
      refine ⟨known, matched, seen, ?_⟩
      intro held present
      rw [copy] at present
      cases present
      rw [← still] at seen
      exact Int.ofNat_le.mp seen
    · refine ⟨⟨⟨cached, copy, Int.le_refl _⟩, ?_⟩, fun waits => ?_⟩
      · intro fields
        change watching.fields.isSome = true at fields
        rw [Option.isNone_iff_eq_none] at bare
        rw [bare] at fields
        cases fields
      · cases waits
    · refine ⟨⟨?_, ⟨cached, copy, Int.le_refl _⟩, ?_⟩, fun waits => ?_⟩
      · rw [Option.isSome_iff_ne_none]
        simpa using bare
      · intro last handed
        rcases shown last handed with ⟨known, matched, _⟩
        exact ⟨known, matched.had, matched.shown, matched.digest⟩
      · cases waits

/-- A comparison keeps it abreast. -/
theorem compare_abreast
    (coherent : system.Coherent) (fields : watching.fields = some names)
    (behind : watching.Behind system)
    (shown : ∀ last, watching.last = some last → ∃ known, watching.Matches system known last) :
    (watching.compare system.client.cache[watching.pool]? overdue).Abreast system ∧
      (watching.compare system.client.cache[watching.pool]? overdue).Rested system := by
  unfold compare
  split_ifs with same
  · apply rest_abreast
    intro last handed
    rcases shown last handed with ⟨known, matched⟩
    rcases behind with ⟨cached, copy, seen⟩
    refine ⟨_, matched.renew coherent fields same, ?_, ?_⟩
    · rw [copy]
      exact seen
    · intro held present
      rw [present]
      exact Nat.le_refl _
  · refine ⟨⟨behind, fun _ => rfl⟩, fun waits => ?_⟩
    cases waits

/-- Whatever it reads keeps it abreast. -/
theorem Abreast.read
    (coherent : system.Coherent) {overdue : Bool}
    (did : watching.read system.client overdue = some next) (abreast : watching.Abreast system) :
    next.Abreast system ∧ next.Rested system := by
  unfold Abreast at abreast
  unfold Watching.read at did
  cases phase : watching.phase with
  | digesting =>
    rw [phase] at did abreast
    cases did
    exact ⟨fun _ => rfl, fun waits => by cases waits⟩
  | basing =>
    rw [phase] at did abreast
    cases did
    refine ⟨?_, fun waits => by cases waits⟩
    rintro last ⟨⟩
    have matched := matches_now coherent abreast
    exact ⟨_, ⟨matched.had, matched.shown, matched.digest⟩, Int.le_refl _⟩
  | looking =>
    rw [phase] at did abreast
    cases did
    exact look_abreast abreast
  | comparing =>
    rw [phase] at did abreast
    cases did
    rcases abreast with ⟨asked, behind, shown⟩
    rcases Option.isSome_iff_exists.mp asked with ⟨names, fields⟩
    exact compare_abreast coherent fields behind shown
  | fetching =>
    rw [phase] at did abreast
    cases did
    rcases abreast with ⟨⟨cached, copy, seen⟩, holds⟩
    refine ⟨?_, fun waits => by cases waits⟩
    rintro last ⟨⟩
    have matched := matches_now coherent holds
    refine ⟨_, ⟨matched.had, matched.shown, matched.digest⟩, ?_⟩
    rw [copy]
    exact seen
  | _ =>
    rw [phase] at did
    cases did

end Watching

/-! ## Runs -/

namespace Vigil

/-- The invariant of both. -/
structure Watchful (vigil : Vigil) : Prop where
  coherent : vigil.system.Coherent
  abreast : ∀ watching, vigil.watching = some watching → watching.Abreast vigil.system

variable {vigil : Vigil}
  {action : Action}

omit [FloatFormat] in
theorem steady_orderly (met : vigil.steady (.act action) = true) :
    vigil.system.orderly action = true := by
  cases action with
  | apply index =>
    simp only [steady, Bool.and_eq_true] at met
    exact met.1
  | _ => rfl

omit [FloatFormat] in
/-- No answer comes in between. -/
theorem steady_applies
    {watching : Watching} (met : vigil.steady (.act action) = true)
    (present : vigil.watching = some watching)
    (live : watching.concluded = false) {reply : Reply}
    (answered : vigil.system.applies action = some reply) :
    watching.between = false ∧ vigil.system.client.restarted reply.ack = false := by
  cases action with
  | apply index =>
    change vigil.system.replies[index]? = some reply at answered
    simp only [steady, present, answered, live, Bool.and_eq_true,
      Bool.false_or, Bool.not_eq_true'] at met
    exact met.2
  | _ => cases answered

/-- One move keeps the invariant. -/
theorem step_watchful
    {next : Vigil} {move : Move} (stepped : vigil.step move = some next)
    (met : vigil.steady move = true) (watchful : vigil.Watchful) :
    next.Watchful := by
  cases move with
  | act action =>
    simp only [step, Option.map_eq_some_iff] at stepped
    rcases stepped with ⟨after, stepped, rfl⟩
    refine ⟨System.step_coherent stepped (steady_orderly met) watchful.coherent, ?_⟩
    intro watching present
    exact
      (watchful.abreast watching present).act watchful.coherent stepped
        fun live reply answered => steady_applies met present live answered
  | watch pool since fields =>
    cases stepped
    refine ⟨watchful.coherent, ?_⟩
    rintro watching ⟨⟩
    exact Watching.new_abreast pool since fields _
  | enter overdue =>
    simp only [step, bind_some_iff, Option.some.injEq] at stepped
    rcases stepped with ⟨watching, present, entered, did, rfl⟩
    refine ⟨watchful.coherent, ?_⟩
    rintro other ⟨⟩
    exact (watchful.abreast watching present).enter did
  | read overdue =>
    simp only [step, bind_some_iff, Option.some.injEq] at stepped
    rcases stepped with ⟨watching, present, after, did, rfl⟩
    refine ⟨watchful.coherent, ?_⟩
    rintro other ⟨⟩
    exact ((watchful.abreast watching present).read watchful.coherent did).1
  | close =>
    simp only [step, bind_some_iff, Option.some.injEq] at stepped
    rcases stepped with ⟨watching, present, rfl⟩
    refine ⟨watchful.coherent, ?_⟩
    rintro other ⟨⟩
    exact (watchful.abreast watching present).close

/--
A watch never rests on a stale view.  In every run in which the answers
applied under a watcher come from the process its view came from, and none
comes between a digest and the snapshot that goes with it: when a read makes
the watcher wait, the copy in the cache is the same as in the snapshot that
was handed over last, or as at the baseline, as far as it was asked for.
-/
theorem watch_is_fresh
    (client : Shared) (unheard : client.cache = ∅)
    (moves : List Move) (vigil next : Vigil) (overdue : Bool)
    (ran : execute step { system := System.new client } moves = some vigil)
    (met : obeys step steady { system := System.new client } moves = true)
    (stepped : vigil.step (.read overdue) = some next)
    (watching : Watching) (present : next.watching = some watching)
    (waits : watching.phase = .waiting) (last : Snapshot) (handed : watching.last = some last)
    (cached : CachedPool) (copy : next.system.client.cache[watching.pool]? = some cached) :
    watching.Same cached last := by
  have watchful : vigil.Watchful := by
    refine execute_invariant step_watchful ran met ⟨System.new_coherent unheard, ?_⟩
    intro watching impossible
    cases impossible
  simp only [step, bind_some_iff, Option.some.injEq] at stepped
  rcases stepped with ⟨before, there, after, did, rfl⟩
  cases present
  have rested := ((watchful.abreast before there).read watchful.coherent did).2
  rcases rested waits last cached handed copy with ⟨known, matched, notNewer⟩
  exact matched.same watchful.coherent copy notNewer

/-- A run, by what it comes to. -/
theorem read_of_summary
    (start : Vigil) (moves : List Move) {α : Type}
    (summary : Watching → Snapshot → CachedPool → α) (found : α)
    (evaluated :
      (do
        let vigil ← execute step start moves
        let next ← vigil.step (.read false)
        let watching ← next.watching
        let last ← watching.last
        let cached ← next.system.client.cache[watching.pool]?
        some (summary watching last cached)) = some found) :
    ∃ (vigil next : Vigil) (watching : Watching) (last : Snapshot)
      (cached : CachedPool),
      execute step start moves = some vigil ∧ vigil.step (.read false) = some next ∧
        next.watching = some watching ∧ watching.last = some last ∧
        next.system.client.cache[watching.pool]? = some cached ∧
        summary watching last cached = found := by
  simp only [bind_some_iff, Option.some.injEq] at evaluated
  rcases evaluated with
    ⟨vigil, ran, next, stepped, watching, present, last, handed, cached, copy, summed⟩
  exact ⟨vigil, next, watching, last, cached, ran, stepped, present, handed, copy, summed⟩

omit [FloatFormat] in
/-- A watcher hands over that a member got ready, and waits. -/
theorem watch_is_fresh_handed_over :
    letI := FloatFormat.widest
    let client := Shared.new "p" 0 1 "" none none none [] false
    let order : String → IterationOrder := fun _ => .ascending
    let update (publication : Nat) (ready : Bool) : Move :=
      .act (.other 9 (.beat publication order
        { pool := "p", id := 7, incarnation := 1,
          publication := some publication, ready := ready }))
    let exchange (request : Nat) : List Move :=
      [.act (.compose true true), .act (.deliver 9 request 9 order), .act (.apply request)]
    let moves : List Move :=
      [.act (.launch 1000000000 8), .act (.call (.watch ["p"])), update 0 false] ++ exchange 0 ++
      [.watch "p" none (some ["ready"]), .read false, .read false, update 1 true] ++ exchange 1 ++
      -- it looks, compares and hands over what it found
      [.enter false, .read false, .read false, .read false, .enter false]
    ∃ (vigil next : Vigil) (watching : Watching) (last : Snapshot)
      (cached : CachedPool),
      execute step { system := System.new client } moves = some vigil ∧
        vigil.step (.read false) = some next ∧
        next.watching = some watching ∧ watching.phase = .waiting ∧ watching.last = some last ∧
        last.members.map (fun member => (member.id, member.ready)) = [(0, false), (7, true)] ∧
        next.system.client.cache[watching.pool]? = some cached ∧ watching.Same cached last := by
  let := FloatFormat.widest
  intro client order update exchange moves
  rcases
    read_of_summary { system := System.new client } moves
      (fun watching last _ =>
        (watching.phase, last.members.map fun member => (member.id, member.ready)))
      (.waiting, [(0, false), (7, true)])
      (by decide +kernel +zetaReduce) with
    ⟨vigil, next, watching, last, cached, ran, stepped, present, handed, copy, summed⟩
  rw [Prod.mk.injEq] at summed
  refine
    ⟨vigil, next, watching, last, cached, ran, stepped, present, summed.1,
      handed, summed.2, copy, ?_⟩
  exact
    watch_is_fresh client rfl moves vigil next false ran
      (by decide +kernel +zetaReduce) stepped watching present summed.1 last
      handed cached copy

/-- After the moves of a run the watcher waits on a stale view. -/
def RestsStale (client : Shared) (moves : List Move) : Prop :=
  ∃ (vigil next : Vigil) (watching : Watching) (last : Snapshot)
    (cached : CachedPool),
    execute step { system := System.new client } moves = some vigil ∧
      vigil.step (.read false) = some next ∧
      next.watching = some watching ∧ watching.phase = .waiting ∧ watching.last = some last ∧
      next.system.client.cache[watching.pool]? = some cached ∧ ¬ watching.Same cached last

/-- A stale view, by what a run comes to. -/
theorem restsStale_of_summary
    {client : Shared} {moves : List Move} {α : Type}
    (summary : Watching → Snapshot → CachedPool → α) (found : α)
    (evaluated :
      (do
        let vigil ← execute step { system := System.new client } moves
        let next ← vigil.step (.read false)
        let watching ← next.watching
        let last ← watching.last
        let cached ← next.system.client.cache[watching.pool]?
        some (summary watching last cached)) = some found)
    (differs :
      ∀ watching last cached, summary watching last cached = found →
        watching.phase = .waiting ∧ ¬ watching.Same cached last) :
    RestsStale client moves := by
  rcases read_of_summary _ moves summary found evaluated with
    ⟨vigil, next, watching, last, cached, ran, stepped, present, handed, copy, summed⟩
  rcases differs watching last cached summed with ⟨waits, differ⟩
  exact ⟨vigil, next, watching, last, cached, ran, stepped, present, waits, handed, copy, differ⟩

omit [FloatFormat] in
/--
Two ways to a stale view.  The registry restarts, and the pool comes to the
same version with another member in it.  Or an answer comes between the
digest of a new watcher and its baseline, and the next one takes the change
back.
-/
theorem watch_rests_on_stale_view :
    letI := FloatFormat.widest
    let client := Shared.new "p" 0 1 "" none none none [] false
    let order : String → IterationOrder := fun _ => .ascending
    let join (epoch id : Nat) : Move :=
      .act (.other epoch (.beat 0 order
        { pool := "p", id := id, incarnation := 1 }))
    let update (publication : Nat) (ready : Bool) : Move :=
      .act (.other 9 (.beat publication order
        { pool := "p", id := 7, incarnation := 1,
          publication := some publication, ready := ready }))
    let exchange (epoch request : Nat) : List Move :=
      [.act (.compose true true), .act (.deliver epoch request 9 order), .act (.apply request)]
    RestsStale client
        ([.act (.launch 1000000000 8), .act (.call (.watch ["p"])), join 9 7] ++ exchange 9 0 ++
        [.watch "p" none none, .read false, .act (.launch 1000000000 10), join 11 8] ++
        exchange 11 1 ++ exchange 11 2 ++ [.enter false]) ∧
      RestsStale client
        ([.act (.launch 1000000000 8), .act (.call (.watch ["p"])),
          update 0 false] ++ exchange 9 0 ++
        [.watch "p" none (some ["ready"]), .read false, update 1 true] ++ exchange 9 1 ++
        [.read false, update 2 false] ++ exchange 9 2 ++ [.enter false, .read false]) := by
  let := FloatFormat.widest
  intro client order join update exchange
  constructor
  · refine
      restsStale_of_summary
        (fun watching last cached =>
          (watching.phase, watching.fields, last.members.map Member.id,
            (Snapshot.of (some cached)).members.map Member.id))
        (.waiting, none, [0, 7], [0, 8])
        (by decide +kernel +zetaReduce) ?_
    intro watching last cached summed
    simp only [Prod.mk.injEq] at summed
    rcases summed with ⟨waits, fields, shown, held⟩
    refine ⟨waits, fun same => ?_⟩
    unfold Watching.Same at same
    rw [fields] at same
    have alike := congrArg (List.map Member.id) same.1
    rw [shown, held] at alike
    cases alike
  · refine
      restsStale_of_summary
        (fun watching last cached =>
          (watching.phase, watching.fields,
            decide (last.digest ["ready"] = (Snapshot.of (some cached)).digest ["ready"])))
        (.waiting, some ["ready"], false)
        (by decide +kernel +zetaReduce) ?_
    intro watching last cached summed
    simp only [Prod.mk.injEq, decide_eq_false_iff_not] at summed
    rcases summed with ⟨waits, fields, differ⟩
    refine ⟨waits, fun same => ?_⟩
    unfold Watching.Same at same
    rw [fields] at same
    exact differ same.symm

end Vigil

end

end Tinyray
