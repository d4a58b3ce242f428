import Mathlib.Data.Finset.Fold
import Tinyray.Membership.Fleet
import Tinyray.Membership.Frozen
import Tinyray.Registry.Holder

/-!
# Agreeing on an epoch

`wait_epoch` freezes the ready members of a pool once there are enough of
them and their fingerprint is that of the whole pool, and `epoch_valid` says
whether the pool still has that fingerprint.  Clients that froze under one
fingerprint froze the same seats.

A wait takes the locks anew in every pass, and reads what it checks one by
one: each thing it reads may be of another moment.
-/

namespace Tinyray

open Std Foundation

/-! ## Seats and their fingerprint -/

/-- The seats that members hold, as id and tenure. -/
def seatsOf (members : List Member) : Finset (Nat × Nat) :=
  (members.map fun member => (member.id, member.incarnation)).toFinset

/-- The fingerprint of a set of seats. -/
def fingerprint (seats : Finset (Nat × Nat)) : BitVec 64 :=
  seats.fold (· ^^^ ·) 0 fun seat => rosterHash seat.1 seat.2

/-- The seats of a copy. -/
def CachedPool.seats (cached : CachedPool) : Finset (Nat × Nat) :=
  seatsOf (cached.members.toList.map Prod.snd)

/-- The seats of a frozen pool. -/
def FrozenPool.seats (view : FrozenPool) : Finset (Nat × Nat) := seatsOf view.members.members

/-- The seats of a pool. -/
def Pool.seats (pool : Pool) : Finset (Nat × Nat) := seatsOf (pool.roll.toList.map Prod.snd)

variable {members : List Member}

theorem mem_seatsOf {seat : Nat × Nat} :
    seat ∈ seatsOf members ↔ ∃ member ∈ members, (member.id, member.incarnation) = seat := by
  simp [seatsOf]

/-- The fingerprint of seats, by members. -/
theorem fingerprint_seatsOf (distinct : (members.map Member.id).Nodup) :
    fingerprint (seatsOf members) =
      members.foldl (fun roster member => roster ^^^ member.rosterHash) 0 := by
  have pairs : (members.map fun member => (member.id, member.incarnation)).Nodup := by
    apply List.Nodup.of_map Prod.fst
    rw [List.map_map]
    exact distinct
  unfold fingerprint seatsOf
  rw [← List.toFinset_eq pairs, Finset.fold, Multiset.map_coe,
    Multiset.coe_fold_l, List.map_map, List.foldl_map]
  simp only [Function.comp_apply, Member.rosterHash]

/-- The ids are among those asked for. -/
theorem ids_of_reported
    {members : ExtTreeMap Nat Member}
    (keyed : ∀ (id : Nat) (member : Member), members[id]? = some member → member.id = id)
    (ids : List Nat) :
    ((ids.filterMap fun id => members[id]?).map Member.id).Sublist ids := by
  induction ids with
  | nil => exact .slnil
  | cons id rest hypothesis =>
    cases held : members[id]? with
    | none =>
      rw [List.filterMap_cons_none held]
      exact hypothesis.cons id
    | some member =>
      rw [List.filterMap_cons_some held, List.map_cons, keyed id member held]
      exact hypothesis.cons_cons id

namespace CachedPool

variable {cached : CachedPool}
  (keyed : ∀ (id : Nat) (member : Member), cached.members[id]? = some member → member.id = id)

include keyed

theorem fingerprint_seats : fingerprint cached.seats = rosterOf cached.members := by
  have ids : (cached.members.toList.map Prod.snd).map Member.id = cached.members.keys := by
    rw [List.map_map, ← ExtTreeMap.map_fst_toList_eq_keys]
    apply List.map_congr_left
    rintro ⟨id, member⟩ listed
    exact keyed id member (ExtTreeMap.mem_toList_iff_getElem?_eq_some.mp listed)
  unfold seats
  rw [fingerprint_seatsOf, rosterOf, combine, ExtTreeMap.foldl_eq_foldl_toList, List.foldl_map]
  rw [ids]
  exact ExtTreeMap.nodup_keys

variable {member : Member}

/-- Which members are frozen. -/
theorem mem_frozen_ready :
    member ∈ (cached.frozen true).members.members ↔
      cached.members[member.id]? = some member ∧ member.ready = true := by
  unfold frozen makeNative listed
  rw [(FrozenMembers.new_members_perm _).mem_iff]
  simp only [if_true, List.mem_filterMap, List.mem_filter]
  constructor
  · rintro ⟨id, ⟨_, ready⟩, held⟩
    rw [keyed id member held, held]
    rw [held] at ready
    exact ⟨rfl, ready⟩
  · rintro ⟨held, ready⟩
    refine ⟨member.id, ⟨?_, ?_⟩, held⟩
    · rw [ExtTreeMap.mem_keys, ExtTreeMap.mem_iff_isSome_getElem?, held]
      rfl
    · rw [held]
      exact ready

/-- The seats give the fingerprint. -/
theorem fingerprint_frozen (requireReady : Bool) :
    fingerprint (cached.frozen requireReady).seats =
      (cached.frozen requireReady).members.roster := by
  unfold FrozenPool.seats
  have listing : (cached.listed requireReady).Nodup := by
    have keys : cached.members.keys.Nodup := ExtTreeMap.nodup_keys
    unfold listed
    split
    · exact keys.filter _
    · exact keys
  have distinct := (ids_of_reported keyed (cached.listed requireReady)).nodup listing
  unfold frozen makeNative
  have sorted :=
    FrozenMembers.new_members_perm
      ((cached.listed requireReady).filterMap fun id => cached.members[id]?)
  rw [FrozenMembers.new_roster_of_perm sorted.symm]
  exact fingerprint_seatsOf ((sorted.map Member.id).nodup_iff.mpr distinct)

/-- If no seat is missing, all are ready. -/
theorem frozen_whole
    (same : (cached.frozen true).seats = cached.seats) {id : Nat}
    (held : cached.members[id]? = some member) :
    member ∈ (cached.frozen true).members.members ∧ member.ready = true := by
  have seated : (member.id, member.incarnation) ∈ (cached.frozen true).seats := by
    rw [same]
    refine mem_seatsOf.mpr ⟨member, List.mem_map.mpr ⟨(id, member), ?_, rfl⟩, rfl⟩
    exact ExtTreeMap.mem_toList_iff_getElem?_eq_some.mpr held
  rcases mem_seatsOf.mp seated with ⟨other, listed, seat⟩
  rcases (mem_frozen_ready keyed).mp listed with ⟨found, ready⟩
  have sameId : other.id = member.id := congrArg Prod.fst seat
  rw [sameId, keyed id member held, held] at found
  cases found
  exact ⟨listed, ready⟩

end CachedPool

/-! ## Waiting for an epoch -/

/-- How a wait can end. -/
inductive WaitStatus where
  | pending | ready | timeout | fenced | closed | stale | noSize | mismatch
deriving DecidableEq

/-- What a wait returns. -/
structure EpochWaitResult where
  status : WaitStatus
  view : Option FrozenPool
  found : Nat
  target : Int
  mismatched : Bool
  seenPool : Bool
  silenceMs : Nat

/-- What one pass of a wait has seen. -/
structure Sight where
  /-- The client as the pass checks whether it is fenced. -/
  checked : Shared
  /-- The client as the pass reads how long a lease is. -/
  leased : Shared
  /-- The client while the pass holds the lock of the cache. -/
  copied : Shared
  /-- The client as a pass that succeeded checks once more. -/
  confirmed : Shared
  silenceMs : Nat
  /-- The deadline of the wait is over at the end of the pass. -/
  overdue : Bool

/-- The moments at which a pass looks. -/
structure Look where
  checked : Nat
  leased : Nat
  copied : Nat
  confirmed : Nat
  silenceMs : Nat
  overdue : Bool

/-- What a pass sees at its moments. -/
def Look.sight (look : Look) (glimpse : Nat → Option Shared) : Option Sight := do
  let checked ← glimpse look.checked
  let leased ← glimpse look.leased
  let copied ← glimpse look.copied
  let confirmed ← glimpse look.confirmed
  some
    { checked := checked
      leased := leased
      copied := copied
      confirmed := confirmed
      silenceMs := look.silenceMs
      overdue := look.overdue }

namespace Shared

/-- `epoch_valid`: fenced or not is read first, the cache after it. -/
def epochValid (checked copied : Shared) (pool : String)
    (roster : BitVec 64) : Bool :=
  checked.accepted && match copied.cache[pool]? with
    | none => true
    | some cached => cached.roster == roster

/-- What a pass of `wait_epoch` makes of the cache. -/
def inspect (copied : Shared) (pool : String) (minimum : Option Int)
    (silenceMs : Nat) : EpochWaitResult :=
  match copied.cache[pool]? with
  | none =>
    { status := .pending
      view := none
      found := 0
      target := minimum.getD 0
      mismatched := false
      seenPool := false
      silenceMs := silenceMs }
  | some cached =>
    match minimum.or (cached.size.map Int.ofNat) with
    | none =>
      { status := .noSize
        view := none
        found := 0
        target := 0
        mismatched := false
        seenPool := true
        silenceMs := silenceMs }
    | some target =>
      let view := cached.frozen true
      let found := view.members.members.length
      let mismatched := view.members.roster != view.roster
      let ready := decide (target ≤ found) && !mismatched
      { status := if ready then .ready else .pending
        view := if ready then some view else none
        found := found
        target := target
        mismatched := mismatched
        seenPool := true
        silenceMs := silenceMs }

/-- A pass that gives up before it looks at the cache. -/
def giveUp (status : WaitStatus) (minimum : Option Int)
    (silenceMs : Nat) : EpochWaitResult where
  status := status
  view := none
  found := 0
  target := minimum.getD 0
  mismatched := false
  seenPool := false
  silenceMs := silenceMs

/-- One pass of the loop of `wait_epoch`; `none` goes round again. -/
def waitPass (pool : String) (minimum : Option Int) (sight : Sight) : Option EpochWaitResult :=
  if !sight.checked.accepted then some (giveUp .fenced minimum sight.silenceMs)
  else
    let leaseMs := max (min (sight.leased.intervalMs * 4) (2 ^ 64 - 1)) 1000
    if sight.silenceMs > leaseMs then some (giveUp .stale minimum sight.silenceMs)
    else
      let result := sight.copied.inspect pool minimum sight.silenceMs
      match result.status with
      | .noSize => some result
      | .ready =>
        if !sight.confirmed.accepted then some { result with status := .fenced, view := none }
        else some result
      | _ =>
        if sight.overdue then
          some
            { result with
              status :=
                if result.mismatched && decide (result.target ≤ result.found) then .mismatch
                else .timeout }
        else none

/-- `wait_epoch`, for a client as it is from moment to moment. -/
def waitEpoch (glimpse : Nat → Option Shared) (pool : String)
    (minimum : Option Int) : List Look → Option EpochWaitResult
  | [] => none
  | look :: rest => do
    let sight ← look.sight glimpse
    match waitPass pool minimum sight with
    | some result => some result
    | none => waitEpoch glimpse pool minimum rest

variable {pool : String} {minimum : Option Int}

/-- What a ready inspection has seen. -/
theorem inspect_ready
    {copied : Shared} {silenceMs : Nat}
    (ready : (copied.inspect pool minimum silenceMs).status = .ready) :
    ∃ cached, copied.cache[pool]? = some cached ∧
      (copied.inspect pool minimum silenceMs).view = some (cached.frozen true) ∧
      (copied.inspect pool minimum silenceMs).target ≤ (cached.frozen true).members.members.length ∧
      (cached.frozen true).members.roster = cached.roster := by
  revert ready
  unfold inspect
  cases copied.cache[pool]? with
  | none => simp
  | some cached =>
    simp only
    cases minimum.or (cached.size.map Int.ofNat) with
    | none => simp
    | some target =>
      simp only
      intro ready
      split_ifs at ready with enough
      rw [if_pos enough]
      simp only [Bool.and_eq_true, decide_eq_true_eq,
        Bool.not_eq_true', bne_eq_false_iff_eq] at enough
      exact ⟨cached, rfl, rfl, enough.1, enough.2⟩

variable {result : EpochWaitResult}

/-- The same for one pass of the wait. -/
theorem waitPass_ready
    {sight : Sight} (passed : waitPass pool minimum sight = some result)
    (ready : result.status = .ready) :
    ∃ cached, sight.copied.cache[pool]? = some cached ∧ result.view = some (cached.frozen true) ∧
      result.target ≤ (cached.frozen true).members.members.length ∧
      (cached.frozen true).members.roster = cached.roster := by
  unfold waitPass at passed
  split at passed
  · cases passed
    cases ready
  · simp only at passed
    split at passed
    · cases passed
      cases ready
    · split at passed
      · rename_i noSize
        cases passed
        rw [noSize] at ready
        cases ready
      · rename_i found
        split at passed
        · cases passed
          cases ready
        · cases passed
          exact inspect_ready found
      · split at passed
        · cases passed
          simp only at ready
          split_ifs at ready
        · cases passed

/-- The same for the whole wait. -/
theorem waitEpoch_ready
    {glimpse : Nat → Option Shared} {looks : List Look}
    (waited : waitEpoch glimpse pool minimum looks = some result)
    (ready : result.status = .ready) :
    ∃ look ∈ looks, ∃ copied cached,
      glimpse look.copied = some copied ∧ copied.cache[pool]? = some cached ∧
        result.view = some (cached.frozen true) ∧
        result.target ≤ (cached.frozen true).members.members.length ∧
        (cached.frozen true).members.roster = cached.roster := by
  induction looks with
  | nil => cases waited
  | cons look rest hypothesis =>
    simp only [waitEpoch, bind_some_iff] at waited
    rcases waited with ⟨sight, seen, waited⟩
    cases passed : waitPass pool minimum sight with
    | none =>
      rw [passed] at waited
      rcases hypothesis waited with ⟨found, listed, rest⟩
      exact ⟨found, List.mem_cons_of_mem _ listed, rest⟩
    | some outcome =>
      rw [passed] at waited
      cases waited
      rcases waitPass_ready passed ready with ⟨cached, held, view, target, whole⟩
      refine ⟨look, List.mem_cons_self, sight.copied, cached, ?_, held, view, target, whole⟩
      simp only [Look.sight, bind_some_iff, Option.some.injEq] at seen
      rcases seen with ⟨checked, _, leased, _, copied, there, _, _, rfl⟩
      exact there

end Shared

/-! ## Updates keep the seats -/

section

variable [FloatFormat]

/--
An event that may change state, url and readiness of the members of a pool:
a beat of a member that is in, a sweep that finds all leases running, or
something elsewhere.
-/
def Registry.updates (registry : Registry) (name : String) : Event → Bool
  | .beat _ _ sent =>
    sent.pool != name ||
      !sent.leaving && (registry.pool name).stored sent.id == some sent.incarnation
  | .sweep now _ _ =>
    (registry.pool name).members.toList.all fun entry =>
      decide (now < entry.2.expiresAt)
  | .query _ _ => true
  | .park _ _ => true

/-- No beat or sweep changes the seats. -/
def Registry.onlyUpdates (registry : Registry) (name : String) : List Event → Bool
  | [] => true
  | event :: rest => registry.updates name event && (registry.step event).onlyUpdates name rest

namespace Registry

omit [FloatFormat] in
/-- Tenures are what the seats store. -/
theorem tenures_eq_of_stored
    {left right : Pool} (same : ∀ id, left.stored id = right.stored id) :
    tenures left.roll = tenures right.roll := by
  apply ExtTreeMap.ext_getElem?
  intro id
  have stored := same id
  unfold Pool.stored at stored
  unfold tenures
  rw [ExtTreeMap.getElem?_map, ExtTreeMap.getElem?_map,
    Pool.getElem?_roll, Pool.getElem?_roll, Option.map_map, Option.map_map]
  exact stored

variable {registry : Registry} {name : String}

omit [FloatFormat] in
theorem running_of_updates
    {now : Nat} {order : String → IterationOrder} {alive : Bell → Bool}
    (updates : registry.updates name (.sweep now order alive) = true)
    {id : Nat} {record : Record} (held : (registry.pool name).members[id]? = some record) :
    now < record.expiresAt := by
  have running :=
    List.all_eq_true.mp updates (id, record) (ExtTreeMap.mem_toList_iff_getElem?_eq_some.mpr held)
  exact of_decide_eq_true running

variable {event : Event} {state : Pool}

/-- Updates change no tenure. -/
theorem step_updates
    (updates : registry.updates name event = true) (id : Nat) :
    ((registry.step event).pool name).stored id = (registry.pool name).stored id := by
  by_contra changed
  cases step_entitled changed with
  | goodbye now order sent pool own accepted leaving notOlder =>
    simp [Registry.updates, pool, leaving] at updates
  | takeover now order sent pool own accepted staying later notBelow =>
    simp only [Registry.updates, pool, staying, own, bne_self_eq_false,
      Bool.false_or, Bool.not_false, Bool.true_and, beq_iff_eq] at updates
    exact Nat.lt_irrefl _ (later _ updates)
  | expiry now order alive record held expired =>
    exact Nat.not_lt.mpr expired (running_of_updates updates held)

/-- The states in between change none. -/
theorem visits_updates
    (updates : registry.updates name event = true)
    (visited : state ∈ registry.visits name event) (id : Nat) :
    state.stored id = (registry.pool name).stored id := by
  cases event with
  | sweep now order alive =>
    rcases List.mem_append.mp visited with inside | last
    · have noDead : (registry.pool name).dead (order name) now = [] := by
        rw [List.eq_nil_iff_forall_not_mem]
        intro other dead
        rcases (Pool.mem_dead _ _ _ _).mp dead with ⟨record, held, expired⟩
        exact Nat.not_lt.mpr expired (running_of_updates updates held)
      unfold Pool.sweepStates at inside
      rw [noDead, List.scanl_nil, List.mem_singleton] at inside
      rw [inside]
      rfl
    · rw [List.mem_singleton.mp last]
      exact step_updates updates id
  | beat now order sent | query order sent | park watch bell =>
    rw [List.mem_singleton.mp visited]
    exact step_updates updates id

/-- A run of updates changes none. -/
theorem history_updates
    {events : List Event} (updates : registry.onlyUpdates name events = true)
    (visited : state ∈ registry.history name events) (id : Nat) :
    state.stored id = (registry.pool name).stored id := by
  induction events generalizing registry with
  | nil =>
    rw [history, List.mem_singleton] at visited
    rw [visited]
  | cons event rest hypothesis =>
    simp only [onlyUpdates, Bool.and_eq_true] at updates
    rw [history, List.mem_cons, List.mem_append] at visited
    rcases visited with rfl | now | later
    · rfl
    · exact visits_updates updates.1 now id
    · rw [hypothesis updates.2 later]
      exact step_updates updates.1 id

end Registry

/-! ## The client from moment to moment -/

namespace Fleet

/-- A client after so many moves. -/
def clientAt (start : Fleet) (moves : List (Nat × Action))
    (who moment : Nat) : Option Shared :=
  (execute step start (moves.take moment)).bind fun fleet => fleet.parties[who]?.map Party.client

variable {start final : Fleet} {moves : List (Nat × Action)}
  {who moment : Nat} {shared : Shared} {name : String}
  {cached : CachedPool}

/-- A client's past is a shorter run. -/
theorem clientAt_spec
    (ran : execute step start moves = some final) (loyal : start.Loyal)
    (seen : clientAt start moves who moment = some shared) :
    ∃ fleet party,
      execute step start (moves.take moment) = some fleet ∧
        fleet.Loyal ∧ fleet.process.Precedes final.process ∧
        fleet.parties[who]? = some party ∧ party.client = shared := by
  simp only [clientAt, Option.bind_eq_some_iff, Option.map_eq_some_iff] at seen
  rcases seen with ⟨fleet, reached, party, present, client⟩
  rw [← List.take_append_drop moment moves] at ran
  rcases execute_split ran with ⟨middle, first, second⟩
  rw [reached] at first
  cases first
  have there := (run_onward reached loyal).1
  have onward := (run_onward second there).2
  exact ⟨fleet, party, reached, there, onward.process, present, client⟩

theorem clientAt_shows
    (ran : execute step start moves = some final) (loyal : start.Loyal)
    (seen : clientAt start moves who moment = some shared)
    (copy : shared.cache[name]? = some cached) :
    ∃ past ∈ final.process.history name, cached.Shows past := by
  rcases clientAt_spec ran loyal seen with ⟨fleet, party, _, there, precedes, present, rfl⟩
  rcases there.shows present copy with ⟨past, visited, shows⟩
  exact ⟨past, precedes.mem_history visited, shows⟩

/-- A client's copies never get older. -/
theorem clientAt_newer
    (ran : execute step start moves = some final) (loyal : start.Loyal)
    (seen : clientAt start moves who moment = some shared)
    (copy : shared.cache[name]? = some cached)
    {later : Nat} (notBefore : moment ≤ later) {next : Shared}
    (seenLater : clientAt start moves who later = some next) :
    ∃ held, next.cache[name]? = some held ∧ cached.version ≤ held.version := by
  rcases clientAt_spec ran loyal seen with ⟨fleet, party, reached, there, _, present, rfl⟩
  rcases clientAt_spec ran loyal seenLater with ⟨fleet', party', reached', _, _, present', rfl⟩
  rcases Nat.exists_eq_add_of_le notBefore with ⟨more, rfl⟩
  rw [List.take_add] at reached'
  rcases execute_split reached' with ⟨middle, first, second⟩
  rw [reached] at first
  cases first
  have onward := (run_onward second there).2
  rcases onward.newer who party present with ⟨last, found, newer⟩
  rw [present'] at found
  cases found
  exact newer name cached copy

/-- Copies of one version are alike, and no client's copy goes back. -/
def CopiesAgree (start : Fleet) (moves : List (Nat × Action)) : Prop :=
  ∀ (who other moment later : Nat) (shared next : Shared) (name : String)
      (cached copy : CachedPool),
    clientAt start moves who moment = some shared →
      clientAt start moves other later = some next →
        shared.cache[name]? = some cached → next.cache[name]? = some copy →
          (cached.version = copy.version →
            cached.members = copy.members ∧ cached.roster = copy.roster) ∧
            (who = other → moment ≤ later → cached.version ≤ copy.version)

/-- In every run the clients of one registry read alike, and forwards. -/
theorem copies_agree
    (ttl nanos : Nat) (clients : ExtTreeMap Nat Shared)
    (unheard : ∀ (who : Nat) (client : Shared), clients[who]? = some client → client.cache = ∅)
    (moves : List (Nat × Action)) (final : Fleet)
    (ran : execute step (Fleet.new ttl nanos clients) moves = some final) :
    (Fleet.new ttl nanos clients).CopiesAgree moves := by
  have loyal := new_loyal ttl nanos unheard
  intro who other moment later shared next name cached copy seen seenLater
    left right
  constructor
  · intro version
    rcases clientAt_shows ran loyal seen left with ⟨past, visited, shows⟩
    rcases clientAt_shows ran loyal seenLater right with ⟨present, reached, showsLater⟩
    have alike :=
      System.same_version_alike visited reached
        (shows.version.symm.trans (version.trans showsLater.version))
    exact
      ⟨shows.members.trans (alike.1.trans showsLater.members.symm),
        shows.roster.trans (alike.2.trans showsLater.roster.symm)⟩
  · rintro rfl notBefore
    rcases clientAt_newer ran loyal seen left notBefore seenLater with ⟨held, found, newer⟩
    cases found.symm.trans right
    exact newer

omit [FloatFormat] in
/-- Somebody else joins between two beats of a client. -/
theorem copies_agree_joined :
    letI := FloatFormat.widest
    let start :=
      Fleet.new 1000000000 8
        ((∅ : ExtTreeMap Nat Shared).insert 0 (Shared.new "p" 0 1 "" none none none [] false))
    let order : String → IterationOrder := fun _ => .ascending
    let moves : List (Nat × Action) :=
      [(0, .call (.watch ["p"])), (0, .compose true false),
        (0, .deliver 9 0 0 order), (0, .apply 0),
        (0, .other 9 (.beat 1 order { pool := "p", id := 7, incarnation := 1 })),
        (0, .compose true false), (0, .deliver 9 1 2 order), (0, .apply 1)]
    ([4, 8].map fun moment =>
        (clientAt start moves 0 moment).bind fun client =>
          client.cache["p"]?.map CachedPool.version) =
        [some 1, some 2] ∧
      start.CopiesAgree moves := by
  let := FloatFormat.widest
  intro start order moves
  refine ⟨by decide +kernel +zetaReduce, ?_⟩
  refine copies_agree _ _ _ ?_ moves (Option.get _ ?_) (Option.some_get _).symm
  · intro who client listed
    rcases getElem?_insert_cases listed with ⟨_, rfl⟩ | ⟨_, none⟩
    · rfl
    · simp at none
  · decide +kernel +zetaReduce

end Fleet

/-! ## Agreement -/

/-- A wait of one client and what came of it. -/
structure EpochWait where
  who : Nat
  minimum : Option Int
  looks : List Look
  result : EpochWaitResult
  view : FrozenPool

/-- The wait was made in a run and returned `Ready` with its view. -/
def EpochWait.Ready (wait : EpochWait) (start : Fleet)
    (moves : List (Nat × Action)) (pool : String) : Prop :=
  Shared.waitEpoch (start.clientAt moves wait.who) pool wait.minimum wait.looks = some wait.result ∧
    wait.result.status = .ready ∧ wait.result.view = some wait.view

variable {past : Pool}

omit [FloatFormat] in
/-- A copy has the seats of the past. -/
theorem CachedPool.Shows.charted
    {cached : CachedPool} (shows : cached.Shows past) (charted : past.Charted) :
    (∀ (id : Nat) (member : Member), cached.members[id]? = some member → member.id = id) ∧
      cached.roster = fingerprint cached.seats ∧ cached.seats = past.seats := by
  have keyed :
      ∀ (id : Nat) (member : Member), cached.members[id]? = some member → member.id = id := by
    rw [shows.members]
    exact charted.keyed
  refine ⟨keyed, ?_, ?_⟩
  · rw [CachedPool.fingerprint_seats keyed, shows.roster, shows.members]
    exact charted.fingerprinted
  · unfold CachedPool.seats Pool.seats
    rw [shows.members]

variable {process : Process} {name : String}

theorem Process.charted
    (visited : past ∈ process.history name) :
    past.Charted :=
  (Registry.history_new_leads visited).1.charted Pool.charted_empty

/--
As long as there are only updates after some state of a pool, every state
that is not older has its fingerprint.
-/
theorem Process.roster_of_updates
    {before after : List Event} (events : process.events = before ++ after)
    (updates : (process.start.run before).onlyUpdates name after = true)
    (visited : past ∈ process.history name)
    (notOlder : ((process.start.run before).pool name).version ≤ past.version) :
    past.roster = ((process.start.run before).pool name).roster := by
  have middle : (process.start.run before).pool name ∈ process.history name := by
    unfold Process.history
    rw [events]
    exact Registry.mem_history_run process.start name before after
  have cut := visited
  unfold Process.history at cut
  rw [events, Registry.mem_history_append] at cut
  rcases cut with early | late
  · have leads := (Registry.history_leads process.start name before early).2
    have journaled := (Registry.history_new_leads visited).1.journaled Pool.journaled_empty
    have behind := (leads.remembers journaled).behind
    exact (System.same_version_alike visited middle (Nat.le_antisymm behind notOlder)).2
  · have tenures := Registry.tenures_eq_of_stored (Registry.history_updates updates late)
    rw [(Process.charted visited).roster_eq, (Process.charted middle).roster_eq, tenures]

namespace Fleet

section

variable {start final : Fleet} {moves : List (Nat × Action)}
  {pool : String} {wait : EpochWait}
  (ran : execute step start moves = some final) (loyal : start.Loyal)
  {occurring : List (Finset (Nat × Nat))}
  (occurs : ∀ past ∈ final.process.history pool, past.seats ∈ occurring)
  (distinct :
    ∀ first ∈ occurring, ∀ second ∈ occurring,
      fingerprint first = fingerprint second → first = second)
  (frozenOccurs : wait.view.seats ∈ occurring)

include ran loyal

/-- What the frozen view of a wait is. -/
theorem ready_frozen (ready : wait.Ready start moves pool) :
    ∃ look ∈ wait.looks, ∃ frozenFrom cached,
      clientAt start moves wait.who look.copied = some frozenFrom ∧
        frozenFrom.cache[pool]? = some cached ∧ wait.view = cached.frozen true ∧
        wait.result.target ≤ wait.view.members.members.length ∧
        fingerprint wait.view.seats = wait.view.roster ∧
        ∃ past ∈ final.process.history pool, cached.Shows past := by
  rcases ready with ⟨waited, status, view⟩
  rcases Shared.waitEpoch_ready waited status with
    ⟨look, listed, frozenFrom, cached, seen, copy, frozen, target, same⟩
  rw [view] at frozen
  have froze : wait.view = cached.frozen true := Option.some.inj frozen
  rcases clientAt_shows ran loyal seen copy with ⟨past, visited, shows⟩
  have keyed := (shows.charted (Process.charted visited)).1
  refine ⟨look, listed, frozenFrom, cached, seen, copy, froze, ?_, ?_, past, visited, shows⟩
  · rw [froze]
    exact target
  · rw [froze, CachedPool.fingerprint_frozen keyed]
    exact same

include occurs distinct frozenOccurs

variable {past : Pool}

omit ran loyal in
/-- Equal fingerprints, equal seats. -/
theorem roster_eq_iff
    (frozen : fingerprint wait.view.seats = wait.view.roster)
    {held : CachedPool} (visited : past ∈ final.process.history pool) (shows : held.Shows past) :
    held.roster = wait.view.roster ↔ held.seats = wait.view.seats := by
  rcases shows.charted (Process.charted visited) with ⟨_, roster, seats⟩
  rw [roster, ← frozen]
  constructor
  · apply distinct _ _ _ frozenOccurs
    rw [seats]
    exact occurs past visited
  · intro same
    rw [same]

/-- When `epoch_valid` holds. -/
theorem epochValid_iff
    (frozen : fingerprint wait.view.seats = wait.view.roster)
    {later : Nat} (checked : Shared) {copied : Shared}
    (seen : clientAt start moves wait.who later = some copied) :
    Shared.epochValid checked copied pool wait.view.roster = true ↔
      checked.accepted = true ∧
        ∀ held, copied.cache[pool]? = some held → held.seats = wait.view.seats := by
  unfold Shared.epochValid
  rw [Bool.and_eq_true]
  apply and_congr_right
  intro _
  cases copy : copied.cache[pool]? with
  | none => simp
  | some held =>
    rcases clientAt_shows ran loyal seen copy with ⟨past, visited, shows⟩
    have same := roster_eq_iff occurs distinct frozenOccurs frozen visited shows
    simp only [beq_iff_eq, Option.some.injEq, forall_eq']
    exact same

omit ran loyal in
/-- What was frozen is all of the copy, and ready. -/
theorem frozen_all
    (frozen : fingerprint wait.view.seats = wait.view.roster)
    {cached : CachedPool} (froze : wait.view = cached.frozen true)
    (visited : past ∈ final.process.history pool)
    (shows : cached.Shows past) (id : Nat) (member : Member)
    (held : cached.members[id]? = some member) :
    member ∈ wait.view.members.members ∧ member.ready = true := by
  have same := roster_eq_iff occurs distinct frozenOccurs frozen visited shows
  have seats : cached.seats = wait.view.seats := by
    rw [← same, froze]
    rfl
  rw [froze] at seats ⊢
  exact CachedPool.frozen_whole (shows.charted (Process.charted visited)).1 seats.symm held

omit occurs in
/-- Under one fingerprint two waits have frozen the same seats. -/
theorem same_seats
    {other : EpochWait} (otherOccurs : other.view.seats ∈ occurring)
    (ready : wait.Ready start moves pool) (otherReady : other.Ready start moves pool)
    (sameRoster : wait.view.roster = other.view.roster) :
    wait.view.seats = other.view.seats := by
  rcases ready_frozen ran loyal ready with ⟨_, _, _, _, _, _, _, _, print, _⟩
  rcases ready_frozen ran loyal otherReady with ⟨_, _, _, _, _, _, _, _, otherPrint, _⟩
  apply distinct _ frozenOccurs _ otherOccurs
  rw [print, otherPrint, sameRoster]

end

/-- Updates leave an epoch valid. -/
theorem epochValid_of_updates
    {start final : Fleet} {moves : List (Nat × Action)} {pool : String} {who moment later : Nat}
    {frozenFrom checked copied : Shared} {cached : CachedPool}
    (ran : execute step start moves = some final) (loyal : start.Loyal)
    (seen : clientAt start moves who moment = some frozenFrom)
    (copy : frozenFrom.cache[pool]? = some cached)
    (seenLater : clientAt start moves who later = some copied)
    (after : moment ≤ later) {events updates : List Event}
    (cut : final.process.events = events ++ updates)
    (version : ((final.process.start.run events).pool pool).version = cached.version)
    (only : (final.process.start.run events).onlyUpdates pool updates = true) :
    Shared.epochValid checked copied pool cached.roster = checked.accepted := by
  rcases clientAt_shows ran loyal seen copy with ⟨past, visited, shows⟩
  rcases clientAt_newer ran loyal seen copy after seenLater with ⟨held, here, newer⟩
  rcases clientAt_shows ran loyal seenLater here with ⟨past', visited', shows'⟩
  have frozenAt := Process.roster_of_updates cut only visited (version.trans shows.version).le
  have heldAt :=
    Process.roster_of_updates cut only visited' (version.le.trans (newer.trans shows'.version.le))
  have same : held.roster = cached.roster := by
    rw [shows'.roster, shows.roster, heldAt, frozenAt]
  unfold Shared.epochValid
  rw [here]
  simp [same]

end Fleet

end

end Tinyray
