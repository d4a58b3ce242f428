import Tinyray.Membership.System

/-!
# The client's cache is coherent

Every copy in the cache is a state the pool went through in the registry
process the client heard of last.  `System.Coherent` says this together with
what makes it inductive: what the cursors of a request in flight still mean,
and what the answers in flight are answers to.
-/

namespace Tinyray

open Std Foundation

/-! ## Processes -/

namespace Process

theorem start_epoch_ne_zero (process : Process) : process.start.epoch ≠ 0 := by
  intro zero
  have bit := congrArg (fun number => Nat.testBit number 0) zero
  simp [start, Registry.new] at bit

variable [FloatFormat]

theorem registry_epoch (process : Process) : process.registry.epoch = process.start.epoch :=
  Registry.run_epoch process.start process.events

theorem extend_registry (process : Process) (event : Event) :
    (process.extend event).registry = process.registry.step event :=
  Registry.run_append process.start process.events [event]

theorem cachesSound (process : Process) : Registry.CachesSound process.registry.pools :=
  Registry.run_cachesSound (Registry.new_cachesSound process.ttl process.nanos) process.events

theorem mem_history_registry (process : Process) (name : String) :
    process.registry.pool name ∈ process.history name := by
  have reached := Registry.mem_history_run process.start name process.events []
  rw [List.append_nil] at reached
  exact reached

theorem Precedes.mem_history
    {earlier later : Process} (precedes : earlier.Precedes later)
    {name : String} {past : Pool} (visited : past ∈ earlier.history name) :
    past ∈ later.history name := by
  rcases precedes with ⟨start, more, events⟩
  unfold history
  rw [start, ← events]
  exact (Registry.mem_history_append earlier.start name earlier.events more).mpr (Or.inl visited)

end Process

section

variable [FloatFormat]

theorem Registry.beatShared_epoch
    (registry : Registry) (now : Nat) (order : String → IterationOrder) (beat : Beat) :
    (registry.beatShared now order beat).ack.epoch = registry.epoch := by
  unfold Registry.beatShared
  split
  · rfl
  · simp only
    split <;> rfl

/-! ## Copies and answers -/

/-- A copy of a past state. -/
def CopyOf (processes : ExtTreeMap Nat Process) (epoch : Nat)
    (name : String) (cached : CachedPool) : Prop :=
  ∃ process, processes[epoch]? = some process ∧ ∃ past ∈ process.history name, cached.Shows past

/-- An answer from a past state. -/
def AnswerOf (processes : ExtTreeMap Nat Process) (epoch : Nat)
    (name : String) (seen : Option Nat) (delta : PoolDelta) : Prop :=
  ∃ process, processes[epoch]? = some process ∧
    ∃ pool ∈ process.history name, pool.Answers (pool.since seen) delta

variable {epoch : Nat} {name : String} {delta : PoolDelta}
  {processes : ExtTreeMap Nat Process}
  {before after : ExtTreeMap Nat Process} {cached : CachedPool}
  {seen : Option Nat}

theorem CopyOf.grow
    (copy : CopyOf before epoch name cached) (grown : Grown before after) :
    CopyOf after epoch name cached := by
  rcases copy with ⟨process, present, past, visited, shows⟩
  rcases grown epoch process present with ⟨later, found, precedes⟩
  exact ⟨later, found, past, precedes.mem_history visited, shows⟩

theorem AnswerOf.grow
    (answer : AnswerOf before epoch name seen delta) (grown : Grown before after) :
    AnswerOf after epoch name seen delta := by
  rcases answer with ⟨process, present, pool, visited, answers⟩
  rcases grown epoch process present with ⟨later, found, precedes⟩
  exact ⟨later, found, pool, precedes.mem_history visited, answers⟩

theorem AnswerOf.copy_of_full
    (answer : AnswerOf processes epoch name seen delta)
    (full : delta.full = true) (cached : CachedPool) :
    CopyOf processes epoch name (cached.apply delta) := by
  rcases answer with ⟨process, present, pool, visited, answers⟩
  have leads := (Registry.history_new_leads visited).1
  exact
    ⟨process, present, pool, visited,
      answers.shows (leads.charted Pool.charted_empty)
        (leads.journaled Pool.journaled_empty) cached (Or.inl full)⟩

/-- A patch makes a newer copy. -/
theorem AnswerOf.copy_of_patch
    {cursor : Nat} (answer : AnswerOf processes epoch name (some cursor) delta)
    (copy : CopyOf processes epoch name cached) (since : cursor ≤ cached.version)
    (notOlder : cached.version ≤ delta.version) :
    CopyOf processes epoch name (cached.apply delta) := by
  rcases answer with ⟨process, present, pool, visited, answers⟩
  rcases copy with ⟨other, found, past, pastVisited, shows⟩
  rw [present] at found
  cases found
  have leads := (Registry.history_new_leads visited).1
  rw [shows.version] at since
  rw [shows.version, answers.version] at notOlder
  refine ⟨process, present, pool, visited, ?_⟩
  apply answers.shows (leads.charted Pool.charted_empty) (leads.journaled Pool.journaled_empty)
  exact
    Or.inr
      ⟨past, cursor, rfl, since, Registry.remembers_of_version_le visited pastVisited notOlder,
        shows.members⟩

theorem AnswerOf.full_of_no_cursor
    (answer : AnswerOf processes epoch name none delta) :
    delta.full = true := by
  rcases answer with ⟨_, _, pool, _, answers⟩
  exact answers.full_iff.mpr rfl

/-! ## The invariant -/

namespace System

/-- All answers applied while the request was awaited came from its issuer. -/
def Undisturbed (system : System) (sent : Request) : Prop :=
  ∀ epoch ∈ system.applied.drop sent.mark, epoch = sent.issuer

/-- The copies a request asked from are still there, as old or newer. -/
def CursorsHold (client : Shared) (sent : Request) : Prop :=
  ∀ (name : String) (cursor : Nat), sent.beat.seen[name]? = some cursor →
    client.seenEpoch = sent.issuer ∧
      ∃ cached, client.cache[name]? = some cached ∧ cursor ≤ cached.version

/-- A reply names its request, and its deltas answer the cursors of it. -/
def Answering (processes : ExtTreeMap Nat Process)
    (requests : List Request) (reply : Reply) : Prop :=
  ∃ sent, requests[reply.request]? = some sent ∧
    (∃ process, processes[reply.ack.epoch]? = some process) ∧
    ∀ (name : String) (delta : PoolDelta),
      reply.ack.pools[name]? = some delta →
        AnswerOf processes reply.ack.epoch name sent.beat.seen[name]?
          delta

/-- Copies and answers are of past states. -/
structure Coherent (system : System) : Prop where
  epochs : UnderEpochs system.processes
  unheard : system.client.seenEpoch = 0 → system.client.cache = ∅
  copies :
    ∀ (name : String) (cached : CachedPool),
      system.client.cache[name]? = some cached →
        CopyOf system.processes system.client.seenEpoch name cached
  marks : ∀ sent ∈ system.requests, sent.mark ≤ system.applied.length
  cursors :
    ∀ request ∈ system.awaited, ∀ sent,
      system.requests[request]? = some sent →
        system.Undisturbed sent → CursorsHold system.client sent
  replies : ∀ reply ∈ system.replies, Answering system.processes system.requests reply

variable {client : Shared} {reply : Reply} {system : System} {sent : Request}
  {ack : BeatAck} {name : String} {cached : CachedPool}

theorem new_coherent (empty : client.cache = ∅) : (System.new client).Coherent where
  epochs := by simp [System.new, UnderEpochs]
  unheard := fun _ => empty
  copies := by simp [System.new, empty]
  marks := by simp [System.new]
  cursors := by simp [System.new]
  replies := by simp [System.new]

/-- More events and requests keep answers. -/
theorem Answering.grow
    {before after : ExtTreeMap Nat Process} {requests : List Request}
    (answering : Answering before requests reply)
    (grown : Grown before after) (more : List Request) :
    Answering after (requests ++ more) reply := by
  rcases answering with ⟨sent, found, ⟨process, running⟩, answers⟩
  rcases grown _ process running with ⟨later, present, _⟩
  refine ⟨sent, ?_, ⟨later, present⟩, ?_⟩
  · exact getElem?_append_some found more
  · intro name delta listed
    exact (answers name delta listed).grow grown

/-- More events keep the system coherent. -/
theorem Coherent.grow
    (coherent : system.Coherent) {processes : ExtTreeMap Nat Process} (fresh : List Reply)
    (grown : Grown system.processes processes) (epochs : UnderEpochs processes)
    (answering : ∀ reply ∈ fresh, Answering processes system.requests reply) :
    Coherent
      { system with
        processes := processes
        replies := system.replies ++ fresh } where
  epochs := epochs
  unheard := coherent.unheard
  copies := fun name cached copy => (coherent.copies name cached copy).grow grown
  marks := coherent.marks
  cursors := coherent.cursors
  replies := by
    intro reply listed
    rcases List.mem_append.mp listed with old | new
    · have kept := (coherent.replies reply old).grow grown []
      rw [List.append_nil] at kept
      exact kept
    · exact answering reply new

/-- Nothing but copies and epoch matters. -/
theorem Coherent.frame
    (coherent : system.Coherent) (cache : client.cache = system.client.cache)
    (epoch : client.seenEpoch = system.client.seenEpoch) :
    Coherent { system with client := client } where
  epochs := coherent.epochs
  unheard := by
    rw [cache, epoch]
    exact coherent.unheard
  copies := by
    rw [cache, epoch]
    exact coherent.copies
  marks := coherent.marks
  cursors := by
    intro request waiting sent found undisturbed
    unfold CursorsHold
    rw [cache, epoch]
    exact coherent.cursors request waiting sent found undisturbed
  replies := coherent.replies

omit [FloatFormat] in
theorem cursorsHold_compose
    (client : Shared) (seen : sent.beat.seen = client.seen)
    (issuer : sent.issuer = client.seenEpoch) :
    CursorsHold client sent := by
  intro name cursor asked
  rw [seen] at asked
  rcases client.mem_seen asked with ⟨cached, copy, version⟩
  exact ⟨issuer.symm, cached, copy, version.ge⟩

/-- Sending a beat keeps it coherent. -/
theorem Coherent.send
    {system : System} (coherent : system.Coherent) (loop parked : Bool) :
    (system.send loop parked).Coherent where
  epochs := coherent.epochs
  unheard := coherent.unheard
  copies := coherent.copies
  marks := by
    intro sent listed
    rcases List.mem_append.mp listed with old | new
    · exact coherent.marks sent old
    · rw [List.mem_singleton] at new
      subst new
      exact Nat.le_refl _
  cursors := by
    intro request waiting sent found undisturbed
    rcases getElem?_concat_cases found with ⟨before, old⟩ | ⟨_, rfl⟩
    · rcases List.mem_append.mp waiting with waited | new
      · exact coherent.cursors request waited sent old undisturbed
      · rw [List.mem_singleton] at new
        exact absurd new before.ne
    · exact cursorsHold_compose system.client rfl rfl
  replies := by
    intro reply listed
    exact (coherent.replies reply listed).grow (Grown.refl _) _

theorem Coherent.drop (coherent : system.Coherent) (request : Nat) :
    Coherent
      { system with awaited := system.awaited.filter fun other => other != request } where
  epochs := coherent.epochs
  unheard := coherent.unheard
  copies := coherent.copies
  marks := coherent.marks
  cursors := fun other waiting => coherent.cursors other (List.mem_filter.mp waiting).1
  replies := coherent.replies

/-! ## Applying an answer -/

omit [FloatFormat] in
theorem restarted_eq_false
    (running : client.restarted ack = false) :
    client.seenEpoch = 0 ∨ client.seenEpoch = ack.epoch := by
  unfold Shared.restarted at running
  by_cases unheard : client.seenEpoch = 0
  · exact Or.inl unheard
  · right
    simpa [unheard] using running

/-- Copies of this process are kept. -/
theorem Coherent.kept_copies
    (coherent : system.Coherent) (kept : (system.client.kept ack)[name]? = some cached) :
    CopyOf system.processes ack.epoch name cached := by
  unfold Shared.kept at kept
  cases restarted : system.client.restarted ack with
  | true => simp [restarted] at kept
  | false =>
    simp only [restarted, Bool.false_eq_true, if_false] at kept
    rcases restarted_eq_false restarted with unheard | same
    · rw [coherent.unheard unheard] at kept
      simp at kept
    · rw [← same]
      exact coherent.copies name cached kept

/--
One delta of an answer.  The request either asked without a cursor, or its
cursors still hold.
-/
theorem Coherent.merged_copy
    (coherent : system.Coherent) {delta : PoolDelta}
    (answer :
      AnswerOf system.processes ack.epoch name sent.beat.seen[name]?
        delta)
    (holds : CursorsHold system.client sent)
    (counts : (system.client.restarted ack && !delta.full) = false) :
    CopyOf system.processes ack.epoch name
      (Shared.merged ((system.client.kept ack).getD name {}) delta) := by
  unfold Shared.merged
  split_ifs with older
  · -- a copy with a version was there before
    cases copy : (system.client.kept ack)[name]? with
    | none =>
      rw [ExtTreeMap.getD_eq_getD_getElem?, copy] at older
      exact absurd older (Nat.not_lt_zero _)
    | some cached =>
      rw [ExtTreeMap.getD_eq_getD_getElem?, copy]
      exact coherent.kept_copies copy
  · cases full : delta.full with
    | true => exact answer.copy_of_full full _
    | false =>
      cases asked : sent.beat.seen[name]? with
      | none =>
        rw [asked] at answer
        rw [answer.full_of_no_cursor] at full
        cases full
      | some cursor =>
        rw [asked] at answer
        rw [full, Bool.not_false, Bool.and_true] at counts
        rcases holds name cursor asked with ⟨_, cached, copy, since⟩
        have kept : (system.client.kept ack)[name]? = some cached := by
          simp only [Shared.kept, counts, Bool.false_eq_true, if_false, copy]
        rw [ExtTreeMap.getD_eq_getD_getElem?, kept, Option.getD_some] at older ⊢
        exact answer.copy_of_patch (coherent.kept_copies kept) since (Nat.le_of_not_lt older)

/-- After an answer, copies are still of it. -/
theorem Coherent.applied_copies
    (coherent : system.Coherent)
    (answers :
      ∀ (name : String) (delta : PoolDelta),
        reply.ack.pools[name]? = some delta →
          AnswerOf system.processes reply.ack.epoch name sent.beat.seen[name]? delta)
    (holds : CursorsHold system.client sent)
    (copy : (system.client.apply reply.ack).1.cache[name]? = some cached) :
    CopyOf system.processes reply.ack.epoch name cached := by
  rw [Shared.getElem?_apply_cache] at copy
  split at copy
  · split at copy
    · exact coherent.kept_copies copy
    · rename_i delta listed
      split at copy
      · exact coherent.kept_copies copy
      · rename_i counts
        rw [Bool.not_eq_true] at counts
        cases copy
        exact coherent.merged_copy (answers name delta listed) holds counts
  · exact coherent.kept_copies copy

omit [FloatFormat] in
/-- Copies never get older. -/
theorem apply_newer
    (running : client.restarted ack = false) (copy : client.cache[name]? = some cached) :
    ∃ later, (client.apply ack).1.cache[name]? = some later ∧ cached.version ≤ later.version := by
  have kept : (client.kept ack)[name]? = some cached := by
    simp only [Shared.kept, running, Bool.false_eq_true, if_false, copy]
  have merges : ∀ delta, cached.version ≤ (Shared.merged cached delta).version := by
    intro delta
    unfold Shared.merged
    split_ifs with older
    · exact Nat.le_refl _
    · exact Nat.le_of_not_lt older
  rw [Shared.getElem?_apply_cache]
  split
  · split
    · exact ⟨cached, kept, Nat.le_refl _⟩
    · rename_i delta listed
      split
      · exact ⟨cached, kept, Nat.le_refl _⟩
      · rw [ExtTreeMap.getD_eq_getD_getElem?, kept]
        exact ⟨_, rfl, merges delta⟩
  · exact ⟨cached, kept, Nat.le_refl _⟩

omit [FloatFormat] in
/-- Cursors of other requests still hold. -/
theorem cursorsHold_apply
    {other : Request} (holds : CursorsHold client other) (same : ack.epoch = other.issuer)
    {next : Shared} (epoch : next.seenEpoch = ack.epoch)
    (cache : next.cache = (client.apply ack).1.cache) :
    CursorsHold next other := by
  intro name cursor asked
  rcases holds name cursor asked with ⟨issuer, cached, copy, since⟩
  have running : client.restarted ack = false := by
    simp [Shared.restarted, issuer, same]
  rcases apply_newer running copy with ⟨later, held, newer⟩
  rw [cache]
  exact ⟨epoch.trans same, later, held, since.trans newer⟩

variable {epoch : Nat} {process : Process}

omit [FloatFormat] in
theorem undisturbed_append
    {applied : List Nat} (marked : sent.mark ≤ applied.length)
    (undisturbed : ∀ other ∈ (applied ++ [epoch]).drop sent.mark, other = sent.issuer) :
    (∀ other ∈ applied.drop sent.mark, other = sent.issuer) ∧ epoch = sent.issuer := by
  rw [List.drop_append_of_le_length marked] at undisturbed
  exact
    ⟨fun other listed => undisturbed other (List.mem_append_left _ listed),
      undisturbed epoch (List.mem_append_right _ (List.mem_singleton_self _))⟩

/-- An answer keeps the system coherent. -/
theorem Coherent.receive
    {system : System} (coherent : system.Coherent) {reply : Reply}
    {sent : Request} (listed : reply ∈ system.replies)
    (found : system.requests[reply.request]? = some sent)
    (holds : CursorsHold system.client sent) :
    (system.receive reply sent).Coherent := by
  rcases coherent.replies reply listed with ⟨asker, same, ⟨process, running⟩, answers⟩
  rw [found] at same
  cases same
  have epoch :
      (system.client.handle reply.ack sent.showing).seenEpoch =
        reply.ack.epoch := Shared.handle_seenEpoch _ _ _
  have cache := Shared.handle_cache system.client reply.ack sent.showing
  refine
    { epochs := coherent.epochs
      unheard := ?_
      copies := ?_
      marks := ?_
      cursors := ?_
      replies := coherent.replies }
  · intro unheard
    have started := coherent.epochs _ process running
    change (system.client.handle reply.ack sent.showing).seenEpoch = 0 at unheard
    rw [epoch, ← started] at unheard
    exact absurd unheard process.start_epoch_ne_zero
  · intro name cached copy
    change (system.client.handle reply.ack sent.showing).cache[name]? = some cached at copy
    change
      CopyOf system.processes
        (system.client.handle reply.ack sent.showing).seenEpoch name
        cached
    rw [cache] at copy
    rw [epoch]
    exact coherent.applied_copies answers holds copy
  · intro other member
    have marked := coherent.marks other member
    simp only [System.receive, List.length_append, List.length_singleton]
    exact Nat.le_succ_of_le marked
  · intro request waiting other foundOther undisturbed
    have marked := coherent.marks other (List.mem_of_getElem? foundOther)
    rcases undisturbed_append marked undisturbed with ⟨before, last⟩
    have earlier := coherent.cursors request (List.mem_filter.mp waiting).1 other foundOther before
    exact cursorsHold_apply earlier last epoch cache

/-! ## Every step keeps the cache coherent -/

/-- A delivered beat is answered truly. -/
theorem Coherent.answering_deliver
    (coherent : system.Coherent) {request : Nat} (now : Nat) (order : String → IterationOrder)
    (running : system.processes[epoch]? = some process)
    (found : system.requests[request]? = some sent) :
    Answering
      (system.processes.insert epoch (process.extend (.beat now order sent.beat)))
      system.requests
      { request := request
        ack := (process.registry.beatShared now order sent.beat).ack } := by
  have named : (process.registry.beatShared now order sent.beat).ack.epoch = epoch := by
    rw [Registry.beatShared_epoch, process.registry_epoch]
    exact coherent.epochs epoch process running
  have present :
      (system.processes.insert epoch
          (process.extend (.beat now order sent.beat)))[
            (process.registry.beatShared now order sent.beat).ack.epoch]? =
        some (process.extend (.beat now order sent.beat)) := by
    rw [named]
    exact ExtTreeMap.getElem?_insert_self
  refine ⟨sent, found, ⟨_, present⟩, ?_⟩
  intro name delta listed
  have answered :=
    Registry.beat_answered process.registry now order sent.beat process.cachesSound listed
  have reached := (process.extend (.beat now order sent.beat)).mem_history_registry name
  rw [process.extend_registry] at reached
  exact ⟨_, present, _, reached, answered.2.2⟩

/-- A parked beat is answered truly. -/
theorem answering_refresh
    (process : Process) (order : String → IterationOrder)
    (found : system.requests[reply.request]? = some sent) :
    Answering
      (system.processes.insert reply.ack.epoch (process.extend (.query order sent.beat)))
      system.requests
      { reply with
        ack :=
          { reply.ack with pools := (process.registry.deltasSharedFor order sent.beat).1 } } := by
  refine ⟨sent, found, ⟨_, ExtTreeMap.getElem?_insert_self⟩, ?_⟩
  intro name delta listed
  have answered :=
    Registry.query_answered process.registry order sent.beat process.cachesSound listed
  have reached := (process.extend (.query order sent.beat)).mem_history_registry name
  rw [process.extend_registry] at reached
  exact ⟨_, ExtTreeMap.getElem?_insert_self, _, reached, answered.2.2⟩

omit [FloatFormat] in
/--
Overlapping requests were answered by one process: all answers applied while
a request with cursors was awaited came from the process that issued them.
-/
def orderly (system : System) : Action → Bool
  | .apply index =>
    match system.replies[index]? with
    | none => true
    | some reply =>
      match system.requests[reply.request]? with
      | none => true
      | some sent =>
        sent.beat.seen.isEmpty ||
          (system.applied.drop sent.mark).all fun epoch => epoch == sent.issuer
  | _ => true

/-- One step keeps the system coherent. -/
theorem step_coherent
    {next : System} {action : Action} (stepped : system.step action = some next)
    (ordered : system.orderly action = true) (coherent : system.Coherent) :
    next.Coherent := by
  cases action with
  | call call =>
    cases stepped
    rcases system.client.call_frame call with ⟨cache, epoch⟩
    exact coherent.frame cache epoch
  | launch ttl nanos =>
    rcases step_launch stepped with ⟨fresh, rfl⟩
    have grown :=
      coherent.grow [] (grown_insert_fresh fresh _) (coherent.epochs.insert rfl) (by simp)
    simpa using grown
  | compose loop parked =>
    rw [step_compose stepped]
    exact coherent.send loop parked
  | other epoch event =>
    rcases step_other stepped with ⟨process, running, rfl⟩
    have grown :=
      coherent.grow [] (grown_extend running event) (coherent.epochs.extend running event) (by simp)
    simpa using grown
  | deliver epoch request now order =>
    rcases step_deliver stepped with ⟨process, sent, running, found, rfl⟩
    refine coherent.grow _ (grown_extend running _) (coherent.epochs.extend running _) ?_
    intro reply new
    rw [List.mem_singleton] at new
    subst new
    exact coherent.answering_deliver now order running found
  | refresh index order =>
    rcases step_refresh stepped with ⟨reply, process, sent, _, running, found, rfl⟩
    refine coherent.grow _ (grown_extend running _) (coherent.epochs.extend running _) ?_
    intro answer new
    rw [List.mem_singleton] at new
    subst new
    exact answering_refresh process order found
  | apply index =>
    rcases step_apply stepped with ⟨reply, sent, listed, found, waiting, rfl⟩
    refine coherent.receive (List.mem_of_getElem? listed) found ?_
    simp only [orderly, listed, found, Bool.or_eq_true] at ordered
    rcases ordered with noCursors | undisturbed
    · intro name cursor asked
      rw [ExtTreeMap.isEmpty_iff] at noCursors
      simp [noCursors] at asked
    · refine coherent.cursors _ waiting sent found ?_
      intro epoch applied
      have same := List.all_eq_true.mp undisturbed epoch applied
      exact eq_of_beq same
  | drop request =>
    cases stepped
    exact coherent.drop request

/-- A version says what the pool is. -/
theorem same_version_alike
    {left right : Pool} (leftVisited : left ∈ process.history name)
    (rightVisited : right ∈ process.history name) (version : left.version = right.version) :
    left.roll = right.roll ∧ left.roster = right.roster := by
  have leftLeads := (Registry.history_new_leads leftVisited).1
  have rightLeads := (Registry.history_new_leads rightVisited).1
  have remembers := Registry.remembers_of_version_le rightVisited leftVisited version.le
  have roll := remembers.roll_eq (rightLeads.journaled Pool.journaled_empty) version
  refine ⟨roll, ?_⟩
  rw [(leftLeads.charted Pool.charted_empty).fingerprinted,
    (rightLeads.charted Pool.charted_empty).fingerprinted, roll]

/--
End-to-end cache soundness.  In every run in which overlapping requests were
answered by the process that issued their cursors, each copy in the cache has
the members and the fingerprint its pool had at that version, in the registry
process the client heard of last.
-/
theorem cache_sound
    (pool : String) (id incarnation : Nat) (policy : String)
    (slot size : Option Nat) (url : Option String) (methods : List String) (exclusive : Bool)
    (actions : List Action) (final : System)
    (ran :
      execute System.step
        (System.new
          (Shared.new pool id incarnation policy slot size url methods
            exclusive)) actions = some final)
    (ordered :
      obeys System.step System.orderly
        (System.new
          (Shared.new pool id incarnation policy slot size url methods exclusive)) actions = true)
    (name : String) (cached : CachedPool)
    (copy : final.client.cache[name]? = some cached) :
    ∃ process,
      final.processes[final.client.seenEpoch]? = some process ∧
        process.start.epoch = final.client.seenEpoch ∧
        (∃ past ∈ process.history name, past.version = cached.version) ∧
        ∀ past ∈ process.history name, past.version = cached.version →
          cached.members = past.roll ∧ cached.roster = past.roster := by
  have coherent : final.Coherent := execute_invariant step_coherent ran ordered (new_coherent rfl)
  rcases coherent.copies name cached copy with ⟨process, running, past, visited, shows⟩
  refine
    ⟨process, running, coherent.epochs _ process running, ⟨past, visited, shows.version.symm⟩, ?_⟩
  intro other otherVisited version
  have alike := same_version_alike visited otherVisited (shows.version.symm.trans version.symm)
  exact ⟨shows.members.trans alike.1, shows.roster.trans alike.2⟩

omit [FloatFormat] in
/-- A second member joins between two beats of a client's loop. -/
theorem cache_sound_joined :
    letI := FloatFormat.widest
    ∃ final : System,
      execute System.step
          (System.new (Shared.new "p" 0 1 "" none none none [] false))
          [.launch 1000000000 8, .call (.watch ["p"]), .compose true true,
            .deliver 9 0 0 (fun _ => .ascending), .apply 0,
            .other 9 (.beat 1 (fun _ => .ascending)
              { pool := "p", id := 7, incarnation := 1 }),
            .compose true true, .deliver 9 1 2 (fun _ => .ascending), .apply 1] =
        some final ∧ final.client.cache["p"]?.map CachedPool.version = some 2 ∧
        ∀ (cached : CachedPool),
          final.client.cache["p"]? = some cached →
            ∃ process,
              final.processes[final.client.seenEpoch]? = some process ∧
                process.start.epoch = final.client.seenEpoch ∧
                (∃ past ∈ process.history "p", past.version = cached.version) ∧
                ∀ past ∈ process.history "p",
                  past.version = cached.version →
                    cached.members = past.roll ∧ cached.roster = past.roster := by
  let := FloatFormat.widest
  refine ⟨Option.get _ ?_, (Option.some_get _).symm, ?_, ?_⟩
  · decide
  · decide
  · exact
      cache_sound "p" 0 1 "" none none none [] false _ _ (Option.some_get _).symm (by decide) "p"

end System

end

end Tinyray
