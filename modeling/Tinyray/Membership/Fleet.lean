import Tinyray.Membership.Coherence

/-!
# The clients of one registry process

`Fleet` is a registry process with any number of clients.  A move of the fleet
is a step of `System` for one of them; to all the others it is at most one
more event at the registry.  So what holds of a client and its registry in
`System` holds of every client of a fleet, and as there is one process only,
nobody ever hears from another: the condition on overlapping requests of
`cache_sound` is met in every run.
-/

namespace Tinyray

open Std Foundation

/-- A client, its requests and the answers to them. -/
structure Party where
  client : Shared
  requests : List Request := []
  awaited : List Nat := []
  replies : List Reply := []
  applied : List Nat := []

/-- Clients of one registry process. -/
structure Fleet where
  process : Process
  parties : ExtTreeMap Nat Party

namespace Process

/-- The one process by its epoch. -/
def only (process : Process) : ExtTreeMap Nat Process :=
  (∅ : ExtTreeMap Nat Process).insert process.start.epoch process

variable {process : Process}

theorem getElem?_only
    {found : Process} {epoch : Nat} (present : process.only[epoch]? = some found) :
    epoch = process.start.epoch ∧ found = process := by
  rcases getElem?_insert_cases present with ⟨same, rfl⟩ | ⟨_, absent⟩
  · exact ⟨same.symm, rfl⟩
  · simp at absent

theorem only_self (process : Process) : process.only[process.start.epoch]? = some process :=
  ExtTreeMap.getElem?_insert_self

theorem only_extend (process : Process) (event : Event) :
    process.only.insert process.start.epoch (process.extend event) =
      (process.extend event).only := by
  have started : (process.extend event).start.epoch = process.start.epoch := rfl
  apply ExtTreeMap.ext_getElem?
  intro epoch
  unfold only
  rw [started]
  simp only [ExtTreeMap.getElem?_insert]
  split <;> rfl

theorem Precedes.trans
    {first second third : Process} (left : first.Precedes second)
    (right : second.Precedes third) :
    first.Precedes third :=
  ⟨right.1.trans left.1, left.2.trans right.2⟩

/-- The process is where it was, or one event further. -/
def Moves (process later : Process) : Prop :=
  later = process ∨ ∃ event, later = process.extend event

theorem Moves.precedes {later : Process} (moves : process.Moves later) :
    process.Precedes later := by
  rcases moves with rfl | ⟨event, rfl⟩
  · exact .refl _
  · exact process.precedes_extend event

end Process

/-- A client and its process as a system. -/
def Party.facing (party : Party) (process : Process) : System where
  client := party.client
  processes := process.only
  requests := party.requests
  awaited := party.awaited
  replies := party.replies
  applied := party.applied

/-- The client of a system. -/
def System.party (system : System) : Party where
  client := system.client
  requests := system.requests
  awaited := system.awaited
  replies := system.replies
  applied := system.applied

namespace Fleet

/-- Clients that have not beaten yet. -/
def new (ttl nanos : Nat) (clients : ExtTreeMap Nat Shared) : Fleet where
  process := { ttl := ttl, nanos := nanos }
  parties := clients.map fun _ client => { client := client }

variable [FloatFormat]

/-- One client acts. -/
def step (fleet : Fleet) : Nat × Action → Option Fleet
  -- there is no second registry process
  | (_, .launch _ _) => none
  | (who, action) => do
    let party ← fleet.parties[who]?
    let next ← (party.facing fleet.process).step action
    let process ← next.processes[fleet.process.start.epoch]?
    some
      { process := process
        parties := fleet.parties.insert who next.party }

end Fleet

/-! ## A move seen by one client -/

section

variable [FloatFormat]
  {process later : Process} {after : System}

omit [FloatFormat] in
theorem Party.facing_still
    (processes : after.processes = process.only)
    (running : after.processes[process.start.epoch]? = some later) :
    after = after.party.facing later ∧ process.Moves later := by
  rw [processes] at running
  rcases Process.getElem?_only running with ⟨_, rfl⟩
  refine ⟨?_, Or.inl rfl⟩
  cases after
  cases processes
  rfl

omit [FloatFormat] in
/-- A party's step moves the one process. -/
theorem Party.facing_moved
    {found : Process} {epoch : Nat} {event : Event} (present : process.only[epoch]? = some found)
    (processes : after.processes = process.only.insert epoch (found.extend event))
    (running : after.processes[process.start.epoch]? = some later) :
    after = after.party.facing later ∧ process.Moves later := by
  rcases Process.getElem?_only present with ⟨rfl, rfl⟩
  rw [found.only_extend] at processes
  rw [processes] at running
  rcases Process.getElem?_only running with ⟨_, rfl⟩
  refine ⟨?_, Or.inr ⟨event, rfl⟩⟩
  cases after
  cases processes
  rfl

namespace Fleet

/-- A step is a step of one party. -/
theorem step_cases
    {fleet next : Fleet} {who : Nat} {action : Action}
    (stepped : fleet.step (who, action) = some next) :
    ∃ party after,
      fleet.parties[who]? = some party ∧ (party.facing fleet.process).step action = some after ∧
        after = after.party.facing next.process ∧ fleet.process.Moves next.process ∧
        next.parties = fleet.parties.insert who after.party := by
  have unfolded :
      (∀ ttl nanos, action ≠ .launch ttl nanos) ∧
        ∃ party, fleet.parties[who]? = some party ∧
          ∃ after,
            (party.facing fleet.process).step action = some after ∧
              ∃ later,
                after.processes[fleet.process.start.epoch]? = some later ∧
                  { process := later
                    parties := fleet.parties.insert who after.party } = next := by
    cases action with
    | launch ttl nanos => cases stepped
    | _ =>
      simp only [step, bind_some_iff, Option.some.injEq] at stepped
      exact ⟨(fun _ _ impossible => by cases impossible), stepped⟩
  rcases unfolded with ⟨noLaunch, party, present, after, moved, later, running, rfl⟩
  suffices shaped : after = after.party.facing later ∧ fleet.process.Moves later from
    ⟨party, after, present, moved, shaped.1, shaped.2, rfl⟩
  cases action with
  | launch ttl nanos => exact absurd rfl (noLaunch ttl nanos)
  | call call | drop request =>
    cases moved
    exact Party.facing_still rfl running
  | compose loop parked =>
    have composed := System.step_compose moved
    subst composed
    exact Party.facing_still rfl running
  | apply index =>
    rcases System.step_apply moved with ⟨reply, sent, _, _, _, rfl⟩
    exact Party.facing_still rfl running
  | other epoch event =>
    rcases System.step_other moved with ⟨found, present, rfl⟩
    exact Party.facing_moved present rfl running
  | deliver epoch request now order =>
    rcases System.step_deliver moved with ⟨found, sent, present, _, rfl⟩
    exact Party.facing_moved present rfl running
  | refresh index order =>
    rcases System.step_refresh moved with ⟨reply, found, sent, _, present, _, rfl⟩
    exact Party.facing_moved present rfl running

end Fleet

/-! ## One process only -/

/-- All a client has heard came from the one process. -/
structure Party.Loyal (party : Party) (process : Process) : Prop where
  coherent : (party.facing process).Coherent
  applied : ∀ epoch ∈ party.applied, epoch = process.start.epoch
  issuers : ∀ sent ∈ party.requests, sent.beat.seen = ∅ ∨ sent.issuer = process.start.epoch

namespace Party

variable {process later : Process} {name : String} {cached : CachedPool}
  {action : Action} {after : System}

theorem Loyal.seenEpoch
    {party : Party} (loyal : party.Loyal process)
    (copy : party.client.cache[name]? = some cached) :
    party.client.seenEpoch = process.start.epoch := by
  rcases loyal.coherent.copies name cached copy with ⟨found, running, _⟩
  exact (Process.getElem?_only running).1

theorem Loyal.replied
    {party : Party} (loyal : party.Loyal process)
    {reply : Reply} (listed : reply ∈ party.replies) :
    reply.ack.epoch = process.start.epoch := by
  rcases loyal.coherent.replies reply listed with ⟨_, _, ⟨found, running⟩, _⟩
  exact (Process.getElem?_only running).1

/-- A loyal client's answers are in order. -/
theorem Loyal.orderly
    {party : Party} (loyal : party.Loyal process) (action : Action) :
    (party.facing process).orderly action = true := by
  cases action with
  | apply index =>
    unfold System.orderly
    simp only
    split
    · rfl
    · split
      · rfl
      · rename_i sent found
        rcases loyal.issuers sent (List.mem_of_getElem? found) with noCursors | issuer
        · simp [noCursors]
        · rw [Bool.or_eq_true, List.all_eq_true]
          right
          intro epoch heard
          rw [loyal.applied epoch (List.mem_of_mem_drop heard), issuer]
          exact beq_self_eq_true _
  | _ => rfl

/-- Its cursors are for this process. -/
theorem Loyal.composed {party : Party} (loyal : party.Loyal process) :
    party.client.seen = ∅ ∨ party.client.seenEpoch = process.start.epoch := by
  by_cases noCursors : party.client.seen = ∅
  · exact Or.inl noCursors
  · right
    by_contra other
    apply noCursors
    apply ExtTreeMap.ext_getElem?
    intro name
    cases asked : party.client.seen[name]? with
    | none => simp
    | some cursor =>
      rcases party.client.mem_seen asked with ⟨cached, copy, _⟩
      exact absurd (loyal.seenEpoch copy) other

/-- Its own step keeps it loyal. -/
theorem Loyal.step
    {party : Party} (loyal : party.Loyal process)
    (stepped : (party.facing process).step action = some after)
    (shape : after = after.party.facing later) (started : later.start = process.start) :
    after.party.Loyal later := by
  refine ⟨?_, ?_, ?_⟩
  · have coherent := System.step_coherent stepped (loyal.orderly action) loyal.coherent
    rw [shape] at coherent
    exact coherent
  · intro epoch heard
    change epoch ∈ after.applied at heard
    rw [started]
    cases System.step_turn stepped with
    | stays cache _ requests applied =>
      rw [applied] at heard
      exact loyal.applied epoch heard
    | sends loop parked sent =>
      rw [sent] at heard
      exact loyal.applied epoch heard
    | hears reply sent listed _ received =>
      rw [received] at heard
      rcases List.mem_append.mp heard with before | new
      · exact loyal.applied epoch before
      · rw [List.mem_singleton.mp new]
        exact loyal.replied listed
  · intro sent listed
    change sent ∈ after.requests at listed
    rw [started]
    cases System.step_turn stepped with
    | stays cache _ requests applied =>
      rw [requests] at listed
      exact loyal.issuers sent listed
    | sends loop parked composed =>
      rw [composed] at listed
      rcases List.mem_append.mp listed with before | new
      · exact loyal.issuers sent before
      · rw [List.mem_singleton.mp new]
        exact loyal.composed
    | hears reply asked _ _ received =>
      rw [received] at listed
      exact loyal.issuers sent listed

/-- The steps of others do, too. -/
theorem Loyal.elsewhere
    {party : Party}
    (loyal : party.Loyal process) (moves : process.Moves later) :
    party.Loyal later := by
  rcases moves with rfl | ⟨event, rfl⟩
  · exact loyal
  · refine ⟨?_, loyal.applied, loyal.issuers⟩
    have grown :=
      loyal.coherent.grow [] (grown_extend process.only_self event)
        (loyal.coherent.epochs.extend process.only_self event) (by simp)
    rw [List.append_nil] at grown
    change
      System.Coherent
        { party.facing process with
          processes := process.only.insert process.start.epoch (process.extend event) } at grown
    rw [process.only_extend] at grown
    exact grown

/-- Its copies never get older. -/
theorem Loyal.newer
    {party : Party} (loyal : party.Loyal process)
    (stepped : (party.facing process).step action = some after)
    (copy : party.client.cache[name]? = some cached) :
    ∃ later, after.client.cache[name]? = some later ∧ cached.version ≤ later.version := by
  cases System.step_turn stepped with
  | stays cache _ requests applied =>
    rw [cache]
    exact ⟨cached, copy, Nat.le_refl _⟩
  | sends loop parked sent =>
    rw [sent]
    exact ⟨cached, copy, Nat.le_refl _⟩
  | hears reply sent listed _ received =>
    have running : party.client.restarted reply.ack = false := by
      simp [Shared.restarted, loyal.seenEpoch copy, loyal.replied listed]
    rw [received]
    change ∃ later, (party.client.handle reply.ack sent.showing).cache[name]? = some later ∧ _
    rw [Shared.handle_cache]
    exact System.apply_newer running copy

end Party

/-! ## Runs -/

namespace Fleet

/-- Every client is at this process. -/
def Loyal (fleet : Fleet) : Prop :=
  ∀ (who : Nat) (party : Party), fleet.parties[who]? = some party → party.Loyal fleet.process

/-- New clients are loyal. -/
theorem new_loyal
    (ttl nanos : Nat) {clients : ExtTreeMap Nat Shared}
    (unheard : ∀ (who : Nat) (client : Shared), clients[who]? = some client → client.cache = ∅) :
    (Fleet.new ttl nanos clients).Loyal := by
  intro who party present
  simp only [Fleet.new, ExtTreeMap.getElem?_map, Option.map_eq_some_iff] at present
  rcases present with ⟨client, listed, rfl⟩
  have empty := unheard who client listed
  refine ⟨?_, by simp, by simp⟩
  have coherent : (System.new client).Coherent := System.new_coherent empty
  have fresh :
      (System.new client).processes[
        (Fleet.new ttl nanos clients).process.start.epoch]? = none := by
    simp [System.new]
  exact
    coherent.grow []
      (grown_insert_fresh fresh (Fleet.new ttl nanos clients).process)
      (coherent.epochs.insert rfl) (by simp)

variable {fleet next : Fleet} {move : Nat × Action}

theorem step_loyal
    (stepped : fleet.step move = some next) (loyal : fleet.Loyal) :
    next.Loyal := by
  rcases step_cases stepped with ⟨party, after, present, moved, shape, moves, parties⟩
  intro who other listed
  rw [parties] at listed
  rcases getElem?_insert_cases listed with ⟨_, rfl⟩ | ⟨_, before⟩
  · exact (loyal _ party present).step moved shape moves.precedes.1
  · exact (loyal who other before).elsewhere moves

/-- The process and the copies go on. -/
structure Onward (fleet next : Fleet) : Prop where
  process : fleet.process.Precedes next.process
  newer :
    ∀ (who : Nat) (party : Party), fleet.parties[who]? = some party →
      ∃ later, next.parties[who]? = some later ∧
        ∀ (name : String) (cached : CachedPool),
          party.client.cache[name]? = some cached →
            ∃ copy, later.client.cache[name]? = some copy ∧ cached.version ≤ copy.version

omit [FloatFormat] in
theorem Onward.refl (fleet : Fleet) : fleet.Onward fleet :=
  ⟨.refl _, fun _ party present =>
    ⟨party, present, fun _ cached copy => ⟨cached, copy, Nat.le_refl _⟩⟩⟩

omit [FloatFormat] in
/-- Moves can be joined. -/
theorem Onward.trans
    {first second third : Fleet} (left : first.Onward second) (right : second.Onward third) :
    first.Onward third := by
  refine ⟨left.process.trans right.process, ?_⟩
  intro who party present
  rcases left.newer who party present with ⟨between, listed, copies⟩
  rcases right.newer who between listed with ⟨later, found, newer⟩
  refine ⟨later, found, ?_⟩
  intro name cached copy
  rcases copies name cached copy with ⟨held, there, older⟩
  rcases newer name held there with ⟨last, here, old⟩
  exact ⟨last, here, older.trans old⟩

/-- One step moves on. -/
theorem step_onward
    (stepped : fleet.step move = some next) (loyal : fleet.Loyal) :
    fleet.Onward next := by
  rcases step_cases stepped with ⟨party, after, present, moved, shape, moves, parties⟩
  refine ⟨moves.precedes, ?_⟩
  intro who mine listed
  rw [parties]
  by_cases own : move.1 = who
  · subst own
    rw [present] at listed
    cases listed
    refine ⟨after.party, ExtTreeMap.getElem?_insert_self, ?_⟩
    intro name cached copy
    exact (loyal _ party present).newer moved copy
  · rw [getElem?_insert_ne own]
    exact ⟨mine, listed, fun _ cached copy => ⟨cached, copy, Nat.le_refl _⟩⟩

/-- So does a whole run. -/
theorem run_onward
    {final : Fleet} {moves : List (Nat × Action)}
    (ran : execute step fleet moves = some final) (loyal : fleet.Loyal) :
    final.Loyal ∧ fleet.Onward final := by
  induction moves generalizing fleet with
  | nil =>
    cases ran
    exact ⟨loyal, .refl _⟩
  | cons move rest hypothesis =>
    rcases execute_cons ran with ⟨next, stepped, ran⟩
    rcases hypothesis ran (step_loyal stepped loyal) with ⟨last, onward⟩
    exact ⟨last, (step_onward stepped loyal).trans onward⟩

theorem Loyal.shows
    (loyal : fleet.Loyal) {who : Nat} {party : Party}
    (present : fleet.parties[who]? = some party) {name : String} {cached : CachedPool}
    (copy : party.client.cache[name]? = some cached) :
    ∃ past ∈ fleet.process.history name, cached.Shows past := by
  rcases (loyal who party present).coherent.copies name cached copy with
    ⟨process, running, past, visited, shows⟩
  rcases Process.getElem?_only running with ⟨_, rfl⟩
  exact ⟨past, visited, shows⟩

end Fleet

end

end Tinyray
