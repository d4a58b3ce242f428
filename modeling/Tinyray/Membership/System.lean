import Tinyray.Foundation.Run
import Tinyray.Membership.Follow
import Tinyray.Membership.Shared

/-!
# One client and the registry processes it talks to

The client sends beats from its loop and, when it joins or leaves, from
one-shot calls next to it.  A request may reach any registry process, late,
more than once or never; an answer may be applied, or dropped unread.

A process is kept as the list of its steps, so that the states a pool went
through can be talked about.  `Request.issuer` and `Request.mark` are there
for the statements only: they note the registry the cursors came from and how
many answers had been applied when the request was composed.
-/

namespace Tinyray

open Std Foundation

/-- One registry process and its past. -/
structure Process where
  ttl : Nat
  nanos : Nat
  events : List Event := []

/-- A beat that was sent. -/
structure Request where
  beat : Beat
  /-- The publication the beat shows. -/
  showing : Nat
  /-- Sent by the heartbeat loop, not by a one-shot call. -/
  loop : Bool
  issuer : Nat
  mark : Nat

/-- An answer on its way. -/
structure Reply where
  request : Nat
  ack : BeatAck

/-- A client and the registries it meets. -/
structure System where
  client : Shared
  /-- Registry processes by epoch. -/
  processes : ExtTreeMap Nat Process := ∅
  /-- Every request ever composed; a request is named by its position. -/
  requests : List Request := []
  /-- The requests the client still waits for. -/
  awaited : List Nat := []
  replies : List Reply := []
  /-- The epochs of the answers applied so far. -/
  applied : List Nat := []

/-- What happens in the system. -/
inductive Action where
  | call (call : Shared.Call)
  | launch (ttl nanos : Nat)
  | compose (loop parked : Bool)
  | other (epoch : Nat) (event : Event)
  | deliver (epoch request now : Nat) (order : String → IterationOrder)
  | refresh (reply : Nat) (order : String → IterationOrder)
  | apply (reply : Nat)
  | drop (request : Nat)

namespace Process

/-- A process that has just started. -/
def start (process : Process) : Registry := Registry.new process.ttl process.nanos

/-- One more event. -/
def extend (process : Process) (event : Event) : Process :=
  { process with events := process.events ++ [event] }

variable [FloatFormat]

/-- The registry after its events. -/
def registry (process : Process) : Registry := process.start.run process.events

/-- The states a pool of this process went through. -/
def history (process : Process) (name : String) : List Pool :=
  process.start.history name process.events

end Process

namespace System

/-- A client that has sent nothing. -/
def new (client : Shared) : System where
  client := client

/-- The loop composes a beat only when it waits for none. -/
def loopIdle (system : System) : Bool :=
  system.awaited.all fun request => (system.requests[request]?).all fun sent => !sent.loop

/-- The client sends a beat. -/
def send (system : System) (loop parked : Bool) : System :=
  let composed := system.client.compose
  { system with
    requests :=
      system.requests ++
        [{ beat :=
             { composed.1 with holdMs := if parked then system.client.holdMs else 0 }
           showing := composed.2
           loop := loop
           issuer := system.client.seenEpoch
           mark := system.applied.length }]
    awaited := system.awaited ++ [system.requests.length] }

/-- The client takes an answer in. -/
def receive (system : System) (reply : Reply) (request : Request) : System :=
  { system with
    client := system.client.handle reply.ack request.showing
    awaited := system.awaited.filter fun other => other != reply.request
    applied := system.applied ++ [reply.ack.epoch] }

variable [FloatFormat]

/-- One step of the system. -/
def step (system : System) : Action → Option System
  | .call call => some { system with client := system.client.call call }
  | .launch ttl nanos =>
    let process : Process := { ttl := ttl, nanos := nanos }
    -- epochs are pairwise different
    if system.processes.contains process.start.epoch then none
    else
      some
        { system with processes := system.processes.insert process.start.epoch process }
  | .compose loop parked =>
    if loop && !system.loopIdle then none
    else some (system.send loop parked)
  | .other epoch event => do
    let process ← system.processes[epoch]?
    some
      { system with processes := system.processes.insert epoch (process.extend event) }
  | .deliver epoch request now order => do
    let process ← system.processes[epoch]?
    let sent ← system.requests[request]?
    some
      { system with
        processes := system.processes.insert epoch (process.extend (.beat now order sent.beat))
        replies :=
          system.replies ++
            [{ request := request
               ack := (process.registry.beatShared now order sent.beat).ack }] }
  | .refresh index order => do
    let reply ← system.replies[index]?
    let process ← system.processes[reply.ack.epoch]?
    let sent ← system.requests[reply.request]?
    -- a held beat that was accepted and had nothing to say looks again
    if !reply.ack.accepted || !reply.ack.pools.isEmpty then none
    else
      some
        { system with
          processes :=
            system.processes.insert reply.ack.epoch (process.extend (.query order sent.beat))
          replies :=
            system.replies ++
              [{ reply with
                 ack :=
                   { reply.ack with
                     pools := (process.registry.deltasSharedFor order sent.beat).1 } }] }
  | .apply index => do
    let reply ← system.replies[index]?
    let sent ← system.requests[reply.request]?
    if reply.request ∈ system.awaited then some (system.receive reply sent)
    else none
  | .drop request =>
    some
      { system with awaited := system.awaited.filter fun other => other != request }

/-! ## What a step needs -/

variable {system next : System}

/-- A process is launched. -/
theorem step_launch
    {ttl nanos : Nat} (stepped : system.step (.launch ttl nanos) = some next) :
    let process : Process := { ttl := ttl, nanos := nanos }
    system.processes[process.start.epoch]? = none ∧
      next =
        { system with processes := system.processes.insert process.start.epoch process } := by
  simp only [step] at stepped
  split_ifs at stepped with taken
  cases stepped
  refine ⟨?_, rfl⟩
  apply ExtTreeMap.getElem?_eq_none
  rw [← ExtTreeMap.contains_iff_mem]
  exact taken

theorem step_compose
    {loop parked : Bool} (stepped : system.step (.compose loop parked) = some next) :
    next = system.send loop parked := by
  simp only [step] at stepped
  split_ifs at stepped
  cases stepped
  rfl

variable {epoch index : Nat} {order : String → IterationOrder}

theorem step_other
    {event : Event} (stepped : system.step (.other epoch event) = some next) :
    ∃ process, system.processes[epoch]? = some process ∧
      next =
        { system with processes := system.processes.insert epoch (process.extend event) } := by
  simp only [step, bind_some_iff, Option.some.injEq] at stepped
  rcases stepped with ⟨process, running, rfl⟩
  exact ⟨process, running, rfl⟩

/-- A beat is delivered. -/
theorem step_deliver
    {request now : Nat} (stepped : system.step (.deliver epoch request now order) = some next) :
    ∃ process sent,
      system.processes[epoch]? = some process ∧ system.requests[request]? = some sent ∧
        next =
          { system with
            processes := system.processes.insert epoch (process.extend (.beat now order sent.beat))
            replies :=
              system.replies ++
                [{ request := request
                   ack := (process.registry.beatShared now order sent.beat).ack }] } := by
  simp only [step, bind_some_iff, Option.some.injEq] at stepped
  rcases stepped with ⟨process, running, sent, found, rfl⟩
  exact ⟨process, sent, running, found, rfl⟩

/-- A parked beat is looked at again. -/
theorem step_refresh
    (stepped : system.step (.refresh index order) = some next) :
    ∃ reply process sent,
      reply ∈ system.replies ∧ system.processes[reply.ack.epoch]? = some process ∧
        system.requests[reply.request]? = some sent ∧
        next =
          { system with
            processes :=
              system.processes.insert reply.ack.epoch (process.extend (.query order sent.beat))
            replies :=
              system.replies ++
                [{ reply with
                   ack :=
                     { reply.ack with
                       pools := (process.registry.deltasSharedFor order sent.beat).1 } }] } := by
  simp only [step, bind_some_iff] at stepped
  rcases stepped with ⟨reply, listed, process, running, sent, found, stepped⟩
  split_ifs at stepped
  cases stepped
  exact ⟨reply, process, sent, List.mem_of_getElem? listed, running, found, rfl⟩

theorem step_apply (stepped : system.step (.apply index) = some next) :
    ∃ reply sent,
      system.replies[index]? = some reply ∧ system.requests[reply.request]? = some sent ∧
        reply.request ∈ system.awaited ∧ next = system.receive reply sent := by
  simp only [step, bind_some_iff] at stepped
  rcases stepped with ⟨reply, listed, sent, found, stepped⟩
  split_ifs at stepped with waiting
  cases stepped
  exact ⟨reply, sent, listed, found, waiting, rfl⟩

end System

/-! ## Processes that move on -/

namespace Process

/-- The same process, earlier. -/
def Precedes (earlier later : Process) : Prop :=
  later.start = earlier.start ∧ earlier.events <+: later.events

theorem Precedes.refl (process : Process) : process.Precedes process := ⟨rfl, List.prefix_rfl⟩

theorem precedes_extend (process : Process) (event : Event) :
    process.Precedes (process.extend event) :=
  ⟨rfl, List.prefix_append _ _⟩

end Process

/-- Every process is still there, with all it went through. -/
def Grown (before after : ExtTreeMap Nat Process) : Prop :=
  ∀ (epoch : Nat) (process : Process), before[epoch]? = some process →
    ∃ later, after[epoch]? = some later ∧ process.Precedes later

theorem Grown.refl (processes : ExtTreeMap Nat Process) : Grown processes processes :=
  fun _ process present => ⟨process, present, .refl process⟩

variable {processes : ExtTreeMap Nat Process} {epoch : Nat}
  {process : Process}

/-- A new process changes no other. -/
theorem grown_insert_fresh
    (fresh : processes[epoch]? = none) (process : Process) :
    Grown processes (processes.insert epoch process) := by
  intro other held present
  refine ⟨held, ?_, .refl held⟩
  rw [ExtTreeMap.getElem?_insert]
  split_ifs with same
  · rw [Std.compare_eq_iff_eq] at same
    subst same
    rw [fresh] at present
    cases present
  · exact present

/-- An event makes a process longer. -/
theorem grown_extend
    (running : processes[epoch]? = some process) (event : Event) :
    Grown processes (processes.insert epoch (process.extend event)) := by
  intro other held present
  rw [ExtTreeMap.getElem?_insert]
  split_ifs with same
  · rw [Std.compare_eq_iff_eq] at same
    subst same
    rw [running] at present
    cases present
    exact ⟨_, rfl, process.precedes_extend event⟩
  · exact ⟨held, present, .refl held⟩

/-- The answer a step applies, if it applies one. -/
def System.applies (system : System) : Action → Option Reply
  | .apply index => system.replies[index]?
  | _ => none

/-- What a step does to the client's side. -/
inductive System.Turn (system : System) (action : Action)
    (next : System) : Prop where
  | stays
      (cache : next.client.cache = system.client.cache)
      (epoch : next.client.seenEpoch = system.client.seenEpoch)
      (requests : next.requests = system.requests)
      (applied : next.applied = system.applied) :
      Turn system action next
  | sends (loop parked : Bool) (sent : next = system.send loop parked) : Turn system action next
  | hears
      (reply : Reply) (sent : Request)
      (listed : reply ∈ system.replies)
      (answered : system.applies action = some reply)
      (heard : next = system.receive reply sent) :
      Turn system action next

section

variable [FloatFormat] {system next : System} {action : Action}

/-- What each step does. -/
theorem System.step_turn (stepped : system.step action = some next) : system.Turn action next := by
  cases action with
  | call call =>
    cases stepped
    rcases system.client.call_frame call with ⟨cache, epoch⟩
    exact .stays cache epoch rfl rfl
  | launch ttl nanos =>
    rcases step_launch stepped with ⟨_, rfl⟩
    exact .stays rfl rfl rfl rfl
  | compose loop parked => exact .sends loop parked (step_compose stepped)
  | other epoch event =>
    rcases step_other stepped with ⟨process, _, rfl⟩
    exact .stays rfl rfl rfl rfl
  | deliver epoch request now order =>
    rcases step_deliver stepped with ⟨process, sent, _, _, rfl⟩
    exact .stays rfl rfl rfl rfl
  | refresh index order =>
    rcases step_refresh stepped with ⟨reply, process, sent, _, _, _, rfl⟩
    exact .stays rfl rfl rfl rfl
  | apply index =>
    rcases step_apply stepped with ⟨reply, sent, listed, _, _, heard⟩
    exact .hears reply sent (List.mem_of_getElem? listed) listed heard
  | drop request =>
    cases stepped
    exact .stays rfl rfl rfl rfl

/-- Processes only grow. -/
theorem System.step_grown (stepped : system.step action = some next) :
    Grown system.processes next.processes := by
  cases action with
  | call call =>
    cases stepped
    exact Grown.refl _
  | launch ttl nanos =>
    rcases step_launch stepped with ⟨fresh, rfl⟩
    exact grown_insert_fresh fresh _
  | compose loop parked =>
    rw [step_compose stepped]
    exact Grown.refl _
  | other epoch event =>
    rcases step_other stepped with ⟨process, running, rfl⟩
    exact grown_extend running event
  | deliver epoch request now order =>
    rcases step_deliver stepped with ⟨process, sent, running, _, rfl⟩
    exact grown_extend running _
  | refresh index order =>
    rcases step_refresh stepped with ⟨reply, process, sent, _, running, _, rfl⟩
    exact grown_extend running _
  | apply index =>
    rcases step_apply stepped with ⟨reply, sent, _, _, _, rfl⟩
    exact Grown.refl _
  | drop request =>
    cases stepped
    exact Grown.refl _

end

/-- Processes are kept under their epochs. -/
def UnderEpochs (processes : ExtTreeMap Nat Process) : Prop :=
  ∀ (epoch : Nat) (process : Process),
    processes[epoch]? = some process → process.start.epoch = epoch

theorem UnderEpochs.insert
    (epochs : UnderEpochs processes) (started : process.start.epoch = epoch) :
    UnderEpochs (processes.insert epoch process) := by
  intro other held present
  rcases getElem?_insert_cases present with ⟨rfl, rfl⟩ | ⟨_, before⟩
  · exact started
  · exact epochs other held before

theorem UnderEpochs.extend
    (epochs : UnderEpochs processes)
    (running : processes[epoch]? = some process) (event : Event) :
    UnderEpochs (processes.insert epoch (process.extend event)) :=
  epochs.insert (epochs epoch process running)

/-! ## Requests by position -/

variable {requests : List Request} {index : Nat} {sent : Request}

theorem getElem?_append_some
    (found : requests[index]? = some sent) (more : List Request) :
    (requests ++ more)[index]? = some sent := by
  rcases List.getElem?_eq_some_iff.mp found with ⟨inside, _⟩
  rw [List.getElem?_append_left inside]
  exact found

theorem getElem?_concat_cases
    {last : Request} (found : (requests ++ [last])[index]? = some sent) :
    (index < requests.length ∧ requests[index]? = some sent) ∨
      (index = requests.length ∧ sent = last) := by
  rcases List.getElem?_eq_some_iff.mp found with ⟨inside, value⟩
  rw [List.length_append, List.length_singleton] at inside
  rcases Nat.lt_succ_iff_lt_or_eq.mp inside with before | rfl
  · rw [List.getElem?_append_left before] at found
    exact Or.inl ⟨before, found⟩
  · rw [List.getElem?_concat_length] at found
    exact Or.inr ⟨rfl, (Option.some.inj found).symm⟩

end Tinyray
