import Tinyray.Membership.System
import Tinyray.Proto.Depth

/-!
# Beats over connections

In `System` an answer says which request it is for, and any awaited one may
come next.  The code has connections instead: a request carries a number, the
registry serves the requests of a connection one after another, and the
heartbeat loop uses a connection again for its next beat.  `Exchange` is a
client with its connections and what the registry does at their other ends.

Two things are shown of every run: a connection carries at most one request,
so that the next beat on it finds nothing of the one before, and the run is
one of `System` as far as the client and the processes are concerned.
-/

namespace Tinyray

open Std Foundation

/-- The errors a beat can be answered with, by their codes. -/
inductive RegistryProtocolError where
  | malformedRequest
  | multipleRequests
  | responseTooLarge

/-- A frame of the registry. -/
inductive RegistryReply where
  | beatAck (ack : BeatAck)
  | error (code : RegistryProtocolError)

/-- A beat the registry has taken in, and what it would answer by now. -/
structure HeldRequest where
  requestId : Nat
  beat : Beat
  ack : BeatAck

/-- A call of `post`, by the loop or by `beat_once`. -/
structure Post where
  requestId : Nat
  beat : Beat
  showing : Nat
  loop : Bool
  written : Bool := false

/-- Who has the client's end of a connection. -/
inductive Owner where
  | post (post : Post)
  /-- The loop, between two beats. -/
  | kept
  /-- Nobody any more; the registry may still find a request on it. -/
  | dropped

/-- A connection to a registry process. -/
structure RegistryConnection where
  /-- The process at the other end. -/
  epoch : Nat
  owner : Owner := .dropped
  requests : List (Nat × Beat) := []
  serving : Bool := true
  held : Option HeldRequest := none
  replies : List (Nat × RegistryReply) := []

/-- A client, the registries and connections. -/
structure Exchange where
  client : Shared
  processes : ExtTreeMap Nat Process := ∅
  /-- `REQUEST_ID`, which all clients of a program share. -/
  nextId : Nat := 1
  connections : ExtTreeMap Nat RegistryConnection := ∅

/-- What `serve_connection` may do next. -/
inductive ServerMove where
  | read (now : Nat) (order : String → IterationOrder)
  /-- A held beat looks again. -/
  | look (order : String → IterationOrder)
  | answer (fits : Bool)
  /-- There is more to read while a beat is held. -/
  | interrupt
  | hangUp

/-- What happens on a connection. -/
inductive Turn where
  /-- The loop sends its next beat on it. -/
  | reuse (parked : Bool)
  | write
  | serve (move : ServerMove)
  | take
  /-- A timeout, a failure, a wake-up, or the end of the loop. -/
  | drop

/-- Everything that can happen. -/
inductive ExchangeAction where
  | call (call : Shared.Call)
  | launch (ttl nanos : Nat)
  | other (epoch : Nat) (event : Event)
  /-- Another client takes a number. -/
  | skip
  | connect (number epoch : Nat) (loop parked : Bool)
  | turn (number : Nat) (turn : Turn)

namespace RegistryConnection

/-- Answer with an error and hang up. -/
def refuse (connection : RegistryConnection) (requestId : Nat)
    (code : RegistryProtocolError) : RegistryConnection :=
  { connection with
    requests := []
    serving := false
    held := none
    replies := connection.replies ++ [(requestId, .error code)] }

variable [FloatFormat]

/-- What `serve_connection` does. -/
def serve (connection : RegistryConnection)
    (processes : ExtTreeMap Nat Process) :
    ServerMove → Option (ExtTreeMap Nat Process × RegistryConnection)
  | .read now order =>
    match connection.serving, connection.held, connection.requests with
    | true, none, (requestId, beat) :: rest =>
      -- the loop takes no more rounds than there are nodes
      let rounds := beat.state.located.length
      if beat.state.withinDepthLimit rounds = some true then do
        let process ← processes[connection.epoch]?
        let ack := (process.registry.beatShared now order beat).ack
        some
          (processes.insert connection.epoch (process.extend (.beat now order beat)),
            { connection with
              requests := rest
              held := some ⟨requestId, beat, ack⟩ })
      else some (processes, connection.refuse requestId .malformedRequest)
    | _, _, _ => none
  | .look order => do
    let held ← connection.held
    let process ← processes[held.ack.epoch]?
    if !held.ack.accepted || !held.ack.pools.isEmpty then none
    else
      let fresh := (process.registry.deltasSharedFor order held.beat).1
      some
        (processes.insert held.ack.epoch (process.extend (.query order held.beat)),
          { connection with held := some { held with ack := { held.ack with pools := fresh } } })
  | .answer fits => do
    let held ← connection.held
    let reply := if fits then .beatAck held.ack else .error .responseTooLarge
    some
      (processes,
        { connection with
          held := none
          replies := connection.replies ++ [(held.requestId, reply)] })
  | .interrupt => do
    let held ← connection.held
    if connection.requests.isEmpty then none
    else some (processes, connection.refuse held.requestId .multipleRequests)
  | .hangUp =>
    some
      (processes,
        { connection with
          requests := []
          serving := false
          held := none })

end RegistryConnection

/-- The loop has a connection, or waits for the answer to a beat. -/
def Owner.looping : Owner → Bool
  | .post call => call.loop
  | .kept => true
  | .dropped => false

namespace Exchange

/-- Nothing has happened yet. -/
def new (client : Shared) : Exchange where
  client := client

/-- Put a connection in its place. -/
def put (exchange : Exchange) (number : Nat)
    (connection : RegistryConnection) : Exchange :=
  { exchange with connections := exchange.connections.insert number connection }

/-- `post` starts: its request has a number and a beat. -/
def composed (exchange : Exchange) (loop parked : Bool) : Post :=
  let composed := exchange.client.compose
  { requestId := exchange.nextId
    beat :=
      { composed.1 with holdMs := if parked then exchange.client.holdMs else 0 }
    showing := composed.2
    loop := loop }

/-- A request number is used up. -/
def counted (exchange : Exchange) : Exchange :=
  { exchange with nextId := exchange.nextId + 1 }

variable [FloatFormat]

/-- What a post does on its connection. -/
def turn (exchange : Exchange) (connection : RegistryConnection) :
    Turn → Option (Exchange × RegistryConnection)
  | .reuse parked =>
    match connection.owner with
    | .kept =>
      some
        (exchange.counted,
          { connection with owner := .post (exchange.composed true parked) })
    | _ => none
  | .write =>
    match connection.owner with
    | .post post =>
      if post.written then none
      else
        some
          (exchange,
            { connection with
              owner := .post { post with written := true }
              requests := connection.requests ++ [(post.requestId, post.beat)] })
    | _ => none
  | .serve move => do
    let served ← connection.serve exchange.processes move
    some ({ exchange with processes := served.1 }, served.2)
  | .take =>
    match connection.owner, connection.replies with
    | .post post, (requestId, .beatAck ack) :: rest =>
      if requestId = post.requestId then
        let stays := post.loop && ack.accepted && !exchange.client.restarted ack
        some
          ({ exchange with client := exchange.client.handle ack post.showing },
            { connection with
              owner := if stays then .kept else .dropped
              replies := rest })
      else some (exchange, { connection with owner := .dropped })
    | .post _, (_, .error _) :: _ => some (exchange, { connection with owner := .dropped })
    | _, _ => none
  | .drop => some (exchange, { connection with owner := .dropped })

/-- One step of anyone. -/
def step (exchange : Exchange) : ExchangeAction → Option Exchange
  | .call call => some { exchange with client := exchange.client.call call }
  | .launch ttl nanos =>
    let process : Process := { ttl := ttl, nanos := nanos }
    if exchange.processes.contains process.start.epoch then none
    else
      some
        { exchange with processes := exchange.processes.insert process.start.epoch process }
  | .other epoch event => do
    let process ← exchange.processes[epoch]?
    some
      { exchange with processes := exchange.processes.insert epoch (process.extend event) }
  | .skip => some exchange.counted
  | .connect number epoch loop parked =>
    if exchange.connections.contains number ||
        loop && exchange.connections.toList.any fun other => other.2.owner.looping then none
    else
      some
        (exchange.counted.put number
          { epoch := epoch
            owner := .post (exchange.composed loop parked) })
  | .turn number turn => do
    let connection ← exchange.connections[number]?
    let turned ← exchange.turn connection turn
    some (turned.1.put number turned.2)

end Exchange

/-! ## One request at a time -/

namespace RegistryConnection

/-- The requests on a connection by their numbers, the next to be read first. -/
def traffic (connection : RegistryConnection) : List Nat :=
  connection.replies.map Prod.fst ++
    ((connection.held.map HeldRequest.requestId).toList ++ connection.requests.map Prod.fst)

/-- What is on a connection is what its owner has written. -/
def InTurn (connection : RegistryConnection) : Prop :=
  match connection.owner with
  | .post post => connection.traffic <+: if post.written then [post.requestId] else []
  | .kept => connection.traffic = []
  | .dropped => connection.traffic.length ≤ 1

variable {connection : RegistryConnection}

theorem inTurn_of_empty (empty : connection.traffic = []) : connection.InTurn := by
  unfold InTurn
  split <;> simp [empty]

theorem InTurn.length_le (inTurn : connection.InTurn) : connection.traffic.length ≤ 1 := by
  unfold InTurn at inTurn
  split at inTurn
  · refine inTurn.length_le.trans ?_
    split <;> simp
  · simp [inTurn]
  · exact inTurn

variable [FloatFormat]

/-- A server never adds requests. -/
theorem serve_traffic
    {processes : ExtTreeMap Nat Process} {move : ServerMove}
    {served : ExtTreeMap Nat Process × RegistryConnection}
    (moved : connection.serve processes move = some served) :
    served.2.owner = connection.owner ∧ served.2.traffic <+: connection.traffic := by
  cases move with
  | read now order =>
    simp only [serve] at moved
    split at moved
    · rename_i _ requestId beat rest _ idle queued
      split_ifs at moved
      · simp only [bind_some_iff, Option.some.injEq] at moved
        rcases moved with ⟨process, _, rfl⟩
        exact ⟨rfl, by simp [traffic, idle, queued]⟩
      · cases moved
        exact ⟨rfl, by simp [traffic, refuse, idle, queued]⟩
    · cases moved
  | look order =>
    simp only [serve, bind_some_iff] at moved
    rcases moved with ⟨held, taken, process, _, moved⟩
    split_ifs at moved
    cases moved
    exact ⟨rfl, by simp [traffic, taken]⟩
  | answer fits =>
    simp only [serve, bind_some_iff, Option.some.injEq] at moved
    rcases moved with ⟨held, taken, rfl⟩
    exact ⟨rfl, by simp [traffic, taken]⟩
  | interrupt =>
    simp only [serve, bind_some_iff] at moved
    rcases moved with ⟨held, taken, moved⟩
    split_ifs at moved
    cases moved
    exact ⟨rfl, by simp [traffic, refuse, taken]⟩
  | hangUp =>
    cases moved
    exact ⟨rfl, by simp [traffic]⟩

end RegistryConnection

namespace Exchange

variable [FloatFormat] {exchange next : Exchange}

/-- A turn keeps a connection in turn. -/
theorem turn_inTurn
    {connection : RegistryConnection} {turn : Turn} {turned : Exchange × RegistryConnection}
    (taken : exchange.turn connection turn = some turned) (inTurn : connection.InTurn) :
    turned.1.connections = exchange.connections ∧ turned.2.InTurn := by
  cases turn with
  | reuse parked =>
    simp only [Exchange.turn] at taken
    split at taken
    · rename_i _ kept
      rw [RegistryConnection.InTurn, kept] at inTurn
      cases taken
      exact ⟨rfl, RegistryConnection.inTurn_of_empty inTurn⟩
    · cases taken
  | write =>
    simp only [Exchange.turn] at taken
    split at taken
    · rename_i _ post owned
      split_ifs at taken with written
      rw [RegistryConnection.InTurn, owned] at inTurn
      simp only [written, Bool.false_eq_true, if_false, List.prefix_nil,
        RegistryConnection.traffic, List.append_eq_nil_iff] at inTurn
      cases taken
      refine ⟨rfl, ?_⟩
      simp [RegistryConnection.InTurn, RegistryConnection.traffic, inTurn]
    · cases taken
  | serve move =>
    simp only [Exchange.turn, bind_some_iff, Option.some.injEq] at taken
    rcases taken with ⟨served, moved, rfl⟩
    rcases RegistryConnection.serve_traffic moved with ⟨owner, shorter⟩
    refine ⟨rfl, ?_⟩
    unfold RegistryConnection.InTurn at inTurn ⊢
    rw [owner]
    split at inTurn
    · exact shorter.trans inTurn
    · exact List.prefix_nil.mp (inTurn ▸ shorter)
    · exact shorter.length_le.trans inTurn
  | take =>
    have short := inTurn.length_le
    simp only [Exchange.turn] at taken
    split at taken
    · rename_i read
      rw [RegistryConnection.traffic, read] at short
      have empty := List.eq_nil_of_length_eq_zero (Nat.le_zero.mp (Nat.le_of_succ_le_succ short))
      split at taken
      · cases taken
        exact ⟨rfl, RegistryConnection.inTurn_of_empty empty⟩
      · cases taken
        exact ⟨rfl, inTurn.length_le⟩
    · cases taken
      exact ⟨rfl, short⟩
    · cases taken
  | drop =>
    cases taken
    exact ⟨rfl, inTurn.length_le⟩

/-- Every connection is in turn. -/
def Orderly (exchange : Exchange) : Prop :=
  ∀ (number : Nat) (connection : RegistryConnection),
    exchange.connections[number]? = some connection → connection.InTurn

/-- One step keeps every one in turn. -/
theorem step_orderly
    {action : ExchangeAction} (stepped : exchange.step action = some next)
    (orderly : exchange.Orderly) :
    next.Orderly := by
  have put {connections : ExtTreeMap Nat RegistryConnection}
      {number : Nat} {connection : RegistryConnection}
      (same : connections = exchange.connections)
      (inTurn : connection.InTurn) (other : Nat)
      (found : RegistryConnection)
      (present : (connections.insert number connection)[other]? = some found) :
      found.InTurn := by
    rcases getElem?_insert_cases present with ⟨_, rfl⟩ | ⟨_, present⟩
    · exact inTurn
    · exact orderly other found (same ▸ present)
  cases action with
  | call call =>
    cases stepped
    exact orderly
  | launch ttl nanos =>
    simp only [step] at stepped
    split_ifs at stepped
    cases stepped
    exact orderly
  | other epoch event =>
    simp only [step, bind_some_iff, Option.some.injEq] at stepped
    rcases stepped with ⟨process, _, rfl⟩
    exact orderly
  | skip =>
    cases stepped
    exact orderly
  | connect number epoch loop parked =>
    simp only [step] at stepped
    split_ifs at stepped
    cases stepped
    exact put rfl (RegistryConnection.inTurn_of_empty rfl)
  | turn number turn =>
    simp only [step, bind_some_iff, Option.some.injEq] at stepped
    rcases stepped with ⟨connection, present, turned, taken, rfl⟩
    rcases turn_inTurn taken (orderly number connection present) with ⟨same, inTurn⟩
    exact put same inTurn

/-- A member that has beaten once and has sent its second beat. -/
private def beatenTwice : Shared × List ExchangeAction :=
  (Shared.new "p" 0 1 "" none none none [] false,
    [.launch 1000000000 8, .connect 0 9 true true, .turn 0 .write,
      .turn 0 (.serve (.read 0 fun _ => .ascending)),
      .turn 0 (.serve (.answer true)), .turn 0 .take, .turn 0 (.reuse true), .turn 0 .write])

/--
In every run a connection carries at most one request, none while the loop
keeps it for its next beat, and only that of the call that uses it.
-/
theorem one_request_per_connection
    (client : Shared) (actions : List ExchangeAction) (final : Exchange)
    (ran : execute step (new client) actions = some final)
    (number : Nat) (connection : RegistryConnection)
    (present : final.connections[number]? = some connection) :
    connection.traffic.length ≤ 1 ∧ (connection.owner = .kept → connection.traffic = []) ∧
      ∀ post, connection.owner = .post post →
        ∀ requestId ∈ connection.traffic, requestId = post.requestId := by
  have orderly : final.Orderly := execute_preserves step_orderly ran fun _ _ found => by cases found
  have inTurn := orderly number connection present
  refine ⟨inTurn.length_le, ?_, ?_⟩
  · intro kept
    rw [RegistryConnection.InTurn, kept] at inTurn
    exact inTurn
  · intro post owned requestId carried
    rw [RegistryConnection.InTurn, owned] at inTurn
    have written := inTurn.subset carried
    split at written <;> simp_all

omit [FloatFormat] in
private theorem beatenTwice_ran :
    letI := FloatFormat.widest
    ∃ final connection,
      execute step (new beatenTwice.1) beatenTwice.2 = some final ∧
        final.connections[0]? = some connection ∧ connection.traffic = [2] := by
  let := FloatFormat.widest
  refine
    ⟨Option.get _ ?_, Option.get _ ?_, (Option.some_get _).symm,
      (Option.some_get _).symm, ?_⟩ <;> decide

omit [FloatFormat] in
/-- The loop's second beat is on the connection of its first. -/
theorem one_request_per_connection_again :
    letI := FloatFormat.widest
    ∃ final connection,
      execute step (new beatenTwice.1) beatenTwice.2 = some final ∧
        final.connections[0]? = some connection ∧
        connection.traffic = [2] ∧ connection.traffic.length ≤ 1 := by
  let := FloatFormat.widest
  rcases beatenTwice_ran with ⟨final, connection, ran, present, traffic⟩
  exact
    ⟨final, connection, ran, present, traffic,
      (one_request_per_connection _ _ final ran 0 connection present).1⟩

end Exchange

/-! ## The same run without connections -/

/-- The request somebody waits for an answer to. -/
def Owner.awaits : Owner → Option Nat
  | .post call => some call.requestId
  | _ => none

@[simp]
theorem Owner.awaits_post (call : Post) : (Owner.post call).awaits = some call.requestId :=
  rfl

@[simp]
theorem Owner.awaits_kept : Owner.kept.awaits = none :=
  rfl

@[simp]
theorem Owner.awaits_dropped : Owner.dropped.awaits = none :=
  rfl

@[simp]
theorem Owner.looping_dropped : Owner.dropped.looping = false :=
  rfl

/-- Only one of two connections is the loop's, and no call uses both. -/
def Owner.Apart (left right : Owner) : Prop :=
  (left.looping = true → right.looping = false) ∧
    ∀ request, left.awaits = some request → right.awaits ≠ some request

theorem Owner.Apart.symm
    {left right : Owner} (apart : left.Apart right) : right.Apart left := by
  refine ⟨fun loops => ?_, fun request waits also => ?_⟩
  · by_contra both
    simp [apart.1 (Bool.eq_true_of_not_eq_false both)] at loops
  · exact apart.2 request also waits

/-- A request was composed with some beat. -/
def System.Composed (system : System) (requestId : Nat) (beat : Beat) : Prop :=
  ∃ sent, system.requests[requestId]? = some sent ∧ sent.beat = beat

/-- What is on a connection was said in the system as well. -/
structure RegistryConnection.Backed (connection : RegistryConnection)
    (system : System) : Prop where
  owner :
    ∀ post, connection.owner = .post post →
      ∃ sent, system.requests[post.requestId]? = some sent ∧
        sent.beat = post.beat ∧ sent.showing = post.showing ∧ sent.loop = post.loop
  requests : ∀ request ∈ connection.requests, system.Composed request.1 request.2
  held :
    ∀ held, connection.held = some held →
      system.Composed held.requestId held.beat ∧ ⟨held.requestId, held.ack⟩ ∈ system.replies
  replies :
    ∀ requestId ack, (requestId, .beatAck ack) ∈ connection.replies →
      ⟨requestId, ack⟩ ∈ system.replies

/-- The system has said no less. -/
structure System.Extends (later system : System) : Prop where
  requests :
    ∀ (requestId : Nat) (sent : Request),
      system.requests[requestId]? = some sent → later.requests[requestId]? = some sent
  replies : system.replies ⊆ later.replies

variable {connection : RegistryConnection} {system : System}

/-- More answers back the same connection. -/
theorem RegistryConnection.Backed.grow
    {later : System} (backed : connection.Backed system) (grown : later.Extends system) :
    connection.Backed later := by
  have composed {requestId : Nat} {beat : Beat}
      (said : system.Composed requestId beat) :
      later.Composed requestId beat :=
    said.imp fun sent found => ⟨grown.requests _ sent found.1, found.2⟩
  exact
    { owner := fun post owned =>
        (backed.owner post owned).imp fun sent found => ⟨grown.requests _ sent found.1, found.2⟩
      requests := fun request sent => composed (backed.requests request sent)
      held := fun held kept => (backed.held held kept).imp composed (grown.replies ·)
      replies := fun requestId ack said => grown.replies (backed.replies requestId ack said) }

theorem RegistryConnection.Backed.more
    (backed : connection.Backed system)
    (processes : ExtTreeMap Nat Process) (more : List Reply) :
    connection.Backed
      { system with
        processes := processes
        replies := system.replies ++ more } :=
  backed.grow ⟨fun _ _ => id, List.subset_append_left _ _⟩

/-- A request that is held is backed. -/
theorem RegistryConnection.Backed.hold
    (backed : connection.Backed system) {held : HeldRequest}
    {rest : List (Nat × Beat)} (fewer : rest ⊆ connection.requests)
    (composed : system.Composed held.requestId held.beat)
    (said : ⟨held.requestId, held.ack⟩ ∈ system.replies) :
    ({ connection with
        requests := rest
        held := some held } : RegistryConnection).Backed system where
  owner := backed.owner
  requests request sent := backed.requests request (fewer sent)
  held _ kept := Option.some.inj kept ▸ ⟨composed, said⟩
  replies := backed.replies

theorem RegistryConnection.Backed.refuse
    (backed : connection.Backed system) (requestId : Nat) (code : RegistryProtocolError) :
    (connection.refuse requestId code).Backed system where
  owner := backed.owner
  requests _ sent := by cases sent
  held _ kept := by cases kept
  replies other ack said := by
    simp only [RegistryConnection.refuse, List.mem_append, List.mem_singleton,
      Prod.mk.injEq, reduceCtorEq, and_false, or_false] at said
    exact backed.replies other ack said

namespace Exchange

/-- The exchange is the system with its requests on connections. -/
structure Simulates (exchange : Exchange) (system : System) : Prop where
  client : system.client = exchange.client
  processes : system.processes = exchange.processes
  count : system.requests.length = exchange.nextId
  backed :
    ∀ (number : Nat) (connection : RegistryConnection),
      exchange.connections[number]? = some connection → connection.Backed system
  awaited :
    ∀ request, request ∈ system.awaited ↔
      ∃ (number : Nat) (connection : RegistryConnection),
        exchange.connections[number]? = some connection ∧ connection.owner.awaits = some request
  apart :
    ∀ (one other : Nat) (left right : RegistryConnection),
      exchange.connections[one]? = some left →
        exchange.connections[other]? = some right → one ≠ other → left.owner.Apart right.owner

variable {exchange next : Exchange} {system later : System} {number : Nat}
  {connection served : RegistryConnection}

/-- One connection changes, and the system follows. -/
theorem Simulates.put
    (simulates : exchange.Simulates system) (same : next.connections = exchange.connections)
    (client : later.client = next.client) (processes : later.processes = next.processes)
    (count : later.requests.length = next.nextId)
    (grown : later.Extends system) (backed : connection.Backed later)
    (apart :
      ∀ (other : Nat) (found : RegistryConnection),
        exchange.connections[other]? = some found → other ≠ number →
          connection.owner.Apart found.owner)
    (awaited :
      ∀ request, request ∈ later.awaited ↔
        request ∈ system.awaited ∧
            exchange.connections[number]?.bind (·.owner.awaits) ≠ some request ∨
          connection.owner.awaits = some request) :
    (next.put number connection).Simulates later := by
  refine ⟨client, processes, count, ?_, ?_, ?_⟩
  · intro other found present
    rcases getElem?_insert_cases present with ⟨_, rfl⟩ | ⟨_, present⟩
    · exact backed
    · exact (simulates.backed other found (same ▸ present)).grow grown
  · intro request
    rw [awaited, simulates.awaited]
    constructor
    · rintro (⟨⟨other, found, present, waits⟩, elsewhere⟩ | waits)
      · refine ⟨other, found, ?_, waits⟩
        rw [Exchange.put, same, getElem?_insert_ne, present]
        rintro rfl
        simp [present, waits] at elsewhere
      · exact ⟨number, connection, by simp [Exchange.put], waits⟩
    · rintro ⟨other, found, present, waits⟩
      rcases getElem?_insert_cases present with ⟨_, rfl⟩ | ⟨distinct, present⟩
      · exact Or.inr waits
      · rw [same] at present
        refine Or.inl ⟨⟨other, found, present, waits⟩, fun also => ?_⟩
        rcases Option.bind_eq_some_iff.mp also with ⟨before, placed, also⟩
        exact
          (simulates.apart number other before found placed present distinct).2 request also waits
  · intro one other left right first second distinct
    rcases getElem?_insert_cases first with ⟨rfl, rfl⟩ | ⟨_, first⟩ <;>
      rcases getElem?_insert_cases second with ⟨rfl, rfl⟩ | ⟨_, second⟩
    · exact absurd rfl distinct
    · exact apart other right (same ▸ second) distinct.symm
    · exact (apart one left (same ▸ first) distinct).symm
    · exact simulates.apart one other left right (same ▸ first) (same ▸ second) distinct

/-- The same for a connection that is there. -/
theorem Simulates.turned
    (simulates : exchange.Simulates system)
    (present : exchange.connections[number]? = some connection)
    (same : next.connections = exchange.connections) (counts : next.nextId = exchange.nextId)
    (client : later.client = next.client) (processes : later.processes = next.processes)
    (requests : later.requests = system.requests) (replies : system.replies ⊆ later.replies)
    (backed : served.Backed later)
    (loops : served.owner.looping = true → connection.owner.looping = true)
    (waits : ∀ request, served.owner.awaits = some request → connection.owner.awaits = some request)
    (awaited :
      ∀ request, request ∈ later.awaited ↔
        request ∈ system.awaited ∧
          (connection.owner.awaits = some request → served.owner.awaits = some request)) :
    (next.put number served).Simulates later := by
  refine
    simulates.put same client processes
      (by rw [requests, counts, simulates.count])
      ⟨fun _ _ found => requests ▸ found, replies⟩ backed ?_ ?_
  · intro other found also distinct
    have apart := simulates.apart number other connection found present also distinct.symm
    exact
      ⟨fun looping => apart.1 (loops looping),
        fun request waiting => apart.2 request (waits request waiting)⟩
  · intro request
    rw [awaited, present]
    have own (waiting : connection.owner.awaits = some request) : request ∈ system.awaited :=
      (simulates.awaited request).mpr ⟨number, connection, present, waiting⟩
    have := waits request
    simp only [Option.bind_some]
    tauto

/-- A request that is waited for was sent. -/
theorem Simulates.waiting
    (simulates : exchange.Simulates system)
    (present : exchange.connections[number]? = some connection)
    {request : Nat} (waits : connection.owner.awaits = some request) :
    ∃ sent, system.requests[request]? = some sent ∧ sent.loop = connection.owner.looping := by
  cases owned : connection.owner with
  | post post =>
    rw [owned] at waits
    obtain rfl : post.requestId = request := Option.some.inj waits
    rcases (simulates.backed number connection present).owner post owned
      with ⟨sent, found, _, _, loop⟩
    exact ⟨sent, found, loop⟩
  | kept => simp [owned] at waits
  | dropped => simp [owned] at waits

variable [FloatFormat]

/-- A client posts a beat. -/
theorem Simulates.post
    (simulates : exchange.Simulates system) {loop : Bool} (parked : Bool)
    (free : exchange.connections[number]?.bind (·.owner.awaits) = none)
    (alone :
      loop = true →
        ∀ (other : Nat) (found : RegistryConnection),
          exchange.connections[other]? = some found → other ≠ number → found.owner.looping = false)
    (backed : connection.Backed system) :
    ∃ answers later,
      execute System.step system answers = some later ∧
        (exchange.counted.put number
          { connection with owner := .post (exchange.composed loop parked) }).Simulates
          later := by
  have idle : loop = true → system.loopIdle = true := by
    intro loops
    simp only [System.loopIdle, List.all_eq_true]
    intro request waiting
    rcases (simulates.awaited request).mp waiting with ⟨other, found, present, waits⟩
    rcases simulates.waiting present waits with ⟨sent, listed, loop⟩
    have distinct : other ≠ number := by
      rintro rfl
      simp [present, waits] at free
    simp [listed, loop, alone loops other found present distinct]
  have grown : (system.send loop parked).Extends system := by
    exact ⟨fun _ _ found => getElem?_append_some found _, fun _ => id⟩
  refine ⟨[.compose loop parked], system.send loop parked, ?_, ?_⟩
  · cases loop <;> simp_all [execute, System.step]
  refine
    simulates.put rfl simulates.client simulates.processes
      (by simp [System.send, counted, simulates.count]) grown ?_ ?_ ?_
  · refine { backed.grow grown with owner := ?_ }
    rintro _ ⟨⟩
    refine ⟨_, simulates.count ▸ List.getElem?_concat_length, ?_⟩
    rw [composed, ← simulates.client]
    exact ⟨rfl, rfl, rfl⟩
  · intro other found present distinct
    refine ⟨fun loops => alone loops other found present distinct, ?_⟩
    rintro _ ⟨⟩ waits
    rcases simulates.waiting present waits with ⟨sent, listed, _⟩
    have := (List.getElem?_eq_some_iff.mp listed).1
    simp [composed, simulates.count] at this
  · intro request
    rw [free]
    simp [System.send, composed, simulates.count, eq_comm]

/-- The system can do what leaves these processes and this connection. -/
def Followed (system : System)
    (served : ExtTreeMap Nat Process × RegistryConnection) : Prop :=
  ∃ answers more,
    let later : System :=
      { system with
        processes := served.1
        replies := system.replies ++ more }
    execute System.step system answers = some later ∧ served.2.Backed later

/-- The system does nothing where the registry takes no request in. -/
theorem Simulates.still
    (simulates : exchange.Simulates system) (backed : connection.Backed system) :
    Followed system (exchange.processes, connection) := by
  refine ⟨[], [], ?_⟩
  rw [← simulates.processes, List.append_nil]
  exact ⟨rfl, backed⟩

section Served

variable {served : ExtTreeMap Nat Process × RegistryConnection}
  (simulates : exchange.Simulates system)
  (backed : connection.Backed system)

include simulates backed

/-- A server reads a request. -/
theorem read_followed
    {now : Nat} {order : String → IterationOrder}
    (moved : connection.serve exchange.processes (.read now order) = some served) :
    Followed system served := by
  simp only [RegistryConnection.serve] at moved
  split at moved
  · rename_i _ requestId beat rest _ idle queued
    split_ifs at moved
    · simp only [bind_some_iff, Option.some.injEq] at moved
      rcases moved with ⟨process, running, rfl⟩
      rcases backed.requests (requestId, beat) (by simp [queued]) with ⟨sent, found, rfl⟩
      rw [← simulates.processes] at running ⊢
      refine
        ⟨[.deliver connection.epoch requestId now order],
          [⟨requestId, (process.registry.beatShared now order sent.beat).ack⟩], ?_, ?_⟩
      · simp [execute, System.step, running, found]
      · exact
          (backed.more _ _).hold (queued ▸ List.subset_cons_self _ _) ⟨sent, found, rfl⟩ (by simp)
    · cases moved
      exact simulates.still (backed.refuse _ _)
  · cases moved

/-- A server looks again. -/
theorem look_followed
    {order : String → IterationOrder}
    (moved : connection.serve exchange.processes (.look order) = some served) :
    Followed system served := by
  simp only [RegistryConnection.serve, bind_some_iff] at moved
  rcases moved with ⟨held, taken, process, running, moved⟩
  split_ifs at moved with settled
  cases moved
  rcases backed.held held taken with ⟨⟨sent, found, same⟩, said⟩
  rcases List.mem_iff_getElem?.mp said with ⟨index, listed⟩
  rw [← simulates.processes] at running ⊢
  refine
    ⟨[.refresh index order],
      [⟨held.requestId,
        { held.ack with pools := (process.registry.deltasSharedFor order held.beat).1 }⟩],
      ?_, ?_⟩
  · simp only [execute, System.step, running, found, listed, settled, same,
      Option.bind_eq_bind, Option.bind_some]
    rfl
  · exact (backed.more _ _).hold (fun _ => id) ⟨sent, found, same⟩ (by simp)

/-- A server answers. -/
theorem answer_followed
    {fits : Bool} (moved : connection.serve exchange.processes (.answer fits) = some served) :
    Followed system served := by
  simp only [RegistryConnection.serve, bind_some_iff, Option.some.injEq] at moved
  rcases moved with ⟨held, taken, rfl⟩
  refine simulates.still ?_
  refine ⟨backed.owner, backed.requests, fun _ kept => (by cases kept), ?_⟩
  intro requestId ack said
  simp only [List.mem_append, List.mem_singleton, Prod.mk.injEq] at said
  rcases said with said | ⟨rfl, said⟩
  · exact backed.replies requestId ack said
  · cases fits
    · cases said
    · cases said
      exact (backed.held held taken).2

/-- The system follows a server's move. -/
theorem serve_followed
    {move : ServerMove} (moved : connection.serve exchange.processes move = some served) :
    Followed system served := by
  cases move with
  | read now order => exact read_followed simulates backed moved
  | look order => exact look_followed simulates backed moved
  | answer fits => exact answer_followed simulates backed moved
  | interrupt =>
    simp only [RegistryConnection.serve, bind_some_iff] at moved
    rcases moved with ⟨held, taken, moved⟩
    split_ifs at moved
    cases moved
    exact simulates.still (backed.refuse _ _)
  | hangUp =>
    cases moved
    exact
      simulates.still
        ⟨backed.owner, fun _ sent => (by cases sent), fun _ kept => (by cases kept), backed.replies⟩

end Served

/-- Whatever the registry does on a connection, the system can do it too. -/
theorem serve_matched
    (simulates : exchange.Simulates system)
    (present : exchange.connections[number]? = some connection) {move : ServerMove}
    {served : ExtTreeMap Nat Process × RegistryConnection}
    (moved : connection.serve exchange.processes move = some served) :
    ∃ answers later,
      execute System.step system answers = some later ∧
        (({ exchange with processes := served.1 } : Exchange).put number
          served.2).Simulates later := by
  have owner := (RegistryConnection.serve_traffic moved).1
  rcases
    serve_followed simulates (simulates.backed number connection present) moved with
    ⟨answers, more, ran, backed⟩
  refine
    ⟨answers, _, ran,
      simulates.turned present rfl rfl simulates.client rfl rfl
        (List.subset_append_left _ _) backed ?_ ?_ ?_⟩ <;>
    simp [owner]

/-- A client forgets a request. -/
theorem Simulates.forget
    (simulates : exchange.Simulates system)
    (present : exchange.connections[number]? = some connection) :
    ∃ answers later,
      execute System.step system answers = some later ∧
        (exchange.put number
          { connection with owner := .dropped }).Simulates later := by
  have backed : ({ connection with owner := .dropped } : RegistryConnection).Backed system :=
    { simulates.backed number connection present with owner := fun _ owned => by cases owned }
  cases waits : connection.owner.awaits with
  | none =>
    refine
      ⟨[], system, rfl,
        simulates.turned present rfl rfl simulates.client
          simulates.processes rfl (fun _ => id) backed ?_ ?_ ?_⟩ <;>
      simp [waits]
  | some request =>
    refine
      ⟨[.drop request], _, rfl,
        simulates.turned present rfl rfl simulates.client
          simulates.processes rfl (fun _ => id)
          (backed.grow ⟨fun _ _ => id, fun _ => id⟩) ?_ ?_ ?_⟩ <;>
      simp [waits, @eq_comm _ request]

/-- The system follows any turn. -/
theorem turn_matched
    (simulates : exchange.Simulates system)
    (present : exchange.connections[number]? = some connection)
    {turn : Turn} {turned : Exchange × RegistryConnection}
    (taken : exchange.turn connection turn = some turned) :
    ∃ answers later,
      execute System.step system answers = some later ∧
        (turned.1.put number turned.2).Simulates later := by
  have backed := simulates.backed number connection present
  cases turn with
  | reuse parked =>
    simp only [Exchange.turn] at taken
    split at taken
    · rename_i kept
      cases taken
      refine simulates.post parked ?_ ?_ backed
      · simp [present, kept]
      · intro _ other found also distinct
        have apart := simulates.apart number other connection found present also distinct.symm
        exact apart.1 (by rw [kept]; rfl)
    · cases taken
  | write =>
    simp only [Exchange.turn] at taken
    split at taken
    · rename_i post owned
      split_ifs at taken
      cases taken
      rcases backed.owner post owned with ⟨sent, found, same, rest⟩
      refine
        ⟨[], system, rfl,
          simulates.turned present rfl rfl simulates.client
            simulates.processes rfl (fun _ => id)
            { backed with
              owner := fun _ written => ?_
              requests := List.forall_mem_append.mpr ⟨backed.requests, ?_⟩ } ?_ ?_ ?_⟩
      · cases written
        exact ⟨sent, found, same, rest⟩
      · exact List.forall_mem_singleton.mpr ⟨sent, found, same⟩
      all_goals simp [owned, Owner.looping]
    · cases taken
  | serve move =>
    simp only [Exchange.turn, bind_some_iff, Option.some.injEq] at taken
    rcases taken with ⟨served, moved, rfl⟩
    exact serve_matched simulates present moved
  | take =>
    simp only [Exchange.turn] at taken
    split at taken
    · rename_i post requestId ack rest owned read
      split at taken
      · rename_i same
        subst same
        cases taken
        rcases backed.owner post owned with ⟨sent, found, _, showing, _⟩
        rcases List.mem_iff_getElem?.mp (backed.replies post.requestId ack (by simp [read])) with
          ⟨index, listed⟩
        have waits : post.requestId ∈ system.awaited :=
          (simulates.awaited _).mpr ⟨number, connection, present, by rw [owned]; rfl⟩
        refine
          ⟨[.apply index], system.receive ⟨post.requestId, ack⟩ sent,
            by simp [execute, System.step, listed, found, waits],
            simulates.turned present rfl rfl ?_ simulates.processes rfl (fun _ => id) ?_ ?_ ?_ ?_⟩
        · simp [System.receive, showing, simulates.client]
        · refine
            ⟨fun _ left => ?_, backed.requests, backed.held,
              fun _ _ said => backed.replies _ _ (by simp [read, said])⟩
          split at left <;> cases left
        all_goals
          split <;>
            simp_all [System.receive, Owner.looping, @eq_comm _ post.requestId]
      · cases taken
        exact simulates.forget present
    · cases taken
      exact simulates.forget present
    · cases taken
  | drop =>
    cases taken
    exact simulates.forget present

/-- A request number is used up. -/
theorem Simulates.skip (simulates : exchange.Simulates system) :
    ∃ answers later,
      execute System.step system answers = some later ∧ exchange.counted.Simulates later := by
  refine ⟨[.compose false false, .drop system.requests.length], _, rfl, ?_⟩
  refine
    ⟨simulates.client, simulates.processes, by simp [System.send, counted, simulates.count],
      fun number connection present => ?_, fun request => ?_, simulates.apart⟩
  · exact
      (simulates.backed number connection present).grow
        ⟨fun _ _ found => getElem?_append_some found _, fun _ => id⟩
  · refine Iff.trans ?_ (simulates.awaited request)
    simp only [System.send, List.mem_filter, List.mem_append, List.mem_singleton, bne_iff_ne]
    constructor
    · rintro ⟨waits | rfl, other⟩
      · exact waits
      · exact absurd rfl other
    · intro waits
      rcases (simulates.awaited request).mp waits with ⟨number, connection, present, own⟩
      rcases simulates.waiting present own with ⟨sent, listed, _⟩
      exact ⟨Or.inl waits, (List.getElem?_eq_some_iff.mp listed).1.ne⟩

omit [FloatFormat] in
/-- Client and processes may change. -/
theorem Simulates.aside
    (simulates : exchange.Simulates system) (client : Shared)
    (processes : ExtTreeMap Nat Process) :
    ({ exchange with
        client := client
        processes := processes } : Exchange).Simulates
      { system with
        client := client
        processes := processes } :=
  ⟨rfl, rfl, simulates.count,
    fun number connection present =>
      (simulates.backed number connection present).grow ⟨fun _ _ => id, fun _ => id⟩,
    simulates.awaited, simulates.apart⟩

/-- The system follows each step. -/
theorem step_matched
    {action : ExchangeAction} (stepped : exchange.step action = some next)
    (simulates : exchange.Simulates system) :
    ∃ answers later, execute System.step system answers = some later ∧ next.Simulates later := by
  cases action with
  | call call =>
    cases stepped
    refine ⟨[.call call], _, ?_, simulates.aside _ exchange.processes⟩
    simp [execute, System.step, simulates.client, ← simulates.processes]
  | launch ttl nanos =>
    simp only [step] at stepped
    split_ifs at stepped with taken
    cases stepped
    refine ⟨[.launch ttl nanos], _, ?_, simulates.aside exchange.client _⟩
    simp [execute, System.step, ← simulates.client, simulates.processes, taken]
  | other epoch event =>
    simp only [step, bind_some_iff, Option.some.injEq] at stepped
    rcases stepped with ⟨process, running, rfl⟩
    refine ⟨[.other epoch event], _, ?_, simulates.aside exchange.client _⟩
    simp [execute, System.step, ← simulates.client, simulates.processes, running]
  | skip =>
    cases stepped
    exact simulates.skip
  | connect number epoch loop parked =>
    simp only [step] at stepped
    split_ifs at stepped with taken
    cases stepped
    simp only [Bool.or_eq_true, Bool.and_eq_true, not_or, not_and,
      Bool.not_eq_true, List.any_eq_false] at taken
    have empty : ({ epoch := epoch } : RegistryConnection).Backed system :=
      ⟨by simp, by simp, by simp, by simp⟩
    refine simulates.post parked ?_ ?_ empty
    · rw [ExtTreeMap.getElem?_eq_none]
      · rfl
      · rw [← ExtTreeMap.contains_iff_mem, taken.1]
        simp
    · intro loops other found present _
      exact taken.2 loops (other, found) (ExtTreeMap.mem_toList_iff_getElem?_eq_some.mpr present)
  | turn number turn =>
    simp only [step, bind_some_iff, Option.some.injEq] at stepped
    rcases stepped with ⟨connection, present, turned, taken, rfl⟩
    exact turn_matched simulates present taken

/--
Every run over connections is, for the client and the processes, a run in
which answers only say which request they are for.
-/
theorem exchange_refines_system
    (client : Shared) (actions : List ExchangeAction) (final : Exchange)
    (ran : execute step (new client) actions = some final) :
    ∃ (answers : List Action) (system : System),
      execute System.step (System.new client) answers = some system ∧ system.client = final.client ∧
        system.processes = final.processes := by
  have start : ({ client := client, nextId := 0 } : Exchange).Simulates (System.new client) := by
    refine ⟨rfl, rfl, rfl, fun _ _ found => ?_, fun _ => ?_, fun _ _ _ _ found => ?_⟩
    · cases found
    · simp [System.new]
    · cases found
  rcases start.skip with ⟨first, early, began, start⟩
  rcases execute_simulation step_matched ran start with ⟨answers, system, continued, simulates⟩
  exact
    ⟨first ++ answers, system, execute_append began continued,
      simulates.client, simulates.processes⟩

omit [FloatFormat] in
theorem exchange_refines_system_twice :
    letI := FloatFormat.widest
    ∃ final answers system,
      execute step (new beatenTwice.1) beatenTwice.2 = some final ∧
        execute System.step (System.new beatenTwice.1) answers = some system ∧
        system.client = final.client ∧ system.processes = final.processes := by
  let := FloatFormat.widest
  rcases beatenTwice_ran with ⟨final, _, ran, _⟩
  rcases exchange_refines_system _ _ final ran with ⟨answers, system, refined⟩
  exact ⟨final, answers, system, ran, refined⟩

end Exchange

end Tinyray
