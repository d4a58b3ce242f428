import Tinyray.Transport.Connection

/-!
# The connection pools of a client

A call asks the pool of its endpoint for a slot on one of its connections.
The pool hands one out, has the call open a new connection, or makes it wait.
One call at a time opens connections for a pool: it sets the flag
`connecting` under the pool's lock and executes `connect`, while others wait
to be notified.

The future of a call may be dropped wherever it awaits.  Calls are numbered,
and a pool or a connection has the number of the call that made it.  Whether a
call is admitted within the limits on calls and bytes in flight is left to the
environment, as are name lookup, sockets and the notifications that
connections send to their pool.
-/

namespace Tinyray.Transport

open Std

/-- `MAX_ENDPOINT_POOLS` -/
def maxEndpointPools : Nat := 256

/-- `MAX_CLIENT_CONNECTIONS` -/
def maxClientConnections : Nat := 256

/-- `MAX_CONNECTIONS_PER_ENDPOINT` -/
def maxConnectionsPerEndpoint : Nat := 4

/-- `PREFERRED_INFLIGHT_PER_CONNECTION` -/
def preferredInflightPerConnection : Nat := 2

/-- `ConnectionPool` -/
structure ConnectionPool where
  endpoint : String
  lastUsed : Nat
  connections : List Nat := []
  connecting : Bool := false
deriving DecidableEq

/-- How far a call has come. -/
inductive Stage where
  /-- About to look at the pool, already listening for notifications. -/
  | looking (notified : Bool)
  | waiting (notified : Bool)
  /-- `connect`, before the admission -/
  | entered
  | resolving
  /-- At the head of the loop over the addresses. -/
  | choosing (addresses : List String) (lastError : Option String)
  | dialing (rest : List String) (lastError : Option String)
  /-- `finish_connect` has cleared the flag and is about to notify. -/
  | finishing (admission : Bool) (result : Except String Nat)
  /-- `connect`, before the reservation on its new connection -/
  | claiming (connection : Nat)
  | reserved (connection : Nat)
  | failed (message : String)
  | dropped
deriving DecidableEq

/-- A call and its pool. -/
structure PoolCall where
  pool : Nat
  requestId : String
  stage : Stage
deriving DecidableEq

/-- A connection of a pool. -/
structure OpenConnection where
  connection : ClientConnection := {}
  /-- The reader holds the permit of the connection. -/
  admission : Bool := true

/-- `ClientInner` -/
structure ClientInner where
  /-- The pools by endpoint. -/
  pools : ExtTreeMap String Nat := ∅
  poolClock : Nat := 1
  connectionAdmission : Nat := maxClientConnections
  /-- Every pool ever made: calls go on with pools that were removed. -/
  allocated : ExtTreeMap Nat ConnectionPool := ∅
  connections : ExtTreeMap Nat OpenConnection := ∅
  calls : ExtTreeMap Nat PoolCall := ∅

/-- What `lookup_host` may end with. -/
inductive Lookup where
  | found (addresses : List String)
  | failed (error : String)
  | timedOut

/-- What a dialed address may end with. -/
inductive Dial where
  | connected
  | nodelayFailed (error : String)
  | refused (error : String)
  | timedOut

/-- `load` -/
def ClientConnection.load (connection : ClientConnection) : Nat :=
  maxInflightPerConnection - connection.slots

/-- The stage once notified. -/
def Stage.notify : Stage → Stage
  | .looking _ => .looking true
  | .waiting _ => .waiting true
  | stage => stage

/-- The call is notified if it listens to the pool. -/
def PoolCall.notify (current : PoolCall) (number : Nat) : PoolCall :=
  if current.pool = number then
    { current with stage := current.stage.notify }
  else current

namespace ClientInner

variable (client : ClientInner)

/-- Write a call back. -/
def setCall (call : Nat) (current : PoolCall) (stage : Stage) : ClientInner :=
  { client with calls := client.calls.insert call { current with stage := stage } }

/-- Write a pool back. -/
def setPool (number : Nat) (pool : ConnectionPool) : ClientInner :=
  { client with allocated := client.allocated.insert number pool }

/-! ## Finding the pool of an endpoint -/

/-- When a pool was used. -/
def lastUsed (number : Nat) : Nat := (client.allocated[number]?.map ConnectionPool.lastUsed).getD 0

/-- The endpoint whose pool was used least recently. -/
def oldest : Option String :=
  client.pools.foldl
    (fun best endpoint number =>
      match best with
      | none => some (endpoint, client.lastUsed number)
      | some (_, used) =>
        if client.lastUsed number < used then some (endpoint, client.lastUsed number)
        else best)
    none |>.map Prod.fst

/-- `pool`; `fresh` is the number of a pool that has to be made. -/
def pool (fresh : Nat) (endpoint : String) : ClientInner × Nat :=
  let ticked := { client with poolClock := client.poolClock + 1 }
  match client.pools[endpoint]? with
  | some number =>
    ({ ticked with
        allocated :=
          client.allocated.modify number fun pool =>
            { pool with lastUsed := client.poolClock } },
      number)
  | none =>
    let kept :=
      if maxEndpointPools ≤ client.pools.size then
        match client.oldest with
        | some oldest => client.pools.erase oldest
        | none => client.pools
      else client.pools
    ({ ticked with pools := kept.insert endpoint fresh }.setPool fresh
        { endpoint := endpoint, lastUsed := client.poolClock },
      fresh)

/-! ## Reserving -/

/-- The connection is poisoned. -/
def isPoisoned (number : Nat) : Bool :=
  match client.connections[number]? with
  | some opened => opened.connection.poisoned
  | none => true

/-- The load of a connection. -/
def load (number : Nat) : Nat :=
  match client.connections[number]? with
  | some opened => opened.connection.load
  | none => 0

/-- One of the orders an unstable sort by load may give. -/
def sorted (order connections : List Nat) : Bool :=
  order.isPerm connections &&
    decide (order.Pairwise fun first second => client.load first ≤ client.load second)

/-- `try_reserve` -/
def tryReserve (call : Nat) (current : PoolCall) (number : Nat) : Option ClientInner := do
  let opened ← client.connections[number]?
  let reserved ← opened.connection.step (.reserve call current.requestId)
  some
    ({ client with
        connections :=
          client.connections.insert number
            { opened with connection := reserved } }.setCall call current
      (.reserved number))

/-- The pool should have one more connection. -/
def scale (order : List Nat) : Bool :=
  match order with
  | [] => true
  | first :: _ =>
    decide (preferredInflightPerConnection ≤ client.load first) &&
      decide (order.length < maxConnectionsPerEndpoint)

/-- Start a connection attempt. -/
def create (call : Nat) (current : PoolCall) (pool : ConnectionPool) : ClientInner :=
  (client.setPool current.pool { pool with connecting := true }).setCall call current .entered

/-- One turn of the loop of `reserve`, under the lock of the pool. -/
def reserve (call : Nat) (current : PoolCall) (notified : Bool)
    (pool : ConnectionPool) (order : List Nat) : ClientInner :=
  let retained := client.setPool current.pool pool
  if client.scale order ∧ pool.connecting = false then client.create call current pool
  else if client.scale order then retained.setCall call current (.waiting notified)
  else
    match order.findSome? (retained.tryReserve call current) with
    | some reserved => reserved
    | none =>
      if order.length < maxConnectionsPerEndpoint ∧ pool.connecting = false then
        client.create call current pool
      else if pool.connecting then retained.setCall call current (.waiting notified)
      else retained.setCall call current (.failed "endpoint multiplexing admission is full")

/-! ## Connecting -/

/-- `notify_waiters` -/
def notifyWaiters (number : Nat) : ClientInner :=
  { client with calls := client.calls.map fun _ current => current.notify number }

/-- `finish_connect`, up to its notification -/
def finishConnect (call : Nat) (current : PoolCall) (admission : Bool)
    (result : Except String Nat) : ClientInner :=
  { client with
    allocated :=
      client.allocated.modify current.pool fun pool =>
        { pool with
          connecting := false
          connections := pool.connections ++ result.toOption.toList } }.setCall call
    current (.finishing admission result)

/-- Give an admission back. -/
def giveBack (admission : Bool) : ClientInner :=
  { client with connectionAdmission := client.connectionAdmission + if admission then 1 else 0 }

end ClientInner

/-- The steps of calls and connections, and of the client's own methods. -/
inductive ClientAction where
  | start (call : Nat) (endpoint requestId : String) (admitted : Bool)
  | look (call : Nat) (order : List Nat)
  | wake (call : Nat)
  | expire (call : Nat)
  | enter (call : Nat)
  | resolve (call : Nat) (lookup : Lookup)
  | choose (call : Nat) (error : Option String)
  | exhaust (call : Nat)
  | dial (call : Nat) (result : Dial)
  | notify (call : Nat)
  | claim (call : Nat)
  | drop (call : Nat)
  | announce (pool : Nat)
  | act (connection : Nat) (action : Action)
  | retire (connection : Nat)
  | dropEndpoint (endpoint : String)
  | clearPools

namespace ClientInner

/-- Steps up to a reservation. -/
def reserveStep (client : ClientInner) : ClientAction → Option ClientInner
  | .start call endpoint requestId admitted =>
    if client.calls.contains call then none
    else
      let found := client.pool call endpoint
      some
        (found.1.setCall call
          { pool := found.2
            requestId := requestId
            stage := .looking false }
          (if admitted then .looking false
          else .failed (endpoint ++ " is at the local native RPC in-flight or byte limit")))
  | .look call order => do
    let current ← client.calls[call]?
    let pool ← client.allocated[current.pool]?
    let connections := pool.connections.filter fun number => !client.isPoisoned number
    match current.stage with
    | .looking notified =>
      if client.sorted order connections then
        some
          (client.reserve call current notified
            { pool with connections := connections } order)
      else none
    | _ => none
  | .wake call => do
    let current ← client.calls[call]?
    match current.stage with
    | .waiting true => some (client.setCall call current (.looking false))
    | _ => none
  | .expire call => do
    let current ← client.calls[call]?
    match current.stage with
    | .waiting false =>
      some (client.setCall call current (.failed "connection admission exceeded the call timeout"))
    | _ => none
  | .drop call => do
    -- dropping the future of `connect` gives back its admission
    let current ← client.calls[call]?
    match current.stage with
    | .waiting _ => some (client.setCall call current .dropped)
    | .resolving | .dialing .. => some ((client.giveBack true).setCall call current .dropped)
    | _ => none
  | _ => none

/-- Steps of an attempt. -/
def connectStep (client : ClientInner) : ClientAction → Option ClientInner
  | .enter call => do
    let current ← client.calls[call]?
    match current.stage with
    | .entered =>
      if client.connectionAdmission = 0 then
        some
          (client.finishConnect call current false (.error "process RPC connection limit reached"))
      else
        some
          ({ client with
              connectionAdmission := client.connectionAdmission - 1 }.setCall call current
            .resolving)
    | _ => none
  | .resolve call lookup => do
    let current ← client.calls[call]?
    match current.stage, lookup with
    | .resolving, .found addresses => some (client.setCall call current (.choosing addresses none))
    | .resolving, .failed error => some (client.finishConnect call current true (.error error))
    | .resolving, .timedOut =>
      some (client.finishConnect call current true (.error "connect timed out"))
    | _, _ => none
  | .choose call error => do
    let current ← client.calls[call]?
    match current.stage, error with
    | .choosing (_ :: rest) lastError, none =>
      some (client.setCall call current (.dialing rest lastError))
    | .choosing (_ :: rest) _, some error =>
      some (client.setCall call current (.choosing rest (some error)))
    | _, _ => none
  | .exhaust call => do
    let current ← client.calls[call]?
    match current.stage with
    | .choosing [] lastError =>
      some
        (client.finishConnect call current true
          (.error (lastError.getD "endpoint resolved to no addresses")))
    | _ => none
  | .dial call result => do
    let current ← client.calls[call]?
    match current.stage, result with
    | .dialing _ _, .connected =>
      some
        ({ client with connections := client.connections.insert call {} }.finishConnect call
          current false (.ok call))
    | .dialing _ _, .nodelayFailed error =>
      some (client.finishConnect call current true (.error error))
    | .dialing rest _, .refused error =>
      some (client.setCall call current (.choosing rest (some error)))
    | .dialing _ _, .timedOut =>
      some (client.finishConnect call current true (.error "connect timed out"))
    | _, _ => none
  | .notify call => do
    let current ← client.calls[call]?
    match current.stage with
    | .finishing admission (.error message) =>
      some
        (((client.notifyWaiters current.pool).giveBack
            admission).setCall call current (.failed message))
    | .finishing admission (.ok connection) =>
      some
        (((client.notifyWaiters current.pool).giveBack
            admission).setCall call current (.claiming connection))
    | _ => none
  | .claim call => do
    let current ← client.calls[call]?
    match current.stage with
    | .claiming connection =>
      some
        ((client.tryReserve call current connection).getD
          (client.setCall call current (.failed "new connection could not reserve a request")))
    | _ => none
  | _ => none

/-- All other steps. -/
def otherStep (client : ClientInner) : ClientAction → Option ClientInner
  | .announce pool => some (client.notifyWaiters pool)
  | .act number action => do
    let opened ← client.connections[number]?
    match action with
    | .reserve .. => none
    | _ =>
      let next ← opened.connection.step action
      some
        { client with
          connections :=
            client.connections.insert number
              { opened with connection := next } }
  | .retire number => do
    let opened ← client.connections[number]?
    if opened.admission ∧ opened.connection.reading = false ∧
        opened.connection.writer = .finished then
      some
        ({ client with
            connections :=
              client.connections.insert number
                { opened with admission := false } }.giveBack true)
    else none
  | .dropEndpoint endpoint => some { client with pools := client.pools.erase endpoint }
  | .clearPools => some { client with pools := ∅ }
  | _ => none

/-- One step of the client. -/
def step (client : ClientInner) (action : ClientAction) : Option ClientInner :=
  match action with
  | .start .. | .look .. | .wake _ | .expire _ | .drop _ => client.reserveStep action
  | .enter _ | .resolve .. | .choose .. | .exhaust _ | .dial ..
  | .notify _ | .claim _ => client.connectStep action
  | _ => client.otherStep action

end ClientInner

end Tinyray.Transport
