import Std.Data.ExtTreeMap
import Std.Data.ExtTreeSet
import Tinyray.Service.Response

/-!
# One connection of a server

The connection's loop reads requests, refuses some of them itself and starts
a task for each of the others.  Replies of the loop and of the tasks go
through one writer behind a lock.  When the loop has left, it closes the
connection, waits for the lock and takes the writer away.

A write holds the lock from its first byte to its last, so it is one step, and
may stop after any number of bytes.  The loop looks for an unacknowledged reply
under one lock and takes the request id under another one, so a task can
answer, and free its id, in between.

What the bytes of a request decode to, whether the member still holds its
tenure, whether there is room for one more request, what a handler answers
and whether its blobs fit the budgets is left to the environment.
-/

namespace Tinyray.Transport

open Std
open Tinyray.Proto
open Tinyray.Service

/-- What a server offers. -/
structure ServerState where
  identity : String
  methods : List String

/-! ## Requests -/

/-- Printable characters only. -/
def printableAscii (text : String) : Bool :=
  text.toByteArray.data.toList.all fun byte => 0x20 ≤ byte && byte ≤ 0x7e

/-- What `validate_request` requires of an id. -/
def validRequestId (requestId : String) : Bool :=
  requestId ≠ "" && requestId.utf8ByteSize ≤ maxRpcRequestIdBytes && printableAscii requestId

/-- A letter. -/
def letter (byte : UInt8) : Bool := (0x41 ≤ byte && byte ≤ 0x5a) || (0x61 ≤ byte && byte ≤ 0x7a)

/-- A digit. -/
def digit (byte : UInt8) : Bool := 0x30 ≤ byte && byte ≤ 0x39

/-- A public method name: a letter, then letters, digits and underscores. -/
def validMethod (method : String) : Bool :=
  match method.toByteArray.data.toList with
  | [] => false
  | first :: rest => letter first && rest.all fun byte => letter byte || digit byte || byte == 0x5f

/-- `validate_request` -/
def validateRequest (request : RpcRequest) : Except String Unit :=
  if request.protocol ≠ rpcProtocol then
    .error
      ("method RPC protocol " ++ toString request.protocol ++
        " is unsupported; this build speaks " ++ toString rpcProtocol)
  else if request.requestId = "" ∨ request.requestId.utf8ByteSize > maxRpcRequestIdBytes ∨
      printableAscii request.requestId = false then
    .error "request id must be 1-200 bytes of printable ASCII"
  else
    match request.operation with
    | .call =>
      if request.batchLen.isSome ∨ request.method.any validMethod = false then
        .error "call metadata needs one public ASCII method and no batch length"
      else .ok ()
    | .batch =>
      if request.method.isSome ∨ request.batchLen.all (fun count => count > maxRpcBatch) then
        .error
          ("batch metadata needs no method and a length from 0 through " ++ toString maxRpcBatch)
      else .ok ()
    | .blobAck =>
      if request.method.isSome ∨ request.batchLen.isSome ∨
          request.caller ≠ "" ∨ request.target ≠ "" ∨ request.payload ≠ [] then
        .error "BlobRef acknowledgement carries only a request id"
      else .ok ()

/-- What the loop answers itself. -/
inductive Refusal where
  /-- The stream, the frame, its decoding or the request's form is wrong. -/
  | protocolError (requestId message : String)
  /-- The budgets have no room for a frame of this length. -/
  | unadmitted (length : Nat)
  | unacknowledged (requestId : String)
  | notServed (requestId target : String)
  | notAdvertised (requestId : String)
  | laterTenure (requestId : String)
  | alreadyInFlight (requestId : String)
  | atLimit (requestId : String)
deriving DecidableEq

/-- The reply to a refused request. -/
def Refusal.reply (state : ServerState) : Refusal → Proto.RpcReply
  | .protocolError requestId message => .failed requestId .malformedProtocol "ProtocolError" message
  | .unadmitted length =>
    .failed "" .concurrencyRefused "Busy"
      ("cannot admit a declared " ++ toString length ++
        "-byte RPC frame within the bounded connection and byte budgets")
  | .unacknowledged requestId =>
    .failed requestId .malformedProtocol "ProtocolError"
      "request id still owns an unacknowledged BlobRef response"
  | .notServed requestId target =>
    .failed requestId .fenced "Fenced" (state.identity ++ " is served here, not " ++ target)
  | .notAdvertised requestId =>
    .failed requestId .methodNotFound "AttributeError" "method is not advertised"
  | .laterTenure requestId =>
    .failed requestId .fenced "Fenced" "the member is held by a later tenure"
  | .alreadyInFlight requestId =>
    .failed requestId .malformedProtocol "ProtocolError" "request id is already in flight"
  | .atLimit requestId => .failed requestId .concurrencyRefused "Busy" "at the concurrency limit"

/-- The loop leaves after this reply; after the others it goes on. -/
def Refusal.stops : Refusal → Bool
  | .protocolError .. | .unadmitted _ | .unacknowledged _
  | .alreadyInFlight _ => true
  | .notServed .. | .notAdvertised _ | .laterTenure _ | .atLimit _ => false

/-! ## The connection -/

/-- How far the loop is. -/
inductive Loop where
  /-- It will look whether the connection is closed. -/
  | top
  /-- It waits for something to happen, or reads a request. -/
  | waiting
  /-- It has read a request, and has found no reply to be acknowledged. -/
  | accepting (number : Nat) (request : RpcRequest)
  | replying (refusal : Refusal)
  | left
  /-- The connection is closed, and the writer will be taken away. -/
  | closing
  | finished
deriving DecidableEq

/-- How far a task is. -/
inductive TaskPhase where
  | dispatching
  | replying (reply : Proto.RpcReply)
  /-- The reply was not written, and the connection will be closed. -/
  | failed
  /-- The request id will be freed. -/
  | answered
deriving DecidableEq

/-- The task of a request. -/
structure RequestTask where
  requestId : String
  phase : TaskPhase := .dispatching
deriving DecidableEq

/-- A frame as far as it was written. -/
structure Write where
  reply : Proto.RpcReply
  body : Bytes
  count : Nat

/-- The bytes that were written. -/
def Write.bytes (write : Write) : Bytes := (frameBytes write.body).take write.count

/-- A connection at the server. -/
structure ServerConnection where
  /-- The writer has not been taken away. -/
  writer : Bool := true
  closed : Bool := false
  /-- Replies with blobs that were not acknowledged, and their requests. -/
  blobResponses : ExtTreeMap String Nat := ∅
  activeIds : ExtTreeSet String := ∅
  requests : ExtTreeMap Nat RequestTask := ∅
  /-- A task has panicked, and the loop has not seen it. -/
  joinFailed : Bool := false
  loop : Loop := .top
  writes : List Write := []

/-- The reply to a request, before its blobs are admitted. -/
def RequestTask.reply (task : RequestTask) (response : ServiceResponse) : Proto.RpcReply where
  requestId := task.requestId
  status := response.status
  batchIndex := response.batchIndex
  completed := response.completed
  error := response.error
  payload := response.payload

/-- What becomes of the blobs of a reply. -/
inductive BlobAdmission where
  /-- There are none. -/
  | empty
  | rejected (message : String)
  | admitted
deriving DecidableEq

namespace ServerConnection

/-- All bytes written. -/
def stream (connection : ServerConnection) : Bytes := connection.writes.flatMap Write.bytes

/-- Close the connection. -/
def close (connection : ServerConnection) : ServerConnection :=
  if connection.closed then connection
  else { connection with closed := true, blobResponses := ∅ }

/-- No more than this happens on an acknowledgement. -/
def removeBlobResponse (connection : ServerConnection)
    (requestId : String) : ServerConnection :=
  { connection with blobResponses := connection.blobResponses.erase requestId }

/-- The second part is the reply as it will be sent. -/
def admitBlobResponse (connection : ServerConnection) (number : Nat)
    (reply : Proto.RpcReply) :
    BlobAdmission → ServerConnection × Proto.RpcReply
  | .empty => (connection, reply)
  | .rejected message =>
    (connection,
      { reply with
        status := .internal
        batchIndex := none
        completed := none
        error :=
          some
            { typeName := "BlobError"
              message := message
              traceback := "" }
        blobRefs := false
        payload := [] })
  | .admitted =>
    ({ connection with blobResponses := connection.blobResponses.insert reply.requestId number },
      { reply with blobRefs := true })

/--
`write`: nothing is sent if the reply cannot be encoded or the writer is
gone; otherwise the whole frame, or what comes before the write stops.
-/
def write (connection : ServerConnection) (reply : Proto.RpcReply)
    (stopped : Option Nat) : Option (ServerConnection × Bool) :=
  match encodeMessage reply.pack maxRpcFrameBytes with
  | .error _ => some (connection.removeBlobResponse reply.requestId, false)
  | .ok body =>
    if connection.writer then
      match stopped with
      | none =>
        some
          ({ connection with
              writes := connection.writes ++ [⟨reply, body, (frameBytes body).length⟩] },
            true)
      | some count =>
        if count < (frameBytes body).length then
          some
            ({ connection.removeBlobResponse reply.requestId with
                writes := connection.writes ++ [⟨reply, body, count⟩] },
              false)
        else none
    else some (connection.removeBlobResponse reply.requestId, false)

/-- Write a task back. -/
def setTask (connection : ServerConnection) (number : Nat)
    (task : RequestTask) : ServerConnection :=
  { connection with requests := connection.requests.insert number task }

/-- The loop will refuse. -/
def refuse (connection : ServerConnection) (refusal : Refusal) : ServerConnection :=
  { connection with loop := .replying refusal }

/-- The loop has read a request. -/
def receive (connection : ServerConnection) (number : Nat)
    (request : RpcRequest) : ServerConnection :=
  match validateRequest request with
  | .error message => connection.refuse (.protocolError request.requestId message)
  | .ok () =>
    if request.operation = .blobAck then
      { connection.removeBlobResponse request.requestId with loop := .top }
    else if connection.blobResponses.contains request.requestId then
      connection.refuse (.unacknowledged request.requestId)
    else { connection with loop := .accepting number request }

/-- Check a request and start its task. -/
def accept (connection : ServerConnection) (state : ServerState)
    (number : Nat) (request : RpcRequest) (owned admitted : Bool) :
    ServerConnection :=
  if request.target ≠ state.identity then
    connection.refuse (.notServed request.requestId request.target)
  else if request.operation = .call ∧
      request.method.all (fun method => !state.methods.contains method)
    then
    connection.refuse (.notAdvertised request.requestId)
  else if !owned then connection.refuse (.laterTenure request.requestId)
  else if connection.activeIds.contains request.requestId then
    connection.refuse (.alreadyInFlight request.requestId)
  else if !admitted then
    -- the id is taken and given back
    connection.refuse (.atLimit request.requestId)
  else
    { connection.setTask number { requestId := request.requestId } with
      activeIds := connection.activeIds.insert request.requestId
      loop := .top }

end ServerConnection

/-- What happens at the server. -/
inductive ServerEvent where
  /-- The loop looks whether it should go on. -/
  | check (shutdown : Bool)
  /-- A request has ended, or a deadline may have moved. -/
  | wake
  /-- Shutdown, a deadline, or the end of the stream. -/
  | leave
  /-- The loop learns that a task has panicked. -/
  | joinFailed
  /-- What came is not a request, or there is no room for it. -/
  | garbled (refusal : Refusal)
  | receive (number : Nat) (request : RpcRequest)
  /-- The tenure is held, and there is room for one more request. -/
  | accept (owned admitted : Bool)
  | dispatched (number : Nat) (response : ServiceResponse) (blobs : BlobAdmission)
  | panicked (number : Nat)
  /-- A task writes its reply. -/
  | write (number : Nat) (stopped : Option Nat)
  /-- The loop writes its reply. -/
  | writeInline (stopped : Option Nat)
  | closeFailed (number : Nat)
  | free (number : Nat)
  | close
  | takeWriter

namespace ServerConnection

/-- The loop hears of a task that has panicked. -/
def join (connection : ServerConnection) : ServerConnection :=
  if connection.joinFailed then
    { connection.close with joinFailed := false }
  else connection

/-- The task, in this phase. -/
def inPhase (connection : ServerConnection) (number : Nat)
    (phase : TaskPhase) : Option RequestTask :=
  connection.requests[number]?.filter fun task => task.phase = phase

/-- Steps of the tasks. -/
def taskStep (connection : ServerConnection) : ServerEvent → Option ServerConnection
  | .dispatched number response blobs => do
    let task ← connection.inPhase number .dispatching
    let answered := connection.admitBlobResponse number (task.reply response) blobs
    some
      (answered.1.setTask number
        { task with phase := .replying answered.2 })
  | .panicked number => do
    let _ ← connection.inPhase number .dispatching
    some
      { connection with
        requests := connection.requests.erase number
        joinFailed := true }
  | .write number stopped => do
    let task ← connection.requests[number]?
    match task.phase with
    | .replying reply =>
      let (next, written) ← connection.write reply stopped
      some
        (next.setTask number
          { task with phase := if written then .answered else .failed })
    | _ => none
  | .closeFailed number => do
    let task ← connection.inPhase number .failed
    some (connection.close.setTask number { task with phase := .answered })
  | .free number => do
    let task ← connection.inPhase number .answered
    some
      { connection with
        requests := connection.requests.erase number
        activeIds := connection.activeIds.erase task.requestId }
  | _ => none

/-- Steps of the loop. -/
def loopStep (connection : ServerConnection) (state : ServerState) :
    ServerEvent → Option ServerConnection
  | .check shutdown =>
    if connection.loop = .top then
      some
        { connection.join with
          loop :=
            if shutdown || connection.join.closed then .left
            else .waiting }
    else none
  | .wake =>
    if connection.loop = .waiting then some { connection with loop := .top }
    else none
  | .leave =>
    if connection.loop = .waiting then some { connection with loop := .left }
    else none
  | .joinFailed =>
    if connection.loop = .waiting ∧ connection.joinFailed then
      some { connection.close with joinFailed := false, loop := .left }
    else none
  | .garbled refusal =>
    match connection.loop, refusal with
    | .waiting, .protocolError .. | .waiting, .unadmitted _ => some (connection.refuse refusal)
    | _, _ => none
  | .receive number request =>
    if connection.loop = .waiting ∧ connection.requests[number]? = none then
      some (connection.receive number request)
    else none
  | .accept owned admitted =>
    match connection.loop with
    | .accepting number request => some (connection.accept state number request owned admitted)
    | _ => none
  | .writeInline stopped =>
    match connection.loop with
    | .replying refusal => do
      let (next, _) ← connection.write (refusal.reply state) stopped
      some
        { next with loop := if refusal.stops then .left else .top }
    | _ => none
  | .close =>
    if connection.loop = .left then some { connection.close with loop := .closing }
    else none
  | .takeWriter =>
    if connection.loop = .closing then some { connection with writer := false, loop := .finished }
    else none
  | _ => none

/-- One step of the server. -/
def step (state : ServerState) (connection : ServerConnection)
    (event : ServerEvent) : Option ServerConnection :=
  match event with
  | .dispatched .. | .panicked _ | .write .. | .closeFailed _ | .free _ => connection.taskStep event
  | _ => connection.loopStep state event

end ServerConnection

end Tinyray.Transport
