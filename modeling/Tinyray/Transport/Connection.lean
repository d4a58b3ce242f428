import Mathlib.Data.List.Basic
import Std.Data.ExtTreeMap

/-!
# One multiplexed client connection

Any number of calls share one connection.  A call registers under its request
id, queues its frame for the writer task and waits on a channel of its own;
the reader task routes replies by request id.  Timeouts and cancellations
take a call out of the table, and poisoning takes out all of them.

A step is what one task does under one lock, or between two awaits where no
lock is involved.  In particular `poison` is split in two: winning the swap
of the flag, and emptying the table; a call of `poison` that has not yet made
its swap waits in `poisoning`.  Likewise an acknowledgement is decided on
under the lock and queued later.  A deadline may pass at any time.  Calls are
numbered, so that different calls with one request id can be told apart.
-/

namespace Tinyray.Transport

open Std

/-- `MAX_INFLIGHT_PER_CONNECTION` -/
def maxInflightPerConnection : Nat := 128

/-- `MAX_ABANDONED_PER_CONNECTION` -/
def maxAbandonedPerConnection : Nat := 256

/-- `WriteProgress` -/
inductive WriteProgress where
  | queued
  | writing
  | written
deriving DecidableEq

/-- `AbandonedCall` -/
inductive AbandonedCall where
  | queued
  | writing
  | written
  | completed
deriving DecidableEq

/-- What a frame carries. -/
inductive Frame where
  | request (call : Nat)
  | blobAck (requestId : String)
deriving DecidableEq

/-- `WriteCommand` -/
structure WriteCommand where
  requestId : String
  frame : Frame
  tracked : Bool
deriving DecidableEq

/-- A reply as the client sees it. -/
structure RpcReply where
  requestId : String
  blobRefs : Bool
  malformed : Bool
  /-- The call whose frame the server answered. -/
  origin : Nat
deriving DecidableEq

/-- How the reader ends. -/
inductive ReaderError where
  | peerClosed
  | failed (error : String)
  | protocolMismatch
deriving DecidableEq

/-- The occasions to poison a connection, each with its own messages. -/
inductive Poison where
  | writeFailed
  | timedOut
  | overflowed
  | writerStopped
  | ackFailed
  | idleCap
  | unknownReply (requestId : String)
  | reader (error : ReaderError)
  | idleExpired
  | poolClosed
deriving DecidableEq

/-- What a failed call is told. -/
inductive Cause where
  | alreadyInFlight
  | cancelled
  | notWritten
  | noAnswer
  | ended
  | poisoned (poison : Poison)
deriving DecidableEq

/-- `CallError` -/
inductive CallError where
  | notDelivered (cause : Cause)
  | outcomeUnknown (cause : Cause)
deriving DecidableEq

/-- What a call gets. -/
inductive Outcome where
  | reply (reply : RpcReply)
  | error (error : CallError)
deriving DecidableEq

/-- `PendingCall` -/
structure PendingCall where
  /-- The call that waits at the other end of the channel. -/
  sender : Nat
  progress : WriteProgress
deriving DecidableEq

/-- How far a call has come. -/
inductive Phase where
  | reserved
  | registered
  /-- Registered, and told that it was cancelled before. -/
  | cancelled
  | armed
  | waiting
  | ended (outcome : Outcome)
  /-- The future was dropped while it waited. -/
  | dropped
deriving DecidableEq

/-- A call on a connection. -/
structure Call where
  requestId : String
  phase : Phase := .reserved
  /-- `CallCancellation::requested` -/
  requested : Bool := false
  /-- `CallCancellation::target` is set. -/
  target : Bool := false
deriving DecidableEq

/-- How far the writer is. -/
inductive Writer where
  | idle
  /-- A command was received. -/
  | held (command : WriteCommand)
  /-- Its frame is on the way into the socket. -/
  | writing (command : WriteCommand)
  /-- Its frame is in the socket, and not yet marked as written. -/
  | wrote (command : WriteCommand)
  | finished
deriving DecidableEq

/-- `ClientConnection` -/
structure ClientConnection where
  pending : ExtTreeMap String PendingCall := ∅
  /-- Replies nobody waits for, with the call they belong to. -/
  abandoned : ExtTreeMap String Nat := ∅
  guardedReplies : List String := []
  /-- Acknowledgements that will be queued, after the lock was released. -/
  acking : List String := []
  countedIdle : Bool := false
  outbound : List WriteCommand := []
  slots : Nat := maxInflightPerConnection
  poisoned : Bool := false
  /-- Calls of `poison` before their swap. -/
  poisoning : List Poison := []
  /-- The call of `poison` that won the swap, before it empties the table. -/
  draining : Option Poison := none
  calls : ExtTreeMap Nat Call := ∅
  /-- What was sent to a call; `none` if the sender was dropped. -/
  oneshots : ExtTreeMap Nat (Option Outcome) := ∅
  writer : Writer := .idle
  reading : Bool := true
  /-- The complete frames in the socket, in order. -/
  socket : List Frame := []
  /-- The calls whose frames the server has and did not answer yet. -/
  unanswered : List Nat := []
  inbound : List RpcReply := []

/-- Does a poisoned call that was being written have an unknown outcome? -/
def Poison.writingUnknown : Poison → Bool
  | .writeFailed | .timedOut | .overflowed | .writerStopped
  | .ackFailed => false
  | .idleCap | .unknownReply _ | .reader _ | .idleExpired
  | .poolClosed => true

/-- What a pending call is told when its connection is poisoned. -/
def Poison.error (poison : Poison) : WriteProgress → CallError
  | .queued => .notDelivered (.poisoned poison)
  | .writing =>
    if poison.writingUnknown then .outcomeUnknown (.poisoned poison)
    else .notDelivered (.poisoned poison)
  | .written => .outcomeUnknown (.poisoned poison)

/-- What `abandon` finds. -/
def WriteProgress.found : WriteProgress → AbandonedCall
  | .queued => .queued
  | .writing => .writing
  | .written => .written

/-- The call of a request. -/
def Frame.call : Frame → Option Nat
  | .request call => some call
  | .blobAck _ => none

namespace ClientConnection

/-! ## The table of pending calls -/

/-- `poison` is called. -/
def poison (connection : ClientConnection) (cause : Poison) : ClientConnection :=
  { connection with poisoning := connection.poisoning ++ [cause] }

/-- Count the connection as idle; the second part asks to close it. -/
def markIdle (connection : ClientConnection) (full : Bool) : ClientConnection × Bool :=
  if !connection.pending.isEmpty || !connection.guardedReplies.isEmpty ||
      connection.countedIdle || connection.poisoned then
    (connection, false)
  else if full then (connection, true)
  else ({ connection with countedIdle := true }, false)

/-- The request id is not free. -/
def taken (connection : ClientConnection) (requestId : String) : Bool :=
  connection.poisoned || connection.pending.contains requestId ||
    connection.abandoned.contains requestId

/-- Note how far the writer is. -/
def setProgress (connection : ClientConnection) (requestId : String)
    (progress : WriteProgress) : ClientConnection :=
  match connection.pending[requestId]? with
  | none => connection
  | some pending =>
    { connection with
      pending :=
        connection.pending.insert requestId
          { pending with progress := progress } }

/-- `try_send` -/
def trySend (connection : ClientConnection) (command : WriteCommand) : Option ClientConnection :=
  if connection.outbound.length < maxInflightPerConnection ∧ connection.writer ≠ .finished then
    some { connection with outbound := connection.outbound ++ [command] }
  else none

/-- `queue_blob_ack` -/
def queueBlobAck (connection : ClientConnection) (requestId : String) : ClientConnection :=
  match
    connection.trySend
      { requestId := requestId
        frame := .blobAck requestId
        tracked := false } with
  | some queued => queued
  | none => connection.poison .ackFailed

/-- `send_blob_ack` -/
def sendBlobAck (connection : ClientConnection) (requestId : String)
    (full : Bool) : ClientConnection :=
  if requestId ∈ connection.guardedReplies then
    let released :=
      { connection with guardedReplies := connection.guardedReplies.erase requestId }
    let idle := released.markIdle full
    if idle.2 then idle.1.poison .idleCap
    else { idle.1 with acking := idle.1.acking ++ [requestId] }
  else connection

/-- Take a call out of the table. -/
def takeOut (connection : ClientConnection) (requestId : String)
    (pending : PendingCall) : ClientConnection :=
  { connection with
    pending := connection.pending.erase requestId
    abandoned :=
      if pending.progress = .queued then connection.abandoned
      else connection.abandoned.insert requestId pending.sender
    oneshots := connection.oneshots.insert pending.sender none
    slots := connection.slots + 1 }

/-- `abandon` -/
def abandon (connection : ClientConnection) (requestId : String)
    (full : Bool) : ClientConnection × AbandonedCall :=
  match connection.pending[requestId]? with
  | none => (connection, .completed)
  | some pending =>
    let removed := connection.takeOut requestId pending
    let overflow :=
      decide (removed.abandoned.size > maxAbandonedPerConnection)
    let idle := removed.markIdle full
    (if overflow || idle.2 then idle.1.poison .overflowed else idle.1, pending.progress.found)

/-- A reply for a pending call. -/
def complete (connection : ClientConnection) (reply : RpcReply)
    (pending : PendingCall) : ClientConnection :=
  { connection with
    pending := connection.pending.erase reply.requestId
    guardedReplies :=
      if reply.blobRefs then connection.guardedReplies.insert reply.requestId
      else connection.guardedReplies
    oneshots := connection.oneshots.insert pending.sender (some (.reply reply))
    slots := connection.slots + 1
    reading := connection.reading && !reply.malformed }

/-- Drop a reply nobody waits for. -/
def forget (connection : ClientConnection) (requestId : String) : ClientConnection :=
  { connection with abandoned := connection.abandoned.erase requestId }

/-- `route` -/
def route (connection : ClientConnection) (reply : RpcReply)
    (full : Bool) : ClientConnection :=
  match connection.pending[reply.requestId]? with
  | some pending =>
    let idle := (connection.complete reply pending).markIdle full
    if idle.2 then idle.1.poison .idleCap else idle.1
  | none =>
    match connection.abandoned[reply.requestId]? with
    | some _ =>
      let idle := (connection.forget reply.requestId).markIdle full
      let acked :=
        if reply.blobRefs then
          { idle.1 with acking := idle.1.acking ++ [reply.requestId] }
        else idle.1
      if idle.2 then acked.poison .idleCap else acked
    | none =>
      { connection with reading := false }.poison (.unknownReply reply.requestId)

/-- Empty the table and tell every pending call why. -/
def drain (connection : ClientConnection) (cause : Poison) : ClientConnection :=
  { connection with
    draining := none
    abandoned := ∅
    guardedReplies := []
    pending := ∅
    oneshots :=
      connection.pending.foldl
        (fun oneshots _ pending =>
          oneshots.insert pending.sender (some (.error (cause.error pending.progress))))
        connection.oneshots
    slots := connection.slots + connection.pending.size }

/-! ## Calls -/

/-- The error after a timeout. -/
def timedOutError : AbandonedCall → CallError
  | .queued | .writing => .notDelivered .notWritten
  | .written | .completed => .outcomeUnknown .noAnswer

/-- Write a call back. -/
def setCall (connection : ClientConnection) (call : Nat) (next : Call) : ClientConnection :=
  { connection with calls := connection.calls.insert call next }

/-- The call, if it has come this far. -/
def inPhase (connection : ClientConnection) (call : Nat)
    (phase : Phase) : Option Call :=
  connection.calls[call]?.filter fun current => current.phase = phase

/-- Cancel through the target, if it is still set. -/
def strike (connection : ClientConnection) (call : Nat)
    (current : Call) (full : Bool) : ClientConnection :=
  (connection.abandon current.requestId full).1.setCall call
    { current with target := false }

/-- The deadline of a waiting call has passed. -/
def timeOut (connection : ClientConnection) (call : Nat)
    (current : Call) (full : Bool) : ClientConnection :=
  let abandoned := connection.abandon current.requestId full
  let poisoned :=
    if abandoned.2 = .writing then abandoned.1.poison .timedOut
    else abandoned.1
  poisoned.setCall call
    { current with phase := .ended (.error (timedOutError abandoned.2)) }

end ClientConnection

/-- What happens on a connection. -/
inductive Action where
  | reserve (call : Nat) (requestId : String)
  | register (call : Nat)
  | arm (call : Nat)
  | withdraw (call : Nat) (full : Bool)
  | send (call : Nat)
  | receive (call : Nat)
  | timeout (call : Nat) (full : Bool)
  | clear (call : Nat)
  | cancel (call : Nat)
  | strike (call : Nat) (full : Bool)
  | drop (call : Nat)
  | recv
  | mark
  | write
  | fail
  | settle
  | halt
  | answer (call : Nat) (blobRefs malformed : Bool)
  | read (full : Bool)
  | lose (error : ReaderError)
  | leave
  | swap (cause : Poison)
  | drain
  | release (requestId : String) (full : Bool)
  | acknowledge (requestId : String)
  | expire
  | close

namespace ClientConnection

/-- Steps of calls. -/
def callStep (connection : ClientConnection) : Action → Option ClientConnection
  | .reserve call requestId =>
    if connection.calls.contains call || connection.slots == 0 || connection.taken requestId ||
        connection.guardedReplies.contains requestId then none
    else
      some
        { connection with
          slots := connection.slots - 1
          countedIdle := false
          calls := connection.calls.insert call { requestId := requestId } }
  | .register call => do
    let current ← connection.inPhase call .reserved
    if connection.taken current.requestId then
      -- the reserved slot is given back
      some
        ({ connection with slots := connection.slots + 1 }.setCall call
          { current with phase := .ended (.error (.notDelivered .alreadyInFlight)) })
    else
      some
        ({ connection with
            pending :=
              connection.pending.insert current.requestId
                { sender := call, progress := .queued } }.setCall call
          { current with phase := .registered })
  | .arm call => do
    let current ← connection.inPhase call .registered
    if current.requested then some (connection.setCall call { current with phase := .cancelled })
    else
      some
        (connection.setCall call
          { current with phase := .armed, target := true })
  | .withdraw call full => do
    let current ← connection.inPhase call .cancelled
    some
      ((connection.abandon current.requestId full).1.setCall call
        { current with phase := .ended (.error (.notDelivered .cancelled)) })
  | .send call => do
    let current ← connection.inPhase call .armed
    let waiting := connection.setCall call { current with phase := .waiting }
    some
      (match
        waiting.trySend
          { requestId := current.requestId
            frame := .request call
            tracked := true } with
      | some sent => sent
      | none => waiting.poison .writerStopped)
  | .receive call => do
    let current ← connection.inPhase call .waiting
    let message ← connection.oneshots[call]?
    some
      (connection.setCall call
        { current with phase := .ended (message.getD (.error (.outcomeUnknown .ended))) })
  | .timeout call full => do
    let current ← connection.inPhase call .waiting
    some (connection.timeOut call current full)
  | .clear call => do
    let current ← connection.calls[call]?
    match current.phase with
    | .ended _ => some (connection.setCall call { current with target := false })
    | _ => none
  | .cancel call => do
    let current ← connection.calls[call]?
    some (connection.setCall call { current with requested := true })
  | .strike call full => do
    let current ← connection.calls[call]?
    if current.requested && current.target then some (connection.strike call current full)
    else none
  | .drop call => do
    -- dropping the future cancels the call
    let current ← connection.inPhase call .waiting
    some
      (connection.setCall call
        { current with phase := .dropped, requested := true })
  | _ => none

/-- Steps of the writer. -/
def writerStep (connection : ClientConnection) : Action → Option ClientConnection
  | .recv =>
    match connection.writer, connection.outbound with
    | .idle, command :: rest =>
      some
        { connection with writer := .held command, outbound := rest }
    | _, _ => none
  | .mark =>
    match connection.writer with
    | .held command =>
      if command.tracked && !connection.pending.contains command.requestId then
        some { connection with writer := .idle }
      else
        some
          { (if command.tracked then connection.setProgress command.requestId .writing
            else connection) with
            writer := .writing command }
    | _ => none
  | .write =>
    match connection.writer with
    | .writing command =>
      some
        { connection with
          writer := .wrote command
          socket := connection.socket ++ [command.frame]
          unanswered := connection.unanswered ++ command.frame.call.toList }
    | _ => none
  | .fail =>
    match connection.writer with
    | .writing _ => some ({ connection with writer := .finished }.poison .writeFailed)
    | _ => none
  | .settle =>
    match connection.writer with
    | .wrote command =>
      some
        { (if command.tracked then connection.setProgress command.requestId .written
          else connection) with
          writer := .idle }
    | _ => none
  | .halt =>
    if connection.poisoned ∧ connection.draining = none ∧ connection.writer = .idle then
      some { connection with writer := .finished }
    else none
  | _ => none

/-- Steps of the peer and the reader. -/
def wireStep (connection : ClientConnection) : Action → Option ClientConnection
  | .answer call blobRefs malformed => do
    let current ← connection.calls[call]?
    if call ∈ connection.unanswered then
      some
        { connection with
          unanswered := connection.unanswered.erase call
          inbound :=
            connection.inbound ++
              [{ requestId := current.requestId
                 blobRefs := blobRefs
                 malformed := malformed
                 origin := call }] }
    else none
  | .read full =>
    match connection.reading, connection.inbound with
    | true, reply :: rest => some ({ connection with inbound := rest }.route reply full)
    | _, _ => none
  | .lose error =>
    if connection.reading then some ({ connection with reading := false }.poison (.reader error))
    else none
  | .leave =>
    if connection.poisoned then some { connection with reading := false }
    else none
  | .swap cause =>
    if cause ∈ connection.poisoning then
      let called :=
        { connection with poisoning := connection.poisoning.erase cause }
      if connection.poisoned then some called
      else some { called with poisoned := true, draining := some cause }
    else none
  | .drain => do
    let cause ← connection.draining
    some (connection.drain cause)
  | .release requestId full => some (connection.sendBlobAck requestId full)
  | .acknowledge requestId =>
    if requestId ∈ connection.acking then
      some ({ connection with acking := connection.acking.erase requestId }.queueBlobAck requestId)
    else none
  | .expire =>
    if !connection.poisoned && connection.pending.isEmpty && connection.guardedReplies.isEmpty then
      some (connection.poison .idleExpired)
    else none
  | .close => some (connection.poison .poolClosed)
  | _ => none

/-- One step of the connection. -/
def step (connection : ClientConnection) (action : Action) : Option ClientConnection :=
  match action with
  | .recv | .mark | .write | .fail | .settle | .halt => connection.writerStep action
  | .answer .. | .read _ | .lose _ | .leave | .swap _ | .drain
  | .release .. | .acknowledge _ | .expire | .close => connection.wireStep action
  | _ => connection.callStep action

end ClientConnection

end Tinyray.Transport
