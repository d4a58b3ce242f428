import Tinyray.Foundation.MapFold
import Tinyray.Foundation.Run
import Tinyray.Transport.Server

/-!
# What one step of a server connection can do

`Served` lists the steps with the state each of them leads to, and
`step_served` says that the list is complete.  What a write does is left to
`write_cases`.
-/

namespace Tinyray.Transport

open Std
open Tinyray.Proto
open Tinyray.Service

/-- What the loop finds on the stream is not a request it can judge. -/
def Refusal.garbles : Refusal → Bool
  | .protocolError .. | .unadmitted _ => true
  | _ => false

/-- The id that the reply will have. -/
def Refusal.requestId : Refusal → String
  | .unadmitted _ => ""
  | .protocolError requestId _ | .unacknowledged requestId
  | .notServed requestId _ | .notAdvertised requestId
  | .laterTenure requestId | .alreadyInFlight requestId
  | .atLimit requestId => requestId

theorem Refusal.reply_requestId (refusal : Refusal) (state : ServerState) :
    (refusal.reply state).requestId = refusal.requestId := by
  cases refusal <;> rfl

/-- The event writes a reply. -/
def ServerEvent.answers : ServerEvent → Bool
  | .write .. | .writeInline _ => true
  | _ => false

namespace ServerConnection

variable {state : ServerState} {connection next : ServerConnection}

/-! ## Closing -/

theorem close_closed : connection.close.closed = true := by
  unfold close
  split
  · assumption
  · rfl

@[simp]
theorem close_requests : connection.close.requests = connection.requests := by
  unfold close
  split <;> rfl

@[simp]
theorem close_loop : connection.close.loop = connection.loop := by
  unfold close
  split <;> rfl

@[simp]
theorem close_writes : connection.close.writes = connection.writes := by
  unfold close
  split <;> rfl

@[simp]
theorem close_activeIds : connection.close.activeIds = connection.activeIds := by
  unfold close
  split <;> rfl

theorem mem_of_mem_close
    {requestId : String} (listed : requestId ∈ connection.close.blobResponses) :
    requestId ∈ connection.blobResponses := by
  unfold close at listed
  split at listed
  · exact listed
  · simp at listed

@[simp]
theorem join_requests : connection.join.requests = connection.requests := by
  unfold join
  split
  · exact close_requests
  · rfl

@[simp]
theorem join_activeIds : connection.join.activeIds = connection.activeIds := by
  unfold join
  split
  · exact close_activeIds
  · rfl

@[simp]
theorem join_writes : connection.join.writes = connection.writes := by
  unfold join
  split
  · exact close_writes
  · rfl

theorem join_closed (closed : connection.closed = true) : connection.join.closed = true := by
  unfold join
  split
  · exact close_closed
  · exact closed

theorem join_of_opened (opened : connection.join.closed = false) :
    connection.join = connection := by
  unfold join at opened ⊢
  split at opened
  · rw [show _ = true from close_closed] at opened
    cases opened
  · rename_i calm
    rw [if_neg calm]

theorem mem_of_mem_join
    {requestId : String} (listed : requestId ∈ connection.join.blobResponses) :
    requestId ∈ connection.blobResponses := by
  unfold join at listed
  split at listed
  · exact mem_of_mem_close listed
  · exact listed

/-! ## Writes -/

variable {reply : Proto.RpcReply} {stopped : Option Nat} {written : Bool}

/-- The ways to write a reply. -/
theorem write_cases
    (wrote : connection.write reply stopped = some (next, written)) :
    (next = connection.removeBlobResponse reply.requestId ∧ written = false) ∨
      ∃ body,
        encodeMessage reply.pack maxRpcFrameBytes = .ok body ∧
          ((stopped = none ∧ written = true ∧
              next =
                { connection with
                  writes := connection.writes ++ [⟨reply, body, (frameBytes body).length⟩] }) ∨
            ∃ count, stopped = some count ∧ written = false ∧ count < (frameBytes body).length ∧
              next =
                { connection.removeBlobResponse reply.requestId with
                  writes := connection.writes ++ [⟨reply, body, count⟩] }) := by
  unfold write at wrote
  split at wrote
  · cases wrote
    exact Or.inl ⟨rfl, rfl⟩
  · rename_i body encoded
    split at wrote
    · right
      refine ⟨body, encoded, ?_⟩
      split at wrote
      · cases wrote
        exact Or.inl ⟨rfl, rfl, rfl⟩
      · rename_i count
        split_ifs at wrote with short
        cases wrote
        exact Or.inr ⟨count, rfl, rfl, short, rfl⟩
    · cases wrote
      exact Or.inl ⟨rfl, rfl⟩

/-- What a write leaves alone. -/
structure Untouched (before after : ServerConnection) : Prop where
  closed : after.closed = before.closed
  activeIds : after.activeIds = before.activeIds
  requests : after.requests = before.requests
  loop : after.loop = before.loop
  blobResponses : ∀ requestId, requestId ∈ after.blobResponses → requestId ∈ before.blobResponses

theorem untouched_removeBlobResponse (requestId : String) :
    Untouched connection (connection.removeBlobResponse requestId) :=
  ⟨rfl, rfl, rfl, rfl, fun _ listed => (ExtTreeMap.mem_erase.mp listed).2⟩

theorem write_untouched
    (wrote : connection.write reply stopped = some (next, written)) :
    Untouched connection next := by
  rcases write_cases wrote with ⟨rfl, _⟩ | ⟨body, _, ⟨_, _, rfl⟩ | ⟨count, _, _, _, rfl⟩⟩
  · exact untouched_removeBlobResponse _
  · exact ⟨rfl, rfl, rfl, rfl, fun _ listed => listed⟩
  · exact ⟨rfl, rfl, rfl, rfl, (untouched_removeBlobResponse reply.requestId).blobResponses⟩

theorem admitBlobResponse_requests
    (number : Nat) (reply : Proto.RpcReply) (blobs : BlobAdmission) :
    (connection.admitBlobResponse number reply blobs).1.requests = connection.requests := by
  cases blobs <;> rfl

theorem admitBlobResponse_activeIds
    (number : Nat) (reply : Proto.RpcReply) (blobs : BlobAdmission) :
    (connection.admitBlobResponse number reply blobs).1.activeIds = connection.activeIds := by
  cases blobs <;> rfl

theorem admitBlobResponse_loop
    (number : Nat) (reply : Proto.RpcReply) (blobs : BlobAdmission) :
    (connection.admitBlobResponse number reply blobs).1.loop = connection.loop := by
  cases blobs <;> rfl

theorem admitBlobResponse_closed
    (number : Nat) (reply : Proto.RpcReply) (blobs : BlobAdmission) :
    (connection.admitBlobResponse number reply blobs).1.closed = connection.closed := by
  cases blobs <;> rfl

/-! ## Requests -/

/-- What becomes of a request that was read. -/
inductive Received (connection : ServerConnection) (number : Nat)
    (request : RpcRequest) : ServerConnection → Prop where
  | invalid {message : String} :
      validateRequest request = .error message →
        Received connection number request
          (connection.refuse (.protocolError request.requestId message))
  | acknowledged :
      request.operation = .blobAck →
        Received connection number request
          { connection.removeBlobResponse request.requestId with loop := .top }
  | unacknowledged :
      request.operation ≠ .blobAck → request.requestId ∈ connection.blobResponses →
        Received connection number request (connection.refuse (.unacknowledged request.requestId))
  | accepting :
      validateRequest request = .ok () → request.operation ≠ .blobAck →
        request.requestId ∉ connection.blobResponses →
        Received connection number request
          { connection with loop := .accepting number request }

variable {number : Nat} {request : RpcRequest} {event : ServerEvent}

theorem Received.writes
    (received : Received connection number request next) :
    next.writes = connection.writes := by
  cases received <;> rfl

theorem Received.closed
    (received : Received connection number request next) :
    next.closed = connection.closed := by
  cases received <;> rfl

/-- The ways to receive a request. -/
theorem receive_received (number : Nat) (request : RpcRequest) :
    Received connection number request (connection.receive number request) := by
  unfold receive
  split
  · rename_i message invalid
    exact .invalid invalid
  · rename_i valid
    split_ifs with ack blobs
    · exact .acknowledged ack
    · exact .unacknowledged ack (ExtTreeMap.contains_iff_mem.mp blobs)
    · refine .accepting valid ack ?_
      exact fun listed => blobs (ExtTreeMap.contains_iff_mem.mpr listed)

/-- What becomes of a request once the loop takes or refuses it. -/
inductive Accepted (connection : ServerConnection) (number : Nat)
    (request : RpcRequest) : ServerConnection → Prop where
  | refused {refusal : Refusal} :
      refusal.requestId = request.requestId → refusal.garbles = false →
        (∀ requestId, refusal ≠ .unacknowledged requestId) →
        (∀ requestId, refusal = .alreadyInFlight requestId →
          request.requestId ∈ connection.activeIds) →
        Accepted connection number request (connection.refuse refusal)
  | spawned :
      request.requestId ∉ connection.activeIds →
        Accepted connection number request
          { connection.setTask number
              { requestId := request.requestId } with
            activeIds := connection.activeIds.insert request.requestId
            loop := .top }

theorem Accepted.writes
    (accepted : Accepted connection number request next) :
    next.writes = connection.writes := by
  cases accepted <;> rfl

theorem Accepted.closed
    (accepted : Accepted connection number request next) :
    next.closed = connection.closed := by
  cases accepted <;> rfl

theorem Accepted.blobResponses
    (accepted : Accepted connection number request next) :
    next.blobResponses = connection.blobResponses := by
  cases accepted <;> rfl

/-- The ways to accept a request. -/
theorem accept_accepted
    (number : Nat) (request : RpcRequest) (owned admitted : Bool) :
    Accepted connection number request (connection.accept state number request owned admitted) := by
  unfold accept
  split_ifs with target method tenure active admission
  · exact .refused rfl rfl (by simp) (by simp)
  · exact .refused rfl rfl (by simp) (by simp)
  · exact .refused rfl rfl (by simp) (by simp)
  · refine .refused rfl rfl (by simp) ?_
    exact fun _ _ => ExtTreeSet.contains_iff_mem.mp active
  · exact .refused rfl rfl (by simp) (by simp)
  · exact .spawned fun listed => active (ExtTreeSet.contains_iff_mem.mpr listed)

/-! ## Steps -/

/-- What each event changes. -/
inductive Served (state : ServerState) (connection : ServerConnection) :
    ServerEvent → ServerConnection → Prop where
  | check {shutdown : Bool} :
      connection.loop = .top →
        Served state connection (.check shutdown)
          { connection.join with
            loop :=
              if shutdown || connection.join.closed then .left
              else .waiting }
  | wake :
      connection.loop = .waiting → Served state connection .wake { connection with loop := .top }
  | leave :
      connection.loop = .waiting → Served state connection .leave { connection with loop := .left }
  | joinFailed :
      connection.loop = .waiting →
        Served state connection .joinFailed
          { connection.close with joinFailed := false, loop := .left }
  | garbled {refusal : Refusal} :
      connection.loop = .waiting → refusal.garbles = true →
        Served state connection (.garbled refusal) (connection.refuse refusal)
  | receive {number : Nat} {request : RpcRequest} :
      connection.loop = .waiting → connection.requests[number]? = none →
        Served state connection (.receive number request) (connection.receive number request)
  | accept {number : Nat} {request : RpcRequest}
      {owned admitted : Bool} :
      connection.loop = .accepting number request →
        Served state connection (.accept owned admitted)
          (connection.accept state number request owned admitted)
  | dispatched {number : Nat} {task : RequestTask}
      {response : ServiceResponse} {blobs : BlobAdmission} :
      connection.requests[number]? = some task → task.phase = .dispatching →
        Served state connection (.dispatched number response blobs)
          ((connection.admitBlobResponse number (task.reply response) blobs).1.setTask number
            { task with
              phase :=
                .replying (connection.admitBlobResponse number (task.reply response) blobs).2 })
  | panicked {number : Nat} {task : RequestTask} :
      connection.requests[number]? = some task → task.phase = .dispatching →
        Served state connection (.panicked number)
          { connection with
            requests := connection.requests.erase number
            joinFailed := true }
  | write {number : Nat} {task : RequestTask} {reply : Proto.RpcReply}
      {stopped : Option Nat} {middle : ServerConnection}
      {written : Bool} :
      connection.requests[number]? = some task → task.phase = .replying reply →
        connection.write reply stopped = some (middle, written) →
        Served state connection (.write number stopped)
          (middle.setTask number
            { task with phase := if written then .answered else .failed })
  | writeInline {refusal : Refusal} {stopped : Option Nat}
      {middle : ServerConnection} {written : Bool} :
      connection.loop = .replying refusal →
        connection.write (refusal.reply state) stopped = some (middle, written) →
        Served state connection (.writeInline stopped)
          { middle with loop := if refusal.stops then .left else .top }
  | closeFailed {number : Nat} {task : RequestTask} :
      connection.requests[number]? = some task → task.phase = .failed →
        Served state connection (.closeFailed number)
          (connection.close.setTask number { task with phase := .answered })
  | free {number : Nat} {task : RequestTask} :
      connection.requests[number]? = some task → task.phase = .answered →
        Served state connection (.free number)
          { connection with
            requests := connection.requests.erase number
            activeIds := connection.activeIds.erase task.requestId }
  | close :
      connection.loop = .left →
        Served state connection .close
          { connection.close with loop := .closing }
  | takeWriter :
      connection.loop = .closing →
        Served state connection .takeWriter
          { connection with writer := false, loop := .finished }

/-- Other events write nothing. -/
theorem Served.writes
    (served : Served state connection event next) (silent : event.answers = false) :
    next.writes = connection.writes := by
  cases served with
  | check top => exact join_writes
  | joinFailed waiting | closeFailed found phase | close left =>
    exact close_writes
  | @receive number request waiting fresh =>
    exact (receive_received number request).writes
  | @accept number request owned admitted accepting =>
    exact (accept_accepted number request owned admitted).writes
  | @dispatched number task response blobs found phase =>
    cases blobs <;> rfl
  | write found phase wrote => cases silent
  | writeInline replying wrote => cases silent
  | _ => rfl

/-- What is closed stays closed. -/
theorem Served.closed
    (served : Served state connection event next)
    (closed : connection.closed = true) : next.closed = true := by
  cases served with
  | check top => exact join_closed closed
  | joinFailed waiting | close left | closeFailed found phase =>
    exact close_closed
  | @receive number request waiting fresh =>
    exact (receive_received number request).closed.trans closed
  | @accept number request owned admitted accepting =>
    exact (accept_accepted number request owned admitted).closed.trans closed
  | dispatched found phase =>
    exact (admitBlobResponse_closed _ _ _).trans closed
  | write found phase wrote | writeInline replying wrote =>
    exact (write_untouched wrote).closed.trans closed
  | _ => exact closed

theorem inPhase_eq_some
    {phase : TaskPhase} {task : RequestTask}
    (found : connection.inPhase number phase = some task) :
    connection.requests[number]? = some task ∧ task.phase = phase := by
  simpa [inPhase, Option.filter_eq_some_iff] using found

/-- What the tasks' steps do. -/
theorem taskStep_served (stepped : connection.taskStep event = some next) :
    Served state connection event next := by
  -- every event but these is refused, and these look up their task first
  cases event <;>
    simp only [taskStep, Option.bind_eq_bind, Option.bind_eq_some_iff,
      Option.some.injEq, reduceCtorEq] at stepped
  case dispatched number response blobs =>
    rcases stepped with ⟨task, found, rfl⟩
    rcases inPhase_eq_some found with ⟨found, phase⟩
    exact .dispatched found phase
  case panicked number =>
    rcases stepped with ⟨task, found, rfl⟩
    rcases inPhase_eq_some found with ⟨found, phase⟩
    exact .panicked found phase
  case write number stopped =>
    rcases stepped with ⟨task, found, stepped⟩
    split at stepped
    · rename_i reply phase
      simp only [Option.bind_eq_some_iff, Option.some.injEq] at stepped
      rcases stepped with ⟨⟨middle, written⟩, wrote, rfl⟩
      exact .write found phase wrote
    · cases stepped
  case closeFailed number =>
    rcases stepped with ⟨task, found, rfl⟩
    rcases inPhase_eq_some found with ⟨found, phase⟩
    exact .closeFailed found phase
  case free number =>
    rcases stepped with ⟨task, found, rfl⟩
    rcases inPhase_eq_some found with ⟨found, phase⟩
    exact .free found phase

/-- What the loop's steps do. -/
theorem loopStep_served
    (stepped : connection.loopStep state event = some next) :
    Served state connection event next := by
  cases event with
  | check shutdown =>
    simp only [loopStep] at stepped
    split at stepped
    · rename_i top
      cases stepped
      exact .check top
    · cases stepped
  | wake =>
    simp only [loopStep] at stepped
    split_ifs at stepped with waiting
    cases stepped
    exact .wake waiting
  | leave =>
    simp only [loopStep] at stepped
    split_ifs at stepped with waiting
    cases stepped
    exact .leave waiting
  | joinFailed =>
    simp only [loopStep] at stepped
    split_ifs at stepped with waiting
    cases stepped
    exact .joinFailed waiting.1
  | garbled refusal =>
    simp only [loopStep] at stepped
    split at stepped
    · rename_i waiting
      cases stepped
      exact .garbled waiting rfl
    · rename_i waiting
      cases stepped
      exact .garbled waiting rfl
    · cases stepped
  | receive number request =>
    simp only [loopStep] at stepped
    split_ifs at stepped with waiting
    cases stepped
    exact .receive waiting.1 waiting.2
  | accept owned admitted =>
    simp only [loopStep] at stepped
    split at stepped
    · rename_i accepting
      cases stepped
      exact .accept accepting
    · cases stepped
  | writeInline stopped =>
    simp only [loopStep] at stepped
    split at stepped
    · rename_i refusal replying
      simp only [Option.bind_eq_bind, Option.bind_eq_some_iff, Option.some.injEq] at stepped
      rcases stepped with ⟨⟨middle, written⟩, wrote, rfl⟩
      exact .writeInline replying wrote
    · cases stepped
  | close =>
    simp only [loopStep] at stepped
    split_ifs at stepped with left
    cases stepped
    exact .close left
  | takeWriter =>
    simp only [loopStep] at stepped
    split_ifs at stepped with closing
    cases stepped
    exact .takeWriter closing
  | _ => cases stepped

theorem step_served (stepped : connection.step state event = some next) :
    Served state connection event next := by
  cases event with
  | dispatched | panicked | write | closeFailed | free =>
    exact taskStep_served stepped
  | _ => exact loopStep_served stepped

end ServerConnection

end Tinyray.Transport
