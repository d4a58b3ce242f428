import Tinyray.Transport.ServerEffects
import Tinyray.Transport.Traffic

/-!
# A client connection and its server connection

Both ends and the two ordered streams between them.  Each end keeps its own
books about request ids.  The client forgets an id when its reply arrives, or
when a call leaves before its frame was written; the server forgets it after
the reply was written, and a reply with blobs when the acknowledgement arrives.
`settledIds` is what the client would have to know: an id is registered only
when the server has done with it and no other frame with it is on its way.
-/

namespace Tinyray.Transport

open Std Foundation

/-- The loop refuses a request because of its id. -/
def Refusal.conflicts : Refusal → Bool
  | .unacknowledged _ | .alreadyInFlight _ => true
  | _ => false

/-- A call that will queue its frame. -/
def Phase.sending : Phase → Bool
  | .registered | .armed => true
  | _ => false

theorem Phase.Leads.sending
    {before after : Phase} (leads : before.Leads after) (sending : after.sending = true) :
    before.sending = true := by
  cases leads with
  | stays => exact sending
  | armed => rfl
  | refused | cancelled | withdrawn | sent | ended | dropped => cases sending

theorem Phase.unsent_of_sending
    {phase : Phase} (sending : phase.sending = true) :
    phase.unsent = true := by
  cases phase with
  | registered | armed => rfl
  | _ => cases sending

/-- A connection with both its ends. -/
structure Link where
  client : ClientConnection := {}
  server : ServerConnection := {}
  /-- How many frames the server has read. -/
  read : Nat := 0
  /-- The replies with blobs that were sent, and the frames they answer. -/
  replies : List (String × Nat) := []

/-- What happens at either end. -/
inductive LinkEvent where
  | client (action : Action)
  | server (event : ServerEvent)
  /-- The server reads the next frame. -/
  | deliver (request : Proto.RpcRequest)

namespace Link

/-- The frame a reply answers. -/
def answered (link : Link) : ServerEvent → Nat
  | .write number _ => number
  | _ => link.read - 1

/-- The reply as the client's reader sees it. -/
def received (link : Link) (event : ServerEvent) (write : Write) : RpcReply where
  requestId := write.reply.requestId
  blobRefs := write.reply.blobRefs
  malformed := write.reply.status = .malformedProtocol
  origin := (link.client.socket[link.answered event]?.bind Frame.call).getD 0

/-- What a frame of the client holds. -/
def holds (link : Link) (request : Proto.RpcRequest) : Frame → Bool
  | .request call =>
    request.operation ≠ .blobAck ∧
      link.client.calls[call]?.map Call.requestId = some request.requestId
  | .blobAck requestId => request = .blobAck requestId

/-- A step of the server on its own; what it writes arrives. -/
def serve (link : Link) (state : ServerState) (event : ServerEvent) : Option Link := do
  let next ← link.server.step state event
  let new := next.writes.drop link.server.writes.length
  if new.all fun write => write.count = 0 ∨ write.count = (Proto.frameBytes write.body).length then
    let sent := new.filter fun write => 0 < write.count
    some
      { link with
        server := next
        client :=
          { link.client with inbound := link.client.inbound ++ sent.map (link.received event) }
        replies :=
          link.replies ++
            (sent.filter fun write => write.reply.blobRefs).map fun write =>
              (write.reply.requestId, link.answered event) }
  else none

/-- The streams lose nothing, so a write is complete or sends nothing. -/
def step (state : ServerState) (link : Link) : LinkEvent → Option Link
  | .client (.answer ..) => none
  | .client action => do
    let next ← link.client.step action
    some { link with client := next }
  | .server (.receive ..) => none
  | .server (.garbled refusal) =>
    if refusal.requestId = "" then link.serve state (.garbled refusal)
    else none
  | .server event => link.serve state event
  | .deliver request => do
    let frame ← link.client.socket[link.read]?
    if link.holds request frame then
      let next ← link.server.step state (.receive link.read request)
      some { link with server := next, read := link.read + 1 }
    else none

end Link

namespace ClientConnection

/-- The frames the server has not read. -/
def inTransit (connection : ClientConnection) (read : Nat) : List Frame :=
  connection.outbound.map WriteCommand.frame ++
    connection.writer.unwritten ++ connection.socket.drop read

/-- The server will still be asked by this call. -/
def underway (connection : ClientConnection) (read number : Nat)
    (call : Call) : Bool :=
  call.phase.sending || (connection.inTransit read).contains (.request number)

end ClientConnection

/-- The loop may accept this request. -/
def ServerConnection.ponders (connection : ServerConnection)
    (requestId : String) : Bool :=
  match connection.loop with
  | .accepting _ request => request.requestId == requestId
  | _ => false

/-- The loop takes in a request. -/
def ServerEvent.takesIn : ServerEvent → Bool
  | .receive .. | .accept .. => true
  | _ => false

namespace Link

/-- The server has done with the id, and no other call is on its way. -/
def settled (link : Link) (number : Nat) (requestId : String) : Bool :=
  !link.server.activeIds.contains requestId && !link.server.blobResponses.contains requestId &&
    !link.server.ponders requestId &&
    link.client.calls.toList.all fun entry =>
      entry.1 == number || entry.2.requestId != requestId ||
        !link.client.underway link.read entry.1 entry.2

/-- An id is registered only when the server has done with it. -/
def settledIds (link : Link) : LinkEvent → Bool
  | .client (.register number) =>
    match link.client.calls[number]? with
    | none => true
    | some call => link.client.taken call.requestId || link.settled number call.requestId
  | _ => true

end Link

/-! ## The client's frames -/

namespace ClientConnection

variable {connection next : ClientConnection} {read : Nat}

theorem mem_inTransit {frame : Frame} :
    frame ∈ connection.inTransit read ↔
      frame ∈ connection.outbound.map WriteCommand.frame ∨ frame ∈ connection.writer.unwritten ∨
        frame ∈ connection.socket.drop read := by
  simp only [inTransit, List.mem_append, or_assoc]

variable {number : Nat} {action : Action} {call : Call}

/-- Quiet steps send nothing. -/
theorem Quiet.inTransit
    (quiet : Quiet connection next) (listed : Frame.request number ∈ next.inTransit read) :
    Frame.request number ∈ connection.inTransit read := by
  rcases quiet.outbound with ⟨acks, queue, untracked⟩
  rw [mem_inTransit, queue, quiet.writer, quiet.socket, List.map_append, List.mem_append] at listed
  rw [mem_inTransit]
  rcases listed with (queued | ack) | writing | sent
  · exact Or.inl queued
  · rcases List.mem_map.mp ack with ⟨command, member, frame⟩
    rcases (untracked command member).2 with ⟨id, same⟩
    rw [same] at frame
    cases frame
  · exact Or.inr (Or.inl writing)
  · exact Or.inr (Or.inr sent)

theorem without_inTransit (requestId : String) :
    (connection.without requestId).inTransit read = connection.inTransit read := by
  unfold without
  split <;> rfl

theorem routed_inTransit (reply : RpcReply) :
    (connection.routed reply).inTransit read = connection.inTransit read := by
  unfold routed
  split <;> rfl

/-- What is in transit was sent. -/
theorem Effect.inTransit
    (effect : Effect connection action next) (behind : read ≤ connection.socket.length)
    (listed : Frame.request number ∈ next.inTransit read) :
    Frame.request number ∈ connection.inTransit read ∨
      ∃ call : Call, connection.calls[number]? = some call ∧ call.phase = .armed := by
  cases effect with
  | quiet quiet | reserve _ quiet | advance _ _ quiet
  | unsent _ _ quiet => exact Or.inl (quiet.inTransit listed)
  | take found takes quiet =>
    rw [← without_inTransit]
    exact Or.inl (quiet.inTransit listed)
  | @send call current found phase =>
    rw [mem_inTransit] at listed
    simp only [ClientConnection.setCall, List.map_append, List.mem_append,
      List.map_cons, List.map_nil, List.mem_singleton] at listed
    rcases listed with (queued | same) | writing | sent
    · exact Or.inl (mem_inTransit.mpr (Or.inl queued))
    · cases same
      exact Or.inr ⟨current, found, phase⟩
    · exact Or.inl (mem_inTransit.mpr (Or.inr (Or.inl writing)))
    · exact Or.inl (mem_inTransit.mpr (Or.inr (Or.inr sent)))
  | recv idle queue =>
    left
    rw [mem_inTransit] at listed ⊢
    rw [queue]
    simp only [Writer.unwritten, List.mem_singleton] at listed
    rcases listed with queued | same | sent
    · exact Or.inl (List.mem_cons_of_mem _ queued)
    · rw [same]
      exact Or.inl List.mem_cons_self
    · exact Or.inr (Or.inr sent)
  | skip held | halt idle =>
    left
    rw [mem_inTransit] at listed ⊢
    rcases listed with queued | none | sent
    · exact Or.inl queued
    · cases none
    · exact Or.inr (Or.inr sent)
  | mark held tracked present | begin held tracked =>
    left
    rw [mem_inTransit] at listed ⊢
    rw [held]
    exact listed
  | write writing =>
    left
    rw [mem_inTransit] at listed ⊢
    rw [List.drop_append_of_le_length behind, List.mem_append] at listed
    rw [writing]
    rcases listed with queued | none | sent | new
    · exact Or.inl queued
    · cases none
    · exact Or.inr (Or.inr sent)
    · exact Or.inr (Or.inl new)
  | fail writing =>
    left
    rw [mem_inTransit] at listed ⊢
    rcases listed with queued | none | sent
    · exact Or.inl queued
    · cases none
    · exact Or.inr (Or.inr sent)
  | settle wrote tracked present | rest wrote absent =>
    left
    rw [mem_inTransit] at listed ⊢
    rw [wrote]
    exact listed
  | @read full reply rest next queue quiet =>
    have before := quiet.inTransit listed
    rw [routed_inTransit] at before
    exact Or.inl before
  | _ => exact Or.inl listed

theorem Posted.sent_of_inTransit
    (posted : connection.Posted) (listed : Frame.request number ∈ connection.inTransit read) :
    Sent connection.calls number := by
  by_contra unsent
  have none := posted.unsent number unsent
  simp only [carried, Nat.add_eq_zero_iff, List.count_eq_zero] at none
  rcases mem_inTransit.mp listed with queued | writing | sent
  · exact none.1.1 queued
  · exact none.1.2 writing
  · exact none.2 (List.mem_of_mem_drop sent)

/-- Who is underway was, or enters. -/
theorem Effect.underway
    (effect : Effect connection action next) (posted : connection.Posted)
    (behind : read ≤ connection.socket.length) (present : next.calls[number]? = some call)
    (underway : next.underway read number call = true) :
    (∃ before : Call, connection.calls[number]? = some before ∧ before.requestId = call.requestId ∧
        connection.underway read number before = true) ∨
      Enters connection action number call next := by
  simp only [ClientConnection.underway, Bool.or_eq_true, List.contains_iff_mem] at underway ⊢
  have carried :
      Frame.request number ∈ next.inTransit read →
        ∃ before : Call, connection.calls[number]? = some before ∧
          (before.phase.sending = true ∨ Frame.request number ∈ connection.inTransit read) := by
    intro listed
    rcases effect.inTransit behind listed with before | ⟨old, found, armed⟩
    · rcases posted.sent_of_inTransit before with ⟨old, found, _⟩
      exact ⟨old, found, Or.inr before⟩
    · exact ⟨old, found, Or.inl (by rw [armed]; rfl)⟩
  rcases effect.descends present with ⟨before, found, same, leads⟩ | enters | ⟨absent, reserved⟩
  · left
    refine ⟨before, found, same, ?_⟩
    rcases underway with sending | listed
    · exact Or.inl (leads.sending sending)
    · rcases carried listed with ⟨old, present, kept⟩
      rw [found] at present
      cases present
      exact kept
  · exact Or.inr enters
  · rcases underway with sending | listed
    · rw [reserved] at sending
      cases sending
    · rcases carried listed with ⟨old, present, _⟩
      rw [absent] at present
      cases present

/-- The socket only grows. -/
theorem Effect.socket (effect : Effect connection action next) :
    ∃ written, next.socket = connection.socket ++ written := by
  have still {socket : List Frame} (same : socket = connection.socket) :
      ∃ written, socket = connection.socket ++ written :=
    ⟨[], by rw [same, List.append_nil]⟩
  cases effect with
  | quiet quiet | reserve _ quiet | advance _ _ quiet
  | unsent _ _ quiet => exact still quiet.socket
  | take found takes quiet =>
    refine still (quiet.socket.trans ?_)
    unfold without
    split <;> rfl
  | write writing => exact ⟨_, rfl⟩
  | read queue quiet =>
    refine still (quiet.socket.trans ?_)
    unfold routed
    split <;> rfl
  | _ => exact still rfl

/-- Fewer are underway after a read. -/
theorem underway_of_succ
    (underway : connection.underway (read + 1) number call = true) :
    connection.underway read number call = true := by
  simp only [ClientConnection.underway, Bool.or_eq_true,
    List.contains_iff_mem, mem_inTransit] at underway ⊢
  rcases underway with sending | queued | writing | sent
  · exact Or.inl sending
  · exact Or.inr (Or.inl queued)
  · exact Or.inr (Or.inr (Or.inl writing))
  · refine Or.inr (Or.inr (Or.inr ?_))
    rw [← List.drop_drop] at sent
    exact List.mem_of_mem_drop sent

theorem underway_of_read
    (frame : connection.socket[read]? = some (.request number)) :
    connection.underway read number call = true := by
  simp only [ClientConnection.underway, Bool.or_eq_true, List.contains_iff_mem, mem_inTransit]
  refine Or.inr (Or.inr (Or.inr ?_))
  rw [← List.head?_drop] at frame
  exact List.mem_of_mem_head? frame

/-- A frame that is read is not underway. -/
theorem Posted.not_underway
    (posted : connection.Posted) (found : connection.calls[number]? = some call)
    (frame : connection.socket[read]? = some (.request number)) :
    connection.underway (read + 1) number call = false := by
  have listed : Frame.request number ∈ connection.socket := List.mem_of_getElem? frame
  have whole :
      (connection.socket.take (read + 1)).count (.request number) +
          (connection.socket.drop (read + 1)).count (.request number) =
        connection.socket.count (.request number) := by
    rw [← List.count_append, List.take_append_drop]
  have taken : 0 < (connection.socket.take (read + 1)).count (.request number) := by
    rw [List.count_pos_iff]
    refine List.mem_of_getElem? (i := read) ?_
    rw [List.getElem?_take, if_pos (Nat.lt_succ_self read)]
    exact frame
  have once := posted.once number
  have sent : call.phase.sending = false := by
    by_contra sending
    rw [Bool.not_eq_false] at sending
    have none := posted.unsent number (not_sent_of_phase found (Phase.unsent_of_sending sending))
    have some := List.count_pos_iff.mpr listed
    unfold carried at none
    omega
  unfold carried at once
  simp only [ClientConnection.underway, sent, Bool.false_or]
  rw [← Bool.not_eq_true, List.contains_iff_mem, mem_inTransit]
  rintro (queued | writing | unread)
  · have some := List.count_pos_iff.mpr queued
    omega
  · have some := List.count_pos_iff.mpr writing
    omega
  · have some := List.count_pos_iff.mpr unread
    omega

end ClientConnection

/-! ## The server's books -/

namespace ServerConnection

variable {state : ServerState} {connection next : ServerConnection}

/-- Each task owns its request id, and no request was refused for its id. -/
structure Desk (connection : ServerConnection) : Prop where
  served :
    ∀ (number : Nat) (task : RequestTask),
      connection.requests[number]? = some task → task.requestId ∈ connection.activeIds
  distinct :
    ∀ (number other : Nat) (task seen : RequestTask),
      connection.requests[number]? = some task → connection.requests[other]? = some seen →
        task.requestId = seen.requestId → number = other
  peaceful : ∀ refusal, connection.loop = .replying refusal → refusal.conflicts = false

theorem desk_new : Desk {} := ⟨by simp, by simp, by simp⟩

/-- Every task was there before, for the same request. -/
def Continues (before after : ServerConnection) : Prop :=
  ∀ (number : Nat) (task : RequestTask),
    after.requests[number]? = some task →
      ∃ old : RequestTask, before.requests[number]? = some old ∧ old.requestId = task.requestId

theorem Continues.of_eq (same : next.requests = connection.requests) :
    Continues connection next := by
  intro number task found
  rw [same] at found
  exact ⟨task, found, rfl⟩

variable {number : Nat}

theorem continues_erase
    (erased : next.requests = connection.requests.erase number) :
    Continues connection next := by
  intro other task found
  rw [erased] at found
  exact ⟨task, (getElem?_erase_cases found).2, rfl⟩

theorem continues_setTask
    {task : RequestTask} {phase : TaskPhase} {middle : ServerConnection}
    (found : connection.requests[number]? = some task)
    (same : middle.requests = connection.requests) :
    Continues connection (middle.setTask number { task with phase := phase }) := by
  intro other seen present
  rw [setTask, same] at present
  rcases getElem?_insert_cases present with ⟨rfl, rfl⟩ | ⟨_, present⟩
  · exact ⟨task, found, rfl⟩
  · exact ⟨seen, present, rfl⟩

/-- The desk goes on. -/
theorem Desk.of_continues
    (desk : connection.Desk) (continues : Continues connection next)
    (active : next.activeIds = connection.activeIds)
    (peaceful : ∀ refusal, next.loop = .replying refusal → refusal.conflicts = false) :
    next.Desk where
  served := by
    intro number task found
    rcases continues number task found with ⟨old, present, same⟩
    rw [active, ← same]
    exact desk.served number old present
  distinct := by
    intro number other task seen found present equal
    rcases continues number task found with ⟨old, known, same⟩
    rcases continues other seen present with ⟨second, found, also⟩
    exact desk.distinct number other old second known found (same.trans (equal.trans also.symm))
  peaceful := peaceful

/-- Which ids the server holds after a step without a new request. -/
structure Retains (before after : ServerConnection) : Prop where
  active : ∀ requestId, requestId ∈ after.activeIds → requestId ∈ before.activeIds
  blobs :
    ∀ requestId, requestId ∈ after.blobResponses →
      requestId ∈ before.blobResponses ∨ requestId ∈ before.activeIds

theorem Retains.of_sub
    (active : next.activeIds = connection.activeIds)
    (blobs : ∀ requestId, requestId ∈ next.blobResponses → requestId ∈ connection.blobResponses) :
    Retains connection next where
  active := by
    intro requestId listed
    rwa [active] at listed
  blobs := fun requestId listed => Or.inl (blobs requestId listed)

/-- A lease for a reply is kept. -/
theorem admitBlobResponse_retains
    (number : Nat) {reply : Proto.RpcReply} (blobs : BlobAdmission)
    (owned : reply.requestId ∈ connection.activeIds) :
    Retains connection (connection.admitBlobResponse number reply blobs).1 := by
  cases blobs with
  | empty | rejected message => exact .of_sub rfl fun _ listed => listed
  | admitted =>
    refine ⟨fun _ listed => listed, ?_⟩
    intro requestId listed
    rcases ExtTreeMap.mem_insert.mp listed with same | listed
    · rw [Std.compare_eq_iff_eq] at same
      exact Or.inr (same ▸ owned)
    · exact Or.inl listed

/-- Each step retains the ids. -/
theorem Served.retains
    {event : ServerEvent} (served : Served state connection event next)
    (desk : connection.Desk) (other : event.takesIn = false) :
    Retains connection next := by
  cases served with
  | check top =>
    exact .of_sub join_activeIds fun _ listed => mem_of_mem_join listed
  | joinFailed waiting | closeFailed found phase | close left =>
    exact .of_sub close_activeIds fun _ listed => mem_of_mem_close listed
  | receive waiting fresh => cases other
  | accept accepting => cases other
  | @dispatched number task response blobs found phase =>
    have owned : (task.reply response).requestId ∈ connection.activeIds :=
      desk.served number task found
    have retains := admitBlobResponse_retains number blobs owned
    exact ⟨retains.active, retains.blobs⟩
  | write found phase wrote | writeInline replying wrote =>
    have untouched := write_untouched wrote
    exact .of_sub untouched.activeIds untouched.blobResponses
  | free found phase =>
    exact ⟨fun _ listed => (ExtTreeSet.mem_erase.mp listed).2, fun _ listed => Or.inl listed⟩
  | _ => exact .of_sub rfl fun _ listed => listed

/-- A task frees its id. -/
theorem Desk.free
    {task : RequestTask} (desk : connection.Desk)
    (found : connection.requests[number]? = some task) :
    Desk
      { connection with
        requests := connection.requests.erase number
        activeIds := connection.activeIds.erase task.requestId } where
  served := by
    intro other seen present
    rcases getElem?_erase_cases present with ⟨apart, present⟩
    refine ExtTreeSet.mem_erase.mpr ⟨?_, desk.served other seen present⟩
    intro same
    rw [Std.compare_eq_iff_eq] at same
    exact apart (desk.distinct number other task seen found present same)
  distinct := by
    intro first second task seen present known
    exact
      desk.distinct first second task seen
        (getElem?_erase_cases present).2 (getElem?_erase_cases known).2
  peaceful := desk.peaceful

/-- A task takes an id. -/
theorem Desk.spawn
    {requestId : String} (desk : connection.Desk) (inactive : requestId ∉ connection.activeIds) :
    Desk
      { connection.setTask number { requestId := requestId } with
        activeIds := connection.activeIds.insert requestId
        loop := .top } where
  served := by
    intro other seen present
    rcases getElem?_insert_cases present with ⟨_, rfl⟩ | ⟨_, present⟩
    · exact ExtTreeSet.mem_insert_self
    · exact ExtTreeSet.mem_insert.mpr (Or.inr (desk.served other seen present))
  distinct := by
    intro first second task seen present known equal
    rcases getElem?_insert_cases present with ⟨rfl, rfl⟩ | ⟨_, present⟩
    · rcases getElem?_insert_cases known with ⟨rfl, _⟩ | ⟨_, known⟩
      · rfl
      · have active := desk.served second seen known
        rw [← equal] at active
        exact absurd active inactive
    · rcases getElem?_insert_cases known with ⟨rfl, rfl⟩ | ⟨_, known⟩
      · have active := desk.served first task present
        rw [equal] at active
        exact absurd active inactive
      · exact desk.distinct first second task seen present known equal
  peaceful := by simp

section

variable {event : ServerEvent}
  (served : Served state connection event next)

include served

/-- Steps that take nothing in continue. -/
theorem Served.continues (other : event.takesIn = false) : Continues connection next := by
  cases served with
  | check top => exact .of_eq join_requests
  | joinFailed waiting | close left => exact .of_eq close_requests
  | receive waiting fresh => cases other
  | accept accepting => cases other
  | dispatched found phase =>
    exact continues_setTask found (admitBlobResponse_requests _ _ _)
  | panicked found phase | free found phase => exact continues_erase rfl
  | write found phase wrote =>
    exact continues_setTask found (write_untouched wrote).requests
  | writeInline replying wrote =>
    exact .of_eq (write_untouched wrote).requests
  | closeFailed found phase => exact continues_setTask found close_requests
  | _ => exact .of_eq rfl

/-- Each step keeps the desk. -/
theorem Served.desk (desk : connection.Desk) (other : event.takesIn = false) : next.Desk := by
  have continues := served.continues other
  cases served with
  | @check shutdown top =>
    refine desk.of_continues continues join_activeIds ?_
    intro refusal replying
    simp only at replying
    split at replying <;> cases replying
  | wake waiting | leave waiting | takeWriter closing =>
    exact desk.of_continues continues rfl (by simp)
  | joinFailed waiting | close left =>
    exact desk.of_continues continues close_activeIds (by simp)
  | @garbled refusal waiting garbles =>
    refine desk.of_continues continues rfl ?_
    intro again replying
    cases replying
    cases refusal with
    | protocolError | unadmitted => rfl
    | _ => cases garbles
  | receive waiting fresh => cases other
  | accept accepting => cases other
  | @dispatched number task response blobs found phase =>
    refine desk.of_continues continues (admitBlobResponse_activeIds _ _ _) ?_
    intro refusal replying
    exact desk.peaceful refusal (admitBlobResponse_loop _ _ blobs ▸ replying)
  | panicked found phase =>
    exact desk.of_continues continues rfl desk.peaceful
  | write found phase wrote =>
    have untouched := write_untouched wrote
    refine desk.of_continues continues untouched.activeIds ?_
    intro refusal replying
    exact desk.peaceful refusal (untouched.loop ▸ replying)
  | writeInline replying wrote =>
    refine desk.of_continues continues (write_untouched wrote).activeIds ?_
    intro again replying
    simp only at replying
    split at replying <;> cases replying
  | closeFailed found phase =>
    refine desk.of_continues continues close_activeIds ?_
    intro refusal replying
    exact desk.peaceful refusal (close_loop ▸ replying)
  | free found phase => exact desk.free found

/-- The server has not done with the id. -/
def BusyWith (connection : ServerConnection) (requestId : String) : Prop :=
  requestId ∈ connection.activeIds ∨ requestId ∈ connection.blobResponses ∨
    connection.ponders requestId = true

/-- The loop ponders no new request. -/
theorem Served.ponders
    (other : event.takesIn = false) {requestId : String}
    (ponders : next.ponders requestId = true) :
    connection.ponders requestId = true := by
  unfold ServerConnection.ponders at ponders ⊢
  cases served with
  | check top =>
    simp only at ponders
    split_ifs at ponders
  | receive waiting fresh => cases other
  | accept accepting => cases other
  | @dispatched number task response blobs found phase =>
    simp only [setTask, admitBlobResponse_loop] at ponders
    exact ponders
  | panicked found phase | free found phase => exact ponders
  | write found phase wrote =>
    simp only [setTask, (write_untouched wrote).loop] at ponders
    exact ponders
  | writeInline replying wrote =>
    simp only at ponders
    split_ifs at ponders
  | closeFailed found phase =>
    simp only [setTask, close_loop] at ponders
    exact ponders
  | _ => cases ponders

/-- Who is busy was busy. -/
theorem Served.busyWith
    (desk : connection.Desk) (other : event.takesIn = false)
    {requestId : String} (busy : next.BusyWith requestId) :
    connection.BusyWith requestId := by
  have retains := served.retains desk other
  rcases busy with active | held | ponders
  · exact Or.inl (retains.active requestId active)
  · rcases retains.blobs requestId held with before | active
    · exact Or.inr (Or.inl before)
    · exact Or.inl active
  · exact Or.inr (Or.inr (served.ponders other ponders))

end

end ServerConnection

/-! ## Agreement -/

namespace Link

variable {state : ServerState} {link next : Link}

/-- Both ends agree about the ids of the calls that are underway. -/
structure Agreed (link : Link) : Prop where
  posted : link.client.Posted
  behind : link.read ≤ link.client.socket.length
  desk : link.server.Desk
  alone :
    ∀ (number other : Nat) (call seen : Call),
      link.client.calls[number]? = some call → link.client.calls[other]? = some seen →
        link.client.underway link.read number call = true →
        link.client.underway link.read other seen = true →
        call.requestId = seen.requestId → number = other
  free :
    ∀ (number : Nat) (call : Call),
      link.client.calls[number]? = some call → link.client.underway link.read number call = true →
        ¬ link.server.BusyWith call.requestId
  pondered :
    ∀ requestId, link.server.ponders requestId = true →
      requestId ∉ link.server.activeIds ∧ requestId ∉ link.server.blobResponses

theorem agreed_new : Agreed {} where
  posted := ClientConnection.counted_new.posted
  behind := Nat.le_refl _
  desk := ServerConnection.desk_new
  alone := by simp
  free := by simp
  pondered := by simp [ServerConnection.ponders]

/-- An id that enters is settled. -/
theorem settled_of_enters
    {action : Action} {number : Nat} {call : Call} {client : ClientConnection}
    (enters : ClientConnection.Enters link.client action number call client)
    (met : link.settledIds (.client action) = true) :
    ¬ link.server.BusyWith call.requestId ∧
      ∀ (other : Nat) (seen : Call),
        link.client.calls[other]? = some seen → seen.requestId = call.requestId →
          link.client.underway link.read other seen = true → other = number := by
  rcases enters.found with ⟨before, found, same⟩
  rw [enters.action, settledIds, found] at met
  simp only [same, enters.free, Bool.false_or, settled, Bool.and_eq_true,
    Bool.not_eq_true', List.all_eq_true] at met
  rcases met with ⟨⟨⟨inactive, acknowledged⟩, decided⟩, others⟩
  refine ⟨?_, ?_⟩
  · rintro (active | held | ponders)
    · rw [← ExtTreeSet.contains_iff_mem, inactive] at active
      cases active
    · rw [← ExtTreeMap.contains_iff_mem, acknowledged] at held
      cases held
    · rw [decided] at ponders
      cases ponders
  · intro other seen present equal underway
    have entry := others (other, seen) (ExtTreeMap.mem_toList_iff_getElem?_eq_some.mpr present)
    simpa [equal, underway] using entry

/-- The client's steps keep agreement. -/
theorem Agreed.client
    {action : Action} {client : ClientConnection} (agreed : link.Agreed)
    (effect : ClientConnection.Effect link.client action client)
    (met : link.settledIds (.client action) = true) :
    Agreed { link with client := client } where
  posted := effect.posted agreed.posted
  behind := by
    rcases effect.socket with ⟨written, socket⟩
    rw [socket, List.length_append]
    exact Nat.le_add_right_of_le agreed.behind
  desk := agreed.desk
  alone := by
    intro number other call seen found present underway also equal
    rcases effect.underway agreed.posted agreed.behind found underway with
      ⟨before, known, same, was⟩ | enters
    · rcases effect.underway agreed.posted agreed.behind present also with
        ⟨old, there, kept, still⟩ | enters
      · exact
          agreed.alone number other before old known there was still
            (same.trans (equal.trans kept.symm))
      · exact (settled_of_enters enters met).2 number before known (same.trans equal) was
    · rcases effect.underway agreed.posted agreed.behind present also with
        ⟨old, there, kept, still⟩ | again
      · exact ((settled_of_enters enters met).2 other old there (kept.trans equal.symm) still).symm
      · have both := enters.action.symm.trans again.action
        cases both
        rfl
  free := by
    intro number call found underway
    rcases effect.underway agreed.posted agreed.behind found underway with
      ⟨before, known, same, was⟩ | enters
    · rw [← same]
      exact agreed.free number before known was
    · exact (settled_of_enters enters met).1
  pondered := agreed.pondered

theorem Agreed.arrive
    (agreed : link.Agreed) (inbound : List RpcReply) (replies : List (String × Nat)) :
    Agreed
      { link with
        client := { link.client with inbound := inbound }
        replies := replies } :=
  ⟨⟨agreed.posted.once, agreed.posted.unsent⟩, agreed.behind, agreed.desk,
    agreed.alone, agreed.free, agreed.pondered⟩

variable {event : ServerEvent} {request : Proto.RpcRequest} {frame : Frame}

/-- The server's steps keep agreement. -/
theorem Agreed.server
    {server : ServerConnection} (agreed : link.Agreed)
    (served : ServerConnection.Served state link.server event server)
    (other : event.takesIn = false) :
    Agreed { link with server := server } where
  posted := agreed.posted
  behind := agreed.behind
  desk := served.desk agreed.desk other
  alone := agreed.alone
  free := by
    intro number call found underway busy
    exact agreed.free number call found underway (served.busyWith agreed.desk other busy)
  pondered := by
    intro requestId ponders
    have retains := served.retains agreed.desk other
    have before := agreed.pondered requestId (served.ponders other ponders)
    refine ⟨fun listed => before.1 (retains.active _ listed), ?_⟩
    intro listed
    rcases retains.blobs _ listed with held | active
    · exact before.2 held
    · exact before.1 active

/-- A request is accepted. -/
theorem Agreed.accept
    {number : Nat} {request : Proto.RpcRequest} {server : ServerConnection}
    (agreed : link.Agreed) (accepting : link.server.loop = .accepting number request)
    (accepted : ServerConnection.Accepted link.server number request server) :
    Agreed { link with server := server } := by
  have ponders : link.server.ponders request.requestId = true := by
    simp [ServerConnection.ponders, accepting]
  have inactive := (agreed.pondered _ ponders).1
  cases accepted with
  | @refused refusal same garbles acknowledged inFlight =>
    refine
      ⟨agreed.posted, agreed.behind, ?_, agreed.alone, ?_,
        by simp [ServerConnection.ponders, ServerConnection.refuse]⟩
    · refine agreed.desk.of_continues (.of_eq rfl) rfl ?_
      intro again replying
      cases replying
      cases refusal with
      | unacknowledged requestId => exact absurd rfl (acknowledged _)
      | alreadyInFlight requestId =>
        exact absurd (inFlight _ rfl) inactive
      | _ => rfl
    · intro other call found underway busy
      refine agreed.free other call found underway ?_
      rcases busy with active | held | none
      · exact Or.inl active
      · exact Or.inr (Or.inl held)
      · cases none
  | spawned inactive =>
    refine
      ⟨agreed.posted, agreed.behind, agreed.desk.spawn inactive, agreed.alone, ?_,
        by simp [ServerConnection.ponders]⟩
    intro other call found underway busy
    have free := agreed.free other call found underway
    rcases busy with active | held | none
    · rcases ExtTreeSet.mem_insert.mp active with same | active
      · rw [Std.compare_eq_iff_eq] at same
        rw [same] at ponders
        exact free (Or.inr (Or.inr ponders))
      · exact free (Or.inl active)
    · exact free (Or.inr (Or.inl held))
    · cases none

/-- What the server sends. -/
theorem serve_eq_some (served : link.serve state event = some next) :
    ∃ server sent,
      link.server.step state event = some server ∧
        (∀ write ∈ sent, write.count = (Proto.frameBytes write.body).length) ∧
        sent =
          (server.writes.drop link.server.writes.length).filter (fun write => 0 < write.count) ∧
        next =
          { link with
            server := server
            client :=
              { link.client with inbound := link.client.inbound ++ sent.map (link.received event) }
            replies :=
              link.replies ++
                (sent.filter fun write => write.reply.blobRefs).map
                  fun write => (write.reply.requestId, link.answered event) } := by
  simp only [Link.serve, bind_some_iff] at served
  rcases served with ⟨server, stepped, served⟩
  split_ifs at served with whole
  cases served
  refine ⟨server, _, stepped, ?_, rfl, rfl⟩
  intro write listed
  rcases List.mem_filter.mp listed with ⟨new, some⟩
  have complete := List.all_eq_true.mp whole write new
  simp only [Bool.decide_or, Bool.or_eq_true, decide_eq_true_eq] at complete some
  rcases complete with none | complete
  · omega
  · exact complete

/-- Serving keeps agreement. -/
theorem Agreed.serve
    (agreed : link.Agreed) (served : link.serve state event = some next)
    (unread : ∀ number request, event ≠ .receive number request) :
    next.Agreed := by
  rcases serve_eq_some served with ⟨server, sent, stepped, -, -, rfl⟩
  have effect := ServerConnection.step_served stepped
  have moved : Agreed { link with server := server } := by
    cases takes : event.takesIn with
    | false => exact agreed.server effect takes
    | true =>
      cases effect with
      | receive waiting fresh => exact absurd rfl (unread _ _)
      | accept accepting =>
        exact agreed.accept accepting (ServerConnection.accept_accepted _ _ _ _)
      | _ => cases takes
  exact moved.arrive _ _

/-- A request frame names its call. -/
theorem holds_request
    (holds : link.holds request frame = true) (asks : request.operation ≠ .blobAck) :
    ∃ (number : Nat) (call : Call), frame = .request number ∧
      link.client.calls[number]? = some call ∧ call.requestId = request.requestId := by
  cases frame with
  | request number =>
    simp only [Link.holds, Bool.decide_and, Bool.and_eq_true,
      decide_eq_true_eq, Option.map_eq_some_iff] at holds
    rcases holds with ⟨_, call, found, same⟩
    exact ⟨number, call, rfl, found, same⟩
  | blobAck requestId =>
    simp only [Link.holds, decide_eq_true_eq] at holds
    rw [holds] at asks
    exact absurd rfl asks

theorem Agreed.asked
    (agreed : link.Agreed) (unread : link.client.socket[link.read]? = some frame)
    (holds : link.holds request frame = true) (asks : request.operation ≠ .blobAck) :
    ¬ link.server.BusyWith request.requestId := by
  rcases holds_request holds asks with ⟨number, call, rfl, found, same⟩
  rw [← same]
  exact agreed.free number call found (ClientConnection.underway_of_read unread)

/-- The server reads on. -/
theorem Agreed.advance
    {server : ServerConnection} (agreed : link.Agreed)
    (unread : link.client.socket[link.read]? = some frame) (desk : server.Desk)
    (free :
      ∀ (number : Nat) (call : Call),
        link.client.calls[number]? = some call →
          link.client.underway (link.read + 1) number call = true →
          ¬ server.BusyWith call.requestId)
    (pondered :
      ∀ requestId, server.ponders requestId = true →
        requestId ∉ server.activeIds ∧ requestId ∉ server.blobResponses) :
    Agreed { link with server := server, read := link.read + 1 } where
  posted := agreed.posted
  behind := (List.getElem?_eq_some_iff.mp unread).1
  desk := desk
  alone := by
    intro number other call seen found present underway also
    exact
      agreed.alone number other call seen found present
        (ClientConnection.underway_of_succ underway)
        (ClientConnection.underway_of_succ also)
  free := free
  pondered := pondered

/-- No other call has its id. -/
theorem Agreed.alone_read
    (agreed : link.Agreed) (unread : link.client.socket[link.read]? = some frame)
    (holds : link.holds request frame = true)
    (asks : request.operation ≠ .blobAck) {number : Nat} {call : Call}
    (found : link.client.calls[number]? = some call)
    (underway : link.client.underway (link.read + 1) number call = true) :
    call.requestId ≠ request.requestId := by
  intro equal
  rcases holds_request holds asks with ⟨asking, asked, rfl, known, same⟩
  have one : number = asking :=
    agreed.alone number asking call asked found known
      (ClientConnection.underway_of_succ underway)
      (ClientConnection.underway_of_read unread)
      (equal.trans same.symm)
  subst one
  rw [agreed.posted.not_underway found unread] at underway
  cases underway

/-- A request is received. -/
theorem Agreed.receive
    {request : Proto.RpcRequest} {frame : Frame} {server : ServerConnection}
    (agreed : link.Agreed) (unread : link.client.socket[link.read]? = some frame)
    (holds : link.holds request frame = true)
    (received : ServerConnection.Received link.server link.read request server) :
    Agreed { link with server := server, read := link.read + 1 } := by
  have before :
      ∀ (number : Nat) (call : Call),
        link.client.calls[number]? = some call →
          link.client.underway (link.read + 1) number call = true →
          ¬ link.server.BusyWith call.requestId :=
    fun number call found underway =>
      agreed.free number call found (ClientConnection.underway_of_succ underway)
  cases received with
  | invalid refused =>
    refine agreed.advance unread ?_ ?_ (by
      simp [ServerConnection.ponders, ServerConnection.refuse])
    · refine agreed.desk.of_continues (.of_eq rfl) rfl ?_
      intro again replying
      cases replying
      rfl
    · intro number call found underway busy
      refine before number call found underway ?_
      rcases busy with active | held | none
      · exact Or.inl active
      · exact Or.inr (Or.inl held)
      · cases none
  | acknowledged ack =>
    refine agreed.advance unread ?_ ?_ (by
      simp [ServerConnection.ponders])
    · exact agreed.desk.of_continues (.of_eq rfl) rfl (by simp)
    · intro number call found underway busy
      refine before number call found underway ?_
      rcases busy with active | held | none
      · exact Or.inl active
      · exact Or.inr (Or.inl (ExtTreeMap.mem_erase.mp held).2)
      · cases none
  | unacknowledged asks held =>
    exact absurd (Or.inr (Or.inl held)) (agreed.asked unread holds asks)
  | accepting valid asks fresh =>
    have idle := agreed.asked unread holds asks
    refine agreed.advance unread ?_ ?_ ?_
    · exact agreed.desk.of_continues (.of_eq rfl) rfl (by simp)
    · intro number call found underway busy
      have free := before number call found underway
      rcases busy with active | held | ponders
      · exact free (Or.inl active)
      · exact free (Or.inr (Or.inl held))
      · simp only [ServerConnection.ponders, beq_iff_eq] at ponders
        exact agreed.alone_read unread holds asks found underway ponders.symm
    · intro requestId ponders
      simp only [ServerConnection.ponders, beq_iff_eq] at ponders
      subst ponders
      exact ⟨fun active => idle (Or.inl active), fresh⟩

/-- A step of one end, or a delivery. -/
theorem step_cases
    {event : LinkEvent} (stepped : link.step state event = some next) :
    (∃ action client, event = .client action ∧
        (∀ call blobRefs malformed, action ≠ .answer call blobRefs malformed) ∧
        link.client.step action = some client ∧ next = { link with client := client }) ∨
      (∃ own, event = .server own ∧ (∀ number request, own ≠ .receive number request) ∧
        (∀ refusal, own = .garbled refusal → refusal.requestId = "") ∧
        link.serve state own = some next) ∨
      ∃ request frame, event = .deliver request ∧ link.client.socket[link.read]? = some frame ∧
        link.holds request frame = true ∧ link.server.requests[link.read]? = none ∧
        next =
          { link with
            server := link.server.receive link.read request
            read := link.read + 1 } := by
  unfold step at stepped
  split at stepped
  · cases stepped
  · rename_i action received
    simp only [bind_some_iff, Option.some.injEq] at stepped
    rcases stepped with ⟨client, moved, rfl⟩
    refine Or.inl ⟨action, client, rfl, ?_, moved, rfl⟩
    exact fun call blobRefs malformed => received call blobRefs malformed
  · cases stepped
  · split_ifs at stepped with blank
    refine Or.inr (Or.inl ⟨_, rfl, by simp, ?_, stepped⟩)
    rintro refusal same
    cases same
    exact blank
  · rename_i own unread judged
    refine Or.inr (Or.inl ⟨own, rfl, unread, ?_, stepped⟩)
    exact fun refusal same => absurd same (judged refusal)
  · rename_i request
    simp only [bind_some_iff] at stepped
    rcases stepped with ⟨frame, unread, stepped⟩
    split_ifs at stepped with holds
    simp only [bind_some_iff, Option.some.injEq] at stepped
    rcases stepped with ⟨server, moved, rfl⟩
    cases ServerConnection.step_served moved with
    | receive waiting fresh =>
      exact Or.inr (Or.inr ⟨request, frame, rfl, unread, holds, fresh, rfl⟩)

theorem step_agreed
    {event : LinkEvent} (stepped : link.step state event = some next)
    (met : link.settledIds event = true) (agreed : link.Agreed) :
    next.Agreed := by
  rcases step_cases stepped with
    ⟨action, client, rfl, _, moved, rfl⟩ | ⟨own, _, unread, _, served⟩ |
      ⟨request, frame, _, unread, holds, _, rfl⟩
  · exact agreed.client (ClientConnection.step_effect moved) met
  · exact agreed.serve served unread
  · exact agreed.receive unread holds (ServerConnection.receive_received _ _)

end Link

/--
If an id is registered only when the server has done with it and no other
frame with it is on its way, the server never refuses a request because its
id is in flight or because a reply with blobs was not acknowledged.
-/
theorem ids_are_agreed
    (state : ServerState) (events : List LinkEvent) (final : Link)
    (ran : execute (Link.step state) {} events = some final)
    (met : obeys (Link.step state) Link.settledIds {} events = true) (requestId : String) :
    final.server.loop ≠ .replying (.alreadyInFlight requestId) ∧
      final.server.loop ≠ .replying (.unacknowledged requestId) := by
  have agreed : final.Agreed := execute_invariant Link.step_agreed ran met Link.agreed_new
  constructor
  · intro refused
    cases agreed.desk.peaceful _ refused
  · intro refused
    cases agreed.desk.peaceful _ refused

/-- A call from its reservation to the writing of its frame. -/
private def callOut (number : Nat) (requestId : String) : List LinkEvent :=
  [.client (.reserve number requestId), .client (.register number),
    .client (.arm number), .client (.send number), .client .recv,
    .client .mark, .client .write, .client .settle]

/-- A request comes in. -/
private def callIn (requestId : String) : List LinkEvent :=
  [.server (.check false), .deliver (.call requestId "" "pool/0" "run" []),
    .server (.accept true true)]

/-- An id is used again after the server has freed it. -/
theorem ids_are_agreed_reused :
    ∃ final : Link,
      execute (Link.step ⟨"pool/0", ["run"]⟩) {}
          (callOut 0 "x" ++ callIn "x" ++
            [.server (.dispatched 0 { status := .success } .empty),
              .server (.write 0 none), .server (.free 0),
              .client (.read false), .client (.receive 0)] ++
            callOut 1 "x" ++ callIn "x") = some final ∧
        final.read = 2 ∧ final.server.loop ≠ .replying (.alreadyInFlight "x") ∧
        final.server.loop ≠ .replying (.unacknowledged "x") := by
  refine ⟨Option.get _ ?_, (Option.some_get _).symm, ?_, ?_⟩
  · decide +kernel
  · decide +kernel
  · exact ids_are_agreed _ _ _ (Option.some_get _).symm (by decide +kernel) "x"

/--
The client has the reply to `x` and uses the id again, before the server's
task has freed it.
-/
theorem id_reused_before_freed :
    (execute (Link.step ⟨"pool/0", ["run"]⟩) {}
        (callOut 0 "x" ++ callIn "x" ++
          [.server (.dispatched 0 { status := .success } .empty), .server (.write 0 none),
            .client (.read false), .client (.receive 0)] ++
          callOut 1 "x" ++ callIn "x")).map
        (fun final => final.server.loop) =
      some (.replying (.alreadyInFlight "x")) := by
  decide +kernel

end Tinyray.Transport
