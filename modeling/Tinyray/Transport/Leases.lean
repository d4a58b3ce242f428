import Tinyray.Foundation.Lending
import Tinyray.Transport.Guards
import Tinyray.Transport.Link

/-!
# Leases of replies with blobs

The server keeps the blobs of a reply, and what they take of its budgets,
under the id of the request until an acknowledgement with that id comes.

Under one id the replies with blobs are lent one at a time: `Leases` says that
what the server keeps is the reply that was sent last, for as long as its
acknowledgement has not been read.  It needs the ids to be registered as
`settledIds` says; otherwise the lease of one reply takes the place of
another's.
-/

namespace Tinyray.Transport

open Std Foundation

/-! ## Request ids -/

theorem validRequestId_of_valid
    {request : Proto.RpcRequest} (valid : validateRequest request = .ok ()) :
    validRequestId request.requestId = true := by
  unfold validateRequest at valid
  split at valid
  · cases valid
  · split at valid
    · cases valid
    · rename_i wrong
      simp only [not_or, Nat.not_lt, Bool.not_eq_false] at wrong
      simp [validRequestId, wrong]

theorem validateRequest_blobAck
    {requestId : String} (valid : validRequestId requestId = true) :
    validateRequest (.blobAck requestId) = .ok () := by
  simp only [validRequestId, Bool.and_eq_true, decide_eq_true_eq] at valid
  rcases valid with ⟨⟨given, short⟩, printable⟩
  have fits : ¬ Proto.maxRpcRequestIdBytes < requestId.utf8ByteSize := Nat.not_lt.mpr short
  simp [validateRequest, Proto.RpcRequest.blobAck, given, fits, printable]

/-! ## The server's files -/

/-- No reply with blobs was sent for this frame. -/
def Unsent (replies : List (String × Nat)) (number : Nat) : Prop :=
  ∀ reply ∈ replies, reply.2 ≠ number

/-- The lease under an id is not that of a reply that was sent. -/
def Spare (replies : List (String × Nat)) (requestId : String)
    (lease : Option Nat) : Prop :=
  ∀ number, (requestId, number) ∈ replies → lease ≠ some number

theorem Unsent.spare
    {replies : List (String × Nat)} {number : Nat}
    (unsent : Unsent replies number) (requestId : String) :
    Spare replies requestId (some number) := by
  intro other listed same
  cases same
  exact unsent _ listed rfl

theorem spare_none (replies : List (String × Nat)) (requestId : String) :
    Spare replies requestId none := by
  intro number listed same
  cases same

namespace ServerConnection

variable {state : ServerState} {connection next : ServerConnection}
  {read : Nat} {replies : List (String × Nat)}

/-- A task that has not written its reply holds its own lease, or none. -/
def Lodged (connection : ServerConnection)
    (replies : List (String × Nat)) (number : Nat) (task : RequestTask) :
    Prop :=
  match task.phase with
  | .dispatching => Unsent replies number ∧ connection.blobResponses[task.requestId]? = none
  | .replying reply =>
    Unsent replies number ∧ reply.requestId = task.requestId ∧
      connection.blobResponses[task.requestId]? = if reply.blobRefs then some number else none
  | .failed | .answered => True

/-- Nothing is kept for the request that the loop decides on. -/
def LoopFiled (connection : ServerConnection) (read : Nat)
    (replies : List (String × Nat)) : Prop :=
  match connection.loop with
  | .accepting number request =>
    validRequestId request.requestId = true ∧ number < read ∧
      connection.requests[number]? = none ∧ Unsent replies number
  | .replying refusal =>
    connection.blobResponses[refusal.requestId]? = none ∧
      ∀ (number : Nat) (task : RequestTask),
        connection.requests[number]? = some task → task.requestId ≠ refusal.requestId
  | _ => True

/-- What the server keeps, and for which of the frames it has read. -/
structure Filed (connection : ServerConnection) (read : Nat)
    (replies : List (String × Nat)) : Prop where
  tasks :
    ∀ (number : Nat) (task : RequestTask),
      connection.requests[number]? = some task →
        validRequestId task.requestId = true ∧ number < read
  lodged :
    ∀ (number : Nat) (task : RequestTask),
      connection.requests[number]? = some task → connection.Lodged replies number task
  leases :
    ∀ (requestId : String) (number : Nat),
      connection.blobResponses[requestId]? = some number → validRequestId requestId = true
  sent : ∀ reply ∈ replies, validRequestId reply.1 = true ∧ reply.2 < read
  loop : connection.LoopFiled read replies

theorem filed_new : Filed {} 0 [] where
  tasks := by simp
  lodged := by simp
  leases := by simp
  sent := by simp
  loop := trivial

variable {number : Nat} {task : RequestTask} {middle : ServerConnection}
  {reply : Proto.RpcReply} {stopped : Option Nat}

theorem Lodged.of_lease
    (lodged : connection.Lodged replies number task)
    (same : next.blobResponses[task.requestId]? = connection.blobResponses[task.requestId]?) :
    next.Lodged replies number task := by
  unfold Lodged at lodged ⊢
  rw [same]
  exact lodged

/-- Before its reply, its lease is spare. -/
theorem Lodged.spare
    (lodged : connection.Lodged replies number task)
    (waits : task.phase = .dispatching ∨ ∃ reply, task.phase = .replying reply) :
    Spare replies task.requestId connection.blobResponses[task.requestId]? := by
  unfold Lodged at lodged
  rcases waits with phase | ⟨reply, phase⟩
  · rw [phase] at lodged
    rw [lodged.2]
    exact spare_none _ _
  · rw [phase] at lodged
    rcases lodged with ⟨unsent, _, lease⟩
    rw [lease]
    cases reply.blobRefs with
    | true => exact unsent.spare _
    | false => exact spare_none _ _

/-- The loop keeps its files. -/
theorem LoopFiled.of_continues
    (filed : connection.LoopFiled read replies) (same : next.loop = connection.loop)
    (continues : Continues connection next)
    (absent :
      ∀ refusal, connection.loop = .replying refusal →
        next.blobResponses[refusal.requestId]? = none) :
    next.LoopFiled read replies := by
  unfold LoopFiled at filed ⊢
  rw [same]
  split at filed
  · rename_i number request accepting
    rcases filed with ⟨valid, early, free, unsent⟩
    refine ⟨valid, early, ?_, unsent⟩
    rw [Option.eq_none_iff_forall_ne_some]
    intro task found
    rcases continues number task found with ⟨old, present, _⟩
    rw [free] at present
    cases present
  · rename_i refusal replying
    refine ⟨absent refusal replying, ?_⟩
    intro number task found
    rcases continues number task found with ⟨old, present, kept⟩
    rw [← kept]
    exact filed.2 number old present
  · trivial

/-- Tasks and leases keep their files. -/
theorem Filed.keep
    (filed : connection.Filed read replies)
    (tasks :
      ∀ (number : Nat) (task : RequestTask),
        next.requests[number]? = some task → connection.requests[number]? = some task)
    (leases :
      ∀ requestId : String, next.blobResponses[requestId]? = connection.blobResponses[requestId]?)
    (loop : next.LoopFiled read replies) :
    next.Filed read replies where
  tasks := fun number task found => filed.tasks number task (tasks number task found)
  lodged := fun number task found =>
    (filed.lodged number task (tasks number task found)).of_lease (leases task.requestId)
  leases := by
    intro requestId number found
    rw [leases] at found
    exact filed.leases requestId number found
  sent := filed.sent
  loop := loop

/-- The same, with the loop as it was. -/
theorem Filed.keep_loop
    (filed : connection.Filed read replies)
    (tasks :
      ∀ (number : Nat) (task : RequestTask),
        next.requests[number]? = some task → connection.requests[number]? = some task)
    (leases : next.blobResponses = connection.blobResponses)
    (same : next.loop = connection.loop) :
    next.Filed read replies := by
  refine filed.keep tasks (fun requestId => by rw [leases]) ?_
  refine filed.loop.of_continues same ?_ ?_
  · exact fun number task found => ⟨task, tasks number task found, rfl⟩
  · intro refusal replying
    have absent := filed.loop
    simp only [LoopFiled, replying] at absent
    rw [leases]
    exact absent.1

/-- A task moves on. -/
theorem Filed.move
    {phase : TaskPhase} (filed : connection.Filed read replies) (desk : connection.Desk)
    (found : connection.requests[number]? = some task)
    (same : middle.requests = connection.requests) (loop : middle.loop = connection.loop)
    (others :
      ∀ requestId, requestId ≠ task.requestId →
        middle.blobResponses[requestId]? = connection.blobResponses[requestId]?)
    (lodged : middle.Lodged replies number { task with phase := phase }) :
    (middle.setTask number { task with phase := phase }).Filed read
      replies := by
  have continues : Continues connection (middle.setTask number { task with phase := phase }) :=
    continues_setTask found same
  constructor
  case tasks =>
      intro other seen present
      rcases continues other seen present with ⟨old, known, same⟩
      rw [← same]
      exact filed.tasks other old known
  case lodged =>
      intro other seen present
      rw [setTask, same] at present
      rcases getElem?_insert_cases present with ⟨rfl, rfl⟩ | ⟨apart, present⟩
      · exact lodged
      · refine (filed.lodged other seen present).of_lease (others _ ?_)
        intro equal
        exact apart (desk.distinct number other task seen found present equal.symm)
  case leases =>
      intro requestId kept lease
      by_cases own : requestId = task.requestId
      · subst own
        exact (filed.tasks number task found).1
      · exact filed.leases requestId kept ((others requestId own).symm.trans lease)
  case sent => exact filed.sent
  case loop =>
      refine filed.loop.of_continues loop continues ?_
      intro refusal replying
      have absent := filed.loop
      simp only [LoopFiled, replying] at absent
      exact (others _ (absent.2 number task found).symm).trans absent.1

variable {refusal : Refusal} {event : ServerEvent}

theorem Filed.refuse
    (filed : connection.Filed read replies)
    (absent : connection.blobResponses[refusal.requestId]? = none)
    (others :
      ∀ (number : Nat) (task : RequestTask),
        connection.requests[number]? = some task → task.requestId ≠ refusal.requestId) :
    (connection.refuse refusal).Filed read replies :=
  filed.keep (fun _ _ found => found) (fun _ => rfl) ⟨absent, others⟩

/-! ## Steps of the server -/

theorem erase_lease (leases : ExtTreeMap String Nat)
    (requestId other : String) :
    (leases.erase requestId)[other]? = leases[other]? ∨
      other = requestId ∧ (leases.erase requestId)[other]? = none := by
  by_cases same : other = requestId
  · subst same
    exact Or.inr ⟨rfl, ExtTreeMap.getElem?_erase_self⟩
  · exact Or.inl (getElem?_erase_ne (Ne.symm same))

/-- An acknowledgement ends a lease. -/
theorem Received.lease
    {request : Proto.RpcRequest} (received : Received connection number request next)
    (requestId : String) :
    next.blobResponses[requestId]? = connection.blobResponses[requestId]? ∨
      request.operation = .blobAck ∧ requestId = request.requestId ∧
        next.blobResponses[requestId]? = none := by
  cases received with
  | acknowledged ack =>
    rcases erase_lease connection.blobResponses request.requestId requestId with same | ⟨own, gone⟩
    · exact Or.inl same
    · exact Or.inr ⟨ack, own, gone⟩
  | _ => exact Or.inl rfl

theorem write_lease
    {written : Bool} (wrote : connection.write reply stopped = some (next, written))
    (requestId : String) :
    next.blobResponses[requestId]? = connection.blobResponses[requestId]? ∨
      requestId = reply.requestId ∧ next.blobResponses[requestId]? = none := by
  have removed := erase_lease connection.blobResponses reply.requestId requestId
  rcases write_cases wrote with ⟨rfl, _⟩ | ⟨body, _, ⟨_, _, rfl⟩ | ⟨count, _, _, _, rfl⟩⟩
  · exact removed
  · exact Or.inl rfl
  · exact removed

/-- The lease of a reply that was sent is not touched. -/
def Relets (replies : List (String × Nat))
    (before after : ServerConnection) : Prop :=
  ∀ requestId : String,
    after.blobResponses[requestId]? = before.blobResponses[requestId]? ∨
      Spare replies requestId before.blobResponses[requestId]? ∧
        Spare replies requestId after.blobResponses[requestId]?

/-- A task has its response. -/
theorem Filed.dispatched
    {number : Nat} {task : RequestTask}
    (filed : connection.Filed read replies) (desk : connection.Desk)
    (found : connection.requests[number]? = some task) (phase : task.phase = .dispatching)
    (response : Service.ServiceResponse) (blobs : BlobAdmission)
    (answered : ServerConnection × Proto.RpcReply)
    (admitted : answered = connection.admitBlobResponse number (task.reply response) blobs) :
    (answered.1.setTask number
        { task with phase := .replying answered.2 }).Filed read replies ∧
      Relets replies connection
        (answered.1.setTask number
          { task with phase := .replying answered.2 }) := by
  subst admitted
  have lodged := filed.lodged number task found
  have before := lodged.spare (Or.inl phase)
  simp only [Lodged, phase] at lodged
  rcases lodged with ⟨unsent, free⟩
  cases blobs with
  | empty | rejected message =>
    refine ⟨filed.move desk found rfl rfl (fun _ _ => rfl) ?_, fun _ => Or.inl rfl⟩
    exact ⟨unsent, rfl, free⟩
  | admitted =>
    have others :
        ∀ requestId, requestId ≠ task.requestId →
          (connection.blobResponses.insert task.requestId number)[requestId]? =
            connection.blobResponses[requestId]? :=
      fun requestId apart => getElem?_insert_ne apart.symm
    refine ⟨filed.move desk found rfl rfl others ?_, ?_⟩
    · exact ⟨unsent, rfl, ExtTreeMap.getElem?_insert_self⟩
    · intro requestId
      by_cases own : requestId = task.requestId
      · subst own
        have after := unsent.spare task.requestId
        rw [← ExtTreeMap.getElem?_insert_self (t := connection.blobResponses)] at after
        exact Or.inr ⟨before, after⟩
      · exact Or.inl (others requestId own)

/-- A task writes its reply. -/
theorem Filed.wrote
    {written : Bool} (filed : connection.Filed read replies) (desk : connection.Desk)
    (found : connection.requests[number]? = some task) (phase : task.phase = .replying reply)
    (wrote : connection.write reply stopped = some (middle, written)) :
    (middle.setTask number
        { task with phase := if written then .answered else .failed }).Filed read
        replies ∧
      Relets replies connection
        (middle.setTask number
          { task with phase := if written then .answered else .failed }) := by
  have lodged := filed.lodged number task found
  have before := lodged.spare (Or.inr ⟨reply, phase⟩)
  simp only [Lodged, phase] at lodged
  have untouched := write_untouched wrote
  refine ⟨filed.move desk found untouched.requests untouched.loop ?_ ?_, ?_⟩
  · intro requestId apart
    rcases write_lease wrote requestId with same | ⟨own, _⟩
    · exact same
    · exact absurd (own.trans lodged.2.1) apart
  · cases written <;> trivial
  · intro requestId
    rcases write_lease wrote requestId with same | ⟨own, gone⟩
    · exact Or.inl same
    · rw [own, lodged.2.1] at gone ⊢
      have after := spare_none replies task.requestId
      rw [← gone] at after
      exact Or.inr ⟨before, after⟩

/-- The loop writes its reply. -/
theorem Filed.wroteInline
    {written : Bool} (filed : connection.Filed read replies)
    (replying : connection.loop = .replying refusal)
    (wrote : connection.write (refusal.reply state) stopped = some (middle, written)) :
    Filed { middle with loop := if refusal.stops then .left else .top } read replies ∧
      Relets replies connection
        { middle with loop := if refusal.stops then .left else .top } := by
  have absent := filed.loop
  simp only [LoopFiled, replying] at absent
  have leases :
      ∀ requestId : String,
        middle.blobResponses[requestId]? = connection.blobResponses[requestId]? := by
    intro requestId
    rcases write_lease wrote requestId with same | ⟨own, gone⟩
    · exact same
    · rw [gone, own, Refusal.reply_requestId]
      exact absent.1.symm
  refine ⟨filed.keep ?_ leases ?_, fun id => Or.inl (leases id)⟩
  · intro number task found
    rw [← (write_untouched wrote).requests]
    exact found
  · unfold LoopFiled
    simp only
    split_ifs <;> trivial

/-- One step keeps the files. -/
theorem Served.filed
    (served : Served state connection event next)
    (filed : connection.Filed read replies) (desk : connection.Desk)
    (other : event.takesIn = false)
    (blank : ∀ refusal, event = .garbled refusal → refusal.requestId = "")
    (opened : next.closed = false) :
    next.Filed read replies ∧ Relets replies connection next := by
  cases served with
  | @check shutdown top =>
    have same : connection.join = connection := join_of_opened opened
    refine ⟨?_, fun requestId => Or.inl (by rw [same])⟩
    refine
      filed.keep (fun number task found => by rwa [same] at found)
        (fun requestId => by rw [same]) ?_
    unfold LoopFiled
    simp only
    split_ifs <;> trivial
  | wake waiting | leave waiting | takeWriter closing =>
    exact ⟨filed.keep (fun _ _ found => found) (fun _ => rfl) trivial, fun _ => Or.inl rfl⟩
  | joinFailed waiting | close left | closeFailed found phase =>
    have closed : connection.close.closed = true := close_closed
    exact absurd (closed.symm.trans opened) (by simp)
  | @garbled refusal waiting garbles =>
    have empty := blank refusal rfl
    refine ⟨filed.refuse ?_ ?_, fun _ => Or.inl rfl⟩
    · rw [empty, Option.eq_none_iff_forall_ne_some]
      intro number lease
      cases filed.leases "" number lease
    · intro number task found same
      have valid := (filed.tasks number task found).1
      rw [same, empty] at valid
      cases valid
  | receive waiting fresh => cases other
  | accept accepting => cases other
  | dispatched found phase =>
    exact filed.dispatched desk found phase _ _ _ rfl
  | panicked found phase | free found phase =>
    exact
      ⟨filed.keep_loop (fun _ _ found => (getElem?_erase_cases found).2)
          rfl rfl,
        fun _ => Or.inl rfl⟩
  | write found phase wrote => exact filed.wrote desk found phase wrote
  | writeInline replying wrote => exact filed.wroteInline replying wrote

/-- A reply is posted. -/
theorem Filed.post
    (filed : connection.Filed read replies) (found : connection.requests[number]? = some task)
    (answered : task.phase = .answered) :
    connection.Filed read (replies ++ [(task.requestId, number)]) := by
  have unsent {other : Nat} (apart : other ≠ number)
      (unsent : Unsent replies other) :
      Unsent (replies ++ [(task.requestId, number)]) other := by
    intro reply listed
    rcases List.mem_append.mp listed with before | new
    · exact unsent reply before
    · rw [List.mem_singleton.mp new]
      exact apart.symm
  constructor
  case tasks => exact filed.tasks
  case lodged =>
      intro other seen present
      by_cases same : other = number
      · subst same
        rw [found] at present
        cases present
        simp only [Lodged, answered]
      · have lodged := filed.lodged other seen present
        unfold Lodged at lodged ⊢
        split at lodged
        · exact ⟨unsent same lodged.1, lodged.2⟩
        · exact ⟨unsent same lodged.1, lodged.2⟩
        · trivial
        · trivial
  case leases => exact filed.leases
  case sent =>
      intro reply listed
      rcases List.mem_append.mp listed with before | new
      · exact filed.sent reply before
      · rw [List.mem_singleton.mp new]
        exact filed.tasks number task found
  case loop =>
      have loop := filed.loop
      unfold LoopFiled at loop ⊢
      split at loop
      · rename_i accepted request accepting
        rcases loop with ⟨valid, early, free, before⟩
        refine ⟨valid, early, free, unsent ?_ before⟩
        rintro rfl
        rw [free] at found
        cases found
      · exact loop
      · trivial

/-- A request is accepted. -/
theorem Filed.accept
    {number : Nat} {request : Proto.RpcRequest}
    (filed : connection.Filed read replies) (desk : connection.Desk)
    (accepting : connection.loop = .accepting number request)
    (inactive : request.requestId ∉ connection.activeIds)
    (free : request.requestId ∉ connection.blobResponses)
    (accepted : Accepted connection number request next) :
    next.Filed read replies := by
  have absent : connection.blobResponses[request.requestId]? = none :=
    ExtTreeMap.getElem?_eq_none free
  have loop := filed.loop
  simp only [LoopFiled, accepting] at loop
  rcases loop with ⟨valid, early, unknown, unsent⟩
  cases accepted with
  | refused same =>
    refine filed.refuse (same ▸ absent) ?_
    intro other task found equal
    have active := desk.served other task found
    rw [equal, same] at active
    exact inactive active
  | spawned =>
    constructor
    case tasks =>
        intro other task found
        rcases getElem?_insert_cases found with ⟨rfl, rfl⟩ | ⟨_, found⟩
        · exact ⟨valid, early⟩
        · exact filed.tasks other task found
    case lodged =>
        intro other task found
        rcases getElem?_insert_cases found with ⟨rfl, rfl⟩ | ⟨_, found⟩
        · exact ⟨unsent, absent⟩
        · exact filed.lodged other task found
    case leases => exact filed.leases
    case sent => exact filed.sent
    case loop => trivial

/-- The loop reads on. -/
theorem Filed.advance
    (filed : connection.Filed read replies) {loop : Loop}
    (decided : LoopFiled { connection with loop := loop } (read + 1) replies) :
    Filed { connection with loop := loop } (read + 1) replies where
  tasks := by
    intro number task found
    rcases filed.tasks number task found with ⟨valid, early⟩
    exact ⟨valid, Nat.lt_succ_of_lt early⟩
  lodged := filed.lodged
  leases := filed.leases
  sent := by
    intro reply listed
    rcases filed.sent reply listed with ⟨valid, early⟩
    exact ⟨valid, Nat.lt_succ_of_lt early⟩
  loop := decided

/-- A lease is acknowledged. -/
theorem Filed.acknowledge
    {requestId : String} {number : Nat} (filed : connection.Filed read replies)
    (leased : connection.blobResponses[requestId]? = some number)
    (sent : (requestId, number) ∈ replies) :
    Filed
      { connection.removeBlobResponse requestId with loop := .top }
      (read + 1) replies := by
  have advanced : Filed { connection with loop := .top } (read + 1) replies := filed.advance trivial
  constructor
  case tasks => exact advanced.tasks
  case lodged =>
      intro other task found
      have lodged := filed.lodged other task found
      by_cases own : task.requestId = requestId
      · -- a reply on its way would have another lease
        subst own
        have late : ¬ (task.phase = .dispatching ∨ ∃ reply, task.phase = .replying reply) := by
          intro waits
          exact lodged.spare waits number sent leased
        unfold Lodged
        split
        · rename_i phase
          exact absurd (Or.inl phase) late
        · rename_i reply phase
          exact absurd (Or.inr ⟨reply, phase⟩) late
        · trivial
        · trivial
      · refine lodged.of_lease ?_
        exact getElem?_erase_ne (Ne.symm own)
  case leases =>
      intro other kept found
      exact filed.leases other kept (getElem?_erase_cases found).2
  case sent => exact advanced.sent
  case loop => trivial

/-! ## Replies that arrive -/

/-- The writes that have sent something since. -/
def sentSince (before after : ServerConnection) : List Write :=
  (after.writes.drop before.writes.length).filter fun write => 0 < write.count

theorem sentSince_of_writes (same : next.writes = connection.writes) :
    sentSince connection next = [] := by
  rw [sentSince, same, List.drop_length, List.filter_nil]

/-- One whole reply is written, or none. -/
theorem sentSince_of_write
    {written : Bool} (wrote : connection.write reply stopped = some (middle, written))
    (whole :
      ∀ write ∈ sentSince connection next, write.count = (Proto.frameBytes write.body).length)
    (writes : next.writes = middle.writes) :
    sentSince connection next = [] ∨
      written = true ∧ middle.blobResponses = connection.blobResponses ∧
        ∃ write, write.reply = reply ∧ sentSince connection next = [write] := by
  rcases write_cases wrote with ⟨rfl, _⟩ | ⟨body, _, ⟨_, rfl, rfl⟩ | ⟨count, _, _, short, rfl⟩⟩
  · exact Or.inl (sentSince_of_writes writes)
  · refine Or.inr ⟨rfl, rfl, ⟨reply, body, (Proto.frameBytes body).length⟩, rfl, ?_⟩
    have some : 0 < (Proto.frameBytes body).length := by
      rw [Proto.length_frameBytes]
      exact Nat.add_pos_left (by decide) _
    rw [sentSince, writes, List.drop_left,
      List.filter_cons_of_pos (by simpa using some), List.filter_nil]
  · left
    have sent :
        sentSince connection next =
          [Write.mk reply body count].filter fun write => 0 < write.count := by
      rw [sentSince, writes, List.drop_left]
    cases count with
    | zero => exact sent
    | succ count =>
      have complete := whole ⟨reply, body, count + 1⟩ (by rw [sent]; simp)
      exact absurd complete (Nat.ne_of_lt short)

/-- Which task has sent it. -/
theorem Served.sent
    (served : Served state connection event next)
    (whole :
      ∀ write ∈ sentSince connection next, write.count = (Proto.frameBytes write.body).length) :
    sentSince connection next = [] ∨
      ∃ write, sentSince connection next = [write] ∧
        (write.reply.blobRefs = true →
          next.blobResponses = connection.blobResponses ∧
            ∃ (number : Nat) (stopped : Option Nat) (task : RequestTask),
              event = .write number stopped ∧ connection.requests[number]? = some task ∧
                task.phase = .replying write.reply ∧
                next.requests[number]? = some { task with phase := .answered }) := by
  have silent := served.writes
  cases served with
  | @write number task reply stopped middle written found phase wrote =>
    rcases sentSince_of_write wrote whole rfl with none | ⟨rfl, leases, write, rfl, one⟩
    · exact Or.inl none
    · refine Or.inr ⟨write, one, fun _ => ⟨leases, ?_⟩⟩
      exact ⟨number, stopped, task, rfl, found, phase, ExtTreeMap.getElem?_insert_self⟩
  | @writeInline refusal stopped middle written replying wrote =>
    rcases sentSince_of_write wrote whole rfl with none | ⟨_, _, write, same, one⟩
    · exact Or.inl none
    · refine Or.inr ⟨write, one, ?_⟩
      rw [same]
      intro blobs
      cases refusal <;> cases blobs
  | _ => exact Or.inl (sentSince_of_writes (silent rfl))

end ServerConnection

/-! ## Both ends -/

namespace Link

variable {state : ServerState} {link next : Link}

/-- The replies written under an id. -/
def written (link : Link) (requestId : String) : List Nat :=
  (link.replies.filter fun reply => reply.1 == requestId).map Prod.snd

/-- The server read so many acknowledgements. -/
def acksRead (link : Link) (requestId : String) : Nat :=
  (link.client.socket.take link.read).count (.blobAck requestId)

variable {requestId : String} {number : Nat} {event : ServerEvent}
  {server : ServerConnection} {frame : Frame}

theorem mem_written : number ∈ link.written requestId ↔ (requestId, number) ∈ link.replies := by
  simp [written]

theorem acksRead_le_acksQueued (link : Link) (requestId : String) :
    link.acksRead requestId ≤ link.client.acksQueued requestId := by
  have part : link.acksRead requestId ≤ link.client.socket.count (.blobAck requestId) :=
    (List.take_sublist _ _).count_le _
  unfold ClientConnection.acksQueued
  omega

theorem acksQueued_le_claims (link : Link) (requestId : String) :
    link.client.acksQueued requestId ≤ link.client.guards.claims requestId :=
  Nat.le_add_left _ _

/--
What the server keeps of the replies with blobs that it has sent, and where
the client has them.
-/
structure Leases (link : Link) : Prop where
  filed : link.server.Filed link.read link.replies
  tracks : link.client.TracksRequests
  drained : ∀ cause, link.client.draining = some cause → link.client.poisoned = true
  lending :
    ∀ requestId : String,
      Lending link.server.blobResponses[requestId]?
        (link.written requestId) (link.client.guards.claims requestId)
        (link.acksRead requestId) link.client.Calm

theorem leases_new : Leases {} where
  filed := ServerConnection.filed_new
  tracks := by
    simp [ClientConnection.TracksRequests, ClientConnection.commands, Writer.commands]
  drained := by simp
  lending := by
    intro requestId
    simpa [written, acksRead, GuardBook.claims, GuardBook.unreleased,
      ClientConnection.guards, ClientConnection.acksQueued, Writer.unwritten] using Lending.start _

/-- The client's steps keep the leases. -/
theorem Leases.client
    {action : Action} {client : ClientConnection}
    (leases : link.Leases) (behind : link.read ≤ link.client.socket.length)
    (stepped : link.client.step action = some client)
    (received : ∀ call blobRefs malformed, action ≠ .answer call blobRefs malformed) :
    Leases { link with client := client } := by
  have effect := ClientConnection.step_effect stepped
  have guarding := ClientConnection.step_guarding stepped
  have read :
      ∀ requestId, acksRead { link with client := client } requestId = link.acksRead requestId := by
    intro requestId
    rcases effect.socket with ⟨more, socket⟩
    simp only [acksRead]
    rw [socket, List.take_append_of_le_length behind]
  refine ⟨leases.filed, effect.tracksRequests leases.tracks, effect.drained leases.drained, ?_⟩
  intro requestId
  have lending := leases.lending requestId
  rcases guarding.claims received requestId with ⟨fewer, same⟩
  have covered :=
    Nat.le_trans
      (acksRead_le_acksQueued { link with client := client } requestId)
      (acksQueued_le_claims _ requestId)
  rw [read]
  rw [read] at covered
  refine lending.forfeit covered fewer ?_
  intro calm
  refine ⟨effect.calm calm, same calm leases.tracks leases.drained ?_⟩
  -- at most one reply under the id is not acknowledged
  have claimed := lending.claimed
  have single := lending.single
  have queued := link.acksRead_le_acksQueued requestId
  simp only [GuardBook.claims, ClientConnection.guards] at claimed
  simp only [ClientConnection.guards]
  omega

/-- What a step of the server sends. -/
theorem serve_cases (served : link.serve state event = some next) :
    ∃ server,
      ServerConnection.Served state link.server event server ∧
        (next = { link with server := server } ∨
          ∃ (reply : RpcReply) (number : Nat),
            next =
                { link with
                  server := server
                  client :=
                    { link.client with inbound := link.client.inbound ++ [reply] }
                  replies :=
                    link.replies ++ if reply.blobRefs then [(reply.requestId, number)]
                      else [] } ∧
              (reply.blobRefs = true →
                server.blobResponses = link.server.blobResponses ∧
                  ∃ (task : RequestTask) (sent : Proto.RpcReply),
                    link.server.requests[number]? = some task ∧ task.phase = .replying sent ∧
                      sent.requestId = reply.requestId ∧ sent.blobRefs = true ∧
                      server.requests[number]? = some { task with phase := .answered })) := by
  rcases serve_eq_some served with ⟨server, sent, stepped, whole, listed, rfl⟩
  have effect := ServerConnection.step_served stepped
  replace listed : sent = ServerConnection.sentSince link.server server := listed
  subst listed
  refine ⟨server, effect, ?_⟩
  rcases effect.sent whole with none | ⟨write, one, blobs⟩
  · left
    rw [none]
    simp
  · right
    refine ⟨link.received event write, link.answered event, ?_, ?_⟩
    · rw [one]
      cases plain : write.reply.blobRefs <;> simp [plain, received]
    · intro given
      rcases blobs given with ⟨leases, number, stopped, task, rfl, found, phase, answered⟩
      exact ⟨leases, task, write.reply, found, phase, rfl, given, answered⟩

/-- The server's steps keep the leases. -/
theorem Leases.of_server
    (leases : link.Leases) (filed : server.Filed link.read link.replies)
    (relets : ServerConnection.Relets link.replies link.server server) :
    Leases { link with server := server } where
  filed := filed
  tracks := leases.tracks
  drained := leases.drained
  lending := by
    intro requestId
    have lending := leases.lending requestId
    rcases relets requestId with same | ⟨before, after⟩
    · rw [← same] at lending
      exact lending
    · exact
        lending.relet
          (fun number listed => before number (mem_written.mp listed))
          (fun number listed => after number (mem_written.mp listed))

/-- A reply that arrives is a claim. -/
theorem claims_arrive
    (client : ClientConnection) (reply : RpcReply) (requestId : String) :
    { client with inbound := client.inbound ++ [reply] }.guards.claims requestId =
      client.guards.claims requestId +
        if reply.blobRefs && reply.requestId == requestId then 1 else 0 := by
  simp only [GuardBook.claims, GuardBook.unreleased,
    ClientConnection.guards, List.countP_append, List.countP_singleton]
  have queued :
      { client with inbound := client.inbound ++ [reply] }.acksQueued requestId =
        client.acksQueued requestId :=
    rfl
  omega

/-- A reply that arrives is written. -/
theorem written_arrive
    (client : ClientConnection) (reply : RpcReply) (number : Nat) (requestId : String) :
    written
        { link with
          client := client
          replies := link.replies ++ if reply.blobRefs then [(reply.requestId, number)] else [] }
        requestId =
      link.written requestId ++ if reply.blobRefs && reply.requestId == requestId then [number]
        else [] := by
  simp only [written, List.filter_append, List.map_append]
  cases reply.blobRefs with
  | false => simp
  | true =>
    by_cases same : reply.requestId = requestId
    · simp [same]
    · simp [same]

/-- A reply arrives. -/
theorem Leases.arrive
    {reply : RpcReply} (leases : link.Leases)
    (posted :
      reply.blobRefs = true →
        ∃ task : RequestTask,
          link.server.requests[number]? = some task ∧
            task.phase = .answered ∧ task.requestId = reply.requestId ∧
            link.server.blobResponses[reply.requestId]? = some number ∧
            Unsent link.replies number) :
    Leases
      { link with
        client :=
          { link.client with inbound := link.client.inbound ++ [reply] }
        replies :=
          link.replies ++ if reply.blobRefs then [(reply.requestId, number)] else [] } := by
  refine ⟨?_, leases.tracks, leases.drained, ?_⟩
  · cases blobs : reply.blobRefs with
    | false => simpa using leases.filed
    | true =>
      rcases posted blobs with ⟨task, found, answered, same, _⟩
      have filed := leases.filed.post found answered
      rw [same] at filed
      exact filed
  · intro requestId
    have lending := leases.lending requestId
    have calmly :
        Lending link.server.blobResponses[requestId]?
          (link.written requestId)
          (link.client.guards.claims requestId)
          (link.acksRead requestId)
          (ClientConnection.Calm
            { link.client with inbound := link.client.inbound ++ [reply] }) :=
      lending.forfeit lending.covered (Nat.le_refl _)
        fun calm => ⟨⟨calm.unpoisoned, calm.unthreatened⟩, rfl⟩
    rw [claims_arrive, written_arrive]
    by_cases blobs : (reply.blobRefs && reply.requestId == requestId) = true
    · rw [if_pos blobs, if_pos blobs]
      simp only [Bool.and_eq_true, beq_iff_eq] at blobs
      rcases blobs with ⟨blobs, rfl⟩
      rcases posted blobs with ⟨task, _, _, _, lease, unsent⟩
      have fresh : number ∉ link.written reply.requestId := by
        intro listed
        exact unsent _ (mem_written.mp listed) rfl
      rw [lease] at calmly
      have lent := calmly.lend fresh
      rw [← lease] at lent
      exact lent
    · rw [if_neg blobs, if_neg blobs, List.append_nil]
      exact calmly

/-- The server's own steps, filed. -/
theorem Leases.own
    (leases : link.Leases) (agreed : link.Agreed)
    (effect : ServerConnection.Served state link.server event server)
    (unread : ∀ number request, event ≠ .receive number request)
    (blank : ∀ refusal, event = .garbled refusal → refusal.requestId = "")
    (opened : server.closed = false) :
    server.Filed link.read link.replies ∧
      ServerConnection.Relets link.replies link.server server := by
  cases takes : event.takesIn with
  | false => exact effect.filed leases.filed agreed.desk takes blank opened
  | true =>
    cases effect with
    | receive waiting fresh => exact absurd rfl (unread _ _)
    | @accept number request owned admitted accepting =>
      have ponders : link.server.ponders request.requestId = true := by
        simp [ServerConnection.ponders, accepting]
      rcases agreed.pondered _ ponders with ⟨inactive, free⟩
      have accepted :
          ServerConnection.Accepted link.server number request
            (link.server.accept state number request owned admitted) :=
        ServerConnection.accept_accepted _ _ _ _
      refine ⟨leases.filed.accept agreed.desk accepting inactive free accepted, ?_⟩
      intro requestId
      rw [accepted.blobResponses]
      exact Or.inl rfl
    | _ => cases takes

/-- The server serves. -/
theorem Leases.serve
    (leases : link.Leases) (agreed : link.Agreed) (served : link.serve state event = some next)
    (unread : ∀ number request, event ≠ .receive number request)
    (blank : ∀ refusal, event = .garbled refusal → refusal.requestId = "")
    (opened : next.server.closed = false) :
    next.Leases := by
  rcases serve_cases served with ⟨server, effect, arrived⟩
  have stays : server.closed = false := by
    rcases arrived with rfl | ⟨reply, number, rfl, _⟩ <;> exact opened
  rcases leases.own agreed effect unread blank stays with ⟨filed, relets⟩
  have moved := leases.of_server filed relets
  rcases arrived with rfl | ⟨reply, number, rfl, posted⟩
  · exact moved
  · refine moved.arrive ?_
    intro blobs
    rcases posted blobs with ⟨leased, task, sent, found, phase, same, carries, answered⟩
    have lodged := leases.filed.lodged number task found
    simp only [ServerConnection.Lodged, phase] at lodged
    rcases lodged with ⟨unsent, own, lease⟩
    refine ⟨_, answered, rfl, own.symm.trans same, ?_, unsent⟩
    rw [carries, if_pos rfl, ← own, same, ← leased] at lease
    exact lease

theorem holds_blobAck
    {request : Proto.RpcRequest} (holds : link.holds request frame = true)
    (ack : request.operation = .blobAck) :
    ∃ requestId, frame = .blobAck requestId ∧ request = .blobAck requestId := by
  cases frame with
  | request number =>
    simp [Link.holds, ack] at holds
  | blobAck requestId =>
    exact ⟨requestId, rfl, of_decide_eq_true holds⟩

theorem acksRead_advance
    (unread : link.client.socket[link.read]? = some frame) (requestId : String) :
    acksRead { link with server := server, read := link.read + 1 } requestId =
      link.acksRead requestId + [frame].count (.blobAck requestId) := by
  simp only [acksRead]
  rw [List.take_add_one, unread, List.count_append]
  rfl

theorem acksRead_lt_acksQueued
    (unread : link.client.socket[link.read]? = some (.blobAck requestId)) :
    link.acksRead requestId < link.client.acksQueued requestId := by
  have later :=
    acksRead_le_acksQueued
      { link with server := link.server, read := link.read + 1 } requestId
  rw [acksRead_advance unread, List.count_singleton_self] at later
  exact later

theorem claim_of_unread
    (unread : link.client.socket[link.read]? = some (.blobAck requestId)) :
    link.acksRead requestId < link.client.guards.claims requestId :=
  Nat.lt_of_lt_of_le (acksRead_lt_acksQueued unread) (acksQueued_le_claims link requestId)

theorem Leases.out
    (leases : link.Leases)
    (unread : link.client.socket[link.read]? = some (.blobAck requestId)) :
    ∃ number,
      (link.written requestId).getLast? = some number ∧ (requestId, number) ∈ link.replies ∧
        link.server.blobResponses[requestId]? = some number := by
  rcases
    (leases.lending requestId).leased_of_claim (claim_of_unread unread) with
    ⟨number, last, lease⟩
  exact ⟨number, last, mem_written.mp (List.mem_of_getLast? last), lease⟩

/-- The server reads a request. -/
theorem Leases.advance
    {loop : Loop} (leases : link.Leases) (unread : link.client.socket[link.read]? = some frame)
    (other : ∀ requestId, frame ≠ .blobAck requestId)
    (decided :
      ServerConnection.LoopFiled { link.server with loop := loop } (link.read + 1) link.replies) :
    Leases
      { link with
        server := { link.server with loop := loop }
        read := link.read + 1 } where
  filed := leases.filed.advance decided
  tracks := leases.tracks
  drained := leases.drained
  lending := by
    intro requestId
    have lending := leases.lending requestId
    have none : [frame].count (.blobAck requestId) = 0 := by
      rw [List.count_singleton, if_neg]
      simpa using other requestId
    rw [acksRead_advance unread, none]
    exact lending

/-- The server reads an acknowledgement. -/
theorem Leases.acknowledge
    {requestId : String} (leases : link.Leases)
    (unread : link.client.socket[link.read]? = some (.blobAck requestId)) :
    Leases
      { link with
        server :=
          { link.server.removeBlobResponse requestId with loop := .top }
        read := link.read + 1 } := by
  rcases leases.out unread with ⟨number, last, sent, lease⟩
  refine ⟨leases.filed.acknowledge lease sent, leases.tracks, leases.drained, ?_⟩
  intro other
  have lending := leases.lending other
  rw [acksRead_advance unread]
  by_cases same : other = requestId
  · subst same
    have returned := lending.giveBack (claim_of_unread unread)
    rw [List.count_singleton_self]
    rw [← ExtTreeMap.getElem?_erase_self (t := link.server.blobResponses) (k := other)] at returned
    exact returned
  · have none : [Frame.blobAck requestId].count (.blobAck other) = 0 := by
      rw [List.count_singleton, if_neg]
      simpa using fun equal => same equal.symm
    have kept :
        (link.server.blobResponses.erase requestId)[other]? = link.server.blobResponses[other]? :=
      getElem?_erase_ne (Ne.symm same)
    rw [none]
    rw [← kept] at lending
    exact lending

/-- The server takes a request in. -/
theorem Leases.receive
    {request : Proto.RpcRequest} {frame : Frame} {server : ServerConnection}
    (leases : link.Leases) (agreed : link.Agreed)
    (unread : link.client.socket[link.read]? = some frame)
    (holds : link.holds request frame = true) (fresh : link.server.requests[link.read]? = none)
    (received : ServerConnection.Received link.server link.read request server) :
    Leases { link with server := server, read := link.read + 1 } := by
  by_cases ack : request.operation = .blobAck
  · rcases holds_blobAck holds ack with ⟨requestId, rfl, rfl⟩
    cases received with
    | invalid refused =>
      rcases leases.out unread with ⟨number, _, sent, _⟩
      rw [validateRequest_blobAck (leases.filed.sent _ sent).1] at refused
      cases refused
    | acknowledged _ => exact leases.acknowledge unread
    | unacknowledged asks => exact absurd ack asks
    | accepting _ asks => exact absurd ack asks
  · have idle := agreed.asked unread holds ack
    have other : ∀ requestId, frame ≠ .blobAck requestId := by
      rcases holds_request holds ack with ⟨number, call, rfl, _⟩
      simp
    cases received with
    | invalid refused =>
      refine leases.advance unread other ⟨?_, ?_⟩
      · exact ExtTreeMap.getElem?_eq_none fun held => idle (Or.inr (Or.inl held))
      · intro number task found same
        have active := agreed.desk.served number task found
        rw [same] at active
        exact idle (Or.inl active)
    | acknowledged same => exact absurd same ack
    | unacknowledged _ held => exact absurd (Or.inr (Or.inl held)) idle
    | accepting valid _ free =>
      refine
        leases.advance unread other ⟨validRequestId_of_valid valid, Nat.lt_succ_self _, fresh, ?_⟩
      intro reply listed
      exact Nat.ne_of_lt (leases.filed.sent reply listed).2

/-- Both ends agree, and until it is closed the server keeps its leases. -/
structure Sound (link : Link) : Prop where
  agreed : link.Agreed
  leases : link.server.closed = false → link.Leases

variable {event : LinkEvent}

/-- What is open was open. -/
theorem step_opened
    (stepped : link.step state event = some next) (opened : next.server.closed = false) :
    link.server.closed = false := by
  rw [← Bool.not_eq_true]
  intro closed
  rcases step_cases stepped with
    ⟨action, client, _, _, _, rfl⟩ | ⟨own, _, _, _, served⟩ |
      ⟨request, frame, _, _, _, _, rfl⟩
  · exact absurd (closed.symm.trans opened) (by simp)
  · rcases serve_cases served with ⟨server, effect, arrived⟩
    have stays : server.closed = false := by
      rcases arrived with rfl | ⟨reply, number, rfl, _⟩ <;> exact opened
    exact absurd ((effect.closed closed).symm.trans stays) (by simp)
  · have received :
        ServerConnection.Received link.server link.read request
          (link.server.receive link.read request) :=
      ServerConnection.receive_received _ _
    have stays := received.closed.trans closed
    exact absurd (stays.symm.trans opened) (by simp)

/-- One step keeps the link sound. -/
theorem step_sound
    (stepped : link.step state event = some next)
    (met : link.settledIds event = true) (sound : link.Sound) :
    next.Sound := by
  refine ⟨step_agreed stepped met sound.agreed, ?_⟩
  intro opened
  have leases := sound.leases (step_opened stepped opened)
  rcases step_cases stepped with
    ⟨action, client, _, received, moved, rfl⟩ |
      ⟨own, _, unread, blank, served⟩ |
      ⟨request, frame, _, unread, holds, fresh, rfl⟩
  · exact leases.client sound.agreed.behind moved received
  · exact leases.serve sound.agreed served unread blank opened
  · exact leases.receive sound.agreed unread holds fresh (ServerConnection.receive_received _ _)

/-- A lease ends when all are released. -/
theorem Sound.released
    (sound : link.Sound) (stepped : link.step state event = some next)
    (opened : next.server.closed = false) (listed : number ∈ link.written requestId)
    (lease : link.server.blobResponses[requestId]? = some number) :
    next.server.blobResponses[requestId]? = some number ∨
      event = .deliver (.blobAck requestId) ∧ link.client.guards.unreleased requestId = 0 ∧
        next.acksRead requestId = (link.written requestId).length ∧
        next.server.blobResponses[requestId]? = none := by
  have leases := sound.leases (step_opened stepped opened)
  rcases step_cases stepped with
    ⟨action, client, _, _, _, rfl⟩ | ⟨own, _, unread, blank, served⟩ |
      ⟨request, frame, rfl, unread, holds, _, rfl⟩
  · exact Or.inl lease
  · rcases serve_cases served with ⟨server, effect, arrived⟩
    have kept : next.server = server ∧ server.closed = false := by
      rcases arrived with rfl | ⟨reply, number, rfl, _⟩ <;>
        exact ⟨rfl, opened⟩
    rw [kept.1]
    rcases
      (leases.own sound.agreed effect unread blank kept.2).2 requestId with
      same | ⟨before, _⟩
    · exact Or.inl (same.trans lease)
    · exact absurd lease (before number (mem_written.mp listed))
  · have received :
        ServerConnection.Received link.server link.read request
          (link.server.receive link.read request) :=
      ServerConnection.receive_received _ _
    rcases received.lease requestId with same | ⟨ack, own, gone⟩
    · exact Or.inl (same.trans lease)
    · rcases holds_blobAck holds ack with ⟨acked, rfl, rfl⟩
      subst own
      have lending := leases.lending requestId
      have claimed := lending.claimed
      have single := lending.single
      have queued := acksRead_lt_acksQueued unread
      have claims := link.acksQueued_le_claims requestId
      refine Or.inr ⟨rfl, ?_, ?_, gone⟩
      · -- there are no more claims than acknowledgements
        simp only [GuardBook.claims, ClientConnection.guards] at claimed
        simp only [ClientConnection.guards]
        omega
      · rw [acksRead_advance unread, List.count_singleton_self]
        omega

/-- The replies with blobs under one id, at both ends. -/
structure Custody (state : ServerState) (link : Link)
    (requestId : String) : Prop where
  /-- While a reply is not released at the client, the server keeps it. -/
  held :
    0 < link.client.guards.unreleased requestId →
      ∃ number,
        (link.written requestId).getLast? = some number ∧
          link.server.blobResponses[requestId]? = some number
  /-- Each reply waits for the acknowledgement of the one before. -/
  inTurn :
    link.client.acksQueued requestId ≤ (link.written requestId).length ∧
      (link.written requestId).length ≤ link.acksRead requestId + 1
  /-- Each reply is not released, is owed an acknowledgement or has one. -/
  placed : link.client.Calm → link.client.guards.claims requestId = (link.written requestId).length
  /-- What is owed can be queued, or somebody poisons the connection. -/
  owed :
    requestId ∈ link.client.acking →
      ∃ client,
        link.client.step (.acknowledge requestId) = some client ∧
          (client.acksQueued requestId = link.client.acksQueued requestId + 1 ∨
            client.poisoning ≠ [])
  /-- Only the acknowledgement of a reply releases its lease. -/
  released :
    ∀ (event : LinkEvent) (next : Link) (number : Nat),
      link.step state event = some next → next.server.closed = false →
        number ∈ link.written requestId → link.server.blobResponses[requestId]? = some number →
        next.server.blobResponses[requestId]? = some number ∨
          event = .deliver (.blobAck requestId) ∧ link.client.guards.unreleased requestId = 0 ∧
            next.acksRead requestId = (link.written requestId).length ∧
            next.server.blobResponses[requestId]? = none
  /-- What was acknowledged is not kept. -/
  once :
    link.acksRead requestId = (link.written requestId).length →
      ∀ number ∈ link.written requestId, link.server.blobResponses[requestId]? ≠ some number

/-- Every blob is in custody. -/
theorem Sound.custody
    (sound : link.Sound) (opened : link.server.closed = false) (requestId : String) :
    Custody state link requestId := by
  have leases := sound.leases opened
  have lending := leases.lending requestId
  constructor
  case held =>
      intro unreleased
      refine lending.leased_of_claim ?_
      have queued := link.acksRead_le_acksQueued requestId
      simp only [GuardBook.claims, ClientConnection.guards] at unreleased ⊢
      omega
  case inTurn =>
      refine ⟨?_, lending.single⟩
      exact Nat.le_trans (acksQueued_le_claims link requestId) lending.claimed
  case placed => exact lending.kept
  case owed =>
      intro owed
      refine ⟨_, if_pos owed, ?_⟩
      rcases
        (ClientConnection.queueBlobAck_cases
          { link.client with acking := link.client.acking.erase requestId }
          requestId).2.2.2 with queued | ⟨_, poisoning⟩
      · left
        rw [queued requestId, List.count_singleton_self]
        rfl
      · exact Or.inr (List.ne_nil_of_mem poisoning)
  case released =>
      intro event next number stepped still listed lease
      exact sound.released stepped still listed lease
  case once =>
      intro all
      exact lending.spare (Nat.le_of_eq all.symm)

end Link

/--
If an id is registered only when the server has done with it and no other
frame with it is on its way, then until the server closes the connection it
keeps every reply with blobs until the client has released it, and each of
them is acknowledged once.
-/
theorem blob_leases_kept
    (state : ServerState) (events : List LinkEvent) (final : Link)
    (ran : execute (Link.step state) {} events = some final)
    (met : obeys (Link.step state) Link.settledIds {} events = true)
    (opened : final.server.closed = false) (requestId : String) :
    Link.Custody state final requestId := by
  have sound : final.Sound :=
    execute_invariant Link.step_sound ran met ⟨Link.agreed_new, fun _ => Link.leases_new⟩
  exact sound.custody opened requestId

/-- The client writes a frame. -/
private def writesOut : List LinkEvent :=
  [.client .recv, .client .mark, .client .write, .client .settle]

/-- A request goes out. -/
private def asksFor (number : Nat) : List LinkEvent :=
  [.client (.reserve number "x"), .client (.register number),
    .client (.arm number), .client (.send number)]

/-- The server reads a call of `run`, and does not decide on it yet. -/
private def readsCall : List LinkEvent :=
  [.server (.check false), .deliver (.call "x" "" "pool/0" "run" [])]

/-- A reply with a blob. -/
private def answersWith (number : Nat) : List LinkEvent :=
  [.server (.dispatched number { status := .success } .admitted),
    .server (.write number none), .server (.free number)]

/-- A reply is acknowledged, and another one under its id is guarded. -/
theorem blob_leases_kept_in_turn :
    ∃ final : Link,
      execute (Link.step ⟨"pool/0", ["run"]⟩) {}
          (asksFor 0 ++ writesOut ++ readsCall ++ [.server (.accept true true)] ++ answersWith 0 ++
            [.client (.read false), .client (.receive 0), .client (.release "x" false),
              .client (.acknowledge "x")] ++
            writesOut ++ [.server (.check false), .deliver (.blobAck "x")] ++
            asksFor 1 ++ writesOut ++ readsCall ++ [.server (.accept true true)] ++ answersWith 2 ++
            [.client (.read false)]) = some final ∧
        final.written "x" = [0, 2] ∧ final.client.guards.unreleased "x" = 1 ∧
        final.acksRead "x" = 1 ∧ Link.Custody ⟨"pool/0", ["run"]⟩ final "x" := by
  refine ⟨Option.get _ ?_, (Option.some_get _).symm, ?_, ?_, ?_, ?_⟩
  · decide +kernel
  · decide +kernel
  · decide +kernel
  · decide +kernel
  · exact
      blob_leases_kept _ _ _ (Option.some_get _).symm (by decide +kernel) (by decide +kernel) "x"

/--
Call 0 is cancelled while its frame is queued, and call 1 has the same id;
both frames are written.  The loop has read the second one before the first
is answered, and takes it afterwards: its reply takes the lease from the
first one, which the client still guards.
-/
theorem lease_replaced_while_guarded :
    (execute (Link.step ⟨"pool/0", ["run"]⟩) {}
        (asksFor 0 ++ [.client (.cancel 0), .client (.strike 0 false)] ++
          asksFor 1 ++ writesOut ++ writesOut ++ readsCall ++
          [.server (.accept true true)] ++ readsCall ++ answersWith 0 ++
          [.client (.read false), .client (.receive 1), .server (.accept true true),
            .server (.dispatched 1 { status := .success } .admitted)])).map
        (fun final =>
          (final.server.closed, final.client.poisoned || !final.client.poisoning.isEmpty,
            final.client.guardedReplies, final.written "x", final.server.blobResponses["x"]?)) =
      some (false, false, ["x"], [0], some 1) := by
  decide +kernel

end Tinyray.Transport
