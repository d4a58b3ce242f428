import Tinyray.Transport.Traffic

/-!
# Replies with blobs at the client

A reply with blobs is guarded from the moment it is handed to its call until
the last guard is dropped; then it is owed an acknowledgement, which is queued
later.  A reply to a call that has left is owed one at once.

Every reply with blobs is in one of these places.  `claims` counts the places
by request id: no step of the client adds to them, and none is lost unless
somebody is about to poison the connection.
-/

namespace Tinyray.Transport

open Std

/-- Where the client has replies with blobs, or their acknowledgements. -/
structure GuardBook where
  guarded : List String
  owed : List String
  inbound : List RpcReply
  /-- How many acknowledgements have been queued so far. -/
  queued : String → Nat

namespace GuardBook

/-- The replies under an id whose guards have not been dropped. -/
def unreleased (book : GuardBook) (requestId : String) : Nat :=
  book.inbound.countP (fun reply => reply.blobRefs && reply.requestId == requestId) +
    book.guarded.count requestId

/-- All replies under an id, and their acknowledgements. -/
def claims (book : GuardBook) (requestId : String) : Nat :=
  book.unreleased requestId + book.owed.count requestId + book.queued requestId

end GuardBook

namespace ClientConnection

/-! ## Parts of a step -/

section

variable (connection : ClientConnection)

/-- How many acknowledgements of a reply have been queued so far. -/
def acksQueued (requestId : String) : Nat :=
  (connection.outbound.map WriteCommand.frame).count (.blobAck requestId) +
    connection.writer.unwritten.count (.blobAck requestId) +
    connection.socket.count (.blobAck requestId)

/-- What is known of guards. -/
def guards : GuardBook where
  guarded := connection.guardedReplies
  owed := connection.acking
  inbound := connection.inbound
  queued := connection.acksQueued

@[simp]
theorem poison_guards (cause : Poison) : (connection.poison cause).guards = connection.guards :=
  rfl

@[simp]
theorem setCall_guards (call : Nat) (next : Call) :
    (connection.setCall call next).guards = connection.guards :=
  rfl

theorem markIdle_eq (full : Bool) :
    ∃ counted,
      (connection.markIdle full).1 =
        { connection with countedIdle := counted } := by
  unfold markIdle
  split
  · exact ⟨connection.countedIdle, rfl⟩
  · split
    · exact ⟨connection.countedIdle, rfl⟩
    · exact ⟨true, rfl⟩

@[simp]
theorem markIdle_guards (full : Bool) :
    (connection.markIdle full).1.guards = connection.guards := by
  rcases connection.markIdle_eq full with ⟨counted, same⟩
  rw [same]
  rfl

/-- Abandoning keeps the guards. -/
@[simp]
theorem abandon_guards (requestId : String) (full : Bool) :
    (connection.abandon requestId full).1.guards = connection.guards := by
  unfold abandon
  split
  · rfl
  · rename_i pending _
    have taken : (connection.takeOut requestId pending).guards = connection.guards :=
      rfl
    simp only
    split
    · rw [poison_guards, markIdle_guards, taken]
    · rw [markIdle_guards, taken]

variable {connection} in
theorem guards_of_acksQueued
    {next : ClientConnection} (guarded : next.guardedReplies = connection.guardedReplies)
    (owed : next.acking = connection.acking) (inbound : next.inbound = connection.inbound)
    (queued : ∀ id, next.acksQueued id = connection.acksQueued id) :
    next.guards = connection.guards := by
  have same : next.acksQueued = connection.acksQueued := funext queued
  unfold guards
  rw [guarded, owed, inbound, same]

/-- A queued acknowledgement, or poison. -/
theorem queueBlobAck_cases (requestId : String) :
    (connection.queueBlobAck requestId).guardedReplies = connection.guardedReplies ∧
      (connection.queueBlobAck requestId).acking = connection.acking ∧
      (connection.queueBlobAck requestId).inbound = connection.inbound ∧
      ((∀ other,
          (connection.queueBlobAck requestId).acksQueued other =
            connection.acksQueued other + [requestId].count other) ∨
        (∀ other,
          (connection.queueBlobAck requestId).acksQueued other = connection.acksQueued other) ∧
          .ackFailed ∈ (connection.queueBlobAck requestId).poisoning) := by
  unfold queueBlobAck trySend
  split
  · rename_i queued sent
    split_ifs at sent
    cases sent
    refine ⟨rfl, rfl, rfl, Or.inl ?_⟩
    intro other
    have single : [Frame.blobAck requestId].count (.blobAck other) = [requestId].count other := by
      simp [List.count_singleton]
    simp only [acksQueued, List.map_append, List.map_cons, List.map_nil, List.count_append, single]
    omega
  · refine ⟨rfl, rfl, rfl, Or.inr ⟨fun _ => rfl, ?_⟩⟩
    exact List.mem_append_right _ (List.mem_singleton_self _)

end

/-! ## Steps -/

/-- What each action does to them. -/
inductive Guarding (connection : ClientConnection) : Action → ClientConnection → Prop where
  | still {action : Action} {next : ClientConnection} :
      next.guards = connection.guards → Guarding connection action next
  | answer {call : Nat} {blobRefs malformed : Bool} {reply : RpcReply}
      {next : ClientConnection} :
      next.guards =
          { connection.guards with inbound := connection.inbound ++ [reply] } →
        Guarding connection (.answer call blobRefs malformed) next
  /-- A reply is handed to its call. -/
  | hand {full : Bool} {reply : RpcReply} {rest : List RpcReply}
      {next : ClientConnection} :
      connection.inbound = reply :: rest → reply.requestId ∈ connection.pending →
        next.guards =
          { connection.guards with
            guarded :=
              if reply.blobRefs then connection.guardedReplies.insert reply.requestId
              else connection.guardedReplies
            inbound := rest } →
        Guarding connection (.read full) next
  /-- Its call has left. -/
  | owe {full : Bool} {reply : RpcReply} {rest : List RpcReply}
      {next : ClientConnection} :
      connection.inbound = reply :: rest → reply.requestId ∈ connection.abandoned →
        next.guards =
          { connection.guards with
            owed :=
              if reply.blobRefs then connection.acking ++ [reply.requestId]
              else connection.acking
            inbound := rest } →
        Guarding connection (.read full) next
  /-- Nobody knows the reply. -/
  | unknown {full : Bool} {reply : RpcReply} {rest : List RpcReply}
      {next : ClientConnection} :
      connection.inbound = reply :: rest →
        next.guards = { connection.guards with inbound := rest } →
        .unknownReply reply.requestId ∈ next.poisoning → next.reading = false →
        Guarding connection (.read full) next
  /-- The last guard of a reply is dropped. -/
  | release {requestId : String} {full : Bool} {next : ClientConnection} :
      requestId ∈ connection.guardedReplies →
        next.guards =
          { connection.guards with
            guarded := connection.guardedReplies.erase requestId
            owed := connection.acking ++ [requestId] } →
        Guarding connection (.release requestId full) next
  /-- The same, and the connection is closed instead. -/
  | close {requestId : String} {full : Bool} {next : ClientConnection} :
      requestId ∈ connection.guardedReplies →
        next.guards =
          { connection.guards with guarded := connection.guardedReplies.erase requestId } →
        .idleCap ∈ next.poisoning → Guarding connection (.release requestId full) next
  | acknowledge {requestId : String} :
      requestId ∈ connection.acking →
        Guarding connection (.acknowledge requestId)
          ({ connection with acking := connection.acking.erase requestId }.queueBlobAck requestId)
  /-- The frame of a call that has left is not written. -/
  | skip {command : WriteCommand} :
      connection.writer = .held command → command.tracked = true →
        Guarding connection .mark { connection with writer := .idle }
  /-- A frame is lost. -/
  | fail {command : WriteCommand} :
      connection.writer = .writing command →
        Guarding connection .fail ({ connection with writer := .finished }.poison .writeFailed)
  | drain {cause : Poison} :
      connection.draining = some cause → Guarding connection .drain (connection.drain cause)

variable {connection next : ClientConnection} {action : Action}
  {reply : RpcReply} {rest : List RpcReply} {first : String}

/-- What routing does to guards. -/
theorem route_guarding
    (full : Bool) (queue : connection.inbound = reply :: rest) :
    Guarding connection (.read full) ({ connection with inbound := rest }.route reply full) := by
  unfold route
  cases present : connection.pending[reply.requestId]? with
  | some pending =>
    have waits : reply.requestId ∈ connection.pending :=
      ExtTreeMap.mem_iff_isSome_getElem?.mpr (by rw [present]; rfl)
    simp only
    split
    · refine .hand queue waits ?_
      rw [poison_guards, markIdle_guards]
      rfl
    · refine .hand queue waits ?_
      rw [markIdle_guards]
      rfl
  | none =>
    cases left : connection.abandoned[reply.requestId]? with
    | some call =>
      have known : reply.requestId ∈ connection.abandoned :=
        ExtTreeMap.mem_iff_isSome_getElem?.mpr (by rw [left]; rfl)
      rcases
        (forget { connection with inbound := rest }
          reply.requestId).markIdle_eq full with ⟨counted, idle⟩
      simp only [idle]
      split
      · exact .owe queue known (by cases reply.blobRefs <;> rfl)
      · exact .owe queue known (by cases reply.blobRefs <;> rfl)
    | none =>
      refine .unknown queue rfl ?_ rfl
      exact List.mem_append_right _ (List.mem_singleton_self _)

/-- What dropping a guard does. -/
theorem sendBlobAck_guarding (requestId : String) (full : Bool) :
    Guarding connection (.release requestId full) (connection.sendBlobAck requestId full) := by
  unfold sendBlobAck
  split
  · rename_i guarded
    rcases
      ClientConnection.markIdle_eq
        { connection with guardedReplies := connection.guardedReplies.erase requestId }
        full with ⟨counted, idle⟩
    simp only [idle]
    split
    · refine .close guarded rfl ?_
      exact List.mem_append_right _ (List.mem_singleton_self _)
    · exact .release guarded rfl
  · exact .still rfl

/-- What each step does to guards. -/
theorem Stepped.guarding (stepped : Stepped connection action next) :
    Guarding connection action next := by
  cases stepped with
  | withdraw => exact .still (by simp)
  | strike => exact .still (by simp [ClientConnection.strike])
  | timeout =>
    unfold timeOut
    simp only
    split
    · exact .still (by simp)
    · exact .still (by simp)
  | send =>
    refine .still (guards_of_acksQueued rfl rfl rfl ?_)
    intro id
    simp [acksQueued, ClientConnection.setCall]
  | recv idle queue =>
    refine .still (guards_of_acksQueued rfl rfl rfl ?_)
    intro id
    simp only [acksQueued, idle, queue, Writer.unwritten,
      List.map_cons, List.count_cons, List.count_nil]
    omega
  | skip held tracked => exact .skip held tracked
  | mark held | begin held =>
    refine .still (guards_of_acksQueued rfl rfl rfl ?_)
    intro id
    simp only [acksQueued, held, Writer.unwritten]
  | write writing =>
    refine .still (guards_of_acksQueued rfl rfl rfl ?_)
    intro id
    simp only [acksQueued, writing, Writer.unwritten, List.count_append, List.count_nil]
    omega
  | fail writing => exact .fail writing
  | settle wrote | rest wrote | halt wrote =>
    refine .still (guards_of_acksQueued rfl rfl rfl ?_)
    intro id
    simp only [acksQueued, wrote, Writer.unwritten]
  | answer => exact .answer rfl
  | read reading queue => exact route_guarding _ queue
  | drain won => exact .drain won
  | release => exact sendBlobAck_guarding _ _
  | acknowledge owed => exact .acknowledge owed
  | _ => exact .still rfl

theorem step_guarding (stepped : connection.step action = some next) :
    Guarding connection action next :=
  (step_stepped stepped).guarding

variable {requestId : String} {guarded : List String} {command : WriteCommand}

/-- A guard comes from a pending call. -/
theorem Guarding.guardedReplies
    (guarding : Guarding connection action next) (guarded : requestId ∈ next.guardedReplies) :
    requestId ∈ connection.guardedReplies ∨ requestId ∈ connection.pending := by
  cases guarding with
  | still same | answer same | unknown _ same | owe _ _ same =>
    rw [show next.guardedReplies = _ from
      congrArg GuardBook.guarded same] at guarded
    exact Or.inl guarded
  | @hand full reply rest _ queue waits same =>
    rw [show next.guardedReplies = _ from
      congrArg GuardBook.guarded same] at guarded
    cases blobs : reply.blobRefs with
    | false =>
      simp only [blobs, Bool.false_eq_true, if_false] at guarded
      exact Or.inl guarded
    | true =>
      simp only [blobs, if_true, List.mem_insert_iff] at guarded
      rcases guarded with rfl | before
      · exact Or.inr waits
      · exact Or.inl before
  | release held same | close held same =>
    rw [show next.guardedReplies = _ from
      congrArg GuardBook.guarded same] at guarded
    exact Or.inl (List.mem_of_mem_erase guarded)
  | @acknowledge requestId owed =>
    have kept :=
      (queueBlobAck_cases
        { connection with acking := connection.acking.erase requestId }
        requestId).1
    rw [kept] at guarded
    exact Or.inl guarded
  | skip held tracked | fail writing => exact Or.inl guarded
  | drain won => cases guarded

/-! ## Counting -/

/-- Nobody has poisoned the connection, or is about to. -/
structure Calm (connection : ClientConnection) : Prop where
  unpoisoned : connection.poisoned = false
  unthreatened : connection.poisoning = []

/-- Only requests are tracked. -/
def TracksRequests (connection : ClientConnection) : Prop :=
  ∀ command ∈ connection.commands, command.tracked = true → ∃ call, command.frame = .request call

theorem count_insert_le (guarded : List String) (first requestId : String) :
    (guarded.insert first).count requestId ≤ guarded.count requestId + [first].count requestId := by
  by_cases listed : first ∈ guarded
  · rw [List.insert_of_mem listed]
    exact Nat.le_add_right _ _
  · refine Nat.le_of_eq ?_
    rw [List.insert_of_not_mem listed, List.count_cons, List.count_singleton]

/-- A new id is counted once. -/
theorem count_insert_of_free
    (free : [first].count requestId = 0 ∨ guarded.count requestId = 0) :
    (guarded.insert first).count requestId = guarded.count requestId + [first].count requestId := by
  by_cases listed : first ∈ guarded
  · rw [List.insert_of_mem listed]
    rcases free with other | none
    · omega
    · have apart : first ≠ requestId := by
        rintro rfl
        exact List.count_eq_zero.mp none listed
      simp [apart]
  · rw [List.insert_of_not_mem listed, List.count_cons, List.count_singleton]

theorem count_erase_add
    (listed : first ∈ guarded) (requestId : String) :
    (guarded.erase first).count requestId + [first].count requestId = guarded.count requestId := by
  have positive := List.count_pos_iff.mpr listed
  rw [List.count_erase, List.count_singleton]
  by_cases same : first = requestId
  · subst same
    simp
    omega
  · simp [same]

/-- The first reply leaves the queue. -/
theorem unreleased_cons
    (book : GuardBook) (queue : book.inbound = reply :: rest) (requestId : String) :
    book.unreleased requestId =
      { book with inbound := rest }.unreleased requestId +
        if reply.blobRefs then [reply.requestId].count requestId else 0 := by
  unfold GuardBook.unreleased
  rw [queue, List.countP_cons, List.count_singleton]
  cases reply.blobRefs with
  | true =>
    simp only [Bool.true_and, if_true]
    omega
  | false => simp

theorem acksQueued_unwritten
    (connection : ClientConnection) (writer : Writer)
    (unwritten : connection.writer.unwritten = [command.frame])
    (emptied : writer.unwritten = []) (requestId : String) :
    connection.acksQueued requestId =
      { connection with writer := writer }.acksQueued requestId +
        [command.frame].count (.blobAck requestId) := by
  simp only [acksQueued, unwritten, emptied, List.count_nil]
  omega

/-- A guard is handed out. -/
theorem claims_hand
    (book : GuardBook) (queue : book.inbound = reply :: rest) (requestId : String) :
    { book with
        guarded :=
          if reply.blobRefs then book.guarded.insert reply.requestId
          else book.guarded
        inbound := rest }.claims requestId ≤ book.claims requestId ∧
      (book.unreleased requestId ≤ 1 →
        { book with
            guarded :=
              if reply.blobRefs then book.guarded.insert reply.requestId
              else book.guarded
            inbound := rest }.claims requestId =
          book.claims requestId) := by
  have before := unreleased_cons book queue requestId
  simp only [GuardBook.claims, GuardBook.unreleased] at before ⊢
  cases blobs : reply.blobRefs with
  | false =>
    simp only [blobs, Bool.false_eq_true, if_false] at before ⊢
    omega
  | true =>
    simp only [blobs, if_true] at before ⊢
    have most := count_insert_le book.guarded reply.requestId requestId
    refine ⟨by omega, ?_⟩
    intro single
    have added :
        (book.guarded.insert reply.requestId).count requestId =
          book.guarded.count requestId + [reply.requestId].count requestId :=
      count_insert_of_free (by omega)
    omega

/-- An acknowledgement is owed. -/
theorem claims_owe
    (book : GuardBook) (queue : book.inbound = reply :: rest) (requestId : String) :
    { book with
        owed :=
          if reply.blobRefs then book.owed ++ [reply.requestId]
          else book.owed
        inbound := rest }.claims requestId = book.claims requestId := by
  have before := unreleased_cons book queue requestId
  simp only [GuardBook.claims, GuardBook.unreleased] at before ⊢
  cases blobs : reply.blobRefs with
  | false =>
    simp only [blobs, Bool.false_eq_true, if_false] at before ⊢
    omega
  | true =>
    simp only [blobs, if_true, List.count_append] at before ⊢
    omega

theorem claims_unknown
    (book : GuardBook) (queue : book.inbound = reply :: rest) (requestId : String) :
    { book with inbound := rest }.claims requestId ≤ book.claims requestId := by
  have before := unreleased_cons book queue requestId
  simp only [GuardBook.claims, GuardBook.unreleased] at before ⊢
  omega

theorem claims_release
    (book : GuardBook) (held : first ∈ book.guarded) (requestId : String) :
    { book with
        guarded := book.guarded.erase first
        owed := book.owed ++ [first] }.claims requestId =
      book.claims requestId := by
  have erased := count_erase_add held requestId
  simp only [GuardBook.claims, GuardBook.unreleased, List.count_append]
  omega

theorem claims_close
    (book : GuardBook) (held : first ∈ book.guarded) (requestId : String) :
    { book with guarded := book.guarded.erase first }.claims requestId ≤ book.claims requestId := by
  have erased := count_erase_add held requestId
  simp only [GuardBook.claims, GuardBook.unreleased]
  omega

/-- An acknowledgement is queued. -/
theorem claims_acknowledge
    (owed : first ∈ connection.acking) (requestId : String) :
    (queueBlobAck
        { connection with acking := connection.acking.erase first }
        first).guards.claims requestId ≤ connection.guards.claims requestId ∧
      ((queueBlobAck
          { connection with acking := connection.acking.erase first }
          first).poisoning = [] →
        (queueBlobAck
            { connection with acking := connection.acking.erase first }
            first).guards.claims requestId =
          connection.guards.claims requestId) := by
  have erased := count_erase_add owed requestId
  rcases
    queueBlobAck_cases
      { connection with acking := connection.acking.erase first }
      first with ⟨guarded, acking, inbound, queued⟩
  simp only [GuardBook.claims, GuardBook.unreleased, guards, guarded, acking, inbound]
  rcases queued with queued | ⟨queued, poisoning⟩
  · have added : _ = connection.acksQueued requestId + _ := queued requestId
    rw [added]
    omega
  · have same : _ = connection.acksQueued requestId := queued requestId
    rw [same]
    refine ⟨by omega, ?_⟩
    intro none
    rw [none] at poisoning
    cases poisoning

theorem claims_unwritten
    (writer : Writer) (unwritten : connection.writer.unwritten = [command.frame])
    (emptied : writer.unwritten = []) (requestId : String) :
    connection.guards.claims requestId =
      { connection with writer := writer }.guards.claims requestId +
        [command.frame].count (.blobAck requestId) := by
  have lost := acksQueued_unwritten connection writer unwritten emptied requestId
  simp only [GuardBook.claims, GuardBook.unreleased, guards]
  omega

/--
A step adds no claims, and loses none unless somebody is about to poison the
connection.
-/
theorem Guarding.claims
    (guarding : Guarding connection action next)
    (received : ∀ call blobRefs malformed, action ≠ .answer call blobRefs malformed)
    (requestId : String) :
    next.guards.claims requestId ≤ connection.guards.claims requestId ∧
      (next.Calm → connection.TracksRequests →
        (∀ cause, connection.draining = some cause → connection.poisoned = true) →
        connection.guards.unreleased requestId ≤ 1 →
        next.guards.claims requestId = connection.guards.claims requestId) := by
  cases guarding with
  | still same =>
    rw [same]
    exact ⟨Nat.le_refl _, fun _ _ _ _ => rfl⟩
  | answer same => exact absurd rfl (received _ _ _)
  | hand queue waits same =>
    rcases claims_hand connection.guards queue requestId with ⟨fewer, kept⟩
    rw [same]
    exact ⟨fewer, fun _ _ _ => kept⟩
  | owe queue left same =>
    have kept := claims_owe connection.guards queue requestId
    rw [same]
    exact ⟨Nat.le_of_eq kept, fun _ _ _ _ => kept⟩
  | unknown queue same poisoning reading =>
    have fewer := claims_unknown connection.guards queue requestId
    rw [same]
    refine ⟨fewer, ?_⟩
    intro calm
    rw [calm.unthreatened] at poisoning
    cases poisoning
  | release held same =>
    have kept := claims_release connection.guards held requestId
    rw [same]
    exact ⟨Nat.le_of_eq kept, fun _ _ _ _ => kept⟩
  | close held same poisoning =>
    have fewer := claims_close connection.guards held requestId
    rw [same]
    refine ⟨fewer, ?_⟩
    intro calm
    rw [calm.unthreatened] at poisoning
    cases poisoning
  | acknowledge owed =>
    rcases claims_acknowledge owed requestId with ⟨fewer, kept⟩
    exact ⟨fewer, fun calm _ _ _ => kept calm.unthreatened⟩
  | @skip command held tracked =>
    have lost := claims_unwritten .idle (congrArg Writer.unwritten held) rfl requestId
    refine ⟨by omega, ?_⟩
    intro _ tracks
    rcases
      tracks command
        (by simp [ClientConnection.commands, held, Writer.commands])
        tracked with ⟨call, frame⟩
    rw [frame] at lost
    simp at lost
    intros
    exact lost.symm
  | @fail command writing =>
    have lost := claims_unwritten .finished (congrArg Writer.unwritten writing) rfl requestId
    rw [poison_guards]
    refine ⟨by omega, ?_⟩
    intro calm
    have threat := calm.unthreatened
    simp [poison] at threat
  | @drain cause won =>
    refine ⟨?_, ?_⟩
    · have same : (connection.drain cause).acksQueued requestId = connection.acksQueued requestId :=
        rfl
      simp only [GuardBook.claims, GuardBook.unreleased, guards, same]
      simp only [ClientConnection.drain, List.count_nil]
      omega
    · intro calm _ drained
      have poisoned := drained cause won
      have unpoisoned := calm.unpoisoned
      change connection.poisoned = false at unpoisoned
      rw [poisoned] at unpoisoned
      cases unpoisoned

/-! ## Steps without poison -/

/-- It was calm before. -/
theorem Effect.calm
    (effect : Effect connection action next) (calm : next.Calm) :
    connection.Calm := by
  have quietly {before after : ClientConnection}
      (quiet : Quiet before after) (poisoned : after.poisoned = false)
      (poisoning : after.poisoning = []) : before.Calm := by
    have unpoisoned : before.poisoned = false := by
      rw [← quiet.poisoned]
      exact poisoned
    refine ⟨unpoisoned, ?_⟩
    have pursued := quiet.pursued unpoisoned
    rw [poisoning] at pursued
    exact List.subset_nil.mp pursued
  rcases calm with ⟨poisoned, poisoning⟩
  cases effect with
  | quiet quiet | reserve _ quiet | advance _ _ quiet
  | unsent _ _ quiet => exact quietly quiet poisoned poisoning
  | take found takes quiet =>
    have before := quietly quiet poisoned poisoning
    unfold ClientConnection.without at before
    split at before <;> exact ⟨before.unpoisoned, before.unthreatened⟩
  | fail writing => simp [poison] at poisoning
  | read queue quiet =>
    have before := quietly quiet poisoned poisoning
    unfold ClientConnection.routed at before
    split at before <;> exact ⟨before.unpoisoned, before.unthreatened⟩
  | swap called => cases poisoned
  | _ => exact ⟨poisoned, poisoning⟩

theorem Effect.tracksRequests
    (effect : Effect connection action next)
    (tracks : connection.TracksRequests) : next.TracksRequests := by
  intro command listed tracked
  rcases effect.commands command listed with before | untracked | belongs
  · exact tracks command before tracked
  · rw [untracked.1] at tracked
    cases tracked
  · rcases belongs with ⟨_, call, frame, _⟩
    exact ⟨call, frame⟩

end ClientConnection

end Tinyray.Transport
