import Tinyray.Transport.Steps

/-!
# What one step of a connection can do

`Effect` lists what a step may change, and `step_effect` says that the list
is complete.  Everything about idle counting, permits, guarded replies and
calls of `poison` under way is put into `Quiet`: changes that no call can
notice.
-/

namespace Tinyray.Transport

open Std

namespace ClientConnection

/-! ## Changes no call notices -/

/-- Nothing that matters changes. -/
structure Quiet (before after : ClientConnection) : Prop where
  pending : after.pending = before.pending
  abandoned : after.abandoned = before.abandoned
  poisoned : after.poisoned = before.poisoned
  draining : after.draining = before.draining
  calls : after.calls = before.calls
  oneshots : after.oneshots = before.oneshots
  writer : after.writer = before.writer
  socket : after.socket = before.socket
  unanswered : after.unanswered = before.unanswered
  inbound : after.inbound = before.inbound
  /-- Only acknowledgements join the queue. -/
  outbound :
    ∃ acks, after.outbound = before.outbound ++ acks ∧
      ∀ command ∈ acks, command.tracked = false ∧ ∃ id, command.frame = .blobAck id
  /-- Only the writer reports a failed write. -/
  poisoning : Poison.writeFailed ∈ after.poisoning → Poison.writeFailed ∈ before.poisoning
  /-- A call of `poison` goes on until the connection is poisoned. -/
  pursued : before.poisoned = false → before.poisoning ⊆ after.poisoning

namespace Quiet

variable {before middle after : ClientConnection}

theorem refl (connection : ClientConnection) : Quiet connection connection :=
  ⟨rfl, rfl, rfl, rfl, rfl, rfl, rfl, rfl, rfl, rfl,
    ⟨[], (List.append_nil _).symm, by simp⟩, fun listed => listed, fun _ => List.Subset.refl _⟩

/-- Quiet steps can be joined. -/
theorem trans (first : Quiet before middle) (second : Quiet middle after) : Quiet before after where
  pending := second.pending.trans first.pending
  abandoned := second.abandoned.trans first.abandoned
  poisoned := second.poisoned.trans first.poisoned
  draining := second.draining.trans first.draining
  calls := second.calls.trans first.calls
  oneshots := second.oneshots.trans first.oneshots
  writer := second.writer.trans first.writer
  socket := second.socket.trans first.socket
  unanswered := second.unanswered.trans first.unanswered
  inbound := second.inbound.trans first.inbound
  outbound := by
    rcases first.outbound with ⟨firstAcks, firstQueue, firstUntracked⟩
    rcases second.outbound with ⟨secondAcks, secondQueue, untracked⟩
    refine ⟨firstAcks ++ secondAcks, ?_, ?_⟩
    · rw [secondQueue, firstQueue, List.append_assoc]
    · intro command listed
      rcases List.mem_append.mp listed with early | late
      · exact firstUntracked command early
      · exact untracked command late
  poisoning := fun listed => first.poisoning (second.poisoning listed)
  pursued := by
    intro unpoisoned
    refine List.Subset.trans (first.pursued unpoisoned) (second.pursued ?_)
    rw [first.poisoned, unpoisoned]

end Quiet

variable (connection : ClientConnection)

/-- Poison comes quietly. -/
theorem quiet_poison {cause : Poison} (other : cause ≠ .writeFailed) :
    Quiet connection (connection.poison cause) where
  pending := rfl
  abandoned := rfl
  poisoned := rfl
  draining := rfl
  calls := rfl
  oneshots := rfl
  writer := rfl
  socket := rfl
  unanswered := rfl
  inbound := rfl
  outbound := ⟨[], (List.append_nil _).symm, by simp⟩
  poisoning := by
    intro listed
    rcases List.mem_append.mp listed with before | added
    · exact before
    · exact absurd (List.mem_singleton.mp added).symm other
  pursued := fun _ => List.subset_append_left _ _

theorem quiet_markIdle (full : Bool) : Quiet connection (connection.markIdle full).1 := by
  unfold markIdle
  split
  · exact .refl connection
  · split
    · exact .refl connection
    · exact { Quiet.refl connection with }

/-- An acknowledgement is queued quietly. -/
theorem quiet_queueBlobAck (requestId : String) :
    Quiet connection (connection.queueBlobAck requestId) := by
  unfold queueBlobAck trySend
  split
  · rename_i queued sent
    split_ifs at sent
    cases sent
    exact
      { Quiet.refl connection with
        outbound :=
          ⟨_, rfl, fun command listed => by
            rw [List.mem_singleton.mp listed]
            exact ⟨rfl, requestId, rfl⟩⟩ }
  · exact quiet_poison connection (by decide)

/-- A guard is dropped quietly. -/
theorem quiet_sendBlobAck (requestId : String) (full : Bool) :
    Quiet connection (connection.sendBlobAck requestId full) := by
  unfold sendBlobAck
  split
  · have released :
        Quiet connection
          { connection with guardedReplies := connection.guardedReplies.erase requestId } :=
      { Quiet.refl connection with }
    have idle := released.trans (quiet_markIdle _ full)
    simp only
    split
    · exact idle.trans (quiet_poison _ (by decide))
    · exact idle.trans { Quiet.refl _ with }
  · exact .refl connection

/-! ## Leaving the table -/

/-- Without a pending call. -/
def without (requestId : String) : ClientConnection :=
  match connection.pending[requestId]? with
  | none => connection
  | some pending => connection.takeOut requestId pending

/-- Abandoning does no more than that. -/
theorem abandon_quiet (requestId : String) (full : Bool) :
    Quiet (connection.without requestId) (connection.abandon requestId full).1 := by
  unfold without abandon
  cases connection.pending[requestId]? with
  | none => exact .refl connection
  | some pending =>
    have idle := quiet_markIdle (connection.takeOut requestId pending) full
    simp only
    split
    · exact idle.trans (quiet_poison _ (by decide))
    · exact idle

theorem abandon_found (requestId : String) (full : Bool) :
    (connection.abandon requestId full).2 = match connection.pending[requestId]? with
      | none => .completed
      | some pending => pending.progress.found := by
  unfold abandon
  cases connection.pending[requestId]? <;> rfl

/-- After routing a reply. -/
def routed (reply : RpcReply) : ClientConnection :=
  match connection.pending[reply.requestId]? with
  | some pending => connection.complete reply pending
  | none => connection.forget reply.requestId

/-- Routing does no more than that. -/
theorem route_quiet (reply : RpcReply) (full : Bool) :
    Quiet (connection.routed reply) (connection.route reply full) := by
  unfold routed route
  cases connection.pending[reply.requestId]? with
  | some pending =>
    have idle := quiet_markIdle (connection.complete reply pending) full
    simp only
    split
    · exact idle.trans (quiet_poison _ (by decide))
    · exact idle
  | none =>
    cases present : connection.abandoned[reply.requestId]? with
    | some call =>
      have idle := quiet_markIdle (connection.forget reply.requestId) full
      have acked :
          Quiet (connection.forget reply.requestId)
            (if reply.blobRefs then
              { ((connection.forget reply.requestId).markIdle full).1 with
                acking :=
                  ((connection.forget reply.requestId).markIdle
                    full).1.acking ++ [reply.requestId] }
            else ((connection.forget reply.requestId).markIdle full).1) := by
        split
        · exact idle.trans { Quiet.refl _ with }
        · exact idle
      simp only
      split
      · exact acked.trans (quiet_poison _ (by decide))
      · exact acked
    | none =>
      have same : connection.abandoned.erase reply.requestId = connection.abandoned := by
        apply ExtTreeMap.ext_getElem?
        intro other
        rw [ExtTreeMap.getElem?_erase]
        split_ifs with here
        · rw [Std.compare_eq_iff_eq] at here
          rw [← here, present]
        · rfl
      have stopped :
          Quiet (connection.forget reply.requestId)
            { connection with reading := false } :=
        { Quiet.refl { connection with reading := false } with abandoned := same.symm }
      exact stopped.trans (quiet_poison _ (by simp))

/-! ## Calls -/

/-- A call moves on without touching the table. -/
inductive Advances (call : Nat) : Call → Call → Prop where
  | refused {current : Call} :
      current.phase = .reserved →
        Advances call current
          { current with phase := .ended (.error (.notDelivered .alreadyInFlight)) }
  | cancelled {current : Call} :
      current.phase = .registered → Advances call current { current with phase := .cancelled }
  | armed {current : Call} :
      current.phase = .registered →
        Advances call current
          { current with phase := .armed, target := true }
  | received {current : Call} {message : Option Outcome} :
      current.phase = .waiting →
        connection.oneshots[call]? = some message →
          Advances call current
            { current with phase := .ended (message.getD (.error (.outcomeUnknown .ended))) }
  | cleared {current : Call} {outcome : Outcome} :
      current.phase = .ended outcome → Advances call current { current with target := false }
  | requested {current : Call} : Advances call current { current with requested := true }
  | dropped {current : Call} :
      current.phase = .waiting →
        Advances call current
          { current with phase := .dropped, requested := true }

/-- A call takes what is registered under its request id out of the table. -/
inductive Takes : Action → Nat → Call → Call → Prop where
  | withdrawn {call : Nat} {current : Call} {full : Bool} :
      current.phase = .cancelled →
        Takes (.withdraw call full) call current
          { current with phase := .ended (.error (.notDelivered .cancelled)) }
  | timedOut {call : Nat} {current : Call} {full : Bool} :
      current.phase = .waiting →
        Takes (.timeout call full) call current
          { current with
            phase :=
              .ended
                (.error (timedOutError (connection.abandon current.requestId full).2)) }
  | struck {call : Nat} {current : Call} {full : Bool} :
      current.target = true →
        Takes (.strike call full) call current
          { current with target := false }

/-! ## Steps -/

/-- What each action changes. -/
inductive Effect : Action → ClientConnection → Prop where
  | quiet {action : Action} {next : ClientConnection} : Quiet connection next → Effect action next
  | reserve {call : Nat} {requestId : String} {middle : ClientConnection} :
      connection.calls[call]? = none → Quiet connection middle →
        Effect (.reserve call requestId) (middle.setCall call { requestId := requestId })
  | advance {action : Action} {call : Nat} {current next : Call}
      {middle : ClientConnection} :
      connection.calls[call]? = some current → Advances connection call current next →
        Quiet connection middle → Effect action (middle.setCall call next)
  | enter {call : Nat} {current : Call} :
      connection.calls[call]? = some current → current.phase = .reserved →
        connection.taken current.requestId = false →
        Effect (.register call)
          ({ connection with
              pending :=
                connection.pending.insert current.requestId
                  { sender := call, progress := .queued } }.setCall call
            { current with phase := .registered })
  | take {action : Action} {call : Nat} {current next : Call}
      {middle : ClientConnection} :
      connection.calls[call]? = some current → Takes connection action call current next →
        Quiet (connection.without current.requestId) middle →
        Effect action (middle.setCall call next)
  | send {call : Nat} {current : Call} :
      connection.calls[call]? = some current → current.phase = .armed →
        Effect (.send call)
          (setCall
            { connection with
              outbound :=
                connection.outbound ++
                  [{ requestId := current.requestId
                     frame := .request call
                     tracked := true }] } call
            { current with phase := .waiting })
  | unsent {call : Nat} {current : Call} {middle : ClientConnection} :
      connection.calls[call]? = some current → current.phase = .armed → Quiet connection middle →
        Effect (.send call) (middle.setCall call { current with phase := .waiting })
  | recv {command : WriteCommand} {rest : List WriteCommand} :
      connection.writer = .idle → connection.outbound = command :: rest →
        Effect .recv
          { connection with writer := .held command, outbound := rest }
  | skip {command : WriteCommand} :
      connection.writer = .held command → Effect .mark { connection with writer := .idle }
  | mark {command : WriteCommand} {pending : PendingCall} :
      connection.writer = .held command → command.tracked = true →
        connection.pending[command.requestId]? = some pending →
        Effect .mark
          { connection with
            pending :=
              connection.pending.insert command.requestId
                { pending with progress := .writing }
            writer := .writing command }
  | begin {command : WriteCommand} :
      connection.writer = .held command → command.tracked = false →
        Effect .mark { connection with writer := .writing command }
  | write {command : WriteCommand} :
      connection.writer = .writing command →
        Effect .write
          { connection with
            writer := .wrote command
            socket := connection.socket ++ [command.frame]
            unanswered := connection.unanswered ++ command.frame.call.toList }
  | fail {command : WriteCommand} :
      connection.writer = .writing command →
        Effect .fail ({ connection with writer := .finished }.poison .writeFailed)
  | settle {command : WriteCommand} {pending : PendingCall} :
      connection.writer = .wrote command → command.tracked = true →
        connection.pending[command.requestId]? = some pending →
        Effect .settle
          { connection with
            pending :=
              connection.pending.insert command.requestId
                { pending with progress := .written }
            writer := .idle }
  | rest {command : WriteCommand} :
      connection.writer = .wrote command →
        (command.tracked = true → connection.pending[command.requestId]? = none) →
        Effect .settle { connection with writer := .idle }
  | halt : connection.writer = .idle → Effect .halt { connection with writer := .finished }
  | answer {call : Nat} {current : Call} {blobRefs malformed : Bool} :
      connection.calls[call]? = some current → call ∈ connection.unanswered →
        Effect (.answer call blobRefs malformed)
          { connection with
            unanswered := connection.unanswered.erase call
            inbound :=
              connection.inbound ++
                [{ requestId := current.requestId
                   blobRefs := blobRefs
                   malformed := malformed
                   origin := call }] }
  | read {full : Bool} {reply : RpcReply} {rest : List RpcReply}
      {next : ClientConnection} :
      connection.inbound = reply :: rest →
        Quiet (routed { connection with inbound := rest } reply) next → Effect (.read full) next
  | swap {cause : Poison} :
      cause ∈ connection.poisoning →
        Effect (.swap cause)
          { connection with
            poisoning := connection.poisoning.erase cause
            poisoned := true
            draining := some cause }
  | drain {cause : Poison} :
      connection.draining = some cause → Effect .drain (connection.drain cause)

variable {connection}

/-- The effect of each step. -/
theorem Stepped.effect
    {action : Action} {next : ClientConnection} (stepped : Stepped connection action next) :
    Effect connection action next := by
  cases stepped with
  | reserve fresh =>
    have quiet :
        Quiet connection
          { connection with
            slots := connection.slots - 1
            countedIdle := false } :=
      { Quiet.refl connection with }
    exact .reserve fresh quiet
  | refuse found phase =>
    exact .advance found (.refused phase) { Quiet.refl connection with }
  | register found phase free => exact .enter found phase free
  | disarm found phase =>
    exact .advance found (.cancelled phase) (.refl connection)
  | arm found phase =>
    exact .advance found (.armed phase) (.refl connection)
  | withdraw found phase =>
    exact .take found (.withdrawn phase) (abandon_quiet connection _ _)
  | send found phase => exact .send found phase
  | unsent found phase =>
    exact .unsent found phase (quiet_poison connection (by decide))
  | receive found phase sent =>
    exact .advance found (.received phase sent) (.refl connection)
  | @timeout call current full found phase =>
    refine .take found (.timedOut phase) ?_
    have quiet := abandon_quiet connection current.requestId full
    split
    · exact quiet.trans (quiet_poison _ (by decide))
    · exact quiet
  | clear found ended =>
    exact .advance found (.cleared ended) (.refl connection)
  | cancel found => exact .advance found .requested (.refl connection)
  | strike found target =>
    exact .take found (.struck target) (abandon_quiet connection _ _)
  | drop found phase =>
    exact .advance found (.dropped phase) (.refl connection)
  | recv idle queue => exact .recv idle queue
  | skip held tracked => exact .skip held
  | mark held tracked present => exact .mark held tracked present
  | begin held tracked => exact .begin held tracked
  | write writing => exact .write writing
  | fail writing => exact .fail writing
  | settle wrote tracked present => exact .settle wrote tracked present
  | rest wrote absent => exact .rest wrote absent
  | halt idle => exact .halt idle
  | answer found waiting => exact .answer found waiting
  | read reading queue => exact .read queue (route_quiet _ _ _)
  | lose reading =>
    have stopped : Quiet connection { connection with reading := false } :=
      { Quiet.refl connection with }
    exact .quiet (stopped.trans (quiet_poison _ (by simp)))
  | leave poisoned => exact .quiet { Quiet.refl connection with }
  | late called poisoned =>
    exact
      .quiet
        { Quiet.refl connection with
          poisoning := fun listed => List.mem_of_mem_erase listed
          pursued := by simp [poisoned] }
  | swap called unpoisoned => exact .swap called
  | drain won => exact .drain won
  | release => exact .quiet (quiet_sendBlobAck connection _ _)
  | @acknowledge requestId owed =>
    have begun :
        Quiet connection
          { connection with acking := connection.acking.erase requestId } :=
      { Quiet.refl connection with }
    exact .quiet (begun.trans (quiet_queueBlobAck _ requestId))
  | expire | close =>
    exact .quiet (quiet_poison connection (by decide))

theorem step_effect
    {action : Action} {next : ClientConnection} (stepped : connection.step action = some next) :
    Effect connection action next :=
  (step_stepped stepped).effect

end ClientConnection

end Tinyray.Transport
