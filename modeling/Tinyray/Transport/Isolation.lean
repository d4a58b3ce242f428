import Tinyray.Transport.Traffic

/-!
# Calls on one connection do not disturb each other

Entries of the table, queued commands and replies are tied together by the
request id alone.  As long as an id is registered again only after the
earlier calls with it are over and none of their frames is left in the queue,
a reply reaches the call whose frame it answers.

Without this condition a frame left behind by a timed out call is written for
the next call with the same id, and its reply is delivered to that call.
-/

namespace Tinyray.Transport

open Std Foundation

/-- The command not yet begun. -/
def Writer.waiting : Writer → List WriteCommand
  | .held command => [command]
  | .idle | .writing _ | .wrote _ | .finished => []

/--
What a call may bring about by its timeout, its cancellation or its end: its
frame is cut off, too many replies are still to come for abandoned calls, one
connection more is idle than may be, or its blobs cannot be acknowledged.
-/
def Poison.byCall : Poison → Bool
  | .writeFailed | .timedOut | .overflowed | .idleCap | .ackFailed => true
  | .unknownReply _ | .writerStopped | .reader _ | .idleExpired
  | .poolClosed => false

namespace ClientConnection

/-- The commands that will be marked by request id. -/
def unmarked (connection : ClientConnection) : List WriteCommand :=
  connection.outbound ++ connection.writer.waiting

/--
An id is registered only when no other call with it can still leave the table
and no frame of such a call is still queued.
-/
def freshIds (connection : ClientConnection) : Action → Bool
  | .register call =>
    match connection.calls[call]? with
    | none => true
    | some current =>
      connection.taken current.requestId ||
        (connection.calls.toList.all fun entry =>
          entry.1 == call || entry.2.requestId != current.requestId || !entry.2.engaged) &&
        connection.unmarked.all fun command =>
          !command.tracked || command.requestId != current.requestId
  | _ => true

/-- Taking an entry out does not close the connection. -/
def leavesOpen (connection : ClientConnection) (requestId : String)
    (full : Bool) : Bool :=
  connection.pending[requestId]?.all fun entry =>
    let removed := connection.takeOut requestId entry
    removed.abandoned.size ≤ maxAbandonedPerConnection && !(removed.markIdle full).2

/--
No call closes a connection that is open: none runs into its deadline while
its frame is written, and none is one abandoned call, one idle connection or
one acknowledgement too many when it leaves.
-/
def gentle (connection : ClientConnection) (action : Action) : Bool :=
  connection.poisoned || match action with
    | .withdraw call full | .strike call full =>
      connection.calls[call]?.all fun current => connection.leavesOpen current.requestId full
    | .timeout call full =>
      connection.calls[call]?.all fun current =>
        connection.leavesOpen current.requestId full &&
          connection.pending[current.requestId]?.all fun entry => entry.progress ≠ .writing
    -- the writer has met an error, or the deadline of the call
    | .fail => false
    | .read full =>
      match connection.inbound with
      | [] => true
      | reply :: rest =>
        let routed := { connection with inbound := rest }.routed reply
        !(routed.markIdle full).2
    | .release requestId full =>
      !({ connection with
          guardedReplies := connection.guardedReplies.erase requestId }.markIdle full).2
    | .acknowledge _ =>
      connection.outbound.length < maxInflightPerConnection && connection.writer ≠ .finished
    | _ => true

/-! ## Who may stand under a request id -/

/-- Nobody else is registered under the request id. -/
def Exclusive (pending : ExtTreeMap String PendingCall)
    (requestId : String) (call : Nat) : Prop :=
  ∀ entry, pending[requestId]? = some entry → entry.sender = call

variable {requestId other : String} {call : Nat} {current moved : Call}
  {reply : RpcReply} {rest : List RpcReply} {entry : PendingCall}
  {action : Action} {full : Bool}

theorem Exclusive.fewer
    {before after : ExtTreeMap String PendingCall} (exclusive : Exclusive before requestId call)
    (fewer : Fewer before after) :
    Exclusive after requestId call := by
  intro entry present
  rcases fewer requestId entry present with ⟨old, found, same⟩
  exact same.symm.trans (exclusive old found)

/-- The server has the frame of the call, or is about to get it. -/
def Expected (connection : ClientConnection) (call : Nat) : Prop :=
  (∃ command, connection.writer = .writing command ∧ command.frame = .request call) ∨
    0 < connection.awaited call

/-- A reply to the call cannot reach anybody else. -/
def Holds (connection : ClientConnection) (requestId : String)
    (call : Nat) : Prop :=
  (∃ entry, connection.pending[requestId]? = some entry ∧
    entry.sender = call ∧ entry.progress ≠ .queued) ∨
  connection.pending[requestId]? = none ∧
    (connection.abandoned[requestId]? = some call ∨ connection.poisoned = true)

/-- The invariant of a connection. -/
structure Isolated (connection : ClientConnection) : Prop where
  engaged :
    ∀ (call : Nat) (current : Call),
      connection.calls[call]? = some current →
        current.engaged = true → Exclusive connection.pending current.requestId call
  queued :
    ∀ command ∈ connection.unmarked, ∀ call,
      command.frame = .request call → Exclusive connection.pending command.requestId call
  expected :
    ∀ (call : Nat) (current : Call),
      connection.calls[call]? = some current →
        connection.Expected call → connection.Holds current.requestId call
  delivered :
    ∀ (call : Nat) (reply : RpcReply),
      connection.oneshots[call]? = some (some (.reply reply)) → reply.origin = call
  ended :
    ∀ (call : Nat) (current : Call) (reply : RpcReply),
      connection.calls[call]? = some current →
        current.phase = .ended (.reply reply) → reply.origin = call

theorem isolated_new : Isolated {} :=
  ⟨by simp, by simp [unmarked, Writer.waiting], by simp, by simp, by simp⟩

variable {connection next : ClientConnection}

theorem Holds.sender
    (holds : connection.Holds requestId call)
    (present : connection.pending[requestId]? = some entry) : entry.sender = call := by
  rcases holds with ⟨mine, registered, sender, _⟩ | ⟨none, _⟩
  · rw [present] at registered
    cases registered
    exact sender
  · rw [present] at none
    cases none

theorem Holds.left
    (holds : connection.Holds requestId call) (absent : connection.pending[requestId]? = none) :
    connection.abandoned[requestId]? = some call ∨ connection.poisoned = true := by
  rcases holds with ⟨mine, registered, _⟩ | ⟨_, left⟩
  · rw [absent] at registered
    cases registered
  · exact left

theorem Holds.taken (holds : connection.Holds requestId call) :
    connection.taken requestId = true := by
  simp only [ClientConnection.taken, Bool.or_eq_true, ExtTreeMap.contains_eq_isSome_getElem?]
  rcases holds with ⟨entry, registered, _⟩ | ⟨_, left | poisoned⟩
  · simp [registered]
  · simp [left]
  · simp [poisoned]

theorem Exclusive.insert_ne
    {pending : ExtTreeMap String PendingCall} (exclusive : Exclusive pending requestId call)
    (apart : requestId ≠ other) (entry : PendingCall) :
    Exclusive (pending.insert other entry) requestId call := by
  intro found present
  rw [getElem?_insert_ne (Ne.symm apart)] at present
  exact exclusive found present

theorem mem_commands_of_unmarked
    {command : WriteCommand} (listed : command ∈ connection.unmarked) :
    command ∈ connection.commands := by
  simp only [unmarked, ClientConnection.commands, List.mem_append] at listed ⊢
  refine listed.imp_right ?_
  intro held
  cases busy : connection.writer <;> simp_all [Writer.waiting, Writer.commands]

theorem Counted.sent_of_expected
    (counted : connection.Counted) (expected : connection.Expected call) :
    Sent connection.calls call := by
  by_contra unsent
  have none := counted.unsent call unsent
  rcases expected with ⟨command, writing, frame⟩ | awaited
  · simp [carried, writing, Writer.unwritten, frame] at none
  · have answers := counted.answers call
    unfold carried at none
    omega

/-! ## Steps that leave the table alone -/

/-- Quiet steps keep isolation. -/
theorem Isolated.quiet
    (isolated : connection.Isolated) (quiet : Quiet connection next) :
    next.Isolated where
  engaged := by
    rw [quiet.calls, quiet.pending]
    exact isolated.engaged
  queued := by
    rcases quiet.outbound with ⟨acks, queue, untracked⟩
    intro command listed call frame
    rw [quiet.pending]
    simp only [unmarked, queue, quiet.writer, List.mem_append] at listed
    rcases listed with (old | ack) | held
    · exact isolated.queued command (List.mem_append_left _ old) call frame
    · rcases (untracked command ack).2 with ⟨id, same⟩
      rw [frame] at same
      cases same
    · exact isolated.queued command (List.mem_append_right _ held) call frame
  expected := by
    simp only [Expected, Holds, awaited, quiet.calls, quiet.writer,
      quiet.unanswered, quiet.inbound, quiet.pending, quiet.abandoned, quiet.poisoned]
    exact isolated.expected
  delivered := by
    rw [quiet.oneshots]
    exact isolated.delivered
  ended := by
    rw [quiet.calls]
    exact isolated.ended

/-- A call may move on. -/
theorem Isolated.setCall
    (isolated : connection.Isolated) (found : connection.calls[call]? = some current)
    (requestId : moved.requestId = current.requestId)
    (engaged : moved.engaged = true → current.engaged = true)
    (ended : ∀ reply, moved.phase = .ended (.reply reply) → reply.origin = call) :
    (connection.setCall call moved).Isolated where
  engaged := by
    intro other seen present active
    rcases getElem?_insert_cases present with ⟨rfl, rfl⟩ | ⟨_, before⟩
    · rw [requestId]
      exact isolated.engaged call current found (engaged active)
    · exact isolated.engaged other seen before active
  queued := isolated.queued
  expected := by
    intro other seen present expected
    rcases getElem?_insert_cases present with ⟨rfl, rfl⟩ | ⟨_, before⟩
    · rw [requestId]
      exact isolated.expected call current found expected
    · exact isolated.expected other seen before expected
  delivered := isolated.delivered
  ended := by
    intro other seen reply present phase
    rcases getElem?_insert_cases present with ⟨rfl, rfl⟩ | ⟨_, before⟩
    · exact ended reply phase
    · exact isolated.ended other seen reply before phase

/-- A call may reserve a slot. -/
theorem Isolated.reserve
    (isolated : connection.Isolated) (counted : connection.Counted)
    {call : Nat} (fresh : connection.calls[call]? = none) (requestId : String) :
    (connection.setCall call { requestId := requestId }).Isolated where
  engaged := by
    intro other seen present active
    rcases getElem?_insert_cases present with ⟨rfl, rfl⟩ | ⟨_, before⟩
    · cases active
    · exact isolated.engaged other seen before active
  queued := isolated.queued
  expected := by
    intro other seen present expected
    rcases getElem?_insert_cases present with ⟨rfl, rfl⟩ | ⟨_, before⟩
    · rcases counted.sent_of_expected expected with ⟨_, known, _⟩
      rw [fresh] at known
      cases known
    · exact isolated.expected other seen before expected
  delivered := isolated.delivered
  ended := by
    intro other seen reply present phase
    rcases getElem?_insert_cases present with ⟨rfl, rfl⟩ | ⟨_, before⟩
    · cases phase
    · exact isolated.ended other seen reply before phase

/-! ## Leaving the table -/

/-- A call may leave the table. -/
theorem Isolated.without
    (isolated : connection.Isolated) (requestId : String) :
    (connection.without requestId).Isolated := by
  have fewer := without_fewer connection requestId
  unfold ClientConnection.without at fewer ⊢
  cases present : connection.pending[requestId]? with
  | none => exact isolated
  | some entry =>
    simp only [present] at fewer
    refine
      { engaged := fun call current found active =>
          (isolated.engaged call current found active).fewer fewer
        queued := fun command listed call frame =>
          (isolated.queued command listed call frame).fewer fewer
        expected := ?_
        delivered := ?_
        ended := isolated.ended }
    · intro call current found expected
      have holds := isolated.expected call current found expected
      simp only [Holds, takeOut, ExtTreeMap.getElem?_erase]
      by_cases here : requestId = current.requestId
      · -- the entry was the call's own, and has been marked
        subst here
        rcases holds with ⟨own, registered, sender, marked⟩ | ⟨none, _⟩
        · rw [present] at registered
          cases registered
          right
          simp [marked, sender]
        · rw [present] at none
          cases none
      · simp only [Std.compare_eq_iff_eq, here, if_false]
        rcases holds with own | ⟨none, elsewhere⟩
        · exact Or.inl own
        · refine Or.inr ⟨none, ?_⟩
          rcases elsewhere with left | poisoned
          · left
            split
            · exact left
            · simp [ExtTreeMap.getElem?_insert, here, left]
          · exact Or.inr poisoned
    · intro call reply sent
      rcases getElem?_insert_cases sent with ⟨_, message⟩ | ⟨_, sent⟩
      · cases message
      · exact isolated.delivered call reply sent

/-- A reply comes once. -/
theorem Counted.not_expected_again
    (counted : connection.Counted) (queue : connection.inbound = reply :: rest) :
    ¬ Expected { connection with inbound := rest } reply.origin := by
  have once := counted.once reply.origin
  have answers := counted.answers reply.origin
  simp only [awaited, queue, List.map_cons, List.count_cons_self] at answers
  rintro (⟨command, writing, frame⟩ | again)
  · simp only at writing
    simp only [carried, writing, Writer.unwritten, frame,
      List.count_cons_self, List.count_nil] at once
    omega
  · simp only [awaited] at again
    unfold carried at once
    omega

theorem expected_of_rest
    (queue : connection.inbound = reply :: rest)
    (expected : Expected { connection with inbound := rest } call) :
    connection.Expected call := by
  rcases expected with writing | awaits
  · exact Or.inl writing
  · right
    simp only [awaited, queue, List.map_cons, List.count_cons] at awaits ⊢
    omega

/-- A reply finds its own call. -/
theorem Isolated.holds_reply
    (isolated : connection.Isolated) (known : connection.Known)
    (queue : connection.inbound = reply :: rest) :
    connection.Holds reply.requestId reply.origin := by
  have listed : reply ∈ connection.inbound := by
    rw [queue]
    exact List.mem_cons_self
  rcases known.replies reply listed with ⟨current, found, named⟩
  rw [← named]
  apply isolated.expected _ current found
  right
  simp only [awaited, queue, List.map_cons, List.count_cons_self]
  omega

/-- A reply may be given to its call. -/
theorem Isolated.complete
    (isolated : connection.Isolated) (counted : connection.Counted) (known : connection.Known)
    (queue : connection.inbound = reply :: rest)
    (present : connection.pending[reply.requestId]? = some entry) :
    (complete { connection with inbound := rest } reply entry).Isolated := by
  have sender := (isolated.holds_reply known queue).sender present
  have fewer := routed_fewer { connection with inbound := rest } reply
  simp only [ClientConnection.routed, present] at fewer
  refine
    { engaged := fun call current found active =>
        (isolated.engaged call current found active).fewer fewer
      queued := fun command listed call frame =>
        (isolated.queued command listed call frame).fewer fewer
      expected := ?_
      delivered := ?_
      ended := isolated.ended }
  · intro call current found expected
    have holds := isolated.expected call current found (expected_of_rest queue expected)
    have apart : reply.requestId ≠ current.requestId := by
      intro here
      rw [← here] at holds
      rw [← holds.sender present, sender] at expected
      exact counted.not_expected_again queue expected
    simpa [Holds, ClientConnection.complete, ExtTreeMap.getElem?_erase, apart] using holds
  · intro call other sent
    rcases getElem?_insert_cases sent with ⟨same, message⟩ | ⟨_, sent⟩
    · cases message
      rw [← same, sender]
    · exact isolated.delivered call other sent

/-- A reply may come too late. -/
theorem Isolated.forget
    (isolated : connection.Isolated) (counted : connection.Counted) (known : connection.Known)
    (queue : connection.inbound = reply :: rest)
    (absent : connection.pending[reply.requestId]? = none) :
    (forget { connection with inbound := rest } reply.requestId).Isolated := by
  refine { isolated with expected := ?_ }
  intro call current found expected
  have holds := isolated.expected call current found (expected_of_rest queue expected)
  simp only [Holds, ClientConnection.forget, ExtTreeMap.getElem?_erase]
  by_cases here : reply.requestId = current.requestId
  · -- another call's frame can only wait here if all is over
    rw [← here] at holds ⊢
    refine Or.inr ⟨absent, Or.inr ?_⟩
    rcases holds.left absent with left | poisoned
    · rcases (isolated.holds_reply known queue).left absent with ownLeft | poisoned
      · rw [left] at ownLeft
        rw [Option.some.inj ownLeft] at expected
        exact absurd expected (counted.not_expected_again queue)
      · exact poisoned
    · exact poisoned
  · simp only [Std.compare_eq_iff_eq, here, if_false]
    exact holds

/-- A reply may be routed. -/
theorem Isolated.read
    {reply : RpcReply} {rest : List RpcReply}
    (isolated : connection.Isolated) (counted : connection.Counted) (known : connection.Known)
    (queue : connection.inbound = reply :: rest) :
    (routed { connection with inbound := rest } reply).Isolated := by
  unfold ClientConnection.routed
  cases present : connection.pending[reply.requestId]? with
  | some entry => exact isolated.complete counted known queue present
  | none => exact isolated.forget counted known queue present

/-! ## Entering the table -/

/-- What a fresh id means. -/
theorem freshIds_register
    (found : connection.calls[call]? = some current)
    (free : connection.taken current.requestId = false)
    (fresh : connection.freshIds (.register call) = true) :
    (∀ (other : Nat) (seen : Call),
      connection.calls[other]? = some seen → other ≠ call →
        seen.engaged = true → seen.requestId ≠ current.requestId) ∧
      ∀ command ∈ connection.unmarked, command.tracked = true →
        command.requestId ≠ current.requestId := by
  simp only [freshIds, found, free, Bool.false_or, Bool.and_eq_true, List.all_eq_true] at fresh
  constructor
  · intro other seen present apart active
    have entry := fresh.1 (other, seen) (ExtTreeMap.mem_toList_iff_getElem?_eq_some.mpr present)
    simpa [apart, active] using entry
  · intro command listed tracked
    simpa [tracked] using fresh.2 command listed

theorem not_taken (free : connection.taken requestId = false) :
    connection.pending[requestId]? = none ∧ connection.abandoned[requestId]? = none ∧
      connection.poisoned = false := by
  simp only [taken, Bool.or_eq_false_iff,
    ExtTreeMap.contains_eq_isSome_getElem?, Option.isSome_eq_false_iff,
    Option.isNone_iff_eq_none] at free
  exact ⟨free.1.2, free.2, free.1.1⟩

/-- A call may enter the table. -/
theorem Isolated.enter
    {call : Nat} {current : Call} (isolated : connection.Isolated) (known : connection.Known)
    (found : connection.calls[call]? = some current)
    (free : connection.taken current.requestId = false)
    (fresh : connection.freshIds (.register call) = true) :
    Isolated
      ({ connection with
          pending :=
            connection.pending.insert current.requestId
              { sender := call, progress := .queued } }.setCall call
        { current with phase := .registered }) := by
  rcases freshIds_register found free fresh with ⟨alone, unqueued⟩
  refine
    { engaged := ?_
      queued := ?_
      expected := ?_
      delivered := isolated.delivered
      ended := ?_ }
  · intro other seen present active
    rcases getElem?_insert_cases present with ⟨rfl, rfl⟩ | ⟨different, before⟩
    · intro entry registered
      simp only [ClientConnection.setCall, ExtTreeMap.getElem?_insert_self] at registered
      cases registered
      rfl
    · exact
        (isolated.engaged other seen before active).insert_ne
          (alone other seen before different.symm active) _
  · intro command listed other frame
    have belongs := known.commands command (mem_commands_of_unmarked listed)
    exact
      (isolated.queued command listed other frame).insert_ne
        (unqueued command listed (belongs.named frame).1) _
  · -- no reply is expected under a free id
    intro other seen present expected
    have held :
        ∃ before, connection.calls[other]? = some before ∧ before.requestId = seen.requestId := by
      rcases getElem?_insert_cases present with ⟨rfl, rfl⟩ | ⟨_, before⟩
      · exact ⟨current, found, rfl⟩
      · exact ⟨seen, before, rfl⟩
    rcases held with ⟨before, known, same⟩
    have holds := isolated.expected other before known expected
    rw [same] at holds
    have apart : current.requestId ≠ seen.requestId := by
      intro here
      rw [here, holds.taken] at free
      cases free
    simpa [Holds, ClientConnection.setCall, ExtTreeMap.getElem?_insert, apart] using holds
  · intro other seen reply present phase
    rcases getElem?_insert_cases present with ⟨rfl, rfl⟩ | ⟨_, before⟩
    · cases phase
    · exact isolated.ended other seen reply before phase

/-! ## Frames on their way -/

/-- A request may be queued. -/
theorem Isolated.send
    {call : Nat} {current : Call} (isolated : connection.Isolated)
    (found : connection.calls[call]? = some current) (phase : current.phase = .armed) :
    Isolated
      (ClientConnection.setCall
        { connection with
          outbound :=
            connection.outbound ++
              [{ requestId := current.requestId
                 frame := .request call
                 tracked := true }] } call
        { current with phase := .waiting }) := by
  have active : current.engaged = true := by
    simp [Call.engaged, Phase.active, phase]
  have moved :
      (connection.setCall call
        { current with phase := .waiting }).Isolated :=
    isolated.setCall found rfl (fun _ => active) (by simp)
  refine { moved with queued := ?_ }
  intro command listed other frame
  simp only [unmarked, ClientConnection.setCall, List.mem_append, List.mem_singleton] at listed
  rcases listed with (old | rfl) | held
  · exact isolated.queued command (List.mem_append_left _ old) other frame
  · cases frame
    exact isolated.engaged call current found active
  · exact isolated.queued command (List.mem_append_right _ held) other frame

variable {command : WriteCommand} {progress : WriteProgress}
  {middle : ClientConnection}

theorem unmarked_of_busy
    (listed : command ∈ next.unmarked) (busy : next.writer.waiting = [])
    (outbound : next.outbound = connection.outbound) :
    command ∈ connection.unmarked := by
  rw [unmarked, busy, outbound, List.append_nil] at listed
  exact List.mem_append_left _ listed

/-- Fewer entries keep isolation. -/
theorem Isolated.of_fewer
    (isolated : connection.Isolated) (calls : next.calls = connection.calls)
    (fewer : Fewer connection.pending next.pending)
    (unmarked : ∀ command ∈ next.unmarked, command ∈ connection.unmarked)
    (expected :
      ∀ (call : Nat) (current : Call),
        connection.calls[call]? = some current → next.Expected call →
          next.Holds current.requestId call)
    (delivered :
      ∀ (call : Nat) (reply : RpcReply),
        next.oneshots[call]? = some (some (.reply reply)) → reply.origin = call) :
    next.Isolated where
  engaged := by
    rw [calls]
    exact fun call current found active => (isolated.engaged call current found active).fewer fewer
  queued := fun command listed call frame =>
    (isolated.queued command (unmarked command listed) call frame).fewer fewer
  expected := by
    rw [calls]
    exact expected
  delivered := delivered
  ended := by
    rw [calls]
    exact isolated.ended

/-- A mark leaves others alone. -/
theorem Holds.setProgress
    (present : connection.pending[requestId]? = some entry)
    (marked : progress ≠ .queued) (holds : connection.Holds other call) (writer : Writer) :
    Holds
      { connection with
        pending :=
          connection.pending.insert requestId
            { entry with progress := progress }
        writer := writer } other call := by
  by_cases here : requestId = other
  · subst here
    left
    simp [holds.sender present, marked]
  · unfold Holds at holds ⊢
    simp only [ExtTreeMap.getElem?_insert, Std.compare_eq_iff_eq, here, if_false]
    exact holds

/-- The writer marks an entry. -/
theorem Isolated.mark
    (isolated : connection.Isolated) (known : connection.Known)
    (held : connection.writer = .held command)
    (present : connection.pending[command.requestId]? = some entry) :
    Isolated
      { connection with
        pending :=
          connection.pending.insert command.requestId
            { entry with progress := .writing }
        writer := .writing command } := by
  have listed : command ∈ connection.unmarked := by
    simp [unmarked, held, Writer.waiting]
  refine isolated.of_fewer rfl (fewer_insert present _) ?_ ?_ isolated.delivered
  · exact fun _ queued => unmarked_of_busy queued rfl rfl
  · rintro call current found (⟨busy, writing, frame⟩ | awaited)
    · -- the frame is marked under its own call
      cases writing
      rw [((known.held held).named frame).2.eq found]
      left
      exact
        ⟨_, ExtTreeMap.getElem?_insert_self,
          isolated.queued command listed call frame entry present, by simp⟩
    · exact (isolated.expected call current found (Or.inr awaited)).setProgress present (by simp) _

/-- Poison keeps isolation. -/
theorem Isolated.drain
    {cause : Poison} (isolated : connection.Isolated)
    (known : connection.Known) (won : connection.draining = some cause) :
    (connection.drain cause).Isolated := by
  refine isolated.of_fewer rfl ?_ (fun _ => id) ?_ ?_
  · intro requestId entry present
    simp [ClientConnection.drain] at present
  · intro call current found expected
    refine Or.inr ⟨?_, Or.inr (known.drained cause won)⟩
    simp [ClientConnection.drain]
  · intro call reply sent
    rcases getElem?_drain_oneshots sent with before | ⟨_, _, _, _, error⟩
    · exact isolated.delivered call reply before
    · cases error

/-- A call may advance. -/
theorem Isolated.advance
    (isolated : connection.Isolated) (found : connection.calls[call]? = some current)
    (advances : Advances connection call current moved) (quiet : Quiet connection middle) :
    (middle.setCall call moved).Isolated := by
  have present := found
  rw [← quiet.calls] at found
  refine (isolated.quiet quiet).setCall found advances.follows.requestId advances.engaged ?_
  intro reply phase
  cases advances with
  | refused reserved => cases phase
  | cancelled registered | armed registered => cases phase
  | @received message waiting sent =>
    cases message with
    | none => cases phase
    | some outcome =>
      simp only [Option.getD_some, Phase.ended.injEq] at phase
      rw [phase] at sent
      exact isolated.delivered call reply sent
  | cleared ended | requested =>
    exact isolated.ended call current reply present phase
  | dropped waiting => cases phase

/-- A call may be taken out. -/
theorem Isolated.take
    {action : Action} {call : Nat} {current moved : Call}
    {middle : ClientConnection} (isolated : connection.Isolated)
    (found : connection.calls[call]? = some current)
    (takes : Takes connection action call current moved)
    (quiet : Quiet (connection.without current.requestId) middle) :
    (middle.setCall call moved).Isolated := by
  have present := found
  rw [← quiet.calls.trans (without_calls _)] at found
  refine
    ((isolated.without _).quiet quiet).setCall found
      takes.follows.requestId (fun _ => takes.engaged) ?_
  intro reply phase
  cases takes with
  | withdrawn cancelled | timedOut waiting => cases phase
  | struck target =>
    exact isolated.ended call current reply present phase

/-- The writer writes. -/
theorem Isolated.write
    {command : WriteCommand} (isolated : connection.Isolated)
    (writing : connection.writer = .writing command) :
    Isolated
      { connection with
        writer := .wrote command
        socket := connection.socket ++ [command.frame]
        unanswered := connection.unanswered ++ command.frame.call.toList } := by
  refine isolated.of_fewer rfl (.refl _) ?_ ?_ isolated.delivered
  · exact fun _ queued => unmarked_of_busy queued rfl rfl
  · rintro call current found (⟨_, again, _⟩ | awaits)
    · cases again
    · refine isolated.expected call current found ?_
      by_cases own : command.frame = .request call
      · exact Or.inl ⟨command, writing, own⟩
      · right
        simp only [awaited, List.count_append, count_call,
          List.count_singleton, beq_iff_eq, own, if_false] at awaits ⊢
        exact awaits

/-- The peer answers. -/
theorem Isolated.answer
    {call : Nat} (isolated : connection.Isolated)
    (waiting : call ∈ connection.unanswered) {reply : RpcReply} (origin : reply.origin = call) :
    Isolated
      { connection with
        unanswered := connection.unanswered.erase call
        inbound := connection.inbound ++ [reply] } := by
  refine isolated.of_fewer rfl (.refl _) (fun _ => id) ?_ isolated.delivered
  rintro other seen present (writing | awaits)
  · exact isolated.expected other seen present (Or.inl writing)
  · refine isolated.expected other seen present (Or.inr ?_)
    simp only [awaited, List.map_append, List.map_cons, List.map_nil,
      List.count_append, List.count_singleton, List.count_erase, beq_iff_eq, origin] at awaits ⊢
    split_ifs at awaits with same
    · subst same
      have occurs := List.count_pos_iff.mpr waiting
      omega
    · omega

/-- One step keeps isolation. -/
theorem Effect.isolated
    (effect : Effect connection action next)
    (counted : connection.Counted) (known : connection.Known)
    (fresh : connection.freshIds action = true) (isolated : connection.Isolated) :
    next.Isolated := by
  cases effect with
  | quiet quiet => exact isolated.quiet quiet
  | reserve absent quiet =>
    rw [← quiet.calls] at absent
    exact (isolated.quiet quiet).reserve (counted.quiet quiet) absent _
  | advance found advances quiet =>
    exact isolated.advance found advances quiet
  | enter found phase free =>
    exact isolated.enter known found free fresh
  | take found takes quiet => exact isolated.take found takes quiet
  | send found phase => exact isolated.send found phase
  | unsent found phase quiet =>
    rw [← quiet.calls] at found
    refine (isolated.quiet quiet).setCall found rfl (fun _ => ?_) (by simp)
    simp [Call.engaged, Phase.active, phase]
  | recv idle queue =>
    refine isolated.of_fewer rfl (.refl _) ?_ ?_ isolated.delivered
    · intro command listed
      simp only [unmarked, queue, idle, Writer.waiting, List.mem_append,
        List.mem_cons, List.not_mem_nil, or_false] at listed ⊢
      exact listed.symm
    · rintro call current found (⟨_, writing, _⟩ | awaited)
      · cases writing
      · exact isolated.expected call current found (Or.inr awaited)
  | mark held tracked present =>
    exact isolated.mark known held present
  | @begin command held tracked =>
    refine isolated.of_fewer rfl (.refl _) ?_ ?_ isolated.delivered
    · exact fun _ queued => unmarked_of_busy queued rfl rfl
    · rintro call current found (⟨busy, writing, frame⟩ | awaited)
      · cases writing
        rw [((known.held held).named frame).1] at tracked
        cases tracked
      · exact isolated.expected call current found (Or.inr awaited)
  | write writing => exact isolated.write writing
  | settle wrote tracked present =>
    refine isolated.of_fewer rfl (fewer_insert present _) ?_ ?_ isolated.delivered
    · exact fun _ queued => unmarked_of_busy queued rfl rfl
    · rintro call current found (⟨_, again, _⟩ | awaited)
      · cases again
      · exact
          (isolated.expected call current found (Or.inr awaited)).setProgress present (by simp) _
  | skip held | rest wrote absent | halt idle | fail writing =>
    refine isolated.of_fewer rfl (.refl _) ?_ ?_ isolated.delivered
    · exact fun _ queued => unmarked_of_busy queued rfl rfl
    · rintro call current found (⟨_, again, _⟩ | awaited)
      · cases again
      · exact isolated.expected call current found (Or.inr awaited)
  | answer found waiting => exact isolated.answer waiting rfl
  | read queue quiet =>
    exact (isolated.read counted known queue).quiet quiet
  | swap called =>
    refine isolated.of_fewer rfl (.refl _) (fun _ => id) ?_ isolated.delivered
    intro call current found expected
    rcases isolated.expected call current found expected with own | ⟨none, _⟩
    · exact Or.inl own
    · exact Or.inr ⟨none, Or.inr rfl⟩
  | drain won => exact isolated.drain known won

/-! ## Who closes a connection -/

/-- No timeout, cancellation or end of a call is closing the connection. -/
structure Unprovoked (connection : ClientConnection) : Prop where
  poisoning : connection.poisoned = false → ∀ cause ∈ connection.poisoning, cause.byCall = false
  draining : ∀ cause, connection.draining = some cause → cause.byCall = false

/-- One more reason to close the connection is not a call's. -/
theorem Unprovoked.more
    (unprovoked : connection.Unprovoked) (poisoned : next.poisoned = connection.poisoned)
    (draining : next.draining = connection.draining)
    (poisoning :
      connection.poisoned = false →
        ∀ cause ∈ next.poisoning, cause ∈ connection.poisoning ∨ cause.byCall = false) :
    next.Unprovoked where
  poisoning isOpen cause asked := by
    rw [poisoned] at isOpen
    rcases poisoning isOpen cause asked with before | other
    · exact unprovoked.poisoning isOpen cause before
    · exact other
  draining cause won := unprovoked.draining cause (draining ▸ won)

theorem Unprovoked.poison
    (unprovoked : connection.Unprovoked) (cause : Poison) (other : cause.byCall = false) :
    (connection.poison cause).Unprovoked := by
  refine unprovoked.more rfl rfl fun _ asking asked => ?_
  rcases List.mem_append.mp asked with before | added
  · exact Or.inl before
  · rw [List.mem_singleton.mp added]
    exact Or.inr other

/-- A step that asks for nothing keeps a connection unprovoked. -/
theorem Unprovoked.quiet
    (unprovoked : connection.Unprovoked) (quiet : Quiet middle next)
    (poisoned : middle.poisoned = connection.poisoned)
    (draining : middle.draining = connection.draining)
    (poisoning : connection.poisoned = false → next.poisoning = connection.poisoning) :
    next.Unprovoked :=
  unprovoked.more (quiet.poisoned.trans poisoned)
    (quiet.draining.trans draining)
    fun isOpen _ asked => Or.inl (poisoning isOpen ▸ asked)

@[simp]
theorem markIdle_poisoning (connection : ClientConnection) (full : Bool) :
    (connection.markIdle full).1.poisoning = connection.poisoning := by
  unfold markIdle
  split_ifs <;> rfl

/-- An entry that is taken out gently asks for nothing. -/
theorem abandon_poisoning
    (spared : connection.leavesOpen requestId full = true) :
    (connection.abandon requestId full).1.poisoning = connection.poisoning := by
  unfold leavesOpen at spared
  unfold abandon
  cases present : connection.pending[requestId]? with
  | none => rfl
  | some entry =>
    simp only [present, Option.all_some, Bool.and_eq_true,
      decide_eq_true_eq, Bool.not_eq_true'] at spared
    have same : (connection.takeOut requestId entry).poisoning = connection.poisoning := rfl
    simp [spared.2, Nat.not_lt.mpr spared.1, same]

theorem without_fields (connection : ClientConnection) (requestId : String) :
    (connection.without requestId).poisoned = connection.poisoned ∧
      (connection.without requestId).draining = connection.draining := by
  unfold without
  split <;> exact ⟨rfl, rfl⟩

/-- A call that leaves gently keeps the connection unprovoked. -/
theorem Unprovoked.abandon
    (unprovoked : connection.Unprovoked)
    (spared : connection.poisoned = false → connection.leavesOpen requestId full = true) :
    (connection.abandon requestId full).1.Unprovoked :=
  unprovoked.quiet (connection.abandon_quiet requestId full)
    (connection.without_fields requestId).1
    (connection.without_fields requestId).2
    fun isOpen => abandon_poisoning (spared isOpen)

/-- A deadline that does not interrupt a write keeps it unprovoked. -/
theorem Unprovoked.timeOut
    (unprovoked : connection.Unprovoked)
    (spared :
      connection.poisoned = false →
        connection.leavesOpen current.requestId full = true ∧
          ∀ entry, connection.pending[current.requestId]? = some entry →
            entry.progress ≠ .writing) :
    (connection.timeOut call current full).Unprovoked := by
  have left := unprovoked.abandon fun isOpen => (spared isOpen).1
  have before := connection.abandon_found current.requestId full
  unfold ClientConnection.timeOut
  simp only
  split_ifs with writing
  · refine left.more rfl rfl fun isOpen => ?_
    have wasOpen : connection.poisoned = false :=
      ((connection.without_fields _).1.symm.trans
        (connection.abandon_quiet _ full).poisoned.symm).trans isOpen
    rw [before] at writing
    cases present : connection.pending[current.requestId]? with
    | none => simp [present] at writing
    | some entry =>
      have := (spared wasOpen).2 entry present
      cases progress : entry.progress <;>
        simp_all [WriteProgress.found]
  · exact ⟨left.poisoning, left.draining⟩

/-- A reply that is routed gently keeps the connection unprovoked. -/
theorem Unprovoked.route
    (unprovoked : connection.Unprovoked)
    (spared : connection.poisoned = false → ((connection.routed reply).markIdle full).2 = false) :
    (connection.route reply full).Unprovoked := by
  have quiet := connection.route_quiet reply full
  unfold routed at quiet spared
  cases present : connection.pending[reply.requestId]? with
  | some pending =>
    simp only [present] at quiet spared
    refine unprovoked.quiet quiet rfl rfl fun isOpen => ?_
    have same : (connection.complete reply pending).poisoning = connection.poisoning := rfl
    simp [ClientConnection.route, present, spared isOpen, same]
  | none =>
    simp only [present] at quiet spared
    cases abandoned : connection.abandoned[reply.requestId]? with
    | some call =>
      refine unprovoked.quiet quiet rfl rfl fun isOpen => ?_
      have same :
          ((connection.forget reply.requestId).markIdle full).1.poisoning = connection.poisoning :=
        markIdle_poisoning _ full
      simp only [ClientConnection.route, present, abandoned,
        spared isOpen, Bool.false_eq_true, if_false]
      split_ifs <;> exact same
    | none =>
      simp only [ClientConnection.route, present, abandoned]
      have asked := unprovoked.poison (.unknownReply reply.requestId) rfl
      exact ⟨asked.poisoning, asked.draining⟩

/-- Such a guard closes nothing. -/
theorem sendBlobAck_poisoning
    (spared :
      ({ connection with
          guardedReplies := connection.guardedReplies.erase requestId }.markIdle full).2 =
        false) :
    (connection.sendBlobAck requestId full).poisoning = connection.poisoning := by
  unfold sendBlobAck
  simp only [spared, Bool.false_eq_true, if_false]
  split_ifs
  · exact markIdle_poisoning _ full
  · rfl

/-- A gentle step keeps the connection unprovoked. -/
theorem step_unprovoked
    (stepped : connection.step action = some next) (met : connection.gentle action = true)
    (unprovoked : connection.Unprovoked) : next.Unprovoked := by
  have spared (isOpen : connection.poisoned = false) :=
    (Bool.or_eq_true_iff.mp met).resolve_left (by simp [isOpen])
  cases step_stepped stepped with
  | withdraw found phase | strike found target =>
    have left :=
      unprovoked.abandon fun isOpen => by
        simpa only [found, Option.all_some] using spared isOpen
    exact ⟨left.poisoning, left.draining⟩
  | timeout found phase =>
    refine unprovoked.timeOut fun isOpen => ?_
    have := spared isOpen
    simp only [found, Option.all_some, Bool.and_eq_true] at this
    refine ⟨this.1, fun entry present => ?_⟩
    simpa [present] using this.2
  | fail writing =>
    refine ⟨fun isOpen => ?_, unprovoked.draining⟩
    cases spared isOpen
  | @read full reply rest reading queue =>
    have before : ({ connection with inbound := rest } : ClientConnection).Unprovoked :=
      ⟨unprovoked.poisoning, unprovoked.draining⟩
    refine before.route fun isOpen => ?_
    simpa only [queue, Bool.not_eq_true'] using spared isOpen
  | late asked poisoned =>
    exact ⟨fun isOpen => absurd (poisoned.symm.trans isOpen) (by decide), unprovoked.draining⟩
  | @swap cause asked isOpen =>
    refine ⟨fun closed => (by cases closed), ?_⟩
    rintro _ ⟨⟩
    exact unprovoked.poisoning isOpen cause asked
  | drain won => exact ⟨unprovoked.poisoning, fun _ none => by cases none⟩
  | @release requestId full =>
    refine
      unprovoked.quiet (connection.quiet_sendBlobAck requestId full) rfl
        rfl fun isOpen => sendBlobAck_poisoning ?_
    simpa only [Bool.not_eq_true'] using spared isOpen
  | @acknowledge requestId owed =>
    have before :
        ({ connection with acking := connection.acking.erase requestId } :
          ClientConnection).Unprovoked :=
      ⟨unprovoked.poisoning, unprovoked.draining⟩
    have quiet :=
      quiet_queueBlobAck
        { connection with acking := connection.acking.erase requestId }
        requestId
    refine before.quiet quiet rfl rfl fun isOpen => ?_
    have := spared isOpen
    simp only [Bool.and_eq_true, decide_eq_true_eq] at this
    simp [queueBlobAck, trySend, this.1, this.2]
  | unsent found phase =>
    have asked := unprovoked.poison .writerStopped rfl
    exact ⟨asked.poisoning, asked.draining⟩
  | @lose error reading =>
    have asked := unprovoked.poison (.reader error) rfl
    exact ⟨asked.poisoning, asked.draining⟩
  | expire | close => exact unprovoked.poison _ rfl
  | _ => exact ⟨unprovoked.poisoning, unprovoked.draining⟩

theorem unprovoked_new : Unprovoked {} :=
  ⟨fun _ _ asked => (by cases asked), fun _ won => (by cases won)⟩

/-! ## Runs -/

/-- The books and the isolation of every connection in use. -/
structure Sound (connection : ClientConnection) : Prop where
  counted : connection.Counted
  known : connection.Known
  isolated : connection.Isolated

theorem step_counted
    (stepped : connection.step action = some next)
    (counted : connection.Counted) : next.Counted :=
  (step_effect stepped).counted counted

theorem step_sound
    (stepped : connection.step action = some next) (fresh : connection.freshIds action = true)
    (sound : connection.Sound) : next.Sound := by
  have effect := step_effect stepped
  exact
    ⟨effect.counted sound.counted, effect.known sound.known,
      effect.isolated sound.counted sound.known fresh sound.isolated⟩

/-- The ways for a call to leave the table. -/
inductive Leaves (connection : ClientConnection) (call : Nat) : Action → Prop where
  | withdrawn {full : Bool} : Leaves connection call (.withdraw call full)
  | timedOut {full : Bool} : Leaves connection call (.timeout call full)
  | struck {full : Bool} : Leaves connection call (.strike call full)
  | answered {full : Bool} {reply : RpcReply} {rest : List RpcReply} :
      connection.inbound = reply :: rest → reply.origin = call → Leaves connection call (.read full)
  /-- The connection is closed, and not because of a call. -/
  | drained {cause : Poison} :
      connection.draining = some cause → cause.byCall = false → Leaves connection call .drain

/-- The same call is registered under the request id. -/
def Stands (connection : ClientConnection) (requestId : String)
    (call : Nat) : Prop :=
  ∃ entry, connection.pending[requestId]? = some entry ∧ entry.sender = call

theorem Stands.of_pending
    (present : connection.pending[requestId]? = some entry)
    (same : next.pending = connection.pending) :
    next.Stands requestId entry.sender := by
  refine ⟨entry, ?_, rfl⟩
  rw [same]
  exact present

/-- An entry stands beside another. -/
theorem Stands.of_insert
    {marked : PendingCall} (present : connection.pending[requestId]? = some entry)
    (found : connection.pending[other]? = some marked)
    (same :
      next.pending =
        connection.pending.insert other
          { marked with progress := progress }) :
    next.Stands requestId entry.sender := by
  unfold Stands
  rw [same]
  simp only [ExtTreeMap.getElem?_insert]
  by_cases here : other = requestId
  · subst here
    rw [present] at found
    cases found
    simp
  · simp [here, present]

theorem Stands.of_erase
    (present : connection.pending[requestId]? = some entry) (apart : other ≠ requestId)
    (same : next.pending = connection.pending.erase other) :
    next.Stands requestId entry.sender := by
  refine ⟨entry, ?_, rfl⟩
  rw [same, ExtTreeMap.getElem?_erase]
  simp [apart, present]

theorem Takes.leaves
    (takes : Takes connection action call current moved) :
    Leaves connection call action := by
  cases takes with
  | withdrawn phase => exact .withdrawn
  | timedOut phase => exact .timedOut
  | struck target => exact .struck

/-- An entry stands, or its own call leaves. -/
theorem Effect.stands_or_leaves
    (effect : Effect connection action next)
    (sound : connection.Sound) (unprovoked : connection.Unprovoked)
    (present : connection.pending[requestId]? = some entry) :
    next.Stands requestId entry.sender ∨ Leaves connection entry.sender action := by
  cases effect with
  | quiet quiet | reserve _ quiet | advance _ _ quiet
  | unsent _ _ quiet => exact Or.inl (.of_pending present quiet.pending)
  | @enter call current found phase free =>
    refine Or.inl ⟨entry, ?_, rfl⟩
    have apart : current.requestId ≠ requestId := by
      rintro rfl
      rw [(not_taken free).1] at present
      cases present
    simp [setCall, ExtTreeMap.getElem?_insert, apart, present]
  | @take _ call current moved _ found takes quiet =>
    by_cases here : current.requestId = requestId
    · have own := sound.isolated.engaged call current found takes.engaged entry (here ▸ present)
      rw [own]
      exact Or.inr takes.leaves
    · left
      have same := quiet.pending
      unfold without at same
      split at same
      · exact .of_pending present same
      · exact .of_erase present here same
  | mark held tracked found => exact Or.inl (.of_insert present found rfl)
  | settle wrote tracked found =>
    exact Or.inl (.of_insert present found rfl)
  | @read _ reply rest _ queue quiet =>
    by_cases here : reply.requestId = requestId
    · right
      have own := sound.isolated.holds_reply sound.known queue
      exact .answered queue (own.sender (here ▸ present)).symm
    · left
      have same := quiet.pending
      unfold routed at same
      split at same
      · exact .of_erase present here same
      · exact .of_pending present same
  | drain won => exact Or.inr (.drained won (unprovoked.draining _ won))
  | _ => exact Or.inl ⟨entry, present, rfl⟩

/--
Calls on one connection are isolated.  No frame is written twice.  In every
run that registers an id only after the earlier calls with it are over and
their frames have left the queue, a reply is delivered only to the call whose
frame it answers.  If besides no call closes the connection, a step takes a
call out of the table only as its own timeout, cancellation or reply, or by
emptying a connection that is closed for a reason of its own.
-/
theorem calls_are_isolated
    (actions : List Action) (final : ClientConnection)
    (ran : execute ClientConnection.step {} actions = some final) :
    (∀ call, final.socket.count (.request call) ≤ 1) ∧
      (obeys ClientConnection.step ClientConnection.freshIds {} actions = true →
        (∀ (call : Nat) (reply : RpcReply),
          final.oneshots[call]? = some (some (.reply reply)) → reply.origin = call) ∧
        (∀ (call : Nat) (current : Call) (reply : RpcReply),
          final.calls[call]? = some current →
            current.phase = .ended (.reply reply) → reply.origin = call) ∧
        (obeys ClientConnection.step ClientConnection.gentle {} actions = true →
          ∀ (action : Action) (next : ClientConnection) (requestId : String) (entry : PendingCall),
            final.step action = some next →
              final.pending[requestId]? = some entry →
                next.Stands requestId entry.sender ∨ Leaves final entry.sender action)) := by
  constructor
  · intro call
    have counted : final.Counted := execute_preserves step_counted ran counted_new
    have once := counted.once call
    unfold carried at once
    omega
  · intro fresh
    have sound : final.Sound :=
      execute_invariant step_sound ran fresh ⟨counted_new, known_new, isolated_new⟩
    refine ⟨sound.isolated.delivered, sound.isolated.ended, ?_⟩
    intro spared action next requestId entry stepped present
    have unprovoked : final.Unprovoked :=
      execute_invariant step_unprovoked ran spared unprovoked_new
    exact (step_effect stepped).stands_or_leaves sound unprovoked present

/--
A retry under the same id, after the first attempt was answered and while
another call waits.
-/
theorem calls_are_isolated_retried :
    ∃ (final : ClientConnection) (entry : PendingCall),
      execute ClientConnection.step {}
          [.reserve 2 "y", .register 2, .arm 2, .send 2, .recv, .mark,
            .write, .settle, .reserve 0 "x", .register 0, .arm 0, .send 0,
            .recv, .mark, .write, .settle, .answer 0 false false,
            .read false, .receive 0, .clear 0, .reserve 1 "x", .register 1,
            .arm 1, .send 1, .recv, .mark, .write, .settle,
            .answer 1 false false, .read false] = some final ∧
        (final.oneshots[1]?).isSome = true ∧
        (∀ (reply : RpcReply), final.oneshots[1]? = some (some (.reply reply)) → reply.origin = 1) ∧
        final.pending["y"]? = some entry ∧ entry.sender = 2 ∧
        ∀ (action : Action) (next : ClientConnection),
          final.step action = some next →
            next.Stands "y" entry.sender ∨ Leaves final entry.sender action := by
  refine
    ⟨Option.get _ ?_, Option.get _ ?_, (Option.some_get _).symm, ?_, ?_,
      (Option.some_get _).symm, ?_, ?_⟩
  · decide
  · decide
  · decide
  · exact ((calls_are_isolated _ _ (Option.some_get _).symm).2 (by decide)).1 1
  · decide
  · intro action next stepped
    exact
      ((calls_are_isolated _ _ (Option.some_get _).symm).2
        (by decide)).2.2 (by decide) action next "y" _ stepped
        (Option.some_get _).symm

/--
Call `0` times out in the queue behind call `2`, whose frame fills the
socket.  Call `1` takes up its id; the frame of call `0` is written for it,
and call `1` ends with the reply to that frame.  And a call that times out
while its frame is written takes the others with it.
-/
theorem stale_frame_answers_retry :
    (execute ClientConnection.step {}
        [.reserve 2 "y", .register 2, .arm 2, .send 2, .recv, .mark,
          .reserve 0 "x", .register 0, .arm 0, .send 0, .timeout 0 false, .clear 0,
          .reserve 1 "x", .register 1, .arm 1, .send 1,
          .write, .settle, .recv, .mark, .write, .settle,
          .answer 0 false false, .read false, .receive 1]).map
        (fun final =>
          (final.calls[0]?.map Call.phase, final.calls[1]?.map Call.phase, final.socket)) =
      some
        (some (.ended (.error (.notDelivered .notWritten))),
          some
            (.ended
              (.reply
                { requestId := "x"
                  blobRefs := false
                  malformed := false
                  origin := 0 })),
          [.request 2, .request 0]) ∧
    (execute ClientConnection.step {}
        [.reserve 0 "x", .register 0, .arm 0, .send 0, .recv, .mark,
          .reserve 1 "y", .register 1, .arm 1, .send 1,
          .timeout 0 false, .swap .timedOut, .drain]).map
        (fun final => (final.pending.size, final.oneshots[1]?)) =
      some (0, some (some (.error (.notDelivered (.poisoned .timedOut))))) := by
  decide

end ClientConnection

end Tinyray.Transport
