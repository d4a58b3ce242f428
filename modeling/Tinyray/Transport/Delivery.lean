import Tinyray.Transport.Traffic

/-!
# When "not delivered" is true

A call that ends with `NotDelivered` may be sent again without a second
thought.  The outcome is read off the progress mark of the call, which the
writer moves before and after it writes.  While the mark says `writing`, the
frame may already be in the socket, or be written to its end later on.

So the outcome is true in every run in which no call times out while its
frame is being written, and no connection is emptied at such a moment unless
by the writer itself after its write failed.
-/

namespace Tinyray.Transport

open Std Foundation

/-- The frame that is being written, or was written and not yet marked. -/
def Writer.busy : Writer → Option Frame
  | .writing command | .wrote command => some command.frame
  | .idle | .held _ | .finished => none

namespace ClientConnection

/-- Request ids are not used twice. -/
def distinctIds (connection : ClientConnection) : Action → Bool
  | .reserve _ requestId => connection.calls.toList.all fun entry => entry.2.requestId != requestId
  | _ => true

/-- No call is given up as undelivered while its frame is being written. -/
def calm (connection : ClientConnection) : Action → Bool
  | .timeout call _ =>
    match connection.calls[call]? with
    | none => true
    | some current =>
      connection.pending[current.requestId]?.all fun entry => entry.progress != .writing
  | .drain =>
    match connection.draining with
    | none => true
    | some cause =>
      cause == .writeFailed || cause.writingUnknown ||
        connection.pending.toList.all fun entry => entry.2.progress != .writing
  | _ => true

/-- The call was told, or is about to be told, that it was not delivered. -/
def Undelivered (connection : ClientConnection) (call : Nat) : Prop :=
  (∃ cause, connection.oneshots[call]? = some (some (.error (.notDelivered cause)))) ∨
  ∃ current cause,
    connection.calls[call]? = some current ∧ current.phase = .ended (.error (.notDelivered cause))

/-- The frame of the call is not in the socket and never will be. -/
structure Lost (connection : ClientConnection) (call : Nat) : Prop where
  unwritten : Frame.request call ∉ connection.socket
  idle : connection.writer.busy ≠ some (.request call)
  unregistered :
    ∀ (requestId : String) (entry : PendingCall),
      connection.pending[requestId]? = some entry → entry.sender ≠ call
  joined : ∃ current, connection.calls[call]? = some current ∧ current.phase ≠ .reserved

/-- Errors say what became of a frame. -/
structure Truthful (connection : ClientConnection) : Prop where
  distinct :
    ∀ (left right : Nat) (first second : Call),
      connection.calls[left]? = some first →
        connection.calls[right]? = some second → first.requestId = second.requestId → left = right
  queued :
    ∀ (requestId : String) (entry : PendingCall),
      connection.pending[requestId]? = some entry →
        entry.progress = .queued →
          Frame.request entry.sender ∉ connection.socket ∧
            connection.writer.busy ≠ some (.request entry.sender)
  writing :
    ∀ (requestId : String) (entry : PendingCall),
      connection.pending[requestId]? = some entry →
        entry.progress = .writing →
          connection.writer.busy = some (.request entry.sender) ∨
            connection.writer = .finished ∧ Frame.request entry.sender ∉ connection.socket
  failed :
    Poison.writeFailed ∈ connection.poisoning ∨ connection.draining = some .writeFailed →
      connection.writer = .finished
  lost : ∀ call, connection.Undelivered call → connection.Lost call

theorem truthful_new : Truthful {} := ⟨by simp, by simp, by simp, by simp, by simp [Undelivered]⟩

variable {connection next : ClientConnection}
  {call : Nat} {cause : Cause} {current moved : Call} {action : Action}
  {entry : PendingCall} {command : WriteCommand}

theorem Truthful.lost_of_sent
    (truthful : connection.Truthful)
    (sent : connection.oneshots[call]? = some (some (.error (.notDelivered cause)))) :
    connection.Lost call :=
  truthful.lost call (Or.inl ⟨cause, sent⟩)

theorem Truthful.lost_of_ended
    (truthful : connection.Truthful) (found : connection.calls[call]? = some current)
    (phase : current.phase = .ended (.error (.notDelivered cause))) :
    connection.Lost call :=
  truthful.lost call (Or.inr ⟨current, cause, found, phase⟩)

/-! ## A call that is lost stays lost -/

theorem Lost.unregistered_of_fewer
    (lost : connection.Lost call) {pending : ExtTreeMap String PendingCall}
    (fewer : Fewer connection.pending pending) (requestId : String)
    (entry : PendingCall) (present : pending[requestId]? = some entry) :
    entry.sender ≠ call := by
  rcases fewer requestId entry present with ⟨old, found, sender⟩
  rw [← sender]
  exact lost.unregistered requestId old found

/-- A lost request stays lost. -/
theorem Lost.of_fewer
    (lost : connection.Lost call) (later : Later connection.calls next.calls)
    (fewer : Fewer connection.pending next.pending) (socket : next.socket = connection.socket)
    (busy : ∀ frame, next.writer.busy = some frame → connection.writer.busy = some frame) :
    next.Lost call where
  unwritten := by
    rw [socket]
    exact lost.unwritten
  idle := fun writing => lost.idle (busy _ writing)
  unregistered := lost.unregistered_of_fewer fewer
  joined := by
    rcases lost.joined with ⟨current, found, phase⟩
    rcases later call current found with ⟨moved, present, follows⟩
    exact ⟨moved, present, follows.joined phase⟩

theorem Lost.quiet
    (lost : connection.Lost call) (quiet : Quiet connection next) :
    next.Lost call := by
  refine lost.of_fewer ?_ quiet.fewer quiet.socket ?_
  · rw [quiet.calls]
    exact .refl _
  · rw [quiet.writer]
    exact fun _ => id

theorem Lost.setCall
    {other : Nat} (lost : connection.Lost other)
    (later : Later connection.calls (connection.setCall call moved).calls) :
    (connection.setCall call moved).Lost other :=
  lost.of_fewer later (.refl _) rfl fun _ => id

/-- A request not sent is not written. -/
theorem Counted.not_busy
    (counted : connection.Counted) (unsent : connection.carried call = 0) :
    Frame.request call ∉ connection.socket ∧ connection.writer.busy ≠ some (.request call) := by
  have absent : Frame.request call ∉ connection.socket := by
    rw [← List.count_eq_zero]
    unfold carried at unsent
    omega
  refine ⟨absent, ?_⟩
  intro busy
  cases state : connection.writer with
  | writing command =>
    rw [state] at busy
    simp only [Writer.busy, Option.some.injEq] at busy
    simp [carried, state, Writer.unwritten, busy] at unsent
  | wrote command =>
    rw [state] at busy
    have written := counted.wrote command state
    simp only [Writer.busy, Option.some.injEq] at busy
    rw [busy] at written
    exact absent written
  | idle | held | finished =>
    rw [state] at busy
    cases busy

/-- A refused call is lost. -/
theorem Counted.lost_of_refused
    (counted : connection.Counted) (known : connection.Known)
    (found : connection.calls[call]? = some current) (reserved : current.phase = .reserved)
    (joined : moved.phase ≠ .reserved) :
    (connection.setCall call moved).Lost call := by
  have unsent := counted.unsent call (not_sent_of_phase found (by rw [reserved]; rfl))
  rcases counted.not_busy unsent with ⟨unwritten, idle⟩
  refine ⟨unwritten, idle, ?_, moved, ExtTreeMap.getElem?_insert_self, joined⟩
  rintro requestId entry present rfl
  rcases known.senders requestId entry present with ⟨own, same, _, entered⟩
  rw [found] at same
  cases same
  exact entered reserved

/-! ## Steps that leave the progress of calls alone -/

/-- Quiet steps stay truthful. -/
theorem Truthful.quiet
    (truthful : connection.Truthful) (quiet : Quiet connection next) :
    next.Truthful where
  distinct := by
    rw [quiet.calls]
    exact truthful.distinct
  queued := by
    rw [quiet.pending, quiet.socket, quiet.writer]
    exact truthful.queued
  writing := by
    rw [quiet.pending, quiet.socket, quiet.writer]
    exact truthful.writing
  failed := by
    rw [quiet.draining, quiet.writer]
    exact fun reported => truthful.failed (reported.imp_left quiet.poisoning)
  lost := by
    intro call undelivered
    simp only [Undelivered, quiet.oneshots, quiet.calls] at undelivered
    exact (truthful.lost call undelivered).quiet quiet

/-- A call may move on truthfully. -/
theorem Truthful.setCall
    (truthful : connection.Truthful)
    (later : Later connection.calls (connection.setCall call moved).calls)
    (distinct :
      ∀ (other : Nat) (current : Call),
        connection.calls[other]? = some current →
          current.requestId = moved.requestId → other = call)
    (undelivered :
      ∀ cause, moved.phase = .ended (.error (.notDelivered cause)) →
        (connection.setCall call moved).Lost call) :
    (connection.setCall call moved).Truthful where
  distinct := by
    intro left right first second leftFound rightFound same
    rcases getElem?_insert_cases leftFound with ⟨rfl, rfl⟩ | ⟨_, leftBefore⟩ <;>
      rcases getElem?_insert_cases rightFound with ⟨rfl, rfl⟩ | ⟨_, rightBefore⟩
    · rfl
    · exact (distinct right second rightBefore same.symm).symm
    · exact distinct left first leftBefore same
    · exact truthful.distinct left right first second leftBefore rightBefore same
  queued := truthful.queued
  writing := truthful.writing
  failed := truthful.failed
  lost := by
    intro other told
    rcases told with sent | ⟨current, cause, found, phase⟩
    · exact (truthful.lost other (Or.inl sent)).setCall later
    · rcases getElem?_insert_cases found with ⟨rfl, rfl⟩ | ⟨_, before⟩
      · exact undelivered cause phase
      · exact (truthful.lost_of_ended before phase).setCall later

theorem Truthful.moved_distinct
    (truthful : connection.Truthful) (found : connection.calls[call]? = some current)
    (requestId : moved.requestId = current.requestId) :
    ∀ (other : Nat) (seen : Call),
      connection.calls[other]? = some seen → seen.requestId = moved.requestId → other = call :=
  fun other seen present same =>
    truthful.distinct other call seen current present found (same.trans requestId)

/-! ## Leaving the table -/

/-- Fewer entries stay truthful. -/
theorem Truthful.of_sub
    (truthful : connection.Truthful) (calls : next.calls = connection.calls)
    (sub :
      ∀ (requestId : String) (entry : PendingCall),
        next.pending[requestId]? = some entry → connection.pending[requestId]? = some entry)
    (socket : next.socket = connection.socket)
    (writer : next.writer = connection.writer)
    (failed :
      Poison.writeFailed ∈ next.poisoning ∨ next.draining = some .writeFailed →
        connection.writer = .finished)
    (told :
      ∀ (call : Nat) (cause : Cause),
        next.oneshots[call]? = some (some (.error (.notDelivered cause))) → connection.Lost call) :
    next.Truthful where
  distinct := by
    rw [calls]
    exact truthful.distinct
  queued := by
    intro requestId entry present progress
    rw [socket, writer]
    exact truthful.queued requestId entry (sub _ _ present) progress
  writing := by
    intro requestId entry present progress
    rw [socket, writer]
    exact truthful.writing requestId entry (sub _ _ present) progress
  failed := by
    rw [writer]
    exact failed
  lost := by
    intro call undelivered
    have before : connection.Lost call := by
      rcases undelivered with ⟨cause, sent⟩ | ended
      · exact told call cause sent
      · rw [calls] at ended
        exact truthful.lost call (Or.inr ended)
    refine before.of_fewer ?_ ?_ socket ?_
    · rw [calls]
      exact .refl _
    · exact fun requestId entry present => ⟨entry, sub _ _ present, rfl⟩
    · rw [writer]
      exact fun _ => id

theorem Truthful.of_same
    (truthful : connection.Truthful) (calls : next.calls = connection.calls)
    (pending : next.pending = connection.pending) (socket : next.socket = connection.socket)
    (writer : next.writer = connection.writer) (oneshots : next.oneshots = connection.oneshots)
    (failed :
      Poison.writeFailed ∈ next.poisoning ∨ next.draining = some .writeFailed →
        connection.writer = .finished) :
    next.Truthful :=
  truthful.of_sub calls (fun _ _ => pending ▸ id) socket writer failed
    fun _ _ sent => truthful.lost_of_sent (oneshots ▸ sent)

/-- A call may leave the table. -/
theorem Truthful.without
    (truthful : connection.Truthful) (requestId : String) :
    (connection.without requestId).Truthful := by
  unfold ClientConnection.without
  split
  · exact truthful
  · refine
      truthful.of_sub rfl (fun _ _ found => (getElem?_erase_cases found).2)
        rfl rfl truthful.failed ?_
    intro call cause sent
    rcases getElem?_insert_cases sent with ⟨_, told⟩ | ⟨_, sent⟩
    · cases told
    · exact truthful.lost_of_sent sent

/-- A reply may be routed. -/
theorem Truthful.routed
    (truthful : connection.Truthful) (reply : RpcReply) (rest : List RpcReply) :
    (routed { connection with inbound := rest } reply).Truthful := by
  unfold ClientConnection.routed
  split
  · refine
      truthful.of_sub rfl (fun _ _ found => (getElem?_erase_cases found).2)
        rfl rfl truthful.failed ?_
    intro call cause sent
    rcases getElem?_insert_cases sent with ⟨_, told⟩ | ⟨_, sent⟩
    · cases told
    · exact truthful.lost_of_sent sent
  · exact truthful.of_same rfl rfl rfl rfl rfl truthful.failed

/-- It has no other entry. -/
theorem Known.unregistered_without
    (known : connection.Known) (found : connection.calls[call]? = some current) :
    ∀ (requestId : String) (entry : PendingCall),
      (connection.without current.requestId).pending[requestId]? =
          some entry → entry.sender ≠ call := by
  rintro requestId entry present rfl
  rcases without_fewer connection _ requestId entry present with ⟨old, registered, sender⟩
  rcases known.senders requestId old registered with ⟨own, known, named, _⟩
  rw [sender, found] at known
  cases known
  subst named
  unfold ClientConnection.without at present
  rw [registered] at present
  exact (getElem?_erase_cases present).1 rfl

theorem without_writer (connection : ClientConnection) (requestId : String) :
    (connection.without requestId).socket = connection.socket ∧
      (connection.without requestId).writer = connection.writer := by
  unfold without
  split <;> exact ⟨rfl, rfl⟩

/-- Who is told so is lost. -/
theorem Truthful.lost_without
    (truthful : connection.Truthful) (counted : connection.Counted) (known : connection.Known)
    (found : connection.calls[call]? = some current)
    (takes : Takes connection action call current moved) (calm : connection.calm action = true)
    (phase : moved.phase = .ended (.error (.notDelivered cause))) :
    (connection.without current.requestId).Lost call := by
  have away : current.phase ≠ .reserved →
      Frame.request call ∉ connection.socket ∧ connection.writer.busy ≠ some (.request call) →
      (connection.without current.requestId).Lost call := by
    rintro joined ⟨unwritten, idle⟩
    rcases without_writer connection current.requestId with ⟨socket, writer⟩
    refine ⟨?_, ?_, known.unregistered_without found, current, ?_, joined⟩
    · rw [socket]
      exact unwritten
    · rw [writer]
      exact idle
    · rw [without_calls]
      exact found
  cases takes with
  | withdrawn cancelled =>
    refine away (by simp [cancelled]) (counted.not_busy ?_)
    exact counted.unsent call (not_sent_of_phase found (by rw [cancelled]; rfl))
  | @timedOut _ _ full waiting =>
    refine away (by simp [waiting]) ?_
    simp only [Phase.ended.injEq, Outcome.error.injEq, abandon_found] at phase
    simp only [ClientConnection.calm, found] at calm
    cases present : connection.pending[current.requestId]? with
    | none =>
      rw [present] at phase
      cases phase
    | some entry =>
      rw [present] at phase calm
      rcases known.senders _ entry present with ⟨own, sender, named, _⟩
      have same := truthful.distinct _ _ own current sender found named
      subst same
      cases progress : entry.progress with
      | queued =>
        exact truthful.queued _ entry present progress
      | writing => simp [progress] at calm
      | written =>
        simp [progress, WriteProgress.found, timedOutError] at phase
  | struck target =>
    have lost := truthful.lost_of_ended found phase
    rcases lost.joined with ⟨own, present, joined⟩
    rw [found] at present
    cases present
    exact away joined ⟨lost.unwritten, lost.idle⟩

/-- Who is told by poison. -/
theorem undelivered_drain
    {cause : Poison} {call : Nat} (undelivered : (connection.drain cause).Undelivered call) :
    connection.Undelivered call ∨
      ∃ (requestId : String) (entry : PendingCall),
        connection.pending[requestId]? = some entry ∧ entry.sender = call ∧
          ∃ told, cause.error entry.progress = .notDelivered told := by
  rcases undelivered with ⟨told, sent⟩ | ended
  · rcases getElem?_drain_oneshots sent with
      before | ⟨requestId, entry, present, sender, message⟩
    · exact Or.inl (Or.inl ⟨told, before⟩)
    · simp only [Option.some.injEq, Outcome.error.injEq] at message
      exact Or.inr ⟨requestId, entry, present, sender, told, message.symm⟩
  · exact Or.inl (Or.inr ended)

/-- Whom poison tells so was not written. -/
theorem Truthful.untouched
    {cause : Poison} {requestId : String} {entry : PendingCall} {told : Cause}
    (truthful : connection.Truthful) (won : connection.draining = some cause)
    (calm : connection.calm .drain = true)
    (present : connection.pending[requestId]? = some entry)
    (error : cause.error entry.progress = .notDelivered told) :
    Frame.request entry.sender ∉ connection.socket ∧
      connection.writer.busy ≠ some (.request entry.sender) := by
  cases progress : entry.progress with
  | queued => exact truthful.queued requestId entry present progress
  | written =>
    rw [progress] at error
    cases error
  | writing =>
    -- only the writer says so, and it has stopped
    simp only [progress, Poison.error] at error
    split_ifs at error with unknown
    simp only [ClientConnection.calm, won, unknown,
      Bool.or_false, Bool.or_eq_true, beq_iff_eq, List.all_eq_true] at calm
    rcases calm with rfl | none
    · have stopped := truthful.failed (Or.inr won)
      rcases truthful.writing requestId entry present progress with busy | ⟨_, unwritten⟩
      · rw [stopped] at busy
        cases busy
      · rw [stopped]
        exact ⟨unwritten, by simp [Writer.busy]⟩
    · have calmly :=
        none (requestId, entry) (ExtTreeMap.mem_toList_iff_getElem?_eq_some.mpr present)
      simp [progress] at calmly

/-- Poison tells the truth. -/
theorem Truthful.drain
    {cause : Poison} (truthful : connection.Truthful)
    (known : connection.Known) (won : connection.draining = some cause)
    (calm : connection.calm .drain = true) :
    (connection.drain cause).Truthful := by
  have gone :
      ∀ (requestId : String) (entry : PendingCall),
        (connection.drain cause).pending[requestId]? ≠ some entry := by
    intro requestId entry present
    simp [ClientConnection.drain] at present
  refine
    { distinct := truthful.distinct
      queued := fun requestId entry present =>
        absurd present (gone requestId entry)
      writing := fun requestId entry present =>
        absurd present (gone requestId entry)
      failed := fun reported => truthful.failed (reported.imp_right ?_)
      lost := ?_ }
  · intro again
    simp [ClientConnection.drain] at again
  · intro call undelivered
    rcases undelivered_drain undelivered with already |
        ⟨requestId, entry, present, rfl, told, error⟩
    · have fewer : Fewer connection.pending (connection.drain cause).pending :=
        fun requestId entry present => absurd present (gone requestId entry)
      exact (truthful.lost call already).of_fewer (.refl _) fewer rfl fun _ => id
    · rcases known.senders requestId entry present with ⟨current, found, _, joined⟩
      have untouched := truthful.untouched won calm present error
      exact
        ⟨untouched.1, untouched.2, fun id other held =>
          absurd held (gone id other), current, found, joined⟩

/-! ## Entering the table -/

/-- A call may enter the table. -/
theorem Truthful.enter
    {call : Nat} {current : Call} (truthful : connection.Truthful) (counted : connection.Counted)
    (found : connection.calls[call]? = some current) (phase : current.phase = .reserved)
    (free : connection.taken current.requestId = false) :
    Truthful
      ({ connection with
          pending :=
            connection.pending.insert current.requestId
              { sender := call, progress := .queued } }.setCall call
        { current with phase := .registered }) := by
  have later := (Effect.enter found phase free).later
  have untouched :=
    counted.not_busy (counted.unsent call (not_sent_of_phase found (by rw [phase]; rfl)))
  have moved : (connection.setCall call
      { current with phase := .registered }).Truthful :=
    truthful.setCall later (truthful.moved_distinct found rfl) (by simp)
  refine
    { distinct := moved.distinct
      queued := ?_
      writing := ?_
      failed := moved.failed
      lost := ?_ }
  · intro requestId entry present progress
    rcases getElem?_insert_cases present with ⟨_, rfl⟩ | ⟨_, before⟩
    · exact untouched
    · exact truthful.queued requestId entry before progress
  · intro requestId entry present progress
    rcases getElem?_insert_cases present with ⟨_, rfl⟩ | ⟨_, before⟩
    · cases progress
    · exact truthful.writing requestId entry before progress
  · intro other undelivered
    have lost := moved.lost other undelivered
    refine ⟨lost.unwritten, lost.idle, ?_, lost.joined⟩
    intro requestId entry present
    rcases getElem?_insert_cases present with ⟨_, rfl⟩ | ⟨_, before⟩
    · -- a call that may still register has not been told anything
      rintro rfl
      have told : connection.Undelivered call := by
        rcases undelivered with sent | ⟨seen, cause, stands, ended⟩
        · exact Or.inl sent
        · rcases getElem?_insert_cases stands with ⟨_, rfl⟩ | ⟨_, before⟩
          · cases ended
          · exact Or.inr ⟨seen, cause, before, ended⟩
      rcases (truthful.lost call told).joined with ⟨own, same, joined⟩
      rw [found] at same
      cases same
      exact joined phase
    · exact lost.unregistered requestId entry before

/-! ## The writer -/

theorem Truthful.not_writing
    (truthful : connection.Truthful) (idle : connection.writer.busy = none)
    (running : connection.writer ≠ .finished) {requestId : String}
    (present : connection.pending[requestId]? = some entry) :
    entry.progress ≠ .writing := by
  intro progress
  rcases truthful.writing requestId entry present progress with busy | ⟨finished, _⟩
  · rw [idle] at busy
    cases busy
  · exact running finished

/-- The writer may change. -/
theorem Truthful.of_writer
    (truthful : connection.Truthful) {writer : Writer}
    (busy : ∀ call, writer.busy ≠ some (.request call)) (running : connection.writer ≠ .finished)
    (writing :
      ∀ (requestId : String) (entry : PendingCall),
        connection.pending[requestId]? = some entry → entry.progress ≠ .writing) :
    Truthful { connection with writer := writer } where
  distinct := truthful.distinct
  queued := fun requestId entry present progress =>
    ⟨(truthful.queued requestId entry present progress).1, busy _⟩
  writing := fun requestId entry present progress =>
    absurd progress (writing requestId entry present)
  failed := fun reported => absurd (truthful.failed reported) running
  lost := by
    intro call undelivered
    have lost := truthful.lost call undelivered
    exact ⟨lost.unwritten, busy call, lost.unregistered, lost.joined⟩

theorem Known.requestId_of_busy
    (known : connection.Known)
    (working : connection.writer.commands = [command]) {requestId : String}
    (frame : command.frame = .request entry.sender)
    (present : connection.pending[requestId]? = some entry) :
    command.tracked = true ∧ command.requestId = requestId := by
  have listed : command ∈ connection.commands := by
    simp [ClientConnection.commands, working]
  rcases (known.commands command listed).named frame with ⟨tracked, named⟩
  rcases known.senders requestId entry present with ⟨own, found, same, _⟩
  exact ⟨tracked, (named.eq found).symm.trans same⟩

/-- The writer marks an entry. -/
theorem Truthful.mark
    (truthful : connection.Truthful) (known : connection.Known)
    (held : connection.writer = .held command) (tracked : command.tracked = true)
    (present : connection.pending[command.requestId]? = some entry) :
    Truthful
      { connection with
        pending :=
          connection.pending.insert command.requestId
            { entry with progress := .writing }
        writer := .writing command } := by
  rcases known.held held with ⟨untracked, _⟩ | ⟨_, call, frame, named⟩
  · rw [tracked] at untracked
    cases untracked
  -- the entry under the id of the frame is that of its call
  have sender : entry.sender = call := by
    rcases known.senders _ entry present with ⟨own, found, same, _⟩
    rcases named with ⟨current, stands, id⟩
    exact truthful.distinct _ _ own current found stands (same.trans id.symm)
  have running : connection.writer ≠ .finished := by simp [held]
  refine
    { distinct := truthful.distinct
      queued := ?_
      writing := ?_
      failed := fun reported => absurd (truthful.failed reported) running
      lost := ?_ }
  · intro requestId other found progress
    rcases getElem?_insert_cases found with ⟨_, rfl⟩ | ⟨apart, before⟩
    · cases progress
    · refine ⟨(truthful.queued requestId other before progress).1, ?_⟩
      intro busy
      simp only [Writer.busy, Option.some.injEq] at busy
      have same := known.requestId_of_busy (by rw [held]; rfl) busy before
      exact apart same.2
  · intro requestId other found progress
    rcases getElem?_insert_cases found with ⟨_, rfl⟩ | ⟨_, before⟩
    · left
      simp [Writer.busy, frame, sender]
    · exact
        absurd progress (truthful.not_writing (by simp [held, Writer.busy]) running before)
  · intro other undelivered
    have lost := truthful.lost other undelivered
    have apart : call ≠ other := by
      rw [← sender]
      exact lost.unregistered _ entry present
    exact
      ⟨lost.unwritten, by simp [Writer.busy, frame, apart],
        lost.unregistered_of_fewer (fewer_insert present _), lost.joined⟩

/-- The writer writes. -/
theorem Truthful.write
    {command : WriteCommand} (truthful : connection.Truthful)
    (writing : connection.writer = .writing command) :
    Truthful
      { connection with
        writer := .wrote command
        socket := connection.socket ++ [command.frame]
        unanswered := connection.unanswered ++ command.frame.call.toList } := by
  have apart :
      ∀ {call : Nat},
        connection.writer.busy ≠ some (.request call) →
          Frame.request call ∉ connection.socket →
            Frame.request call ∉ connection.socket ++ [command.frame] := by
    intro call idle unwritten listed
    rcases List.mem_append.mp listed with before | now
    · exact unwritten before
    · rw [List.mem_singleton] at now
      exact idle (by rw [writing, now]; rfl)
  have same : Writer.busy (.wrote command) = connection.writer.busy := by
    rw [writing]
    rfl
  have running : connection.writer ≠ .finished := by simp [writing]
  refine
    { distinct := truthful.distinct
      queued := ?_
      writing := ?_
      failed := fun reported => absurd (truthful.failed reported) running
      lost := ?_ }
  · intro requestId entry present progress
    rcases truthful.queued requestId entry present progress with ⟨unwritten, idle⟩
    exact ⟨apart idle unwritten, by rw [same]; exact idle⟩
  · intro requestId entry present progress
    rcases truthful.writing requestId entry present progress with busy | ⟨finished, _⟩
    · left
      rw [same]
      exact busy
    · exact absurd finished running
  · intro call undelivered
    have lost := truthful.lost call undelivered
    exact
      ⟨apart lost.idle lost.unwritten, by rw [same]; exact lost.idle,
        lost.unregistered, lost.joined⟩

/-- The writer fails. -/
theorem Truthful.fail
    {command : WriteCommand} (truthful : connection.Truthful) (counted : connection.Counted)
    (writing : connection.writer = .writing command) :
    Truthful ({ connection with writer := .finished }.poison .writeFailed) where
  distinct := truthful.distinct
  queued := fun requestId entry present progress =>
    ⟨(truthful.queued requestId entry present progress).1, by
      simp [poison, Writer.busy]⟩
  writing := by
    intro requestId entry present progress
    refine Or.inr ⟨rfl, ?_⟩
    rcases truthful.writing requestId entry present progress with busy | ⟨finished, _⟩
    · -- a frame that is not written to its end is not in the socket
      rw [writing] at busy
      simp only [Writer.busy, Option.some.injEq] at busy
      have once := counted.once entry.sender
      simp only [carried, writing, Writer.unwritten, busy,
        List.count_cons_self, List.count_nil] at once
      change Frame.request entry.sender ∉ connection.socket
      rw [← List.count_eq_zero]
      omega
    · rw [writing] at finished
      cases finished
  failed := fun _ => rfl
  lost := by
    intro call undelivered
    have lost := truthful.lost call undelivered
    exact ⟨lost.unwritten, by simp [poison, Writer.busy], lost.unregistered, lost.joined⟩

/-- The writer marks it written. -/
theorem Truthful.settle
    (truthful : connection.Truthful) (known : connection.Known)
    (wrote : connection.writer = .wrote command)
    (present : connection.pending[command.requestId]? = some entry) :
    Truthful
      { connection with
        pending :=
          connection.pending.insert command.requestId
            { entry with progress := .written }
        writer := .idle } := by
  have running : connection.writer ≠ .finished := by simp [wrote]
  refine
    { distinct := truthful.distinct
      queued := ?_
      writing := ?_
      failed := fun reported => absurd (truthful.failed reported) running
      lost := ?_ }
  · intro requestId other found progress
    rcases getElem?_insert_cases found with ⟨_, rfl⟩ | ⟨_, before⟩
    · cases progress
    · exact
        ⟨(truthful.queued requestId other before progress).1, by
          simp [Writer.busy]⟩
  · intro requestId other found progress
    rcases getElem?_insert_cases found with ⟨_, rfl⟩ | ⟨apart, before⟩
    · cases progress
    · rcases truthful.writing requestId other before progress with busy | ⟨finished, _⟩
      · rw [wrote] at busy
        simp only [Writer.busy, Option.some.injEq] at busy
        have same := known.requestId_of_busy (by rw [wrote]; rfl) busy before
        exact absurd same.2 apart
      · exact absurd finished running
  · intro call undelivered
    have lost := truthful.lost call undelivered
    exact lost.of_fewer (.refl _) (fewer_insert present _) rfl (by simp [Writer.busy])

/-! ## Steps and runs -/

/-- A new call has an id of its own. -/
theorem Truthful.reserve
    {middle : ClientConnection} {call : Nat} {requestId : String}
    (truthful : connection.Truthful) (fresh : connection.calls[call]? = none)
    (quiet : Quiet connection middle)
    (distinct : connection.distinctIds (.reserve call requestId) = true) :
    (middle.setCall call { requestId := requestId }).Truthful := by
  have later := (@Effect.reserve _ _ requestId _ fresh quiet).later
  rw [← quiet.calls] at later
  refine (truthful.quiet quiet).setCall later ?_ (by simp)
  intro other current found same
  rw [quiet.calls] at found
  simp only [distinctIds, List.all_eq_true] at distinct
  have apart := distinct (other, current) (ExtTreeMap.mem_toList_iff_getElem?_eq_some.mpr found)
  simp [same] at apart

/-- What ends a call as undelivered says so of a frame that was not sent. -/
theorem Truthful.advance
    {middle : ClientConnection} (truthful : connection.Truthful) (counted : connection.Counted)
    (known : connection.Known) (found : connection.calls[call]? = some current)
    (advances : Advances connection call current moved) (quiet : Quiet connection middle)
    (later : Later connection.calls (middle.setCall call moved).calls) :
    (middle.setCall call moved).Truthful := by
  have quietly := truthful.quiet quiet
  rw [← quiet.calls] at later found
  refine quietly.setCall later (quietly.moved_distinct found advances.follows.requestId) ?_
  intro cause phase
  cases advances with
  | refused reserved =>
    exact (counted.quiet quiet).lost_of_refused (known.quiet quiet) found reserved (by simp)
  | cancelled registered => cases phase
  | armed registered => cases phase
  | @received message waiting sent =>
    cases message with
    | none => cases phase
    | some outcome =>
      simp only [Option.getD_some, Phase.ended.injEq] at phase
      rw [phase, ← quiet.oneshots] at sent
      exact (quietly.lost_of_sent sent).setCall later
  | cleared ended | requested =>
    exact (quietly.lost_of_ended found phase).setCall later
  | dropped waiting => cases phase

/-- A call leaves with its error. -/
theorem Truthful.take
    {middle : ClientConnection} {action : Action} {call : Nat} {current moved : Call}
    (truthful : connection.Truthful) (counted : connection.Counted) (known : connection.Known)
    (found : connection.calls[call]? = some current)
    (takes : Takes connection action call current moved)
    (quiet : Quiet (connection.without current.requestId) middle)
    (calm : connection.calm action = true)
    (later : Later connection.calls (middle.setCall call moved).calls) :
    (middle.setCall call moved).Truthful := by
  have quietly := (truthful.without current.requestId).quiet quiet
  have calls := quiet.calls.trans (without_calls _)
  have moves := found
  rw [← calls] at later moves
  refine quietly.setCall later (quietly.moved_distinct moves takes.follows.requestId) ?_
  intro cause phase
  have lost := truthful.lost_without counted known found takes calm phase
  exact (lost.quiet quiet).setCall later

/-- A writer that is not in a frame may turn to anything but a call's frame. -/
theorem Truthful.of_free
    {writer : Writer} (truthful : connection.Truthful) (idle : connection.writer.busy = none)
    (running : connection.writer ≠ .finished)
    (busy : ∀ call, writer.busy ≠ some (.request call)) :
    Truthful { connection with writer := writer } :=
  truthful.of_writer busy running fun _ _ => truthful.not_writing idle running

/-- The entry of a call whose frame was just written is gone. -/
theorem Truthful.rest
    (truthful : connection.Truthful)
    (known : connection.Known) (wrote : connection.writer = .wrote command)
    (absent : command.tracked = true → connection.pending[command.requestId]? = none) :
    Truthful { connection with writer := .idle } := by
  refine truthful.of_writer (by simp [Writer.busy]) (by simp [wrote]) ?_
  intro requestId entry present progress
  rcases truthful.writing requestId entry present progress with busy | ⟨finished, _⟩
  · rw [wrote] at busy
    simp only [Writer.busy, Option.some.injEq] at busy
    have same := known.requestId_of_busy (by rw [wrote]; rfl) busy present
    have none := absent same.1
    rw [same.2, present] at none
    cases none
  · rw [wrote] at finished
    cases finished

/-- What a call learns about delivery stays true in every step. -/
theorem Effect.truthful
    (effect : Effect connection action next)
    (counted : connection.Counted) (known : connection.Known)
    (distinct : connection.distinctIds action = true) (calm : connection.calm action = true)
    (truthful : connection.Truthful) :
    next.Truthful := by
  have later := effect.later
  cases effect with
  | quiet quiet => exact truthful.quiet quiet
  | reserve fresh quiet => exact truthful.reserve fresh quiet distinct
  | advance found advances quiet =>
    exact truthful.advance counted known found advances quiet later
  | enter found phase free =>
    exact truthful.enter counted found phase free
  | take found takes quiet =>
    exact truthful.take counted known found takes quiet calm later
  | send found phase =>
    have moved := truthful.setCall later (truthful.moved_distinct found rfl) (by simp)
    exact moved.of_same rfl rfl rfl rfl rfl moved.failed
  | unsent found phase quiet =>
    have quietly := truthful.quiet quiet
    rw [← quiet.calls] at later found
    exact quietly.setCall later (quietly.moved_distinct found rfl) (by simp)
  | @recv command rest idle queue =>
    have moved : Truthful { connection with writer := .held command } :=
      truthful.of_free (by simp [idle, Writer.busy]) (by simp [idle]) (by simp [Writer.busy])
    exact moved.of_same rfl rfl rfl rfl rfl moved.failed
  | skip free | halt free =>
    exact truthful.of_free (by simp [free, Writer.busy]) (by simp [free]) (by simp [Writer.busy])
  | mark held tracked present =>
    exact truthful.mark known held tracked present
  | @begin command held tracked =>
    refine truthful.of_free (by simp [held, Writer.busy]) (by simp [held]) ?_
    intro call busy
    simp only [Writer.busy, Option.some.injEq] at busy
    rw [((known.held held).named busy).1] at tracked
    cases tracked
  | write writing => exact truthful.write writing
  | fail writing => exact truthful.fail counted writing
  | settle wrote tracked present =>
    exact truthful.settle known wrote present
  | rest wrote absent => exact truthful.rest known wrote absent
  | answer found waiting =>
    exact truthful.of_same rfl rfl rfl rfl rfl truthful.failed
  | read queue quiet => exact (truthful.routed _ _).quiet quiet
  | swap called =>
    refine truthful.of_same rfl rfl rfl rfl rfl ?_
    rintro (listed | won)
    · exact truthful.failed (Or.inl (List.mem_of_mem_erase listed))
    · cases won
      exact truthful.failed (Or.inl called)
  | drain won => exact truthful.drain known won calm

/-- All invariants of a connection. -/
structure Accountable (connection : ClientConnection) : Prop where
  counted : connection.Counted
  known : connection.Known
  truthful : connection.Truthful

theorem step_accountable
    (stepped : connection.step action = some next)
    (met : (connection.distinctIds action && connection.calm action) = true)
    (accountable : connection.Accountable) : next.Accountable := by
  have effect := step_effect stepped
  rw [Bool.and_eq_true] at met
  exact
    ⟨effect.counted accountable.counted, effect.known accountable.known,
      effect.truthful accountable.counted accountable.known met.1 met.2 accountable.truthful⟩

/-- The call has ended with the outcome. -/
def EndedAs (call : Nat) (outcome : Outcome)
    (connection : ClientConnection) : Prop :=
  connection.calls[call]?.map Call.phase = some (.ended outcome)

theorem step_endedAs
    {outcome : Outcome} (stepped : connection.step action = some next)
    (ended : EndedAs call outcome connection) :
    EndedAs call outcome next := by
  rcases Option.map_eq_some_iff.mp ended with ⟨current, found, phase⟩
  rcases (step_effect stepped).later call current found with ⟨moved, present, follows⟩
  unfold EndedAs
  rw [present, Option.map_some, follows.ended outcome phase]

theorem Accountable.unwritten
    (accountable : connection.Accountable)
    (ended : EndedAs call (.error (.notDelivered cause)) connection) :
    Frame.request call ∉ connection.socket := by
  rcases Option.map_eq_some_iff.mp ended with ⟨current, found, phase⟩
  exact (accountable.truthful.lost_of_ended found phase).unwritten

/--
"Not delivered" is true.  In every run with distinct request ids in which no
call times out while its frame is being written, and the table is never
emptied at such a moment with "not delivered" for calls being written, other
than by the writer after a failed write: once a call has ended as not
delivered, its complete frame is not in the socket and will never be.
-/
theorem not_delivered_is_true
    (before after : List Action) (reached final : ClientConnection)
    (ran : execute ClientConnection.step {} before = some reached)
    (distinct : obeys ClientConnection.step distinctIds {} before = true)
    (calmly : obeys ClientConnection.step calm {} before = true)
    (continued : execute ClientConnection.step reached after = some final)
    (stillDistinct : obeys ClientConnection.step distinctIds reached after = true)
    (stillCalmly : obeys ClientConnection.step calm reached after = true)
    (call : Nat) (cause : Cause) (ended : EndedAs call (.error (.notDelivered cause)) reached) :
    Frame.request call ∉ reached.socket ∧ Frame.request call ∉ final.socket := by
  have sound : reached.Accountable :=
    execute_invariant step_accountable ran (obeys_and distinct calmly)
      ⟨counted_new, known_new, truthful_new⟩
  have later : final.Accountable :=
    execute_invariant step_accountable continued (obeys_and stillDistinct stillCalmly) sound
  exact ⟨sound.unwritten ended, later.unwritten (execute_preserves step_endedAs continued ended)⟩

/-- A call that times out in the queue is skipped by the writer. -/
theorem not_delivered_is_true_queued :
    ∃ reached final : ClientConnection,
      execute ClientConnection.step {}
          [.reserve 0 "x", .register 0, .arm 0, .send 0, .timeout 0 false] = some reached ∧
        execute ClientConnection.step reached [.clear 0, .recv, .mark] = some final ∧
        EndedAs 0 (.error (.notDelivered .notWritten)) reached ∧ Frame.request 0 ∉ reached.socket ∧
        Frame.request 0 ∉ final.socket := by
  refine
    ⟨Option.get _ ?_, Option.get _ ?_, (Option.some_get _).symm, (Option.some_get _).symm, ?_, ?_⟩
  · decide
  · decide
  · unfold EndedAs
    decide
  · exact
      not_delivered_is_true _ _ _ _ (Option.some_get _).symm (by decide)
        (by decide) (Option.some_get _).symm (by decide) (by decide) 0
        .notWritten (by unfold EndedAs; decide)

/--
A call times out after its frame went into the socket and before the writer
has marked it, or while the writer is about to write its frame to the end.
Both times it ends as not delivered.
-/
theorem timeout_while_writing :
    (execute ClientConnection.step {}
        [.reserve 0 "x", .register 0, .arm 0, .send 0, .recv, .mark, .write, .timeout 0 false]).map
        (fun final => (final.calls[0]?.map Call.phase, final.socket)) =
      some (some (.ended (.error (.notDelivered .notWritten))), [.request 0]) ∧
    (execute ClientConnection.step {}
        [.reserve 0 "x", .register 0, .arm 0, .send 0, .recv, .mark, .timeout 0 false, .write]).map
        (fun final => (final.calls[0]?.map Call.phase, final.socket)) =
      some (some (.ended (.error (.notDelivered .notWritten))), [.request 0]) := by
  decide

end ClientConnection

end Tinyray.Transport
