import Tinyray.Transport.ServerEffects

/-!
# What a client reads of its replies

Replies are framed by their lengths, so a frame that breaks off must be the
last thing on the stream.  The writer stays in place after a write that has
stopped part-way: whoever gets hold of it next goes on writing.  The stream
stays readable if nobody is left who could: the requests of the other tasks
are answered, and the loop has left or is writing its last reply.
-/

namespace Tinyray.Transport

open Std Foundation
open Tinyray.Proto

namespace Write

/-- Some of the frame went out, and not all of it. -/
def broken (write : Write) : Bool := 0 < write.count && write.count < (frameBytes write.body).length

theorem bytes_of_whole
    {write : Write} (whole : write.broken = false) (some : 0 < write.count) :
    write.bytes = frameBytes write.body := by
  simp only [broken, Bool.and_eq_false_iff, decide_eq_false_iff_not] at whole
  rw [bytes, List.take_of_length_le (by omega)]

end Write

namespace ServerConnection

variable {state : ServerState} {connection next : ServerConnection}

/-! ## The last word -/

/-- The requests of all tasks but one are answered. -/
def othersAnswered (connection : ServerConnection)
    (writing : Option Nat) : Bool :=
  connection.requests.toList.all fun entry =>
    some entry.1 == writing || entry.2.phase == .failed || entry.2.phase == .answered

/-- The loop will not write any more. -/
def loopLeft (connection : ServerConnection) : Bool :=
  match connection.loop with
  | .left | .closing | .finished => true
  | .top => connection.closed
  | .waiting | .accepting _ _ | .replying _ => false

/-- A write stops part-way only when nobody else is left who could write. -/
def lastWord (connection : ServerConnection) : ServerEvent → Bool
  | .write number (some count) =>
    count == 0 || connection.othersAnswered (some number) && connection.loopLeft
  | .writeInline (some count) =>
    count == 0 ||
      connection.othersAnswered none && match connection.loop with
        | .replying refusal => refusal.stops
        | _ => false
  | _ => true

/-- Nobody is left who could write. -/
structure Silenced (connection : ServerConnection) : Prop where
  answered :
    ∀ (number : Nat) (task : RequestTask),
      connection.requests[number]? = some task → task.phase = .failed ∨ task.phase = .answered
  left : connection.loopLeft = true

theorem othersAnswered_iff {writing : Option Nat} :
    connection.othersAnswered writing = true ↔
      ∀ (number : Nat) (task : RequestTask),
        connection.requests[number]? = some task →
          some number = writing ∨ task.phase = .failed ∨ task.phase = .answered := by
  simp [othersAnswered, ExtTreeMap.mem_toList_iff_getElem?_eq_some, or_assoc]

variable {number count : Nat} {task : RequestTask} {event : ServerEvent}
  {middle : ServerConnection} {writes : List Write}

/-- All other tasks are done. -/
theorem answered_setTask
    (answered :
      ∀ (other : Nat) (seen : RequestTask),
        connection.requests[other]? = some seen →
          some other = some number ∨ seen.phase = .failed ∨ seen.phase = .answered)
    (done : task.phase = .failed ∨ task.phase = .answered)
    (other : Nat) (seen : RequestTask)
    (found : (connection.setTask number task).requests[other]? = some seen) :
    seen.phase = .failed ∨ seen.phase = .answered := by
  rcases getElem?_insert_cases found with ⟨_, rfl⟩ | ⟨apart, found⟩
  · exact done
  · rcases answered other seen found with same | phase
    · exact absurd (Option.some.inj same).symm apart
    · exact phase

/-- A silenced connection stays so. -/
theorem Served.silenced
    (served : Served state connection event next) (silenced : connection.Silenced) :
    next.Silenced ∧ next.writes = connection.writes := by
  rcases silenced with ⟨answered, left⟩
  cases served with
  | check top =>
    simp only [loopLeft, top] at left
    have closed : connection.join.closed = true := join_closed left
    refine ⟨⟨?_, ?_⟩, join_writes⟩
    · simpa using answered
    · simp [loopLeft, closed]
  | wake waiting | leave waiting | joinFailed waiting
  | garbled waiting _ | receive waiting _ =>
    simp [loopLeft, waiting] at left
  | accept accepting => simp [loopLeft, accepting] at left
  | writeInline replying wrote => simp [loopLeft, replying] at left
  | dispatched found phase | panicked found phase | write found phase wrote =>
    have done := answered _ _ found
    simp [phase] at done
  | closeFailed found phase =>
    refine ⟨⟨?_, ?_⟩, ?_⟩
    · refine answered_setTask ?_ (Or.inr rfl)
      intro other seen found
      rw [close_requests] at found
      exact Or.inr (answered other seen found)
    · simp only [loopLeft, setTask, close_loop, close_closed] at left ⊢
      split at left <;> simp_all
    · exact close_writes
  | free found phase =>
    refine ⟨⟨?_, left⟩, rfl⟩
    intro other seen found
    exact answered other seen (getElem?_erase_cases found).2
  | close atEnd =>
    refine ⟨⟨?_, rfl⟩, close_writes⟩
    simpa using answered
  | takeWriter closing => exact ⟨⟨answered, rfl⟩, rfl⟩

/-! ## One more write -/

/-- A write of the code's own encoding, and the last one if it is broken. -/
structure Adds (before after : ServerConnection) (write : Write) : Prop where
  writes : after.writes = before.writes ++ [write]
  encoded : encodeMessage write.reply.pack maxRpcFrameBytes = .ok write.body
  last : write.broken = true → after.Silenced

/-- A task's last word silences it. -/
theorem Served.task_silences
    (alone : connection.lastWord (.write number (some count)) = true)
    (some : 0 < count) (untouched : Untouched connection middle)
    (done : task.phase = .failed ∨ task.phase = .answered) :
    (middle.setTask number task).Silenced := by
  simp only [lastWord, Bool.or_eq_true, Bool.and_eq_true, beq_iff_eq] at alone
  rcases alone with none | ⟨others, left⟩
  · omega
  · refine ⟨answered_setTask ?_ done, ?_⟩
    · rw [untouched.requests]
      exact othersAnswered_iff.mp others
    · simpa [loopLeft, setTask, untouched.loop, untouched.closed] using left

/-- The loop's last word silences it. -/
theorem Served.loop_silences
    {refusal : Refusal} (alone : connection.lastWord (.writeInline (some count)) = true)
    (some : 0 < count) (replying : connection.loop = .replying refusal)
    (untouched : Untouched connection middle) :
    Silenced
      { middle with loop := if refusal.stops then .left else .top } := by
  simp only [lastWord, Bool.or_eq_true, Bool.and_eq_true, beq_iff_eq, replying] at alone
  rcases alone with none | ⟨others, stops⟩
  · omega
  · refine ⟨?_, by simp [loopLeft, stops]⟩
    intro number task found
    rw [untouched.requests] at found
    rcases othersAnswered_iff.mp others number task found with same | phase
    · cases same
    · exact phase

/-- A step adds one write at most. -/
theorem Served.adds
    (served : Served state connection event next) (alone : connection.lastWord event = true) :
    next.writes = connection.writes ∨ ∃ write, Adds connection next write := by
  have silent := served.writes
  cases served with
  | @write number task reply stopped middle written found phase wrote =>
    have untouched := write_untouched wrote
    rcases write_cases wrote with
      ⟨rfl, _⟩ | ⟨body, encoded, ⟨_, _, rfl⟩ | ⟨count, rfl, rfl, _, rfl⟩⟩
    · exact Or.inl rfl
    · refine Or.inr ⟨_, rfl, encoded, ?_⟩
      simp [Write.broken]
    · refine Or.inr ⟨_, rfl, encoded, ?_⟩
      intro broken
      simp only [Write.broken, Bool.and_eq_true, decide_eq_true_eq] at broken
      exact task_silences alone broken.1 untouched (Or.inl rfl)
  | @writeInline refusal stopped middle written replying wrote =>
    have untouched := write_untouched wrote
    rcases write_cases wrote with
      ⟨rfl, _⟩ | ⟨body, encoded, ⟨_, _, rfl⟩ | ⟨count, rfl, rfl, _, rfl⟩⟩
    · exact Or.inl rfl
    · refine Or.inr ⟨_, rfl, encoded, ?_⟩
      simp [Write.broken]
    · refine Or.inr ⟨_, rfl, encoded, ?_⟩
      intro broken
      simp only [Write.broken, Bool.and_eq_true, decide_eq_true_eq] at broken
      exact loop_silences alone broken.1 replying untouched
  | _ => exact Or.inl (silent rfl)

/-! ## Whole runs -/

/-- Every write is whole, except perhaps the last one ever. -/
structure Intact (connection : ServerConnection) : Prop where
  encoded :
    ∀ write ∈ connection.writes, encodeMessage write.reply.pack maxRpcFrameBytes = .ok write.body
  unbroken :
    (∀ write ∈ connection.writes, write.broken = false) ∨
      connection.Silenced ∧
        ∃ front last, connection.writes = front ++ [last] ∧ ∀ write ∈ front, write.broken = false

theorem intact_new : Intact {} := ⟨by simp, Or.inl (by simp)⟩

/-- One step keeps the stream intact. -/
theorem step_intact
    (stepped : connection.step state event = some next)
    (alone : connection.lastWord event = true) (intact : connection.Intact) :
    next.Intact := by
  have served := step_served stepped
  rcases intact with ⟨encoded, whole | ⟨silenced, front, last, cut, whole⟩⟩
  · rcases served.adds alone with same | ⟨write, added⟩
    · rw [← same] at encoded whole
      exact ⟨encoded, Or.inl whole⟩
    · constructor
      · intro other listed
        rw [added.writes] at listed
        rcases List.mem_append.mp listed with before | new
        · exact encoded other before
        · rw [List.mem_singleton.mp new]
          exact added.encoded
      · cases broken : write.broken with
        | true =>
          exact Or.inr ⟨added.last broken, connection.writes, write, added.writes, whole⟩
        | false =>
          left
          intro other listed
          rw [added.writes] at listed
          rcases List.mem_append.mp listed with before | new
          · exact whole other before
          · rw [List.mem_singleton.mp new]
            exact broken
  · rcases served.silenced silenced with ⟨stays, same⟩
    rw [← same] at encoded cut
    exact ⟨encoded, Or.inr ⟨stays, front, last, cut, whole⟩⟩

/-- After silence nothing is written. -/
theorem Silenced.execute_writes
    {events : List ServerEvent} (silenced : connection.Silenced)
    (ran : execute (step state) connection events = some next) :
    next.writes = connection.writes := by
  induction events generalizing connection with
  | nil =>
    cases ran
    rfl
  | cons event rest hypothesis =>
    rcases execute_cons ran with ⟨middle, stepped, ran⟩
    rcases (step_served stepped).silenced silenced with ⟨stays, same⟩
    rw [hypothesis stays ran, same]

/-! ## The stream -/

/-- The bodies whose frames went out completely. -/
def completed (writes : List Write) : List Bytes :=
  (writes.filter fun write => 0 < write.count).map Write.body

/-- Whole writes are whole frames. -/
theorem flatMap_bytes (whole : ∀ write ∈ writes, write.broken = false) :
    writes.flatMap Write.bytes = (completed writes).flatMap frameBytes := by
  induction writes with
  | nil => rfl
  | cons write rest hypothesis =>
    have later := hypothesis fun other listed => whole other (List.mem_cons_of_mem _ listed)
    have here := whole write List.mem_cons_self
    rw [List.flatMap_cons, later]
    by_cases some : 0 < write.count
    · simp [completed, some, write.bytes_of_whole here some]
    · have none : write.count = 0 := by omega
      simp [completed, Write.bytes, none]

theorem mem_completed {body : Bytes} (listed : body ∈ completed writes) :
    ∃ write ∈ writes, write.body = body := by
  rcases List.mem_map.mp listed with ⟨write, kept, same⟩
  exact ⟨write, (List.mem_filter.mp kept).1, same⟩

/-- Complete replies of the server, and at most a part of one more. -/
structure Readable (connection : ServerConnection)
    (complete : List Bytes) (rest : Bytes) : Prop where
  stream : connection.stream = complete.flatMap frameBytes ++ rest
  encoded :
    ∀ body ∈ complete, ∃ write ∈ connection.writes,
      encodeMessage write.reply.pack maxRpcFrameBytes = .ok body
  cut :
    rest = [] ∨
      ∃ write ∈ connection.writes, ∃ body,
        encodeMessage write.reply.pack maxRpcFrameBytes = .ok body ∧ rest <+: frameBytes body ∧
          rest.length < (frameBytes body).length

theorem Readable.of_whole
    (intact : connection.Intact) (whole : ∀ write ∈ connection.writes, write.broken = false) :
    connection.Readable (completed connection.writes) [] where
  stream := by
    rw [ServerConnection.stream, flatMap_bytes whole, List.append_nil]
  encoded := by
    intro body listed
    rcases mem_completed listed with ⟨write, wrote, rfl⟩
    exact ⟨write, wrote, intact.encoded write wrote⟩
  cut := Or.inl rfl

/-- A cut stream is readable. -/
theorem Readable.of_cut
    {front : List Write} {last : Write} (intact : connection.Intact)
    (writes : connection.writes = front ++ [last])
    (whole : ∀ write ∈ front, write.broken = false) (broken : last.broken = true) :
    connection.Readable (completed front) last.bytes where
  stream := by
    rw [ServerConnection.stream, writes, List.flatMap_append,
      flatMap_bytes whole, List.flatMap_singleton]
  encoded := by
    intro body listed
    rcases mem_completed listed with ⟨write, wrote, rfl⟩
    have among : write ∈ connection.writes := by
      rw [writes]
      exact List.mem_append_left _ wrote
    exact ⟨write, among, intact.encoded write among⟩
  cut := by
    right
    have among : last ∈ connection.writes := by
      rw [writes]
      exact List.mem_append_right _ (List.mem_singleton_self _)
    refine ⟨last, among, last.body, intact.encoded last among, List.take_prefix _ _, ?_⟩
    simp only [Write.broken, Bool.and_eq_true, decide_eq_true_eq] at broken
    rw [Write.bytes, List.length_take]
    omega

/-- An intact stream is readable. -/
theorem Intact.readable (intact : connection.Intact) :
    ∃ complete rest, connection.Readable complete rest ∧ (rest ≠ [] → connection.Silenced) := by
  rcases intact.unbroken with whole | ⟨silenced, front, last, writes, whole⟩
  · exact ⟨_, _, .of_whole intact whole, fun some => absurd rfl some⟩
  · cases broken : last.broken with
    | true =>
      exact ⟨_, _, .of_cut intact writes whole broken, fun _ => silenced⟩
    | false =>
      refine ⟨_, _, .of_whole intact ?_, fun some => absurd rfl some⟩
      intro write listed
      rw [writes] at listed
      rcases List.mem_append.mp listed with before | new
      · exact whole write before
      · rw [List.mem_singleton.mp new]
        exact broken

/-- What a client reads of it. -/
theorem Readable.readFrames
    {complete : List Bytes} {rest : Bytes} (readable : connection.Readable complete rest) :
    readFrames maxRpcFrameBytes connection.stream = complete := by
  rw [readable.stream]
  apply readFrames_cut
  · intro body listed
    rcases readable.encoded body listed with ⟨write, _, encoded⟩
    exact encodeMessage_sendable encoded
  · rcases readable.cut with none | ⟨write, _, body, encoded, start, short⟩
    · exact Or.inl none
    · exact Or.inr ⟨body, encodeMessage_sendable encoded, start, short⟩

end ServerConnection

open ServerConnection in
/--
If a write stops part-way only when nobody else is left who could write, the
stream is a number of complete replies and at most a part of one more, after
which nothing is sent; and a client reads exactly the complete replies.
-/
theorem reply_stream_integrity
    (state : ServerState) (events : List ServerEvent) (final : ServerConnection)
    (ran : execute (step state) {} events = some final)
    (met : obeys (step state) lastWord {} events = true) :
    ∃ complete rest, final.Readable complete rest ∧
      readFrames maxRpcFrameBytes final.stream = complete ∧
      (rest ≠ [] →
        ∀ (more : List ServerEvent) (later : ServerConnection),
          execute (step state) final more = some later → later.stream = final.stream) := by
  have intact : final.Intact := execute_invariant step_intact ran met intact_new
  rcases intact.readable with ⟨complete, rest, readable, silenced⟩
  refine ⟨complete, rest, readable, readable.readFrames, ?_⟩
  intro cut more later continued
  rw [stream, (silenced cut).execute_writes continued, stream]

/-- A request to run. -/
private def runRequest (requestId : String) : RpcRequest := .call requestId "" "pool/0" "run" []

open ServerConnection in
/--
One reply is complete; the loop has left when the write of the other one
stops after nine bytes.
-/
theorem reply_stream_integrity_cut :
    ∃ final : ServerConnection,
      execute (step ⟨"pool/0", ["run"]⟩) {}
          [.check false, .receive 0 (runRequest "x"), .accept true true,
            .check false, .receive 1 (runRequest "y"), .accept true true,
            .dispatched 0 { status := .success } .empty, .write 0 none,
            .check false, .leave, .close, .dispatched 1 { status := .success } .empty,
            .write 1 (some 9)] = some final ∧
        final.stream.length = 44 ∧
        ∃ complete rest, final.Readable complete rest ∧
          readFrames maxRpcFrameBytes final.stream = complete ∧
          (rest ≠ [] →
            ∀ (more : List ServerEvent) (later : ServerConnection),
              execute (step ⟨"pool/0", ["run"]⟩) final more = some later →
                later.stream = final.stream) := by
  refine ⟨Option.get _ ?_, (Option.some_get _).symm, ?_, ?_⟩
  · decide +kernel
  · decide +kernel
  · exact reply_stream_integrity _ _ _ (Option.some_get _).symm (by decide +kernel)

open ServerConnection in
/--
The reply to `x` stops after six bytes and the reply to `y` follows it.  The
client reads a frame that is neither of them.
-/
theorem reply_after_broken_write :
    (execute (step ⟨"pool/0", ["run"]⟩) {}
        [.check false, .receive 0 (runRequest "x"), .accept true true,
          .check false, .receive 1 (runRequest "y"), .accept true true,
          .dispatched 0 { status := .success } .empty, .dispatched 1 { status := .success } .empty,
          .write 0 (some 6), .write 1 none]).map
        (fun final =>
          (final.writes.map Write.broken,
            (readFrames maxRpcFrameBytes final.stream).map fun body =>
              final.writes.any fun write => write.body == body)) =
      some ([true, false], [false]) := by
  decide +kernel

end Tinyray.Transport
