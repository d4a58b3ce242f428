import Tinyray.Foundation.MapFold
import Tinyray.Foundation.Run
import Tinyray.Transport.Effects

/-!
# Frames and replies on a connection

Every run of a connection keeps the books: a call's frame is in the queue, in
the hands of the writer or in the socket, and in only one of them; a reply
belongs to a frame that was written; and what stands under a request id in
the table, in the queue and in a reply belongs to a call with this id.
-/

namespace Tinyray.Transport

open Std Foundation

/-! ## How a call moves on -/

/-- The call has not queued its frame. -/
def Phase.unsent : Phase → Bool
  | .reserved | .registered | .cancelled | .armed => true
  | .waiting | .ended _ | .dropped => false

/-- The call is between `register` and its outcome. -/
def Phase.active : Phase → Bool
  | .registered | .cancelled | .armed | .waiting => true
  | .reserved | .ended _ | .dropped => false

/-- The call may still take its entry out of the table. -/
def Call.engaged (call : Call) : Bool := call.phase.active || call.target

/-- Where a call can go from here, except into the table. -/
inductive Phase.Leads : Phase → Phase → Prop where
  | stays {phase : Phase} : Leads phase phase
  | refused {outcome : Outcome} : Leads .reserved (.ended outcome)
  | cancelled : Leads .registered .cancelled
  | armed : Leads .registered .armed
  | withdrawn {outcome : Outcome} : Leads .cancelled (.ended outcome)
  | sent : Leads .armed .waiting
  | ended {outcome : Outcome} : Leads .waiting (.ended outcome)
  | dropped : Leads .waiting .dropped

theorem Phase.Leads.active
    {before after : Phase} (leads : before.Leads after) (active : after.active = true) :
    before.active = true := by
  cases leads with
  | stays => exact active
  | cancelled | armed | sent => rfl
  | refused | withdrawn | ended | dropped => cases active

/-- A call has moved on. -/
structure Call.Follows (before after : Call) : Prop where
  requestId : after.requestId = before.requestId
  sent : before.phase.unsent = false → after.phase.unsent = false
  joined : before.phase ≠ .reserved → after.phase ≠ .reserved
  ended : ∀ outcome, before.phase = .ended outcome → after.phase = .ended outcome

theorem Call.Follows.refl (call : Call) : call.Follows call := ⟨rfl, id, id, fun _ => id⟩

/-- Every call is still there and has moved on. -/
def Later (before after : ExtTreeMap Nat Call) : Prop :=
  ∀ (number : Nat) (call : Call), before[number]? = some call →
    ∃ next, after[number]? = some next ∧ call.Follows next

theorem Later.refl (calls : ExtTreeMap Nat Call) : Later calls calls :=
  fun _ call found => ⟨call, found, .refl call⟩

theorem later_insert
    {calls : ExtTreeMap Nat Call} {number : Nat} {next : Call}
    (follows : ∀ call : Call, calls[number]? = some call → call.Follows next) :
    Later calls (calls.insert number next) := by
  intro other call found
  rw [ExtTreeMap.getElem?_insert]
  split_ifs with same
  · rw [Std.compare_eq_iff_eq] at same
    subst same
    exact ⟨next, rfl, follows call found⟩
  · exact ⟨call, found, .refl call⟩

namespace ClientConnection

variable {connection next : ClientConnection}
  {call number : Nat} {current moved : Call} {action : Action}

theorem Advances.follows
    (advances : Advances connection call current moved) :
    current.Follows moved := by
  cases advances with
  | refused phase => exact ⟨rfl, fun _ => rfl, by simp, by simp [phase]⟩
  | cancelled phase | armed phase =>
    exact ⟨rfl, by simp [phase, Phase.unsent], by simp, by simp [phase]⟩
  | received phase sent =>
    exact ⟨rfl, fun _ => rfl, by simp, by simp [phase]⟩
  | cleared phase | requested => exact ⟨rfl, id, id, fun _ => id⟩
  | dropped phase => exact ⟨rfl, fun _ => rfl, by simp, by simp [phase]⟩

theorem Advances.leads
    (advances : Advances connection call current moved) :
    current.phase.Leads moved.phase := by
  cases advances with
  | refused phase => exact phase ▸ .refused
  | cancelled phase => exact phase ▸ .cancelled
  | armed phase => exact phase ▸ .armed
  | received phase sent => exact phase ▸ .ended
  | cleared | requested => exact .stays
  | dropped phase => exact phase ▸ .dropped

theorem Advances.engaged
    (advances : Advances connection call current moved) (engaged : moved.engaged = true) :
    current.engaged = true := by
  cases advances with
  | refused phase | cancelled phase | armed phase | received phase sent
  | cleared phase | dropped phase => simp_all [Call.engaged, Phase.active]
  | requested => exact engaged

theorem Takes.follows
    (takes : Takes connection action call current moved) :
    current.Follows moved := by
  cases takes with
  | withdrawn phase | timedOut phase =>
    exact ⟨rfl, fun _ => rfl, by simp, by simp [phase]⟩
  | struck target => exact ⟨rfl, id, id, fun _ => id⟩

theorem Takes.leads
    (takes : Takes connection action call current moved) :
    current.phase.Leads moved.phase := by
  cases takes with
  | withdrawn phase => exact phase ▸ .withdrawn
  | timedOut phase => exact phase ▸ .ended
  | struck target => exact .stays

theorem Takes.engaged
    (takes : Takes connection action call current moved) :
    current.engaged = true := by
  cases takes with
  | withdrawn phase | timedOut phase => simp [Call.engaged, Phase.active, phase]
  | struck target => simp [Call.engaged, target]

theorem without_calls (requestId : String) :
    (connection.without requestId).calls = connection.calls := by
  unfold without
  split <;> rfl

theorem routed_calls (reply : RpcReply) : (connection.routed reply).calls = connection.calls := by
  unfold routed
  split <;> rfl

theorem later_setCall
    (found : connection.calls[call]? = some current) (follows : current.Follows moved) :
    Later connection.calls (connection.setCall call moved).calls := by
  apply later_insert
  intro other present
  rw [found] at present
  cases present
  exact follows

/-- Every call has moved on. -/
theorem Effect.later (effect : Effect connection action next) :
    Later connection.calls next.calls := by
  cases effect with
  | quiet quiet =>
    rw [quiet.calls]
    exact .refl _
  | reserve fresh quiet =>
    rw [← quiet.calls] at fresh ⊢
    apply later_insert
    intro other present
    rw [fresh] at present
    cases present
  | advance found advances quiet =>
    rw [← quiet.calls] at found ⊢
    exact later_setCall found advances.follows
  | enter found phase free =>
    refine later_setCall found ?_
    exact ⟨rfl, by simp [phase, Phase.unsent], by simp, by simp [phase]⟩
  | take found takes quiet =>
    have same := quiet.calls.trans (without_calls _)
    rw [← same] at found ⊢
    exact later_setCall found takes.follows
  | send found phase =>
    refine later_setCall found ?_
    exact ⟨rfl, fun _ => rfl, by simp, by simp [phase]⟩
  | unsent found phase quiet =>
    rw [← quiet.calls] at found ⊢
    refine later_setCall found ?_
    exact ⟨rfl, fun _ => rfl, by simp, by simp [phase]⟩
  | read queue quiet =>
    rw [quiet.calls, routed_calls]
    exact .refl _
  | _ => exact .refl _

/-- A call was there before, under the same request id. -/
def Descends (calls : ExtTreeMap Nat Call) (number : Nat) (call : Call) : Prop :=
  ∃ before : Call, calls[number]? = some before ∧
    before.requestId = call.requestId ∧ before.phase.Leads call.phase

variable {calls : ExtTreeMap Nat Call} {call : Call}

theorem Descends.refl
    (found : calls[number]? = some call) :
    Descends calls number call :=
  ⟨call, found, rfl, .stays⟩

theorem descends_insert
    {moving : Nat} (found : calls[moving]? = some current)
    (same : moved.requestId = current.requestId) (leads : current.phase.Leads moved.phase)
    (present : (calls.insert moving moved)[number]? = some call) :
    Descends calls number call := by
  rcases getElem?_insert_cases present with ⟨rfl, rfl⟩ | ⟨_, present⟩
  · exact ⟨current, found, same.symm, leads⟩
  · exact .refl present

/-- A call enters the table. -/
structure Enters (connection : ClientConnection) (action : Action)
    (number : Nat) (call : Call) (next : ClientConnection) : Prop where
  action : action = .register number
  found :
    ∃ before : Call, connection.calls[number]? = some before ∧ before.requestId = call.requestId
  free : connection.taken call.requestId = false
  phase : call.phase = .registered
  pending :
    next.pending =
      connection.pending.insert call.requestId
        { sender := number, progress := .queued }

/-- Where a call comes from. -/
theorem Effect.descends
    (effect : Effect connection action next) (present : next.calls[number]? = some call) :
    Descends connection.calls number call ∨ Enters connection action number call next ∨
      connection.calls[number]? = none ∧ call.phase = .reserved := by
  cases effect with
  | quiet quiet =>
    rw [quiet.calls] at present
    exact Or.inl (.refl present)
  | reserve fresh quiet =>
    simp only [ClientConnection.setCall, quiet.calls] at present
    rcases getElem?_insert_cases present with ⟨rfl, rfl⟩ | ⟨_, present⟩
    · exact Or.inr (Or.inr ⟨fresh, rfl⟩)
    · exact Or.inl (.refl present)
  | advance found advances quiet =>
    simp only [ClientConnection.setCall, quiet.calls] at present
    exact Or.inl (descends_insert found advances.follows.requestId advances.leads present)
  | @enter entering current found phase free =>
    rcases getElem?_insert_cases present with ⟨rfl, rfl⟩ | ⟨_, present⟩
    · exact Or.inr (Or.inl ⟨rfl, ⟨current, found, rfl⟩, free, rfl, rfl⟩)
    · exact Or.inl (.refl present)
  | take found takes quiet =>
    simp only [ClientConnection.setCall, quiet.calls, without_calls] at present
    exact Or.inl (descends_insert found takes.follows.requestId takes.leads present)
  | @send sending current found phase =>
    have leads : current.phase.Leads .waiting := by
      rw [phase]
      exact .sent
    exact Or.inl (descends_insert found (by rfl) leads present)
  | @unsent sending current middle found phase quiet =>
    have leads : current.phase.Leads .waiting := by
      rw [phase]
      exact .sent
    simp only [ClientConnection.setCall, quiet.calls] at present
    exact Or.inl (descends_insert found (by rfl) leads present)
  | read queue quiet =>
    rw [quiet.calls, routed_calls] at present
    exact Or.inl (.refl present)
  | _ => exact Or.inl (.refl present)

end ClientConnection

/-! ## Frames -/

/-- The frame the writer has not put into the socket yet. -/
def Writer.unwritten : Writer → List Frame
  | .held command | .writing command => [command.frame]
  | .idle | .wrote _ | .finished => []

/-- The command it has. -/
def Writer.commands : Writer → List WriteCommand
  | .held command | .writing command | .wrote command => [command]
  | .idle | .finished => []

namespace ClientConnection

variable {connection next : ClientConnection}

/-- How often a request is on its way. -/
def carried (connection : ClientConnection) (call : Nat) : Nat :=
  (connection.outbound.map WriteCommand.frame).count (.request call) +
    connection.writer.unwritten.count (.request call) + connection.socket.count (.request call)

/-- Answers still to come. -/
def awaited (connection : ClientConnection) (call : Nat) : Nat :=
  connection.unanswered.count call + (connection.inbound.map RpcReply.origin).count call

/-- The request was sent. -/
def Sent (calls : ExtTreeMap Nat Call) (call : Nat) : Prop :=
  ∃ current, calls[call]? = some current ∧ current.phase.unsent = false

variable {before after calls : ExtTreeMap Nat Call} {call : Nat}
  {action : Action} {requestId : String} {command : WriteCommand}

theorem Sent.later
    (sent : Sent before call) (later : Later before after) :
    Sent after call := by
  rcases sent with ⟨current, found, phase⟩
  rcases later call current found with ⟨moved, present, follows⟩
  exact ⟨moved, present, follows.sent phase⟩

variable {current moved : Call} {reply : RpcReply} {rest : List RpcReply}

theorem not_sent_of_phase
    (found : calls[call]? = some current) (phase : current.phase.unsent = true) :
    ¬ Sent calls call := by
  rintro ⟨other, present, sent⟩
  rw [found] at present
  cases present
  rw [phase] at sent
  cases sent

theorem count_call (frame : Frame) (call : Nat) :
    frame.call.toList.count call = [frame].count (.request call) := by
  cases frame with
  | request other => simp [Frame.call, List.count_cons]
  | blobAck id => simp [Frame.call]

/-- Each request is written once. -/
structure Counted (connection : ClientConnection) : Prop where
  once : ∀ call, connection.carried call ≤ 1
  unsent : ∀ call, ¬ Sent connection.calls call → connection.carried call = 0
  answers : ∀ call, connection.awaited call ≤ connection.socket.count (.request call)
  wrote : ∀ command, connection.writer = .wrote command → command.frame ∈ connection.socket

theorem counted_new : Counted {} :=
  ⟨by simp [carried, Writer.unwritten], by
    simp [carried, Writer.unwritten], by simp [awaited], by simp⟩

/-- A call's frame is in one place, and nowhere before it is sent. -/
structure Posted (connection : ClientConnection) : Prop where
  once : ∀ call, connection.carried call ≤ 1
  unsent : ∀ call, ¬ Sent connection.calls call → connection.carried call = 0

theorem Counted.posted (counted : connection.Counted) : connection.Posted :=
  ⟨counted.once, counted.unsent⟩

theorem Posted.of_le
    (posted : connection.Posted) (later : Later connection.calls next.calls)
    (carried : ∀ call, next.carried call ≤ connection.carried call) :
    next.Posted where
  once := fun call => Nat.le_trans (carried call) (posted.once call)
  unsent := by
    intro call unsent
    have before := posted.unsent call fun sent => unsent (sent.later later)
    exact Nat.le_zero.mp (Nat.le_trans (carried call) (Nat.le_of_eq before))

theorem Counted.of_le
    (counted : connection.Counted) (later : Later connection.calls next.calls)
    (carried : ∀ call, next.carried call ≤ connection.carried call)
    (answers : ∀ call, next.awaited call ≤ next.socket.count (.request call))
    (wrote : ∀ command, next.writer = .wrote command → command.frame ∈ next.socket) :
    next.Counted where
  once := (counted.posted.of_le later carried).once
  unsent := (counted.posted.of_le later carried).unsent
  answers := answers
  wrote := wrote

/-- Quiet steps carry nothing. -/
theorem carried_quiet (quiet : Quiet connection next) (call : Nat) :
    next.carried call = connection.carried call := by
  rcases quiet.outbound with ⟨acks, queue, untracked⟩
  have none : (acks.map WriteCommand.frame).count (.request call) = 0 := by
    rw [List.count_eq_zero]
    intro listed
    rcases List.mem_map.mp listed with ⟨command, member, frame⟩
    rcases (untracked command member).2 with ⟨id, ack⟩
    rw [ack] at frame
    cases frame
  simp only [carried, queue, List.map_append, List.count_append, none,
    quiet.writer, quiet.socket, Nat.add_zero]

/-- Quiet steps keep the count. -/
theorem Counted.quiet
    (counted : connection.Counted) (quiet : Quiet connection next) :
    next.Counted := by
  refine counted.of_le ?_ ?_ ?_ ?_
  · rw [quiet.calls]
    exact .refl _
  · exact fun call => Nat.le_of_eq (carried_quiet quiet call)
  · simp only [awaited, quiet.unanswered, quiet.inbound, quiet.socket]
    exact counted.answers
  · rw [quiet.writer, quiet.socket]
    exact counted.wrote

theorem Counted.setCall
    (counted : connection.Counted)
    (later : Later connection.calls (connection.setCall call moved).calls) :
    (connection.setCall call moved).Counted :=
  counted.of_le later (fun _ => Nat.le_refl _) counted.answers counted.wrote

theorem Counted.without (counted : connection.Counted) (requestId : String) :
    (connection.without requestId).Counted := by
  unfold ClientConnection.without
  split
  · exact counted
  · exact counted.of_le (.refl _) (fun _ => Nat.le_refl _) counted.answers counted.wrote

/-- A reply is routed. -/
theorem Counted.routed
    (counted : connection.Counted) (queue : connection.inbound = reply :: rest) :
    (routed { connection with inbound := rest } reply).Counted := by
  have popped : Counted { connection with inbound := rest } := by
    refine counted.of_le (.refl _) (fun _ => Nat.le_refl _) ?_ counted.wrote
    intro call
    have before := counted.answers call
    simp only [awaited, queue, List.map_cons, List.count_cons] at before ⊢
    omega
  unfold ClientConnection.routed
  split <;>
    exact popped.of_le (.refl _) (fun _ => Nat.le_refl _) popped.answers popped.wrote

/-- One more request is carried. -/
theorem carried_send (call : Nat) (current : Call) (other : Nat) :
    (ClientConnection.setCall
        { connection with
          outbound :=
            connection.outbound ++
              [{ requestId := current.requestId
                 frame := .request call
                 tracked := true }] } call
        { current with phase := .waiting }).carried other =
      connection.carried other + if call = other then 1 else 0 := by
  simp only [carried, ClientConnection.setCall, List.map_append,
    List.map_cons, List.map_nil, List.count_append,
    List.count_singleton, beq_iff_eq, Frame.request.injEq]
  omega

/-- A request is posted. -/
theorem Posted.send
    {call : Nat} {current : Call} (posted : connection.Posted)
    (found : connection.calls[call]? = some current) (phase : current.phase = .armed) :
    Posted
      (ClientConnection.setCall
        { connection with
          outbound :=
            connection.outbound ++
              [{ requestId := current.requestId
                 frame := .request call
                 tracked := true }] } call
        { current with phase := .waiting }) := by
  have later := (Effect.send found phase).later
  have first : connection.carried call = 0 :=
    posted.unsent call (not_sent_of_phase found (by rw [phase]; rfl))
  constructor
  · intro other
    rw [carried_send]
    split_ifs with same
    · exact Nat.le_of_eq (by rw [← same, first])
    · exact posted.once other
  · intro other unsent
    have apart : call ≠ other := by
      rintro rfl
      refine unsent ⟨_, ExtTreeMap.getElem?_insert_self, rfl⟩
    rw [carried_send, if_neg apart]
    exact posted.unsent other fun sent => unsent (sent.later later)

theorem without_carried (requestId : String) (call : Nat) :
    (connection.without requestId).carried call = connection.carried call := by
  unfold without
  split <;> rfl

theorem routed_carried (reply : RpcReply) (call : Nat) :
    (connection.routed reply).carried call = connection.carried call := by
  unfold routed
  split <;> rfl

/-- Other steps carry no more. -/
theorem Effect.carried_le
    (effect : Effect connection action next) (other : ∀ call, action ≠ .send call) (call : Nat) :
    next.carried call ≤ connection.carried call := by
  cases effect with
  | quiet quiet | reserve _ quiet | advance _ _ quiet =>
    exact Nat.le_of_eq (carried_quiet quiet call)
  | take found takes quiet =>
    exact Nat.le_of_eq ((carried_quiet quiet call).trans (without_carried _ call))
  | send found phase => exact absurd rfl (other _)
  | unsent found phase quiet => exact absurd rfl (other _)
  | recv idle queue =>
    simp only [carried, queue, idle, Writer.unwritten, List.map_cons,
      List.count_cons, List.count_nil]
    omega
  | skip held =>
    simp only [carried, held, Writer.unwritten, List.count_nil]
    omega
  | mark held tracked present | begin held tracked =>
    simp only [carried, held, Writer.unwritten, Nat.le_refl]
  | write writing =>
    simp only [carried, writing, Writer.unwritten, List.count_append, List.count_nil]
    omega
  | fail writing =>
    simp only [carried, poison, writing, Writer.unwritten, List.count_nil]
    omega
  | settle wrote tracked present | rest wrote absent =>
    simp only [carried, wrote, Writer.unwritten, Nat.le_refl]
  | halt idle =>
    simp only [carried, idle, Writer.unwritten, Nat.le_refl]
  | read queue quiet =>
    exact Nat.le_of_eq ((carried_quiet quiet call).trans (routed_carried _ call))
  | _ => exact Nat.le_refl _

/-- One step keeps requests in one place. -/
theorem Effect.posted
    (effect : Effect connection action next) (posted : connection.Posted) :
    next.Posted := by
  have later := effect.later
  by_cases sends : ∃ call, action = .send call
  · rcases sends with ⟨call, rfl⟩
    cases effect with
    | quiet quiet | advance _ _ quiet | unsent _ _ quiet =>
      exact posted.of_le later fun other => Nat.le_of_eq (carried_quiet quiet other)
    | take found takes quiet => cases takes
    | send found phase => exact posted.send found phase
  · exact posted.of_le later (effect.carried_le fun call same => sends ⟨call, same⟩)

/-- Each step counts once. -/
theorem Effect.counted
    (effect : Effect connection action next) (counted : connection.Counted) :
    next.Counted := by
  have later := effect.later
  have less := effect.carried_le
  cases effect with
  | quiet quiet => exact counted.quiet quiet
  | reserve fresh quiet | advance found advances quiet
  | unsent found phase quiet =>
    rw [← quiet.calls] at later
    exact (counted.quiet quiet).setCall later
  | enter found phase free =>
    exact counted.of_le later (less (by simp)) counted.answers counted.wrote
  | take found takes quiet =>
    rw [← without_calls, ← quiet.calls] at later
    exact ((counted.without _).quiet quiet).setCall later
  | send found phase =>
    have posted := counted.posted.send found phase
    exact ⟨posted.once, posted.unsent, counted.answers, counted.wrote⟩
  | recv | skip | mark | begin | settle | rest | halt =>
    exact counted.of_le later (less (by simp)) counted.answers (by simp)
  | write writing =>
    refine counted.of_le later (less (by simp)) ?_ ?_
    · intro call
      have before := counted.answers call
      simp only [awaited, List.count_append, count_call] at before ⊢
      omega
    · intro other same
      cases same
      exact List.mem_append_right _ (List.mem_singleton_self _)
  | fail writing =>
    exact counted.of_le later (less (by simp)) counted.answers (by simp [poison])
  | @answer call current blobRefs malformed found waiting =>
    refine counted.of_le later (less (by simp)) ?_ counted.wrote
    intro other
    have before := counted.answers other
    have occurs := List.count_pos_iff.mpr waiting
    simp only [awaited, List.map_append, List.map_cons, List.map_nil,
      List.count_append, List.count_singleton, List.count_erase, beq_iff_eq] at before ⊢
    split_ifs with same
    · subst same
      omega
    · omega
  | read queue quiet => exact (counted.routed queue).quiet quiet
  | swap | drain =>
    exact counted.of_le later (less (by simp)) counted.answers counted.wrote

/-- Whom poison tells what. -/
theorem getElem?_drain_oneshots
    {cause : Poison} {message : Option Outcome}
    (sent : (connection.drain cause).oneshots[call]? = some message) :
    connection.oneshots[call]? = some message ∨
      ∃ (requestId : String) (pending : PendingCall),
        connection.pending[requestId]? = some pending ∧ pending.sender = call ∧
          message = some (.error (cause.error pending.progress)) := by
  revert sent
  simp only [drain, ExtTreeMap.foldl_eq_foldl_toList]
  refine List.foldlRecOn connection.pending.toList _
    (motive := fun oneshots : ExtTreeMap Nat (Option Outcome) =>
      oneshots[call]? = some message →
        connection.oneshots[call]? = some message ∨
          ∃ (requestId : String) (pending : PendingCall),
            connection.pending[requestId]? = some pending ∧ pending.sender = call ∧
              message = some (.error (cause.error pending.progress))) ?_ ?_
  · exact Or.inl
  · intro oneshots told entry listed sent
    rcases getElem?_insert_cases sent with ⟨same, message⟩ | ⟨_, sent⟩
    · rw [ExtTreeMap.mem_toList_iff_getElem?_eq_some] at listed
      exact Or.inr ⟨entry.1, entry.2, listed, same, message.symm⟩
    · exact told sent

/-! ## Request ids -/

/-- The call has this id. -/
def Named (calls : ExtTreeMap Nat Call) (call : Nat)
    (requestId : String) : Prop :=
  ∃ current, calls[call]? = some current ∧ current.requestId = requestId

theorem Named.later
    (named : Named before call requestId) (later : Later before after) :
    Named after call requestId := by
  rcases named with ⟨current, found, rfl⟩
  rcases later call current found with ⟨moved, present, follows⟩
  exact ⟨moved, present, follows.requestId⟩

theorem Named.eq
    (named : Named calls call requestId) (found : calls[call]? = some current) :
    current.requestId = requestId := by
  rcases named with ⟨other, present, rfl⟩
  rw [found] at present
  cases present
  rfl

/-- A command carries an acknowledgement, or the frame of a call. -/
def Belongs (calls : ExtTreeMap Nat Call) (command : WriteCommand) : Prop :=
  (command.tracked = false ∧ ∃ id, command.frame = .blobAck id) ∨
    command.tracked = true ∧
      ∃ call, command.frame = .request call ∧ Named calls call command.requestId

theorem Belongs.later
    (belongs : Belongs before command) (later : Later before after) :
    Belongs after command := by
  rcases belongs with ack | ⟨tracked, call, frame, named⟩
  · exact Or.inl ack
  · exact Or.inr ⟨tracked, call, frame, named.later later⟩

theorem Belongs.named
    (belongs : Belongs calls command) (frame : command.frame = .request call) :
    command.tracked = true ∧ Named calls call command.requestId := by
  rcases belongs with ⟨_, id, ack⟩ | ⟨tracked, other, same, named⟩
  · rw [frame] at ack
    cases ack
  · rw [frame] at same
    cases same
    exact ⟨tracked, named⟩

/-- No entry of the table is new, and none has changed its call. -/
def Fewer (before after : ExtTreeMap String PendingCall) : Prop :=
  ∀ (requestId : String) (pending : PendingCall),
    after[requestId]? = some pending →
      ∃ old, before[requestId]? = some old ∧ old.sender = pending.sender

theorem Fewer.refl (pending : ExtTreeMap String PendingCall) : Fewer pending pending :=
  fun _ entry present => ⟨entry, present, rfl⟩

theorem Fewer.trans
    {first second third : ExtTreeMap String PendingCall}
    (earlier : Fewer first second) (later : Fewer second third) :
    Fewer first third := by
  intro requestId entry present
  rcases later requestId entry present with ⟨middle, found, same⟩
  rcases earlier requestId middle found with ⟨old, known, before⟩
  exact ⟨old, known, before.trans same⟩

theorem Quiet.fewer (quiet : Quiet connection next) : Fewer connection.pending next.pending := by
  rw [quiet.pending]
  exact .refl _

theorem fewer_erase
    (pending : ExtTreeMap String PendingCall) (requestId : String) :
    Fewer pending (pending.erase requestId) := by
  intro other entry present
  rw [ExtTreeMap.getElem?_erase] at present
  split_ifs at present
  exact ⟨entry, present, rfl⟩

theorem fewer_insert
    {pending : ExtTreeMap String PendingCall}
    {entry : PendingCall} (present : pending[requestId]? = some entry)
    (progress : WriteProgress) :
    Fewer pending (pending.insert requestId { entry with progress := progress }) := by
  intro other found inserted
  rcases getElem?_insert_cases inserted with ⟨rfl, rfl⟩ | ⟨_, kept⟩
  · exact ⟨entry, present, rfl⟩
  · exact ⟨found, kept, rfl⟩

theorem without_fewer (connection : ClientConnection) (requestId : String) :
    Fewer connection.pending (connection.without requestId).pending := by
  unfold without
  split
  · exact .refl _
  · exact fewer_erase _ _

theorem routed_fewer (connection : ClientConnection) (reply : RpcReply) :
    Fewer connection.pending (connection.routed reply).pending := by
  unfold routed
  split
  · exact fewer_erase _ _
  · exact .refl _

/-- Other steps add no entry. -/
theorem Effect.fewer
    (effect : Effect connection action next) (other : ∀ call, action ≠ .register call) :
    Fewer connection.pending next.pending := by
  cases effect with
  | quiet quiet | reserve _ quiet | advance _ _ quiet
  | unsent _ _ quiet => exact quiet.fewer
  | enter found phase free => exact absurd rfl (other _)
  | take found takes quiet => exact (without_fewer _ _).trans quiet.fewer
  | mark held tracked present => exact fewer_insert present _
  | settle wrote tracked present => exact fewer_insert present _
  | @read full reply rest next queue quiet =>
    exact (routed_fewer { connection with inbound := rest } reply).trans quiet.fewer
  | drain won =>
    intro requestId pending present
    simp [ClientConnection.drain] at present
  | _ => exact .refl _

/-- The commands not yet done. -/
def commands (connection : ClientConnection) : List WriteCommand :=
  connection.outbound ++ connection.writer.commands

/-- Everything belongs to a call. -/
structure Known (connection : ClientConnection) : Prop where
  senders :
    ∀ (requestId : String) (pending : PendingCall),
      connection.pending[requestId]? = some pending →
        ∃ current, connection.calls[pending.sender]? = some current ∧
          current.requestId = requestId ∧ current.phase ≠ .reserved
  commands : ∀ command ∈ connection.commands, Belongs connection.calls command
  replies : ∀ reply ∈ connection.inbound, Named connection.calls reply.origin reply.requestId
  drained : ∀ cause, connection.draining = some cause → connection.poisoned = true

theorem known_new : Known {} := ⟨by simp, by simp [commands, Writer.commands], by simp, by simp⟩

/-- Fewer entries are still known. -/
theorem Known.of_fewer
    (known : connection.Known) (later : Later connection.calls next.calls)
    (fewer : Fewer connection.pending next.pending)
    (commands :
      ∀ command ∈ next.commands, command ∈ connection.commands ∨ Belongs next.calls command)
    (replies :
      ∀ reply ∈ next.inbound,
        reply ∈ connection.inbound ∨ Named next.calls reply.origin reply.requestId)
    (drained : ∀ cause, next.draining = some cause → next.poisoned = true) :
    next.Known where
  senders := by
    intro requestId pending present
    rcases fewer requestId pending present with ⟨old, found, sender⟩
    rcases known.senders requestId old found with ⟨current, call, named, joined⟩
    rw [sender] at call
    rcases later _ current call with ⟨moved, stays, follows⟩
    exact ⟨moved, stays, follows.requestId.trans named, follows.joined joined⟩
  commands := by
    intro command listed
    rcases commands command listed with old | new
    · exact (known.commands command old).later later
    · exact new
  replies := by
    intro reply listed
    rcases replies reply listed with old | new
    · exact (known.replies reply old).later later
    · exact new
  drained := drained

theorem Quiet.commands
    (quiet : Quiet connection next) (calls : ExtTreeMap Nat Call) :
    ∀ command ∈ next.commands, command ∈ connection.commands ∨ Belongs calls command := by
  intro command listed
  rcases quiet.outbound with ⟨acks, queue, untracked⟩
  simp only [ClientConnection.commands, queue, quiet.writer, List.mem_append] at listed ⊢
  rcases listed with (old | ack) | busy
  · exact Or.inl (Or.inl old)
  · exact Or.inr (Or.inl (untracked command ack))
  · exact Or.inl (Or.inr busy)

theorem Known.held
    (known : connection.Known) (held : connection.writer = .held command) :
    Belongs connection.calls command :=
  known.commands command (by
    simp [ClientConnection.commands, held, Writer.commands])

theorem Known.quiet
    (known : connection.Known) (quiet : Quiet connection next) :
    next.Known := by
  refine known.of_fewer ?_ quiet.fewer (quiet.commands _) ?_ ?_
  · rw [quiet.calls]
    exact .refl _
  · rw [quiet.inbound]
    exact fun reply listed => Or.inl listed
  · rw [quiet.draining, quiet.poisoned]
    exact known.drained

theorem Known.setCall
    (known : connection.Known)
    (later : Later connection.calls (connection.setCall call moved).calls) :
    (connection.setCall call moved).Known :=
  known.of_fewer later (.refl _) (fun _ => Or.inl) (fun _ => Or.inl) known.drained

theorem Known.without (known : connection.Known) (requestId : String) :
    (connection.without requestId).Known := by
  have fewer := without_fewer connection requestId
  unfold ClientConnection.without at fewer ⊢
  split at fewer
  · rename_i absent
    exact known
  · rename_i pending present
    exact known.of_fewer (.refl _) fewer (fun _ => Or.inl) (fun _ => Or.inl) known.drained

/-- A routed reply was known. -/
theorem Known.routed
    (known : connection.Known) (queue : connection.inbound = reply :: rest) :
    (routed { connection with inbound := rest } reply).Known := by
  have popped : Known { connection with inbound := rest } := by
    refine known.of_fewer (.refl _) (.refl _) (fun _ => Or.inl) ?_ known.drained
    intro other listed
    rw [queue]
    exact Or.inl (List.mem_cons_of_mem _ listed)
  have fewer := routed_fewer { connection with inbound := rest } reply
  unfold ClientConnection.routed at fewer ⊢
  split at fewer
  all_goals
    exact popped.of_fewer (.refl _) fewer (fun _ => Or.inl) (fun _ => Or.inl) popped.drained

/-- A call that enters is known. -/
theorem Known.enter
    {call : Nat} {current : Call} (known : connection.Known)
    (found : connection.calls[call]? = some current) (phase : current.phase = .reserved)
    (free : connection.taken current.requestId = false) :
    Known
      ({ connection with
          pending :=
            connection.pending.insert current.requestId
              { sender := call, progress := .queued } }.setCall call
        { current with phase := .registered }) := by
  have later := (Effect.enter found phase free).later
  have moved := known.setCall later
  refine ⟨?_, moved.commands, moved.replies, moved.drained⟩
  intro requestId pending present
  rcases getElem?_insert_cases present with ⟨same, rfl⟩ | ⟨_, before⟩
  · exact ⟨_, ExtTreeMap.getElem?_insert_self, same, by simp⟩
  · exact moved.senders requestId pending before

theorem without_commands (requestId : String) :
    (connection.without requestId).commands = connection.commands := by
  unfold without
  split <;> rfl

theorem routed_commands (reply : RpcReply) :
    (connection.routed reply).commands = connection.commands := by
  unfold routed
  split <;> rfl

/-- Commands belong to calls. -/
theorem Effect.commands (effect : Effect connection action next) :
    ∀ command ∈ next.commands, command ∈ connection.commands ∨ Belongs next.calls command := by
  cases effect with
  | quiet quiet | reserve _ quiet | advance _ _ quiet
  | unsent _ _ quiet => exact quiet.commands _
  | @take action call current moved middle found takes quiet =>
    have commands := quiet.commands (middle.setCall call moved).calls
    rw [without_commands] at commands
    exact commands
  | @read full reply rest next queue quiet =>
    have commands := quiet.commands next.calls
    rw [routed_commands] at commands
    exact commands
  | @send call current found phase =>
    intro command listed
    simp only [ClientConnection.commands, ClientConnection.setCall,
      List.mem_append, List.mem_singleton] at listed ⊢
    rcases listed with (old | rfl) | busy
    · exact Or.inl (Or.inl old)
    · exact Or.inr (Or.inr ⟨rfl, call, rfl, _, ExtTreeMap.getElem?_insert_self, rfl⟩)
    · exact Or.inl (Or.inr busy)
  | recv idle queue =>
    intro command listed
    simp only [ClientConnection.commands, queue, idle, Writer.commands,
      List.mem_append, List.mem_cons, List.not_mem_nil, or_false]
      at listed ⊢
    exact Or.inl listed.symm
  | mark held tracked present | begin held tracked =>
    simp only [ClientConnection.commands, held, Writer.commands]
    exact fun _ => Or.inl
  | write writing =>
    simp only [ClientConnection.commands, writing, Writer.commands]
    exact fun _ => Or.inl
  | settle | skip | rest | halt | fail =>
    intro command listed
    simp only [ClientConnection.commands, Writer.commands, poison, List.append_nil] at listed
    exact Or.inl (List.mem_append_left _ listed)
  | _ => exact fun _ => Or.inl

/-- How the flags change. -/
theorem Effect.flags (effect : Effect connection action next) :
    (next.poisoned = connection.poisoned ∧ next.draining = connection.draining) ∨
      ((∃ cause, action = .swap cause) ∧ next.poisoned = true ∧ next.draining.isSome = true) ∨
      (action = .drain ∧ next.poisoned = connection.poisoned ∧
        connection.draining.isSome = true ∧ next.draining = none ∧ next.pending = ∅) := by
  cases effect with
  | quiet quiet | reserve _ quiet | advance _ _ quiet
  | unsent _ _ quiet => exact Or.inl ⟨quiet.poisoned, quiet.draining⟩
  | take found takes quiet =>
    left
    refine ⟨quiet.poisoned.trans ?_, quiet.draining.trans ?_⟩ <;>
      · unfold without
        split <;> rfl
  | read queue quiet =>
    left
    refine ⟨quiet.poisoned.trans ?_, quiet.draining.trans ?_⟩ <;>
      · unfold routed
        split <;> rfl
  | swap called => exact Or.inr (Or.inl ⟨⟨_, rfl⟩, rfl, rfl⟩)
  | drain won =>
    exact Or.inr (Or.inr ⟨rfl, rfl, by rw [won]; rfl, rfl, rfl⟩)
  | _ => exact Or.inl ⟨rfl, rfl⟩

/-- Who empties it has poisoned it. -/
theorem Effect.drained
    (effect : Effect connection action next)
    (drained : ∀ cause, connection.draining = some cause → connection.poisoned = true) :
    ∀ cause, next.draining = some cause → next.poisoned = true := by
  intro cause won
  rcases effect.flags with ⟨poisoned, draining⟩ | ⟨_, poisoned, _⟩ | ⟨_, _, _, free, _⟩
  · rw [poisoned]
    exact drained cause (draining ▸ won)
  · exact poisoned
  · rw [free] at won
    cases won

/-- One step keeps all known. -/
theorem Effect.known
    (effect : Effect connection action next) (known : connection.Known) :
    next.Known := by
  have later := effect.later
  have commands := effect.commands
  have drained := effect.drained known.drained
  cases effect with
  | quiet quiet => exact known.quiet quiet
  | reserve fresh quiet | advance found advances quiet
  | unsent found phase quiet =>
    rw [← quiet.calls] at later
    exact (known.quiet quiet).setCall later
  | enter found phase free => exact known.enter found phase free
  | take found takes quiet =>
    rw [← without_calls, ← quiet.calls] at later
    exact ((known.without _).quiet quiet).setCall later
  | mark held tracked present | settle wrote tracked present =>
    exact known.of_fewer later (fewer_insert present _) commands (fun _ => Or.inl) drained
  | answer found waiting =>
    refine known.of_fewer later (.refl _) commands ?_ drained
    intro reply listed
    rcases List.mem_append.mp listed with old | new
    · exact Or.inl old
    · rw [List.mem_singleton] at new
      subst new
      exact Or.inr ⟨_, found, rfl⟩
  | read queue quiet =>
    exact (known.routed queue).quiet quiet
  | drain won =>
    refine known.of_fewer later ?_ commands (fun _ => Or.inl) drained
    intro requestId pending present
    simp [ClientConnection.drain] at present
  | _ =>
    exact known.of_fewer later (.refl _) commands (fun _ => Or.inl) drained

end ClientConnection

end Tinyray.Transport
