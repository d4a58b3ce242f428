import Tinyray.Transport.Traffic

/-!
# The reader of a connection

A connection that is not poisoned is handed out to callers, so somebody has
to read their replies.  The reader task leaves its loop when the stream ends
or cannot be understood, when nobody knows a reply, and when the connection
is poisoned; each time but one the connection is poisoned by then.  The
exception is a reply with status `MalformedProtocol` to a call that waits
for it: the call is completed and the reader leaves.
-/

namespace Tinyray.Transport

open Std Foundation

/-- The reader itself has called `poison`. -/
def Poison.fromReader : Poison → Bool
  | .unknownReply _ | .reader _ => true
  | _ => false

/-- A step of the reader, or the swap in a call of `poison`. -/
def Action.unsettles : Action → Bool
  | .read _ | .lose _ | .leave | .swap _ => true
  | _ => false

/-- A step of a connection, or a reply of whatever kind. -/
inductive Arrival where
  | own (action : Action)
  | reply (reply : RpcReply)

namespace ClientConnection

/-- The reader reads, or is still in its own call of `poison`. -/
def readerRunning (connection : ClientConnection) : Bool :=
  connection.reading || connection.poisoning.any Poison.fromReader ||
    connection.draining.any Poison.fromReader

/-- The connection when the call of `poison` under way has returned. -/
def settled (connection : ClientConnection) : ClientConnection :=
  match connection.draining with
  | none => connection
  | some cause => connection.drain cause

/-- One step, or a reply comes. -/
def arrive (connection : ClientConnection) : Arrival → Option ClientConnection
  | .own action => connection.step action
  | .reply reply => some { connection with inbound := connection.inbound ++ [reply] }

/-- No call that waits is told that the protocol was malformed. -/
def civil (connection : ClientConnection) : Arrival → Bool
  | .own (.read _) =>
    match connection.inbound with
    | reply :: _ => !(reply.malformed && connection.pending.contains reply.requestId)
    | [] => true
  | _ => true

/-! ## Steps the reader has no part in -/

/-- The reader goes on as before, and who is poisoning goes on too. -/
structure Steadfast (before after : ClientConnection) : Prop where
  reading : after.reading = before.reading
  poisoned : after.poisoned = before.poisoned
  poisoning : ∀ cause ∈ before.poisoning, cause ∈ after.poisoning

namespace Steadfast

variable {before middle after : ClientConnection}

theorem refl (connection : ClientConnection) : Steadfast connection connection :=
  ⟨rfl, rfl, fun _ listed => listed⟩

theorem of_eq (reading : after.reading = before.reading)
    (poisoned : after.poisoned = before.poisoned)
    (poisoning : after.poisoning = before.poisoning) :
    Steadfast before after where
  reading := reading
  poisoned := poisoned
  poisoning := fun cause listed => by
    rw [poisoning]
    exact listed

theorem trans (first : Steadfast before middle)
    (second : Steadfast middle after) :
    Steadfast before after where
  reading := second.reading.trans first.reading
  poisoned := second.poisoned.trans first.poisoned
  poisoning := fun cause listed => second.poisoning cause (first.poisoning cause listed)

end Steadfast

section

variable (connection : ClientConnection)

theorem steadfast_poison (cause : Poison) : Steadfast connection (connection.poison cause) :=
  ⟨rfl, rfl, fun _ listed => List.mem_append_left _ listed⟩

theorem steadfast_markIdle (full : Bool) : Steadfast connection (connection.markIdle full).1 := by
  unfold markIdle
  split
  · exact .refl connection
  · split
    · exact .refl connection
    · exact .of_eq rfl rfl rfl

theorem steadfast_queueBlobAck (requestId : String) :
    Steadfast connection (connection.queueBlobAck requestId) := by
  unfold queueBlobAck trySend
  split
  · rename_i queued sent
    split_ifs at sent
    cases sent
    exact .of_eq rfl rfl rfl
  · exact steadfast_poison connection _

/-- A dropped guard is steadfast. -/
theorem steadfast_sendBlobAck (requestId : String) (full : Bool) :
    Steadfast connection (connection.sendBlobAck requestId full) := by
  unfold sendBlobAck
  split
  · have released :
        Steadfast connection
          { connection with guardedReplies := connection.guardedReplies.erase requestId } :=
      .of_eq rfl rfl rfl
    have idle := released.trans (steadfast_markIdle _ full)
    simp only
    split
    · exact idle.trans (steadfast_poison _ _)
    · exact idle.trans (.of_eq rfl rfl rfl)
  · exact .refl connection

/-- Abandoning is steadfast. -/
theorem steadfast_abandon (requestId : String) (full : Bool) :
    Steadfast connection (connection.abandon requestId full).1 := by
  unfold abandon
  split
  · exact .refl connection
  · rename_i pending _
    have taken : Steadfast connection (connection.takeOut requestId pending) := .of_eq rfl rfl rfl
    have idle := taken.trans (steadfast_markIdle _ full)
    simp only
    split
    · exact idle.trans (steadfast_poison _ _)
    · exact idle

theorem steadfast_setCall (call : Nat) (next : Call) :
    Steadfast connection (connection.setCall call next) :=
  .of_eq rfl rfl rfl

end

variable {connection next : ClientConnection} {action : Action}

/-- Most steps are steadfast. -/
theorem Stepped.steadfast
    (stepped : Stepped connection action next) (apart : action.unsettles = false) :
    Steadfast connection next := by
  cases stepped with
  | withdraw | strike =>
    exact (steadfast_abandon connection _ _).trans (steadfast_setCall _ _ _)
  | @timeout call current full found phase =>
    have taken := steadfast_abandon connection current.requestId full
    unfold timeOut
    simp only
    split
    · exact (taken.trans (steadfast_poison _ _)).trans (steadfast_setCall _ call _)
    · exact taken.trans (steadfast_setCall _ call _)
  | unsent =>
    exact (steadfast_poison connection _).trans (steadfast_setCall _ _ _)
  | fail => exact ⟨rfl, rfl, fun _ listed => List.mem_append_left _ listed⟩
  | release => exact steadfast_sendBlobAck connection _ _
  | @acknowledge requestId owed =>
    have begun :
        Steadfast connection
          { connection with acking := connection.acking.erase requestId } :=
      .of_eq rfl rfl rfl
    exact begun.trans (steadfast_queueBlobAck _ requestId)
  | expire | close => exact steadfast_poison connection _
  | read | lose | leave | late | swap => cases apart
  | _ => exact .of_eq rfl rfl rfl

/-! ## The reader's own steps -/

/-- Who leaves without a word has been poisoned, or is about to be. -/
def Watched (connection : ClientConnection) : Prop :=
  connection.reading = false →
    connection.poisoned = true ∨ ∃ cause ∈ connection.poisoning, cause.fromReader = true

theorem Watched.steadfast
    (watched : connection.Watched) (steadfast : Steadfast connection next) :
    next.Watched := by
  intro stopped
  rw [steadfast.reading] at stopped
  rcases watched stopped with poisoned | ⟨cause, listed, own⟩
  · left
    rw [steadfast.poisoned]
    exact poisoned
  · exact Or.inr ⟨cause, steadfast.poisoning cause listed, own⟩

/-- Routing leaves it watched. -/
theorem Watched.route
    (watched : connection.Watched) (reply : RpcReply) (full : Bool)
    (civil : reply.malformed = true → connection.pending.contains reply.requestId = false) :
    (connection.route reply full).Watched := by
  unfold ClientConnection.route
  cases present : connection.pending[reply.requestId]? with
  | some pending =>
    have polite : reply.malformed = false := by
      cases malformed : reply.malformed with
      | false => rfl
      | true =>
        have absent := civil malformed
        rw [ExtTreeMap.contains_eq_isSome_getElem?, present] at absent
        cases absent
    have completed : Steadfast connection (connection.complete reply pending) := by
      refine ⟨?_, rfl, fun _ listed => listed⟩
      simp [complete, polite]
    have idle := completed.trans (steadfast_markIdle _ full)
    simp only
    split
    · exact watched.steadfast (idle.trans (steadfast_poison _ _))
    · exact watched.steadfast idle
  | none =>
    cases connection.abandoned[reply.requestId]? with
    | some call =>
      have forgotten : Steadfast connection (connection.forget reply.requestId) :=
        .of_eq rfl rfl rfl
      have idle := forgotten.trans (steadfast_markIdle _ full)
      have acked :
          Steadfast connection
            (if reply.blobRefs then
              { ((connection.forget reply.requestId).markIdle full).1 with
                acking :=
                  ((connection.forget reply.requestId).markIdle
                    full).1.acking ++ [reply.requestId] }
            else ((connection.forget reply.requestId).markIdle full).1) := by
        split
        · exact idle.trans (.of_eq rfl rfl rfl)
        · exact idle
      simp only
      split
      · exact watched.steadfast (acked.trans (steadfast_poison _ _))
      · exact watched.steadfast acked
    | none =>
      intro _
      right
      refine ⟨.unknownReply reply.requestId, ?_, rfl⟩
      exact List.mem_append_right _ (List.mem_singleton_self _)

/-- One step leaves it watched. -/
theorem step_watched
    (stepped : connection.step action = some next)
    (civil : connection.civil (.own action) = true) (watched : connection.Watched) :
    next.Watched := by
  have steadfast := (step_stepped stepped).steadfast
  cases step_stepped stepped with
  | @read full reply rest reading queue =>
    have started : Watched { connection with inbound := rest } := watched
    refine started.route reply full ?_
    intro malformed
    simpa [ClientConnection.civil, queue, malformed] using civil
  | @lose error reading =>
    intro _
    right
    refine ⟨.reader error, ?_, rfl⟩
    exact List.mem_append_right _ (List.mem_singleton_self _)
  | leave poisoned | late called poisoned => exact fun _ => Or.inl poisoned
  | swap called unpoisoned => exact fun _ => Or.inl rfl
  | _ => exact watched.steadfast (steadfast rfl)

/-! ## Calls on a poisoned connection -/

theorem Effect.fewer_of_poisoned
    (effect : Effect connection action next) (poisoned : connection.poisoned = true) :
    Fewer connection.pending next.pending := by
  by_cases registers : ∃ call, action = .register call
  · rcases registers with ⟨call, rfl⟩
    cases effect with
    | quiet quiet | advance _ _ quiet => exact quiet.fewer
    | take found takes quiet => exact (without_fewer _ _).trans quiet.fewer
    | enter found phase free => simp [taken, poisoned] at free
  · exact effect.fewer fun call same => registers ⟨call, same⟩

/-- A poisoned connection has been emptied, or someone is about to do it. -/
structure Closing (connection : ClientConnection) : Prop where
  won : connection.draining.isSome = true → connection.poisoned = true
  emptied : connection.poisoned = true → connection.draining = none → connection.pending = ∅

theorem closing_new : Closing {} where
  won := by
    intro won
    cases won
  emptied := by
    intro poisoned
    cases poisoned

theorem Fewer.eq_empty
    {pending : ExtTreeMap String PendingCall} (fewer : Fewer ∅ pending) :
    pending = ∅ := by
  apply ExtTreeMap.ext_getElem?
  intro requestId
  rw [ExtTreeMap.getElem?_empty, Option.eq_none_iff_forall_ne_some]
  intro entry present
  rcases fewer requestId entry present with ⟨old, found, _⟩
  simp at found

/-- One step keeps it closing. -/
theorem Effect.closing
    (effect : Effect connection action next) (closing : connection.Closing) :
    next.Closing := by
  rcases effect.flags with
    ⟨poisoned, draining⟩ | ⟨_, poisoned, won⟩ |
      ⟨_, poisoned, won, free, empty⟩
  · refine ⟨?_, ?_⟩
    · rw [draining, poisoned]
      exact closing.won
    · rw [draining, poisoned]
      intro already free
      have fewer := effect.fewer_of_poisoned already
      rw [closing.emptied already free] at fewer
      exact fewer.eq_empty
  · refine ⟨fun _ => poisoned, ?_⟩
    intro _ free
    rw [free] at won
    cases won
  · refine ⟨?_, fun _ _ => empty⟩
    rw [free]
    intro again
    cases again

theorem Effect.poisoned
    (effect : Effect connection action next) (poisoned : connection.poisoned = true) :
    next.poisoned = true := by
  rcases effect.flags with ⟨same, _⟩ | ⟨_, now, _⟩ | ⟨_, same, _⟩
  · exact same.trans poisoned
  · exact now
  · exact same.trans poisoned

/-! ## Calls and what they are told -/

/-- A call is registered under a request id. -/
def Waits (connection : ClientConnection) (requestId : String)
    (number : Nat) : Prop :=
  connection.pending[requestId]?.map PendingCall.sender = some number

/-- A call has been told its outcome, or that there will be none. -/
def Heard (connection : ClientConnection) (number : Nat) : Prop :=
  connection.oneshots[number]?.isSome = true

/-- Who leaves the table is told, and nobody forgets. -/
structure Tells (before after : ClientConnection) : Prop where
  waits :
    ∀ requestId number, before.Waits requestId number →
      after.Waits requestId number ∨ after.Heard number
  heard : ∀ number, before.Heard number → after.Heard number

/-- Nothing is told. -/
theorem Tells.of_eq
    (pending : next.pending = connection.pending)
    (oneshots : next.oneshots = connection.oneshots) :
    Tells connection next where
  waits := by
    intro requestId number waits
    left
    rw [Waits, pending]
    exact waits
  heard := by
    intro number heard
    rw [Heard, oneshots]
    exact heard

theorem Tells.trans
    {middle : ClientConnection} (first : Tells connection middle) (second : Tells middle next) :
    Tells connection next where
  waits := by
    intro requestId number waits
    rcases first.waits requestId number waits with waits | heard
    · exact second.waits requestId number waits
    · exact Or.inr (second.heard number heard)
  heard := fun number heard => second.heard number (first.heard number heard)

theorem Quiet.tells (quiet : Quiet connection next) : Tells connection next :=
  .of_eq quiet.pending quiet.oneshots

variable {requestId : String} {pending : PendingCall} {arrival : Arrival}

/-- Who leaves the table is told. -/
theorem tells_erase
    {message : Option Outcome} (present : connection.pending[requestId]? = some pending)
    (erased : next.pending = connection.pending.erase requestId)
    (told : next.oneshots = connection.oneshots.insert pending.sender message) :
    Tells connection next where
  waits := by
    intro other number waits
    by_cases same : requestId = other
    · subst same
      rw [Waits, present] at waits
      cases waits
      right
      rw [Heard, told]
      simp
    · left
      rw [Waits, erased, ExtTreeMap.getElem?_erase,
        if_neg fun equal => same (Std.compare_eq_iff_eq.mp equal)]
      exact waits
  heard := by
    intro number heard
    rw [Heard, told, ExtTreeMap.getElem?_insert]
    split
    · rfl
    · exact heard

/-- A mark tells nobody. -/
theorem tells_setProgress
    {progress : WriteProgress} (present : connection.pending[requestId]? = some pending)
    (inserted :
      next.pending =
        connection.pending.insert requestId
          { pending with progress := progress })
    (oneshots : next.oneshots = connection.oneshots) :
    Tells connection next where
  waits := by
    intro other number waits
    left
    rw [Waits, inserted]
    by_cases same : requestId = other
    · subst same
      rw [Waits, present] at waits
      rw [ExtTreeMap.getElem?_insert_self]
      exact waits
    · rw [getElem?_insert_ne same]
      exact waits
  heard := by
    intro number heard
    rw [Heard, oneshots]
    exact heard

theorem tells_without (requestId : String) : Tells connection (connection.without requestId) := by
  unfold without
  split
  · exact .of_eq rfl rfl
  · rename_i pending present
    exact tells_erase present rfl rfl

theorem tells_routed (reply : RpcReply) : Tells connection (connection.routed reply) := by
  unfold routed
  split
  · rename_i pending present
    exact tells_erase present rfl rfl
  · exact .of_eq rfl rfl

/-- Poison tells everybody. -/
theorem tells_drain (cause : Poison) : Tells connection (connection.drain cause) where
  waits := by
    intro requestId number waits
    right
    rcases Option.map_eq_some_iff.mp waits with ⟨pending, present, sender⟩
    rw [Heard, drain, ExtTreeMap.foldl_eq_foldl_toList, isSome_foldl_insert]
    right
    refine ⟨(requestId, pending), ?_, sender⟩
    rw [ExtTreeMap.mem_toList_iff_getElem?_eq_some]
    exact present
  heard := by
    intro number heard
    rw [Heard, drain, ExtTreeMap.foldl_eq_foldl_toList, isSome_foldl_insert]
    exact Or.inl heard

/-- Each step tells whom it takes out. -/
theorem Effect.tells (effect : Effect connection action next) : Tells connection next := by
  cases effect with
  | quiet quiet | reserve _ quiet | advance _ _ quiet
  | unsent _ _ quiet => exact .of_eq quiet.pending quiet.oneshots
  | @enter call current found phase free =>
    refine ⟨?_, fun _ heard => heard⟩
    intro requestId number waits
    left
    have other : current.requestId ≠ requestId := by
      rintro rfl
      rcases Option.map_eq_some_iff.mp waits with ⟨pending, present, _⟩
      rw [taken, ExtTreeMap.contains_eq_isSome_getElem?, present] at free
      simp at free
    rw [Waits]
    simp only [ClientConnection.setCall]
    rw [getElem?_insert_ne other]
    exact waits
  | take found takes quiet =>
    exact (tells_without _).trans (.of_eq quiet.pending quiet.oneshots)
  | mark held tracked present => exact tells_setProgress present rfl rfl
  | settle wrote tracked present =>
    exact tells_setProgress present rfl rfl
  | @read full reply rest next queue quiet =>
    have unread : Tells connection { connection with inbound := rest } := .of_eq rfl rfl
    exact (unread.trans (tells_routed reply)).trans quiet.tells
  | drain won => exact tells_drain _
  | _ => exact .of_eq rfl rfl

/-- Every call between `register` and its outcome waits, or can go on. -/
def Attended (connection : ClientConnection) : Prop :=
  ∀ (number : Nat) (call : Call),
    connection.calls[number]? = some call →
      call.phase.active = true → connection.Waits call.requestId number ∨ connection.Heard number

/-- Each step leaves calls attended. -/
theorem Effect.attended
    (effect : Effect connection action next) (attended : connection.Attended) :
    next.Attended := by
  intro number call present active
  rcases effect.descends present with ⟨before, found, same, leads⟩ | enters | ⟨_, reserved⟩
  · rw [← same]
    have started := leads.active active
    rcases attended number before found started with waits | heard
    · exact effect.tells.waits _ _ waits
    · exact Or.inr (effect.tells.heard _ heard)
  · left
    rw [Waits, enters.pending]
    simp
  · rw [reserved] at active
    cases active

/-! ## Whole runs -/

/-- What every run with civil replies keeps. -/
structure Tended (connection : ClientConnection) : Prop where
  watched : connection.Watched
  closing : connection.Closing
  attended : connection.Attended

theorem tended_new : Tended {} where
  watched := by
    intro stopped
    cases stopped
  closing := closing_new
  attended := by
    intro number call present
    simp at present

/-- Whatever arrives, it is tended. -/
theorem arrive_tended
    (arrived : connection.arrive arrival = some next)
    (civil : connection.civil arrival = true) (tended : connection.Tended) :
    next.Tended := by
  cases arrival with
  | own action =>
    have effect := step_effect arrived
    exact
      ⟨step_watched arrived civil tended.watched,
        effect.closing tended.closing, effect.attended tended.attended⟩
  | reply reply =>
    cases arrived
    exact ⟨tended.watched, ⟨tended.closing.won, tended.closing.emptied⟩, tended.attended⟩

/-- Poisoned, and no call was registered since. -/
structure Shut (start connection : ClientConnection) : Prop where
  poisoned : connection.poisoned = true
  fewer : Fewer start.pending connection.pending

theorem arrive_shut
    {start : ClientConnection} (arrived : connection.arrive arrival = some next)
    (shut : Shut start connection) :
    Shut start next := by
  cases arrival with
  | own action =>
    have effect := step_effect arrived
    exact ⟨effect.poisoned shut.poisoned, shut.fewer.trans (effect.fewer_of_poisoned shut.poisoned)⟩
  | reply reply =>
    cases arrived
    exact ⟨shut.poisoned, shut.fewer⟩

theorem settled_pending
    (closing : connection.Closing) (poisoned : connection.poisoned = true) :
    connection.settled.pending = ∅ := by
  unfold settled
  split
  · rename_i free
    exact closing.emptied poisoned free
  · rfl

/-- After poison every call has heard. -/
theorem Attended.settled_heard
    (attended : connection.Attended) (closing : connection.Closing)
    (poisoned : connection.poisoned = true) {number : Nat} {call : Call}
    (present : connection.calls[number]? = some call) (active : call.phase.active = true) :
    connection.settled.Heard number := by
  have tells : Tells connection connection.settled := by
    unfold settled
    split
    · exact .of_eq rfl rfl
    · exact tells_drain _
  rcases attended number call present active with waits | heard
  · rcases tells.waits _ _ waits with waits | heard
    · rw [Waits, settled_pending closing poisoned] at waits
      simp at waits
    · exact heard
  · exact tells.heard number heard

theorem Watched.poisoned
    (watched : connection.Watched) (stopped : connection.readerRunning = false) :
    connection.poisoned = true := by
  simp only [readerRunning, Bool.or_eq_false_iff, List.any_eq_false] at stopped
  rcases stopped with ⟨⟨reading, silent⟩, _⟩
  rcases watched reading with poisoned | ⟨cause, listed, own⟩
  · exact poisoned
  · exact absurd own (silent cause listed)

end ClientConnection

open ClientConnection in
/--
Unless a call that waits is told that the protocol was malformed, a
connection that is not poisoned has a reader.  When the reader has stopped,
every call is told its outcome, at the latest by the call of `poison` that
is under way, and no call is ever registered again.
-/
theorem usable_connection_has_reader
    (arrivals : List Arrival) (final : ClientConnection)
    (ran : execute arrive {} arrivals = some final)
    (met : obeys arrive civil {} arrivals = true) :
    (final.poisoned = false → final.readerRunning = true) ∧
      (final.readerRunning = false →
        final.settled.pending = ∅ ∧
          (∀ (number : Nat) (call : Call),
            final.calls[number]? = some call →
              call.phase.active = true → final.settled.Heard number) ∧
          ∀ (more : List Arrival) (later : ClientConnection),
            execute arrive final more = some later → Fewer final.pending later.pending) := by
  have tended : final.Tended := execute_invariant arrive_tended ran met tended_new
  constructor
  · intro usable
    by_contra stopped
    rw [Bool.not_eq_true] at stopped
    rw [tended.watched.poisoned stopped] at usable
    cases usable
  · intro stopped
    have poisoned := tended.watched.poisoned stopped
    refine ⟨settled_pending tended.closing poisoned, ?_, ?_⟩
    · intro number call present active
      exact tended.attended.settled_heard tended.closing poisoned present active
    · intro more later continued
      have shut : Shut final later := execute_preserves arrive_shut continued ⟨poisoned, .refl _⟩
      exact shut.fewer

open ClientConnection in
/-- The peer closes after one exchange, with a second call under way. -/
theorem usable_connection_has_reader_closed :
    ∃ final : ClientConnection,
      execute arrive {}
          [.own (.reserve 0 "x"), .own (.register 0), .own (.arm 0),
            .own (.send 0), .own .recv, .own .mark, .own .write,
            .own .settle, .own (.answer 0 false false), .own (.read false), .own (.receive 0),
            .own (.reserve 1 "y"), .own (.register 1), .own (.lose .peerClosed),
            .own (.swap (.reader .peerClosed)), .own .drain] =
          some final ∧
        final.readerRunning = false ∧ final.settled.pending = ∅ ∧ final.settled.Heard 1 := by
  refine ⟨Option.get _ ?_, (Option.some_get _).symm, ?_, ?_, ?_⟩
  · decide
  · decide
  · exact ((usable_connection_has_reader _ _ (Option.some_get _).symm (by decide)).2 (by decide)).1
  · exact
      ((usable_connection_has_reader _ _ (Option.some_get _).symm
        (by decide)).2 (by decide)).2.1 1
        { requestId := "y", phase := .registered } (by decide) rfl

open ClientConnection in
/--
Call `0` is told that the protocol was malformed, and the reader leaves
without poisoning the connection.  Call `1` is placed on it and written, and
nobody reads its reply.
-/
theorem malformed_reply_stops_reader :
    (execute arrive {}
        [.own (.reserve 0 "x"), .own (.register 0), .own (.arm 0),
          .own (.send 0), .own .recv, .own .mark, .own .write,
          .own .settle, .own (.answer 0 false true), .own (.read false),
          .own (.reserve 1 "y"), .own (.register 1), .own (.arm 1),
          .own (.send 1), .own .recv, .own .mark, .own .write,
          .own .settle, .own (.answer 1 false false)]).map
        (fun final =>
          (final.poisoned, final.readerRunning, final.settled.pending.contains "y",
            final.settled.oneshots.contains 1)) =
      some (false, false, true, false) := by
  decide

end Tinyray.Transport
