import Tinyray.Transport.Reader

/-!
# The number of idle connections

The connections of a client share one counter of those that are idle.  Each
connection knows whether it is counted.  `mark_idle` counts it, as long as the
cap is not reached; a reservation and the call of `poison` that empties the
table take it out again.  The counter is not guarded by the lock of any one
connection, and the swap of `poison` takes no lock: a swap that falls into a
section under the lock is as one right after it, since each section looks at
`poisoned` once.
-/

namespace Tinyray.Transport

open Std Foundation

/-- `MAX_IDLE_CONNECTIONS` -/
def maxIdleConnections : Int := 64

/-- Whether the cap is reached, for the steps that call `mark_idle`. -/
def Action.full : Action → Option Bool
  | .withdraw _ full | .timeout _ full | .strike _ full | .read full
  | .release _ full => some full
  | _ => none

namespace ClientConnection

/-- `mark_idle` gets as far as the counter. -/
def counts (connection : ClientConnection) : Bool :=
  connection.pending.isEmpty && connection.guardedReplies.isEmpty &&
    !connection.countedIdle && !connection.poisoned

/-- What `abandon` marks. -/
def abandonMarks (connection : ClientConnection) (requestId : String) : Option ClientConnection :=
  connection.pending[requestId]?.map (connection.takeOut requestId)

/-- What `route` marks. -/
def routeMarks (connection : ClientConnection) (reply : RpcReply) : Option ClientConnection :=
  match connection.pending[reply.requestId]? with
  | some pending => some (connection.complete reply pending)
  | none => connection.abandoned[reply.requestId]?.map fun _ => connection.forget reply.requestId

/-- What `send_blob_ack` marks. -/
def ackMarks (connection : ClientConnection) (requestId : String) : Option ClientConnection :=
  if requestId ∈ connection.guardedReplies then
    some
      { connection with guardedReplies := connection.guardedReplies.erase requestId }
  else none

/-- What an action marks. -/
def marks (connection : ClientConnection) : Action → Option ClientConnection
  | .withdraw call _ => do
    let current ← connection.inPhase call .cancelled
    connection.abandonMarks current.requestId
  | .timeout call _ => do
    let current ← connection.inPhase call .waiting
    connection.abandonMarks current.requestId
  | .strike call _ => do
    let current ← connection.calls[call]?
    connection.abandonMarks current.requestId
  | .read _ =>
    match connection.inbound with
    | reply :: rest =>
      { connection with inbound := rest }.routeMarks reply
    | [] => none
  | .release requestId _ => connection.ackMarks requestId
  | _ => none

/-- The counter after a mark. -/
def markCount (idle : Int) : Option ClientConnection → Int
  | some marked =>
    if marked.counts && decide (idle < maxIdleConnections) then idle + 1
    else idle
  | none => idle

/-- The counter after an action. -/
def countStep (connection : ClientConnection) (idle : Int) : Action → Int
  | .reserve .. | .drain => if connection.countedIdle then idle - 1 else idle
  | action => markCount idle (connection.marks action)

end ClientConnection

/-- The connections of one client. -/
structure IdleClient where
  idleConnections : Int := 0
  connections : List ClientConnection := []

/-- What happens to them. -/
inductive IdleEvent where
  | connect
  | act (index : Nat) (action : Action)

namespace IdleClient

/-- One step of the client. -/
def step (client : IdleClient) : IdleEvent → Option IdleClient
  | .connect => some { client with connections := client.connections ++ [{}] }
  | .act index action => do
    let connection ← client.connections[index]?
    if action.full.all fun full => full == decide (maxIdleConnections ≤ client.idleConnections) then
      let next ← connection.step action
      some
        { idleConnections := connection.countStep client.idleConnections action
          connections := client.connections.set index next }
    else none

end IdleClient

namespace ClientConnection

/-! ## What a step does to the flags -/

section

variable (connection : ClientConnection)

/-- The flags of the counter. -/
def idleFlags : Bool × Bool × Option Poison :=
  (connection.countedIdle, connection.poisoned, connection.draining)

/-- The flags after `mark_idle` on a connection with the same ones. -/
def flagsMarked (full : Bool) : Option ClientConnection → Bool × Bool × Option Poison
  | some marked =>
    if marked.counts && !full then (true, connection.poisoned, connection.draining)
    else connection.idleFlags
  | none => connection.idleFlags

@[simp]
theorem poison_idleFlags (cause : Poison) :
    (connection.poison cause).idleFlags = connection.idleFlags :=
  rfl

@[simp]
theorem setCall_idleFlags (call : Nat) (next : Call) :
    (connection.setCall call next).idleFlags = connection.idleFlags :=
  rfl

@[simp]
theorem queueBlobAck_idleFlags (requestId : String) :
    (connection.queueBlobAck requestId).idleFlags = connection.idleFlags := by
  unfold queueBlobAck trySend
  split
  · rename_i queued sent
    split_ifs at sent
    cases sent
    rfl
  · rfl

theorem markIdle_idleFlags (full : Bool) :
    (connection.markIdle full).1.idleFlags = connection.flagsMarked full (some connection) := by
  have asked :
      (!connection.pending.isEmpty || !connection.guardedReplies.isEmpty ||
        connection.countedIdle || connection.poisoned) = !connection.counts := by
    simp only [counts, Bool.not_and, Bool.not_not]
  simp only [markIdle, flagsMarked, asked]
  cases connection.counts <;> cases full <;> rfl

theorem abandon_idleFlags (requestId : String) (full : Bool) :
    (connection.abandon requestId full).1.idleFlags =
      connection.flagsMarked full (connection.abandonMarks requestId) := by
  unfold abandon abandonMarks
  cases connection.pending[requestId]? with
  | none => rfl
  | some pending =>
    have marked := (connection.takeOut requestId pending).markIdle_idleFlags full
    simp only
    split <;> exact marked

/-- The flags after routing. -/
theorem route_idleFlags (reply : RpcReply) (full : Bool) :
    (connection.route reply full).idleFlags =
      connection.flagsMarked full (connection.routeMarks reply) := by
  unfold route routeMarks
  cases connection.pending[reply.requestId]? with
  | some pending =>
    have marked := (connection.complete reply pending).markIdle_idleFlags full
    simp only
    split <;> exact marked
  | none =>
    cases connection.abandoned[reply.requestId]? with
    | none => rfl
    | some call =>
      have marked := (connection.forget reply.requestId).markIdle_idleFlags full
      simp only
      split
      · rw [poison_idleFlags]
        split <;> exact marked
      · split <;> exact marked

theorem sendBlobAck_idleFlags (requestId : String) (full : Bool) :
    (connection.sendBlobAck requestId full).idleFlags =
      connection.flagsMarked full (connection.ackMarks requestId) := by
  unfold sendBlobAck ackMarks
  split_ifs with guarded
  · have marked :=
      markIdle_idleFlags
        { connection with guardedReplies := connection.guardedReplies.erase requestId } full
    simp only
    split <;> exact marked
  · rfl

end

/-- The flags after an action. -/
def flagsAfter (connection : ClientConnection) : Action → Bool × Bool × Option Poison
  | .reserve .. => (false, connection.poisoned, connection.draining)
  | .swap cause =>
    if connection.poisoned then connection.idleFlags
    else (connection.countedIdle, true, some cause)
  | .drain => (connection.countedIdle, connection.poisoned, none)
  | action => connection.flagsMarked (action.full.getD false) (connection.marks action)

variable {connection next : ClientConnection} {action : Action}

/-- The flags after a step. -/
theorem step_flagsAfter (stepped : connection.step action = some next) :
    next.idleFlags = connection.flagsAfter action := by
  cases step_stepped stepped with
  | withdraw found phase =>
    have reached := inPhase_eq_some_iff.mpr ⟨found, phase⟩
    rw [setCall_idleFlags, abandon_idleFlags]
    simp [flagsAfter, marks, reached, Action.full]
  | @timeout call current full found phase =>
    have reached := inPhase_eq_some_iff.mpr ⟨found, phase⟩
    have marked :
        connection.flagsAfter (.timeout call full) =
          connection.flagsMarked full (connection.abandonMarks current.requestId) := by
      simp [flagsAfter, marks, reached, Action.full]
    rw [marked, ← connection.abandon_idleFlags current.requestId full]
    unfold timeOut
    simp only
    split <;> rfl
  | strike found target =>
    rw [strike, setCall_idleFlags, abandon_idleFlags]
    simp [flagsAfter, marks, found, Action.full]
  | read reading queue =>
    rw [route_idleFlags]
    simp only [flagsAfter, marks, queue, Action.full, Option.getD_some]
    rfl
  | late called poisoned => simp [flagsAfter, poisoned, idleFlags]
  | swap called unpoisoned => simp [flagsAfter, unpoisoned, idleFlags]
  | release => exact connection.sendBlobAck_idleFlags _ _
  | acknowledge owed =>
    rw [queueBlobAck_idleFlags]
    rfl
  | _ => rfl

/-! ## The counter and the flags -/

/-- The counter includes it. -/
def inCount (connection : ClientConnection) : Bool :=
  connection.countedIdle && (!connection.poisoned || connection.draining.isSome)

theorem inCount_eq (connection : ClientConnection) :
    connection.inCount =
      (connection.idleFlags.1 && (!connection.idleFlags.2.1 || connection.idleFlags.2.2.isSome)) :=
  rfl

variable {marked : ClientConnection} {idle : Int}

theorem abandonMarks_idleFlags
    {requestId : String} (found : connection.abandonMarks requestId = some marked) :
    marked.idleFlags = connection.idleFlags := by
  simp only [abandonMarks, Option.map_eq_some_iff] at found
  rcases found with ⟨pending, _, rfl⟩
  rfl

/-- What is marked has the same flags. -/
theorem marks_idleFlags (found : connection.marks action = some marked) :
    marked.idleFlags = connection.idleFlags := by
  cases action with
  | withdraw call full | timeout call full | strike call full =>
    simp only [marks, bind_some_iff] at found
    rcases found with ⟨current, _, found⟩
    exact abandonMarks_idleFlags found
  | read full =>
    simp only [marks] at found
    split at found
    · unfold routeMarks at found
      split at found
      · cases found
        rfl
      · simp only [Option.map_eq_some_iff] at found
        rcases found with ⟨_, _, rfl⟩
        rfl
    · cases found
  | release requestId full =>
    simp only [marks, ackMarks] at found
    split_ifs at found
    cases found
    rfl
  | _ => cases found

/-- A mark is counted once. -/
theorem markCount_inCount
    {full : Bool} {found : Option ClientConnection}
    (same :
      ∀ marked, found = some marked →
        marked.idleFlags = connection.idleFlags ∧ full = decide (maxIdleConnections ≤ idle))
    (flags : next.idleFlags = connection.flagsMarked full found) :
    markCount idle found + connection.inCount.toNat = idle + next.inCount.toNat := by
  cases found with
  | none =>
    rw [inCount_eq next, flags]
    rfl
  | some marked =>
    rcases same marked rfl with ⟨kept, rfl⟩
    cases counted : marked.counts with
    | false =>
      simp only [flagsMarked, counted, Bool.false_and] at flags
      rw [inCount_eq next, flags, markCount, counted]
      rfl
    | true =>
      have clear := counted
      simp only [counts, Bool.and_eq_true, Bool.not_eq_true'] at clear
      simp only [idleFlags, Prod.mk.injEq] at kept
      rw [kept.1, kept.2.1] at clear
      have outside : connection.inCount = false := by
        simp [inCount, clear]
      by_cases room : idle < maxIdleConnections
      · have below : ¬ maxIdleConnections ≤ idle := by omega
        have inside : next.inCount = true := by
          rw [inCount_eq next, flags]
          simp [flagsMarked, counted, below, clear]
        simp [markCount, counted, room, outside, inside]
      · have reached : maxIdleConnections ≤ idle := by omega
        have still : next.inCount = connection.inCount := by
          rw [inCount_eq next, flags]
          simp [flagsMarked, counted, reached, inCount_eq]
        simp [markCount, counted, room, still]

theorem marks_full (found : connection.marks action = some marked) : action.full.isSome = true := by
  cases action with
  | withdraw | timeout | strike | read | release => rfl
  | _ => cases found

/-- So is a step that marks. -/
theorem step_count_marks
    (reserves : ∀ call requestId, action ≠ .reserve call requestId)
    (swaps : ∀ cause, action ≠ .swap cause) (drains : action ≠ .drain)
    (asked : (action.full.all fun full => full == decide (maxIdleConnections ≤ idle)) = true)
    (flags : next.idleFlags = connection.flagsAfter action) :
    connection.countStep idle action + connection.inCount.toNat = idle + next.inCount.toNat := by
  have counter : connection.countStep idle action = markCount idle (connection.marks action) := by
    cases action with
    | reserve call requestId => exact absurd rfl (reserves call requestId)
    | drain => exact absurd rfl drains
    | _ => rfl
  have marked :
      connection.flagsAfter action =
        connection.flagsMarked (action.full.getD false) (connection.marks action) := by
    cases action with
    | reserve call requestId => exact absurd rfl (reserves call requestId)
    | swap cause => exact absurd rfl (swaps cause)
    | drain => exact absurd rfl drains
    | _ => rfl
  rw [counter]
  refine markCount_inCount ?_ (flags.trans marked)
  intro other found
  refine ⟨marks_idleFlags found, ?_⟩
  rcases Option.isSome_iff_exists.mp (marks_full found) with ⟨full, given⟩
  rw [given] at asked ⊢
  simpa using asked

/-- Counter and flags move together. -/
theorem step_count
    (closing : connection.Closing)
    (asked : (action.full.all fun full => full == decide (maxIdleConnections ≤ idle)) = true)
    (stepped : connection.step action = some next) :
    connection.countStep idle action + connection.inCount.toNat = idle + next.inCount.toNat := by
  have flags := step_flagsAfter stepped
  cases action with
  | reserve call requestId =>
    have clean : connection.poisoned = false := by
      simp only [step, callStep] at stepped
      split_ifs at stepped with refused
      simp only [taken, Bool.or_eq_true, not_or, Bool.not_eq_true] at refused
      exact refused.1.2.1.1
    have outside : next.inCount = false := by
      rw [inCount_eq next, flags]
      rfl
    have inside : connection.inCount = connection.countedIdle := by
      simp [inCount, clean]
    rw [outside, inside, countStep]
    cases connection.countedIdle <;> simp
  | swap cause =>
    have still : next.inCount = connection.inCount := by
      rw [inCount_eq next, flags]
      cases poisoned : connection.poisoned <;>
        simp [flagsAfter, poisoned, inCount, idleFlags]
    rw [still]
    rfl
  | drain =>
    simp only [step, wireStep, bind_some_iff] at stepped
    rcases stepped with ⟨cause, draining, _⟩
    have poisoned := closing.won (by rw [draining]; rfl)
    have outside : next.inCount = false := by
      rw [inCount_eq next, flags]
      simp [flagsAfter, poisoned]
    have inside : connection.inCount = connection.countedIdle := by
      simp [inCount, draining]
    rw [outside, inside, countStep]
    cases connection.countedIdle <;> simp
  | _ =>
    exact step_count_marks (by simp) (by simp) (by simp) asked flags

/-- The counter stays below the limit. -/
theorem countStep_le
    (connection : ClientConnection) (action : Action) (within : idle ≤ maxIdleConnections) :
    connection.countStep idle action ≤ maxIdleConnections := by
  have marked : ∀ found, markCount idle found ≤ maxIdleConnections := by
    intro found
    cases found with
    | none => exact within
    | some marked =>
      simp only [markCount, Bool.and_eq_true, decide_eq_true_eq]
      split_ifs with counted
      · exact counted.2
      · exact within
  unfold countStep
  split
  · split_ifs <;> omega
  · split_ifs <;> omega
  · exact marked _

end ClientConnection

namespace IdleClient

variable {client next : IdleClient}

/-- The counter is right. -/
structure Counted (client : IdleClient) : Prop where
  count : client.idleConnections = client.connections.countP ClientConnection.inCount
  within : client.idleConnections ≤ maxIdleConnections
  closing : ∀ connection ∈ client.connections, connection.Closing

theorem counted_new : Counted {} where
  count := rfl
  within := by decide
  closing := by simp

/-- One step keeps the counter right. -/
theorem step_counted
    {event : IdleEvent} (stepped : client.step event = some next) (counted : client.Counted) :
    next.Counted := by
  cases event with
  | connect =>
    cases stepped
    refine ⟨?_, counted.within, ?_⟩
    · have fresh : ClientConnection.inCount {} = false := rfl
      simp [counted.count, fresh]
    · intro connection member
      rcases List.mem_append.mp member with earlier | now
      · exact counted.closing connection earlier
      · cases List.mem_singleton.mp now
        exact ClientConnection.closing_new
  | act index action =>
    simp only [step, bind_some_iff] at stepped
    rcases stepped with ⟨connection, found, stepped⟩
    split_ifs at stepped with asked
    simp only [bind_some_iff] at stepped
    rcases stepped with ⟨after, moved, result⟩
    cases result
    rcases List.getElem?_eq_some_iff.mp found with ⟨inside, rfl⟩
    have closing := counted.closing _ (List.getElem_mem inside)
    refine ⟨?_, ?_, ?_⟩
    · have balance := ClientConnection.step_count closing asked moved
      have before := counted.count
      have present :
          (client.connections[index]).inCount = true →
            0 < client.connections.countP ClientConnection.inCount := by
        intro inCount
        exact List.countP_pos_iff.mpr ⟨_, List.getElem_mem inside, inCount⟩
      rw [List.countP_set inside]
      cases was : (client.connections[index]).inCount <;>
        cases is : after.inCount <;>
        simp only [was, is, Bool.toNat_true, Bool.toNat_false,
          Bool.false_eq_true, if_false, if_true, forall_const,
          false_implies] at balance present ⊢ <;>
        omega
    · exact ClientConnection.countStep_le _ action counted.within
    · intro other member
      rcases List.mem_or_eq_of_mem_set member with earlier | same
      · exact counted.closing other earlier
      · rw [same]
        exact (ClientConnection.step_effect moved).closing closing

end IdleClient

/--
The counter is the number of connections that are counted and not poisoned,
together with those whose table a call of `poison` is about to empty.
-/
theorem idle_connections_exact
    (events : List IdleEvent) (client : IdleClient)
    (ran : execute IdleClient.step {} events = some client) :
    0 ≤ client.idleConnections ∧ client.idleConnections ≤ maxIdleConnections ∧
      client.idleConnections =
        client.connections.countP (fun connection =>
          connection.countedIdle && (!connection.poisoned || connection.draining.isSome)) ∧
      ((∀ connection ∈ client.connections, connection.draining = none) →
        client.idleConnections =
          client.connections.countP fun connection =>
            connection.countedIdle && !connection.poisoned) := by
  have counted : client.Counted :=
    execute_preserves
      (fun stepped held => IdleClient.step_counted stepped held) ran
      IdleClient.counted_new
  refine ⟨?_, counted.within, counted.count, ?_⟩
  · rw [counted.count]
    exact Int.natCast_nonneg _
  · intro finished
    rw [counted.count]
    congr 1
    apply List.countP_congr
    intro connection member
    simp [ClientConnection.inCount, finished connection member]

/-- One connection is counted, and one that was counted is poisoned. -/
theorem idle_connections_exact_poisoned :
    ∃ client : IdleClient,
      execute IdleClient.step {}
          [.connect, .connect, .act 0 (.reserve 1 "a"), .act 0 (.register 1),
            .act 0 (.arm 1), .act 0 (.send 1), .act 0 .recv,
            .act 0 .mark, .act 0 .write, .act 0 .settle,
            .act 0 (.answer 1 false false), .act 0 (.read false),
            .act 1 (.reserve 1 "a"), .act 1 (.register 1), .act 1 (.arm 1), .act 1 (.send 1),
            .act 1 (.timeout 1 false), .act 0 .close,
            .act 0 (.swap .poolClosed), .act 0 .drain] = some client ∧
        client.connections.map ClientConnection.countedIdle = [true, true] ∧
        client.idleConnections = 1 ∧
        client.idleConnections =
          client.connections.countP fun connection =>
            connection.countedIdle && !connection.poisoned := by
  refine ⟨Option.get _ ?_, (Option.some_get _).symm, ?_, ?_, ?_⟩
  · decide +kernel
  · decide +kernel
  · decide +kernel
  · exact (idle_connections_exact _ _ (Option.some_get _).symm).2.2.2 (by decide +kernel)

end Tinyray.Transport
