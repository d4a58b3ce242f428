import Tinyray.Foundation.Run
import Tinyray.Transport.Connection

/-!
# The steps of a connection, one by one

`Stepped` has one line for everything that a step can do: when it is done, and
the connection afterwards.  What else is said about a step is said about these
lines.
-/

namespace Tinyray.Transport

open Std Foundation

namespace ClientConnection

/-- What each action does. -/
inductive Stepped (connection : ClientConnection) : Action → ClientConnection → Prop where
  | reserve {call : Nat} {requestId : String} :
      connection.calls[call]? = none →
        Stepped connection (.reserve call requestId)
          { connection with
            slots := connection.slots - 1
            countedIdle := false
            calls := connection.calls.insert call { requestId := requestId } }
  | refuse {call : Nat} {current : Call} :
      connection.calls[call]? = some current → current.phase = .reserved →
        Stepped connection (.register call)
          ({ connection with slots := connection.slots + 1 }.setCall call
            { current with phase := .ended (.error (.notDelivered .alreadyInFlight)) })
  | register {call : Nat} {current : Call} :
      connection.calls[call]? = some current → current.phase = .reserved →
        connection.taken current.requestId = false →
        Stepped connection (.register call)
          ({ connection with
              pending :=
                connection.pending.insert current.requestId
                  { sender := call, progress := .queued } }.setCall call
            { current with phase := .registered })
  /-- The call has been cancelled before. -/
  | disarm {call : Nat} {current : Call} :
      connection.calls[call]? = some current → current.phase = .registered →
        Stepped connection (.arm call)
          (connection.setCall call { current with phase := .cancelled })
  | arm {call : Nat} {current : Call} :
      connection.calls[call]? = some current → current.phase = .registered →
        Stepped connection (.arm call)
          (connection.setCall call
            { current with phase := .armed, target := true })
  | withdraw {call : Nat} {current : Call} {full : Bool} :
      connection.calls[call]? = some current → current.phase = .cancelled →
        Stepped connection (.withdraw call full)
          ((connection.abandon current.requestId full).1.setCall call
            { current with phase := .ended (.error (.notDelivered .cancelled)) })
  | send {call : Nat} {current : Call} :
      connection.calls[call]? = some current → current.phase = .armed →
        Stepped connection (.send call)
          (setCall
            { connection with
              outbound :=
                connection.outbound ++
                  [{ requestId := current.requestId
                     frame := .request call
                     tracked := true }] } call
            { current with phase := .waiting })
  /-- The queue is full, or the writer has left. -/
  | unsent {call : Nat} {current : Call} :
      connection.calls[call]? = some current → current.phase = .armed →
        Stepped connection (.send call)
          ((connection.poison .writerStopped).setCall call
            { current with phase := .waiting })
  | receive {call : Nat} {current : Call} {message : Option Outcome} :
      connection.calls[call]? = some current → current.phase = .waiting →
        connection.oneshots[call]? = some message →
        Stepped connection (.receive call)
          (connection.setCall call
            { current with phase := .ended (message.getD (.error (.outcomeUnknown .ended))) })
  | timeout {call : Nat} {current : Call} {full : Bool} :
      connection.calls[call]? = some current → current.phase = .waiting →
        Stepped connection (.timeout call full) (connection.timeOut call current full)
  | clear {call : Nat} {current : Call} {outcome : Outcome} :
      connection.calls[call]? = some current → current.phase = .ended outcome →
        Stepped connection (.clear call) (connection.setCall call { current with target := false })
  | cancel {call : Nat} {current : Call} :
      connection.calls[call]? = some current →
        Stepped connection (.cancel call)
          (connection.setCall call { current with requested := true })
  | strike {call : Nat} {current : Call} {full : Bool} :
      connection.calls[call]? = some current → current.target = true →
        Stepped connection (.strike call full) (connection.strike call current full)
  | drop {call : Nat} {current : Call} :
      connection.calls[call]? = some current → current.phase = .waiting →
        Stepped connection (.drop call)
          (connection.setCall call
            { current with phase := .dropped, requested := true })
  | recv {command : WriteCommand} {rest : List WriteCommand} :
      connection.writer = .idle → connection.outbound = command :: rest →
        Stepped connection .recv
          { connection with writer := .held command, outbound := rest }
  | skip {command : WriteCommand} :
      connection.writer = .held command → command.tracked = true →
        Stepped connection .mark { connection with writer := .idle }
  | mark {command : WriteCommand} {pending : PendingCall} :
      connection.writer = .held command → command.tracked = true →
        connection.pending[command.requestId]? = some pending →
        Stepped connection .mark
          { connection with
            pending :=
              connection.pending.insert command.requestId
                { pending with progress := .writing }
            writer := .writing command }
  | begin {command : WriteCommand} :
      connection.writer = .held command → command.tracked = false →
        Stepped connection .mark
          { connection with writer := .writing command }
  | write {command : WriteCommand} :
      connection.writer = .writing command →
        Stepped connection .write
          { connection with
            writer := .wrote command
            socket := connection.socket ++ [command.frame]
            unanswered := connection.unanswered ++ command.frame.call.toList }
  | fail {command : WriteCommand} :
      connection.writer = .writing command →
        Stepped connection .fail ({ connection with writer := .finished }.poison .writeFailed)
  | settle {command : WriteCommand} {pending : PendingCall} :
      connection.writer = .wrote command → command.tracked = true →
        connection.pending[command.requestId]? = some pending →
        Stepped connection .settle
          { connection with
            pending :=
              connection.pending.insert command.requestId
                { pending with progress := .written }
            writer := .idle }
  /-- Nobody waits for a reply to the frame any more. -/
  | rest {command : WriteCommand} :
      connection.writer = .wrote command →
        (command.tracked = true → connection.pending[command.requestId]? = none) →
        Stepped connection .settle { connection with writer := .idle }
  | halt :
      connection.writer = .idle → Stepped connection .halt { connection with writer := .finished }
  | answer {call : Nat} {current : Call} {blobRefs malformed : Bool} :
      connection.calls[call]? = some current → call ∈ connection.unanswered →
        Stepped connection (.answer call blobRefs malformed)
          { connection with
            unanswered := connection.unanswered.erase call
            inbound :=
              connection.inbound ++
                [{ requestId := current.requestId
                   blobRefs := blobRefs
                   malformed := malformed
                   origin := call }] }
  | read {full : Bool} {reply : RpcReply} {rest : List RpcReply} :
      connection.reading = true → connection.inbound = reply :: rest →
        Stepped connection (.read full) ({ connection with inbound := rest }.route reply full)
  | lose {error : ReaderError} :
      connection.reading = true →
        Stepped connection (.lose error)
          ({ connection with reading := false }.poison (.reader error))
  | leave :
      connection.poisoned = true → Stepped connection .leave { connection with reading := false }
  /-- Somebody else was first. -/
  | late {cause : Poison} :
      cause ∈ connection.poisoning → connection.poisoned = true →
        Stepped connection (.swap cause)
          { connection with poisoning := connection.poisoning.erase cause }
  | swap {cause : Poison} :
      cause ∈ connection.poisoning → connection.poisoned = false →
        Stepped connection (.swap cause)
          { connection with
            poisoning := connection.poisoning.erase cause
            poisoned := true
            draining := some cause }
  | drain {cause : Poison} :
      connection.draining = some cause → Stepped connection .drain (connection.drain cause)
  | release {requestId : String} {full : Bool} :
      Stepped connection (.release requestId full) (connection.sendBlobAck requestId full)
  | acknowledge {requestId : String} :
      requestId ∈ connection.acking →
        Stepped connection (.acknowledge requestId)
          ({ connection with acking := connection.acking.erase requestId }.queueBlobAck requestId)
  | expire : Stepped connection .expire (connection.poison .idleExpired)
  | close : Stepped connection .close (connection.poison .poolClosed)

variable {connection next : ClientConnection} {action : Action}

theorem inPhase_eq_some_iff
    {call : Nat} {phase : Phase} {current : Call} :
    connection.inPhase call phase = some current ↔
      connection.calls[call]? = some current ∧ current.phase = phase := by
  simp [inPhase, Option.filter_eq_some_iff]

theorem getElem?_of_contains
    {requestId : String} (contained : connection.pending.contains requestId = true) :
    ∃ pending, connection.pending[requestId]? = some pending := by
  rw [ExtTreeMap.contains_eq_isSome_getElem?] at contained
  exact Option.isSome_iff_exists.mp contained

/-- What calls do. -/
theorem callStep_stepped
    (stepped : connection.callStep action = some next) :
    Stepped connection action next := by
  cases action with
  | reserve call requestId =>
    simp only [callStep] at stepped
    split_ifs at stepped with refused
    cases stepped
    simp only [Bool.or_eq_true, not_or] at refused
    refine .reserve (ExtTreeMap.getElem?_eq_none ?_)
    rw [← ExtTreeMap.contains_iff_mem]
    exact refused.1.1.1
  | register call =>
    simp only [callStep, bind_some_iff, inPhase_eq_some_iff] at stepped
    rcases stepped with ⟨current, found, stepped⟩
    split_ifs at stepped with taken
    · cases stepped
      exact .refuse found.1 found.2
    · cases stepped
      exact .register found.1 found.2 (eq_false_of_ne_true taken)
  | arm call =>
    simp only [callStep, bind_some_iff, inPhase_eq_some_iff] at stepped
    rcases stepped with ⟨current, found, stepped⟩
    split_ifs at stepped
    · cases stepped
      exact .disarm found.1 found.2
    · cases stepped
      exact .arm found.1 found.2
  | withdraw call full =>
    simp only [callStep, bind_some_iff, Option.some.injEq, inPhase_eq_some_iff] at stepped
    rcases stepped with ⟨current, found, rfl⟩
    exact .withdraw found.1 found.2
  | send call =>
    simp only [callStep, bind_some_iff, Option.some.injEq, inPhase_eq_some_iff] at stepped
    rcases stepped with ⟨current, found, rfl⟩
    unfold trySend
    split_ifs
    · exact .send found.1 found.2
    · exact .unsent found.1 found.2
  | receive call =>
    simp only [callStep, bind_some_iff, Option.some.injEq, inPhase_eq_some_iff] at stepped
    rcases stepped with ⟨current, found, message, sent, rfl⟩
    exact .receive found.1 found.2 sent
  | timeout call full =>
    simp only [callStep, bind_some_iff, Option.some.injEq, inPhase_eq_some_iff] at stepped
    rcases stepped with ⟨current, found, rfl⟩
    exact .timeout found.1 found.2
  | clear call =>
    simp only [callStep, bind_some_iff] at stepped
    rcases stepped with ⟨current, found, stepped⟩
    split at stepped
    · rename_i outcome ended
      cases stepped
      exact .clear found ended
    · cases stepped
  | cancel call =>
    simp only [callStep, bind_some_iff, Option.some.injEq] at stepped
    rcases stepped with ⟨current, found, rfl⟩
    exact .cancel found
  | strike call full =>
    simp only [callStep, bind_some_iff] at stepped
    rcases stepped with ⟨current, found, stepped⟩
    split_ifs at stepped with asked
    cases stepped
    rw [Bool.and_eq_true] at asked
    exact .strike found asked.2
  | drop call =>
    simp only [callStep, bind_some_iff, Option.some.injEq, inPhase_eq_some_iff] at stepped
    rcases stepped with ⟨current, found, rfl⟩
    exact .drop found.1 found.2
  | _ => cases stepped

/-- What the writer does. -/
theorem writerStep_stepped
    (stepped : connection.writerStep action = some next) :
    Stepped connection action next := by
  cases action with
  | recv =>
    simp only [writerStep] at stepped
    split at stepped
    · rename_i command rest idle queue
      cases stepped
      exact .recv idle queue
    · cases stepped
  | mark =>
    simp only [writerStep] at stepped
    split at stepped
    · rename_i command held
      split_ifs at stepped with unknown tracked
      · cases stepped
        rw [Bool.and_eq_true] at unknown
        exact .skip held unknown.1
      · cases stepped
        simp only [tracked, Bool.true_and, Bool.not_eq_true', Bool.not_eq_false] at unknown
        rcases getElem?_of_contains unknown with ⟨pending, present⟩
        simp only [setProgress, present]
        exact .mark held tracked present
      · cases stepped
        exact .begin held (eq_false_of_ne_true tracked)
    · cases stepped
  | write =>
    simp only [writerStep] at stepped
    split at stepped
    · rename_i command writing
      cases stepped
      exact .write writing
    · cases stepped
  | fail =>
    simp only [writerStep] at stepped
    split at stepped
    · rename_i command writing
      cases stepped
      exact .fail writing
    · cases stepped
  | settle =>
    simp only [writerStep] at stepped
    split at stepped
    · rename_i command wrote
      cases stepped
      cases tracked : command.tracked with
      | true =>
        cases present : connection.pending[command.requestId]? with
        | some pending =>
          simp only [setProgress, present, if_true]
          exact .settle wrote tracked present
        | none =>
          simp only [setProgress, present, if_true]
          exact .rest wrote fun _ => present
      | false =>
        simp only [Bool.false_eq_true, if_false]
        refine .rest wrote ?_
        intro again
        rw [tracked] at again
        cases again
    · cases stepped
  | halt =>
    simp only [writerStep] at stepped
    split_ifs at stepped with idle
    cases stepped
    exact .halt idle.2.2
  | _ => cases stepped

/-- What peer and reader do. -/
theorem wireStep_stepped
    (stepped : connection.wireStep action = some next) :
    Stepped connection action next := by
  cases action with
  | answer call blobRefs malformed =>
    simp only [wireStep, bind_some_iff] at stepped
    rcases stepped with ⟨current, found, stepped⟩
    split_ifs at stepped with waiting
    cases stepped
    exact .answer found waiting
  | read full =>
    simp only [wireStep] at stepped
    split at stepped
    · rename_i reply rest reading queue
      cases stepped
      exact .read reading queue
    · cases stepped
  | lose error =>
    simp only [wireStep] at stepped
    split_ifs at stepped with reading
    cases stepped
    exact .lose reading
  | leave =>
    simp only [wireStep] at stepped
    split_ifs at stepped with poisoned
    cases stepped
    exact .leave poisoned
  | swap cause =>
    simp only [wireStep] at stepped
    split_ifs at stepped with called poisoned
    · cases stepped
      exact .late called poisoned
    · cases stepped
      exact .swap called (eq_false_of_ne_true poisoned)
  | drain =>
    simp only [wireStep, bind_some_iff, Option.some.injEq] at stepped
    rcases stepped with ⟨cause, won, rfl⟩
    exact .drain won
  | release requestId full =>
    cases stepped
    exact .release
  | acknowledge requestId =>
    simp only [wireStep] at stepped
    split_ifs at stepped with owed
    cases stepped
    exact .acknowledge owed
  | expire =>
    simp only [wireStep] at stepped
    split_ifs at stepped
    cases stepped
    exact .expire
  | close =>
    cases stepped
    exact .close
  | _ => cases stepped

theorem step_stepped
    (stepped : connection.step action = some next) :
    Stepped connection action next := by
  cases action with
  | recv | mark | write | fail | settle | halt =>
    exact writerStep_stepped stepped
  | answer | read | lose | leave | swap | drain | release | acknowledge
  | expire | close => exact wireStep_stepped stepped
  | _ => exact callStep_stepped stepped

end ClientConnection

end Tinyray.Transport
