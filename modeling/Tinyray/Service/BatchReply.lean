import Tinyray.Service.Batch

/-!
# The reply to a batch

The client reads from the reply which call failed and what the earlier ones
returned, and raises `BatchError` with both.  It raises `NotDelivered` where
the status of the reply says that the server did not take the request.  That
status is also the one of a handler that answers `Busy`.
-/

namespace Tinyray.Service

open Tinyray.Foundation
open Tinyray.Proto
open Tinyray.Transport (BlobAdmission RequestTask ServerConnection)

universe u

/-! ## Reading a reply -/

/-- What decoding makes of bytes. -/
inductive Loaded (V : Type u) where
  | list (items : List V)
  | other
  /-- One of the errors of decoding. -/
  | undecoded
  /-- Any other exception. -/
  | escaped (message : String)
deriving DecidableEq

/-- What the client raises. -/
inductive Raised (V : Type u) where
  | attributeError (message : String)
  | typeError (message : String)
  | fenced (message : String)
  | remoteError (typeName message traceback : String)
  | notDelivered (message : String)
  | outcomeUnknown (message : String)
  | batchError (failedIndex : Nat) (completedResults : List V) (cause : Raised V)
  | escaped (message : String)

section

variable {V : Type u}

/-- `or`, for texts -/
def orText (text otherwise : String) : String := if text = "" then otherwise else text

/-- The message of the error. -/
def message (reply : RpcReply) : String := (reply.error.map RpcError.message).getD ""

/-- `_raise_reply` -/
def raiseReply (reply : RpcReply) (target : String) : Raised V :=
  match reply.status with
  | .methodNotFound => .attributeError (orText (message reply) "no such method")
  | .fenced => .fenced (target ++ " is held by a later tenure now; look it up again")
  | .callerFault => .typeError (orText (message reply) "argument does not match the signature")
  | .concurrencyRefused => .notDelivered (target ++ " is at its concurrency limit")
  | .remoteError =>
    .remoteError
      (orText ((reply.error.map RpcError.typeName).getD "") "Exception")
      (message reply)
      ((reply.error.map RpcError.traceback).getD "")
  | .malformedProtocol =>
    .notDelivered (target ++ " refused the malformed native RPC request: " ++ message reply)
  | .internal =>
    .outcomeUnknown (target ++ " failed inside the native RPC listener: " ++ message reply)
  | .success => .outcomeUnknown (target ++ " returned unknown native RPC status 0")

/-- Nothing can be said about the calls. -/
def invalidBatch (target : String) : Raised V :=
  .outcomeUnknown (target ++ " answered with an invalid batch response; item outcomes are unknown")

/-- A list of so many values, or what is raised instead. -/
def loadsExactly (loads : Bytes → Loaded V) (payload : Bytes)
    (target : String) (count : Nat) : Except (Raised V) (List V) :=
  match loads payload with
  | .list items =>
    if items.length = count then .ok items
    else .error (invalidBatch target)
  | .other | .undecoded => .error (invalidBatch target)
  | .escaped message => .error (.escaped message)

/-- What becomes of an exception of `_raise_reply` at a known call. -/
def Raised.atItem (index : Nat) (results : List V) : Raised V → Raised V
  | .attributeError message => .batchError index results (.attributeError message)
  | .typeError message => .batchError index results (.typeError message)
  | .fenced message => .batchError index results (.fenced message)
  | .remoteError typeName message traceback =>
    .batchError index results (.remoteError typeName message traceback)
  | raised => raised

/-- `_decode_batch` -/
def decodeBatch (loads : Bytes → Loaded V) (reply : RpcReply)
    (target : String) (expected : Nat) : Except (Raised V) (List V) :=
  if reply.status = .success then loadsExactly loads reply.payload target expected
  else
    match reply.batchIndex, reply.completed with
    | none, none => .error (raiseReply reply target)
    | some index, some completed =>
      if index ≠ completed ∨ ¬ index < expected then .error (invalidBatch target)
      else
        match loadsExactly loads reply.payload target completed with
        | .error raised => .error raised
        | .ok results => .error ((raiseReply reply target).atItem index results)
    | _, _ => .error (invalidBatch target)

/-! ## When it raises `NotDelivered` -/

variable {loads : Bytes → Loaded V} {payload : Bytes} {reply : RpcReply}
variable {target text : String} {count expected : Nat}

variable {results : List V}

/-- When exactly so many are loaded. -/
theorem loadsExactly_eq_ok_iff :
    loadsExactly loads payload target count = .ok results ↔
      loads payload = .list results ∧ results.length = count := by
  unfold loadsExactly
  cases loaded : loads payload with
  | list items =>
    by_cases fits : items.length = count
    · simp only [fits, if_true, Except.ok.injEq, Loaded.list.injEq]
      constructor
      · rintro rfl
        exact ⟨rfl, fits⟩
      · exact And.left
    · simp only [fits, if_false, reduceCtorEq, Loaded.list.injEq, false_iff, not_and]
      rintro rfl
      exact fits
  | other => simp
  | undecoded => simp
  | escaped => simp

theorem loadsExactly_ne_notDelivered :
    loadsExactly loads payload target count ≠ .error (.notDelivered text) := by
  unfold loadsExactly
  cases loads payload with
  | list items =>
    by_cases fits : items.length = count <;> simp [fits, invalidBatch]
  | other => simp [invalidBatch]
  | undecoded => simp [invalidBatch]
  | escaped => simp

/-- The statuses that say the server did not take the request. -/
def refuses (status : RpcStatus) : Prop :=
  status = .concurrencyRefused ∨ status = .malformedProtocol

theorem raiseReply_eq_notDelivered_iff :
    (∃ text, (raiseReply reply target : Raised V) = .notDelivered text) ↔ refuses reply.status := by
  unfold raiseReply refuses
  cases reply.status <;> simp

theorem Raised.atItem_eq_notDelivered_iff {raised : Raised V}
    {index : Nat} :
    raised.atItem index results = .notDelivered text ↔ raised = .notDelivered text := by
  cases raised <;> simp [Raised.atItem]

/--
A refusing status is believed if the reply names no call, and also if it
names one and brings as many results.
-/
theorem decodeBatch_notDelivered_iff :
    (∃ text, decodeBatch loads reply target expected = .error (.notDelivered text)) ↔
      refuses reply.status ∧
        ((reply.batchIndex = none ∧ reply.completed = none) ∨
          ∃ index results, reply.batchIndex = some index ∧ reply.completed = some index ∧
            index < expected ∧ loads reply.payload = .list results ∧ results.length = index) := by
  by_cases success : reply.status = .success
  · rw [decodeBatch, if_pos success, success]
    simp [refuses, loadsExactly_ne_notDelivered]
  · rw [decodeBatch, if_neg success]
    rcases reply.batchIndex with _ | index <;>
      rcases reply.completed with _ | completed
    · simpa using raiseReply_eq_notDelivered_iff
    · simp [invalidBatch]
    · simp [invalidBatch]
    · by_cases invalid : index ≠ completed ∨ ¬ index < expected
      · simp only [invalid, if_true]
        grind [invalidBatch]
      · obtain ⟨rfl, inside⟩ : index = completed ∧ index < expected := by
          omega
        simp only [invalid, if_false]
        cases loaded : loadsExactly loads reply.payload target index with
        | error raised =>
          have unread : ¬ ∃ results,
              loads reply.payload = .list results ∧ results.length = index := by
            rintro ⟨results, found⟩
            rw [loadsExactly_eq_ok_iff.mpr found] at loaded
            cases loaded
          have other : ∀ text, raised ≠ .notDelivered text := by
            rintro text rfl
            exact loadsExactly_ne_notDelivered loaded
          grind
        | ok results =>
          have read := loadsExactly_eq_ok_iff.mp loaded
          simp only [Except.error.injEq, Raised.atItem_eq_notDelivered_iff,
            raiseReply_eq_notDelivered_iff]
          grind

end

/-! ## Batches that were executed -/

/-- A batch on either server. -/
inductive Execution where
  | rust (router : Router) (handling : Handling)
      (batchLen : Option UInt16) (envelope : Except String (List BatchCall))
  | python (dispatch : Dispatch) (handling : DispatchHandling)
      (batchLen : Option UInt16) (payload : DispatchPayload)

namespace Execution

/-- What became of its calls. -/
def run : Execution → BatchRun
  | .rust router handling batchLen envelope => router.batch handling batchLen envelope
  | .python dispatch handling batchLen payload => dispatch.serve handling batchLen payload

/-- How many results the client waits for: the length it announced. -/
def expected : Execution → Nat
  | .rust _ _ batchLen _ | .python _ _ batchLen _ => (batchLen.getD 0).toNat

/-- The reply to it. -/
def reply (execution : Execution) (requestId : String)
    (blobs : BlobAdmission) : RpcReply :=
  (({} : ServerConnection).admitBlobResponse 0
    (RequestTask.reply { requestId := requestId } execution.run.response)
    blobs).2

/--
A handler of the router answers `Busy` after other calls of the batch have
succeeded, and the client can read their results.
-/
def BusyMidway {V : Type u} (loads : Bytes → Loaded V)
    (blobs : BlobAdmission) : Execution → Prop
  | .rust router handling batchLen envelope =>
    (∀ message, blobs ≠ .rejected message) ∧
      ∃ calls results item remaining message values, envelope = .ok calls ∧
        calls.length = (batchLen.getD 0).toNat ∧
        Completes (router.item handling) 0 calls results (item :: remaining) ∧
        router.item handling results.length item = .error (.busy message) ∧ results ≠ [] ∧
        loads (rawArray results) = .list values ∧ values.length = results.length
  | .python .. => False

/-! ## The responses -/

theorem refuses_reply_iff (execution : Execution) (requestId : String)
    (blobs : BlobAdmission) :
    refuses (execution.reply requestId blobs).status ↔
      refuses execution.run.response.status ∧ ∀ message, blobs ≠ .rejected message := by
  cases blobs <;>
    simp [reply, ServerConnection.admitBlobResponse, RequestTask.reply, refuses]

theorem reply_of_admitted (execution : Execution) (requestId : String)
    {blobs : BlobAdmission} (admitted : ∀ message, blobs ≠ .rejected message) :
    (execution.reply requestId blobs).batchIndex = execution.run.response.batchIndex ∧
      (execution.reply requestId blobs).completed = execution.run.response.completed ∧
      (execution.reply requestId blobs).payload = execution.run.response.payload := by
  cases blobs with
  | empty => exact ⟨rfl, rfl, rfl⟩
  | rejected message => exact absurd rfl (admitted message)
  | admitted => exact ⟨rfl, rfl, rfl⟩

end Execution

theorem Invocation.result_not_refuses {name : String}
    {invocation : Invocation} {status : RpcStatus} {error : RpcError}
    (failed : invocation.result name = .error (.reply status error)) :
    ¬ refuses status := by
  cases invocation <;> simp only [Invocation.result, reduceCtorEq,
    Except.error.injEq, DispatchFailure.reply.injEq] at failed
  all_goals
    obtain ⟨rfl, _⟩ := failed
    simp [refuses]

namespace Dispatch

variable {dispatch : Dispatch} {handling : DispatchHandling}

/-- No Python call refuses a batch. -/
theorem attempt_not_refuses {index : Nat} {item : DispatchItem}
    {failure : DispatchFailure}
    (failed : attempt (dispatch.check handling) (invoke handling) index item = .error failure)
    (results : List Bytes) (position : Nat) :
    ¬ refuses (failure.response results position).status := by
  cases failure with
  | escaped message =>
    simp [DispatchFailure.response, ServiceResponse.failed, ServiceError.status, refuses]
  | reply status error =>
    change ¬ refuses status
    simp only [attempt, check] at failed
    cases owned : handling.stillOurs index with
    | error message => simp [owned] at failed
    | ok ours =>
      cases ours with
      | false =>
        simp only [owned, Except.error.injEq, DispatchFailure.reply.injEq] at failed
        simp [← failed.1, refuses]
      | true =>
        by_cases known : dispatch.dispatch.contains (itemName item)
        · simp only [owned, known, if_true] at failed
          exact Invocation.result_not_refuses failed
        · simp only [owned, known] at failed
          simp only [Bool.false_eq_true, if_false, Except.error.injEq,
            DispatchFailure.reply.injEq] at failed
          simp [← failed.1, refuses]

/-- Nor do all its calls together. -/
theorem run_not_refuses (calls : List DispatchItem) :
    ¬ refuses (dispatch.run handling calls).response.status := by
  rw [run]
  rcases completes_or_fails (attempt (dispatch.check handling) (invoke handling)) 0 calls with
    ⟨results, completes⟩ |
    ⟨results, item, remaining, failure, completes, fails⟩
  · rw [sequentially_of_all _ _ completes]
    simp [ServiceResponse.success, refuses]
  · rw [Nat.zero_add] at fails
    obtain ⟨invoked, ends, reaches⟩ := sequentially_of_fails _ _ completes fails
    rw [ends]
    exact attempt_not_refuses fails results results.length

variable {batchLen : Option UInt16} {payload : DispatchPayload}

/-- A refused batch ran nothing. -/
theorem batch_refuses
    (refused : refuses (dispatch.batch handling batchLen payload).response.status) :
    (dispatch.batch handling batchLen payload).completed = [] := by
  cases payload with
  | mistyped => rfl
  | undecoded => rfl
  | escaped => rfl
  | other => rfl
  | calls items =>
    simp only [batch] at refused ⊢
    split at refused
    · simp [*, dispatchRefused]
    · split at refused
      · simp [*, dispatchRefused]
      · split at refused
        · simp [*, dispatchRefused]
        · exact absurd refused (run_not_refuses items)

/-- The same at the bridge. -/
theorem serve_refuses
    (refused : refuses (dispatch.serve handling batchLen payload).response.status) :
    (dispatch.serve handling batchLen payload).completed = [] := by
  unfold serve at refused ⊢
  cases owned : handling.owned with
  | error message => rfl
  | ok ours =>
    cases ours with
    | false => rfl
    | true =>
      simp only [owned] at refused ⊢
      cases unread : handling.unread with
      | none =>
        simp only [unread] at refused
        exact batch_refuses refused
      | some message =>
        simp [unread, ServiceResponse.failed, ServiceError.status, refuses] at refused

end Dispatch

namespace Router

variable {router : Router} {handling : Handling}
variable {batchLen : Option UInt16}

variable {calls remaining : List BatchCall} {item : BatchCall}
  {results : List Bytes}

theorem position_mod
    (length : calls.length = (batchLen.getD 0).toNat)
    (completes : Completes (router.item handling) 0 calls results (item :: remaining)) :
    results.length % 2 ^ 16 = results.length ∧ results.length < (batchLen.getD 0).toNat := by
  have split := completes.length_eq
  have bound := (batchLen.getD 0).toNat_lt
  rw [List.length_cons] at split
  constructor
  · exact Nat.mod_eq_of_lt (by omega)
  · omega

/-- A batch that fails at a call. -/
theorem batch_of_fails
    {error : ServiceError} (length : calls.length = (batchLen.getD 0).toNat)
    (completes : Completes (router.item handling) 0 calls results (item :: remaining))
    (fails : router.item handling results.length item = .error error) :
    (router.batch handling batchLen (.ok calls)).response =
        batchError error results results.length ∧
      (router.batch handling batchLen (.ok calls)).completed = results ∧
      Reaches (router.batch handling batchLen (.ok calls)).invoked
        results.length := by
  obtain ⟨invoked, ends, reaches⟩ := sequentially_of_fails _ _ completes fails
  simp [batch, length, ends, reaches]

/-- When a Rust router refuses. -/
theorem batch_refuses_iff {envelope : Except String (List BatchCall)} :
    refuses (router.batch handling batchLen envelope).response.status ↔
      ∃ calls results item remaining message, envelope = .ok calls ∧
        calls.length = (batchLen.getD 0).toNat ∧
        Completes (router.item handling) 0 calls results (item :: remaining) ∧
        router.item handling results.length item = .error (.busy message) := by
  constructor
  · intro refused
    cases envelope with
    | error message =>
      simp [batch, BatchRun.refused, ServiceResponse.failed,
        ServiceError.status, refuses] at refused
    | ok calls =>
      by_cases length : calls.length = (batchLen.getD 0).toNat
      · rcases completes_or_fails (router.item handling) 0 calls with
          ⟨results, completes⟩ |
          ⟨results, item, remaining, error, completes, fails⟩
        · simp [batch, length, sequentially_of_all _ _ completes,
            ServiceResponse.success, refuses] at refused
        · rw [Nat.zero_add] at fails
          rw [(batch_of_fails length completes fails).1] at refused
          rcases refused with busy | malformed
          · obtain ⟨message, rfl⟩ := ServiceError.status_eq_concurrencyRefused_iff.mp busy
            exact ⟨calls, results, item, remaining, message, rfl, length, completes, fails⟩
          · exact absurd malformed error.status_ne_malformedProtocol
      · simp [batch, length, BatchRun.refused, ServiceResponse.failed,
          ServiceError.status, refuses] at refused
  · rintro ⟨calls, results, item, remaining, message, rfl, length, completes, fails⟩
    rw [(batch_of_fails length completes fails).1]
    exact .inl rfl

end Router

/-! ## What `NotDelivered` says about a batch -/

namespace Execution

variable {V : Type u}
  {loads : Bytes → Loaded V} {requestId target : String}
  {blobs : BlobAdmission}

theorem refuses_of_notDelivered
    {execution : Execution} {text : String}
    (raised :
      decodeBatch loads (execution.reply requestId blobs) target execution.expected =
        .error (.notDelivered text)) :
    refuses execution.run.response.status ∧ ∀ message, blobs ≠ .rejected message := by
  obtain ⟨refused, _⟩ := decodeBatch_notDelivered_iff.mp ⟨text, raised⟩
  exact (refuses_reply_iff execution requestId blobs).mp refused

/-- What the client makes of `Busy`. -/
theorem notDelivered_iff_of_busy
    {router : Router} {handling : Handling} {batchLen : Option UInt16}
    {calls remaining : List BatchCall} {item : BatchCall}
    {results : List Bytes} {message : String} (admitted : ∀ message, blobs ≠ .rejected message)
    (length : calls.length = (batchLen.getD 0).toNat)
    (completes : Completes (router.item handling) 0 calls results (item :: remaining))
    (fails : router.item handling results.length item = .error (.busy message)) :
    (∃ text,
        decodeBatch loads
            ((rust router handling batchLen (.ok calls)).reply requestId blobs)
            target (rust router handling batchLen (.ok calls)).expected =
          .error (.notDelivered text)) ↔
      ∃ values, loads (rawArray results) = .list values ∧ values.length = results.length := by
  obtain ⟨index, counted, payload⟩ :=
    reply_of_admitted (rust router handling batchLen (.ok calls)) requestId admitted
  obtain ⟨small, inside⟩ := Router.position_mod length completes
  have response := (Router.batch_of_fails length completes fails).1
  have refused :
      refuses ((rust router handling batchLen (.ok calls)).reply requestId blobs).status := by
    refine (refuses_reply_iff _ requestId blobs).mpr ⟨?_, admitted⟩
    rw [run, response]
    exact .inl rfl
  have position :
      (batchError (.busy message) results results.length).batchIndex = some results.length := by
    rw [batchError, small]
  rw [decodeBatch_notDelivered_iff, index, counted, payload, run, response]
  constructor
  · rintro ⟨_, ⟨absent, _⟩ | ⟨found, values, located, _, _, loaded, count⟩⟩
    · cases absent
    · rw [position] at located
      cases located
      exact ⟨values, loaded, count⟩
  · rintro ⟨values, loaded, count⟩
    exact ⟨refused, .inr ⟨results.length, values, position, position, inside, loaded, count⟩⟩

/--
No call of a batch has completed when the client raises `NotDelivered`,
unless a handler of the router was busy after others had succeeded.
-/
theorem batch_not_delivered_iff (loads : Bytes → Loaded V)
    (execution : Execution) (requestId target : String) (blobs : BlobAdmission) :
    (∀ text,
        decodeBatch loads (execution.reply requestId blobs) target execution.expected =
          .error (.notDelivered text) →
        execution.run.completed = []) ↔
      ¬ execution.BusyMidway loads blobs := by
  cases execution with
  | python dispatch handling batchLen payload =>
    simp only [BusyMidway, not_false_eq_true, iff_true]
    intro text raised
    exact Dispatch.serve_refuses (refuses_of_notDelivered raised).1
  | rust router handling batchLen envelope =>
    constructor
    · rintro sound
        ⟨admitted, calls, results, item, remaining, message, values, rfl,
          length, completes, fails, nonempty, loaded, count⟩
      obtain ⟨text, raised⟩ :=
        (notDelivered_iff_of_busy admitted length completes fails).mpr ⟨values, loaded, count⟩
      apply nonempty
      rw [← (Router.batch_of_fails length completes fails).2.1]
      exact sound text raised
    · intro steady text raised
      obtain ⟨refused, admitted⟩ := refuses_of_notDelivered raised
      obtain ⟨calls, results, item, remaining, message, rfl, length,
        completes, fails⟩ := Router.batch_refuses_iff.mp refused
      obtain ⟨values, loaded, count⟩ :=
        (notDelivered_iff_of_busy admitted length completes fails).mp ⟨text, raised⟩
      rw [run, (Router.batch_of_fails length completes fails).2.1]
      by_contra nonempty
      exact steady
        ⟨admitted, calls, results, item, remaining, message, values, rfl,
          length, completes, fails, nonempty, loaded, count⟩

end Execution

/-- Two calls: the first returns `nil`, the handler of the second is busy. -/
private def busySecond : Execution :=
  .rust ⟨["take"]⟩
    { cancelled := fun _ => false
      answer := fun index _ => if index = 0 then .ok [0xc0] else .error (.busy "later") }
    (some 2) (.ok [⟨"take", .ok [0x80]⟩, ⟨"take", .ok [0x80]⟩])

/-- Decodes nothing but nils. -/
private def loadsNils : Bytes → Loaded Unit
  | [] => .undecoded
  | first :: rest =>
    if first = UInt8.ofNat (0x90 + rest.length) ∧ rest.all (fun byte => byte = 0xc0) then
      .list (rest.map fun _ => ())
    else .undecoded

theorem busy_after_completed_item :
    (∃ text,
      decodeBatch loadsNils (busySecond.reply "r" .empty) "pool/0" busySecond.expected =
        .error (.notDelivered text)) ∧
      busySecond.run.completed = [[0xc0]] := by
  refine ⟨⟨"pool/0 is at its concurrency limit", ?_⟩, ?_⟩
  · rfl
  · rfl

/-! ## Single calls -/

/-- `_invoke` for a call by itself. -/
def Invocation.run (name : String) (invocation : Invocation) : BatchRun where
  response :=
    match invocation.result name with
    | .ok payload => .success payload
    | .error (.reply status error) =>
      { status := status, error := some error }
    | .error (.escaped message) => .failed (.internal message)
  invoked := if invocation matches .uncoerced _ then [] else [0]

namespace Dispatch

variable (dispatch : Dispatch) (handling : DispatchHandling)

/-- `_Dispatch.__call__` for a call, and `_call`. -/
def call (name : String) (payload : DispatchPayload) : BatchRun :=
  if !dispatch.dispatch.contains name then
    dispatchRefused .methodNotFound "AttributeError" ("no method '" ++ name ++ "'")
  else
    match payload with
    | .mistyped message =>
      dispatchRefused .callerFault "TypeError" (name ++ "(): malformed MessagePack: " ++ message)
    | .undecoded message =>
      dispatchRefused .callerFault "ValidationError"
        (name ++ "(): malformed MessagePack: " ++ message)
    | .escaped message => .refused (.internal message)
    | .other | .calls _ => (handling.invoke 0 name).run name

/-- `PythonService::dispatch` for a call. -/
def serveCall (name : String) (payload : DispatchPayload) : BatchRun :=
  match handling.owned with
  | .error message => .refused (.internal ("the ownership check failed: " ++ message))
  | .ok false => dispatchRefused .fenced "Fenced" "the member is held by a later tenure"
  | .ok true =>
    let answered := dispatch.call handling name payload
    match handling.unread with
    | none => answered
    | some message =>
      { answered with response := .failed (.internal message) }

end Dispatch

/-- What a decoder raises, as the `except` clauses of the client tell it. -/
inductive DecodeFailure where
  /-- The value does not fit the type; also an error of decoding. -/
  | validation (message : String)
  | typeError (message : String)
  /-- Another error of decoding. -/
  | malformed (message : String)
  /-- Any other exception. -/
  | escaped (message : String)

section

variable {V : Type} (reply : RpcReply) (target : String)

/-- `_reply_payload` -/
def replyPayload : Except (Raised V) Bytes :=
  if reply.status = .success then .ok reply.payload
  else .error (raiseReply reply target)

/-- `_decode` -/
def decodeCall (loads : Bytes → Except DecodeFailure V) : Except (Raised V) V := do
  let raw ← replyPayload reply target
  match loads raw with
  | .ok value => .ok value
  | .error (.validation message) | .error (.malformed message) =>
    .error (.outcomeUnknown (target ++ " answered with malformed MessagePack: " ++ message))
  | .error (.typeError message) => .error (.typeError message)
  | .error (.escaped message) => .error (.escaped message)

/-- `_decode_typed`; `label` is how the type is named. -/
def decodeTyped (convertMsgpack : Bytes → Except DecodeFailure V)
    (name label : String) : Except (Raised V) V := do
  let raw ← replyPayload reply target
  let call := target ++ "." ++ name ++ "()"
  match convertMsgpack raw with
  | .ok value => .ok value
  | .error (.validation message) | .error (.typeError message) =>
    .error
      (.typeError
        (call ++ " returned MessagePack that does not match " ++ label ++ ": " ++ message))
  | .error (.malformed message) =>
    .error (.outcomeUnknown (call ++ " answered with malformed MessagePack: " ++ message))
  | .error (.escaped message) => .error (.escaped message)

/-- What `invoke` makes of a reply, with or without `returns`. -/
def decodeReply (decoder : Bytes → Except DecodeFailure V) (name : String) :
    Option String → Except (Raised V) V
  | none => decodeCall reply target decoder
  | some label => decodeTyped reply target decoder name label

end

/-- The positions that were invoked, if a status says anything about it. -/
def reported : RpcStatus → Option (List Nat)
  | .success | .remoteError => some [0]
  | .internal => none
  | _ => some []

/-- The positions that were invoked, if an exception says so. -/
def Raised.reported {V : Type u} : Raised V → Option (List Nat)
  | .attributeError _ | .typeError _ | .fenced _ | .notDelivered _ => some []
  | .remoteError _ _ _ => some [0]
  | _ => none

/-- A Python call ends as reported. -/
theorem Dispatch.serveCall_reported (dispatch : Dispatch)
    (handling : DispatchHandling) (name : String) (payload : DispatchPayload) :
    let run := dispatch.serveCall handling name payload
    ∀ invoked ∈ reported run.response.status, run.invoked = invoked := by
  have ran (invocation : Invocation) :
      ∀ invoked ∈ reported (invocation.run name).response.status,
        (invocation.run name).invoked = invoked := by
    cases invocation <;>
      simp [Invocation.run, Invocation.result, reported,
        ServiceResponse.success, ServiceResponse.failed, ServiceError.status]
  have unknown (message : String) :
      reported (ServiceResponse.failed (.internal message)).status = none :=
    rfl
  simp only [serveCall, call]
  split
  · simp [BatchRun.refused, unknown]
  · simp [reported, dispatchRefused]
  · split
    · split_ifs
      · simp [reported, dispatchRefused]
      · split
        · simp [reported, dispatchRefused]
        · simp [reported, dispatchRefused]
        · simp [BatchRun.refused, unknown]
        · exact ran _
        · exact ran _
    · simp [unknown]

end Tinyray.Service
