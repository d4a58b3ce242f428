import Tinyray.Foundation.Sequential
import Tinyray.Transport.Server

/-!
# Batches on the server

A batch is a list of calls that one request carries.  The Rust router and the
Python dispatcher both take the calls one after another and stop at the first
that fails; they differ in what they check beforehand and in how a failure is
answered.

What the handlers answer, whether the request has been cancelled and whether
the member still holds its tenure is asked again at each call and is left to
the environment.
-/

namespace Tinyray.Service

open Tinyray.Foundation
open Tinyray.Proto

/-- `public_method` -/
def publicMethod (name : String) : Bool := Transport.validMethod name

/-- `raw_array`: results that are packed already, as one array. -/
def rawArray (items : List Bytes) : Bytes :=
  Pack.header items.length (some (16, 0x90)) none 0xdc 0xdd ++ items.flatten

/-- The response to a batch, and what was done for it. -/
structure BatchRun where
  response : ServiceResponse
  /-- The results of the calls that succeeded. -/
  completed : List Bytes := []
  /-- The positions of the calls whose handler was entered. -/
  invoked : List Nat := []

/-- A response without anything having been done. -/
def BatchRun.refused (error : ServiceError) : BatchRun where
  response := .failed error

/-! ## The Rust router -/

/-- One call of a decoded envelope, with its arguments packed again. -/
structure BatchCall where
  method : String
  payload : Except String Bytes

/-- What a batch meets while it runs, by the position of the call. -/
structure Handling where
  cancelled : Nat → Bool
  /-- The handler's answer to this payload. -/
  answer : Nat → Bytes → Except ServiceError Bytes

/-- A router, by the names its handlers are registered under. -/
structure Router where
  handlers : List String

/-- `batch_error` -/
def batchError (error : ServiceError) (completed : List Bytes)
    (index : Nat) : ServiceResponse where
  status := error.status
  payload := rawArray completed
  error := some error.intoRpc
  batchIndex := some (index % 2 ^ 16)
  completed := some (index % 2 ^ 16)

namespace Router

variable (router : Router) (handling : Handling)

/-- What has to hold before the handler is entered. -/
def check (index : Nat) (item : BatchCall) : Except ServiceError Unit :=
  if handling.cancelled index then .error .cancelled
  else if !publicMethod item.method then .error (.callerFault "invalid batch method")
  else
    match item.payload with
    | .error message => .error (.callerFault message)
    | .ok _ =>
      if router.handlers.contains item.method then .ok ()
      else .error (.methodNotFound ("no method \"" ++ item.method ++ "\""))

/-- The handler's answer; it is asked only for calls that were checked. -/
def invoke (index : Nat) (item : BatchCall) : Except ServiceError Bytes :=
  match item.payload with
  | .error message => .error (.callerFault message)
  | .ok payload => handling.answer index payload

/-- One call of a batch. -/
def item : Nat → BatchCall → Except ServiceError Bytes :=
  attempt (router.check handling) (invoke handling)

/-- `Router::batch` -/
def batch (batchLen : Option UInt16)
    (envelope : Except String (List BatchCall)) : BatchRun :=
  match envelope with
  | .error message => .refused (.callerFault message)
  | .ok calls =>
    if calls.length ≠ (batchLen.getD 0).toNat then
      .refused (.callerFault "batch metadata does not match the application payload")
    else
      match sequentially (router.check handling) (invoke handling) 0 {} calls with
      | (progress, none) =>
        { response := .success (rawArray progress.results)
          completed := progress.results
          invoked := progress.invoked }
      | (progress, some (index, error)) =>
        { response := batchError error progress.results index
          completed := progress.results
          invoked := progress.invoked }

end Router

/-! ## The Python dispatcher -/

/-- An item of the decoded `calls` array. -/
inductive DispatchItem where
  /-- Not a mapping of method, args and kwargs. -/
  | shapeless
  /-- The name, if it is a text, and whether the arguments are well formed. -/
  | call (name : Option String) (arguments : Bool)

/-- What `loads` makes of the payload of a batch. -/
inductive DispatchPayload where
  /-- `BlobError` or `TypeError` -/
  | mistyped (message : String)
  /-- An error of decoding. -/
  | undecoded (message : String)
  /-- Any other exception. -/
  | escaped (message : String)
  /-- Not a mapping with one `calls` array. -/
  | other
  | calls (items : List DispatchItem)

/-- How one method ends. -/
inductive Invocation where
  /-- The arguments do not fit the method. -/
  | uncoerced (message : String)
  | raised (typeName message traceback : String)
  /-- The result cannot be packed. -/
  | unsendable (message : String)
  /-- An exception that is not caught, such as one outside `Exception`. -/
  | escaped (message : String)
  | returned (payload : Bytes)

/-- How dispatching one call fails. -/
inductive DispatchFailure where
  | reply (status : RpcStatus) (error : RpcError)
  | escaped (message : String)

/-- `_invoke` -/
def Invocation.result (name : String) : Invocation → Except DispatchFailure Bytes
  | .uncoerced message => .error (.reply .callerFault ⟨"TypeError", name ++ "(): " ++ message, ""⟩)
  | .raised typeName message traceback =>
    .error (.reply .remoteError ⟨typeName, message, traceback⟩)
  | .unsendable message =>
    .error
      (.reply .remoteError
        ⟨"TypeError", "the return value cannot be sent as MessagePack: " ++ message, ""⟩)
  | .escaped message => .error (.escaped message)
  | .returned payload => .ok payload

/-- The Python service. -/
structure Dispatch where
  identity : String
  dispatch : List String

/-- What the dispatcher and the bridge to it meet. -/
structure DispatchHandling where
  /-- The ownership check before the batch. -/
  owned : Except String Bool
  /-- The ownership check before each call. -/
  stillOurs : Nat → Except String Bool
  invoke : Nat → String → Invocation
  /-- The worker fails, or what it returned cannot be read. -/
  unread : Option String

/-- `_reply` for a batch that nothing was done for. -/
def dispatchRefused (status : RpcStatus) (typeName message : String) : BatchRun where
  response :=
    { status := status, error := some ⟨typeName, message, ""⟩ }

/-- The response to a failed call. -/
def DispatchFailure.response (completed : List Bytes) (index : Nat) :
    DispatchFailure → ServiceResponse
  | .reply status error =>
    { status := status
      payload := rawArray completed
      error := some error
      batchIndex := some index
      completed := some index }
  | .escaped message => .failed (.internal message)

namespace Dispatch

variable (dispatch : Dispatch) (handling : DispatchHandling)

/-- The message for an item that is not a call, if it is not one. -/
def itemFault : DispatchItem → Option String
  | .shapeless => some "each batch item needs method, args and kwargs"
  | .call name arguments =>
    -- an ASCII identifier without a leading underscore is a public method
    if name.any publicMethod && arguments then none
    else some "invalid batch method or argument envelope"

/-- The name as far as it is known. -/
def itemName : DispatchItem → String
  | .shapeless => ""
  | .call name _ => name.getD ""

/-- What has to hold before the method is entered. -/
def check (index : Nat) (item : DispatchItem) : Except DispatchFailure Unit :=
  match handling.stillOurs index with
  | .error message => .error (.escaped message)
  | .ok false =>
    .error (.reply .fenced ⟨"Fenced", dispatch.identity ++ " is held by a later tenure", ""⟩)
  | .ok true =>
    if dispatch.dispatch.contains (itemName item) then .ok ()
    else
      .error (.reply .methodNotFound ⟨"AttributeError", "no method '" ++ itemName item ++ "'", ""⟩)

/-- Call one method. -/
def invoke (index : Nat) (item : DispatchItem) : Except DispatchFailure Bytes :=
  (handling.invoke index (itemName item)).result (itemName item)

/-- The calls of a batch whose items were all found to be calls. -/
def run (calls : List DispatchItem) : BatchRun :=
  match sequentially (dispatch.check handling) (invoke handling) 0 {} calls with
  | (progress, none) =>
    { response := .success (rawArray progress.results)
      completed := progress.results
      invoked := progress.invoked }
  | (progress, some (index, failure)) =>
    { response := failure.response progress.results index
      completed := progress.results
      invoked := progress.invoked }

/-- The batch of `dispatch`. -/
def batch (batchLen : Option UInt16) : DispatchPayload → BatchRun
  | .mistyped message =>
    dispatchRefused .callerFault "TypeError" ("malformed batch MessagePack: " ++ message)
  | .undecoded message =>
    dispatchRefused .callerFault "ValidationError" ("malformed batch MessagePack: " ++ message)
  | .escaped message => .refused (.internal message)
  | .other => dispatchRefused .callerFault "ValidationError" "a batch needs one 'calls' array"
  | .calls items =>
    if batchLen.map UInt16.toNat ≠ some items.length then
      dispatchRefused .malformedProtocol "ProtocolError"
        "batch metadata does not match the application payload"
    else if items.length > maxRpcBatch then
      dispatchRefused .callerFault "ValueError"
        ("a batch can contain at most " ++ toString maxRpcBatch ++ " calls")
    else
      match items.findSome? itemFault with
      | some message => dispatchRefused .callerFault "ValidationError" message
      | none => dispatch.run handling items

/-- `PythonService::dispatch` for a batch. -/
def serve (batchLen : Option UInt16) (payload : DispatchPayload) : BatchRun :=
  match handling.owned with
  | .error message => .refused (.internal ("the ownership check failed: " ++ message))
  | .ok false => dispatchRefused .fenced "Fenced" "the member is held by a later tenure"
  | .ok true =>
    let answered := dispatch.batch handling batchLen payload
    match handling.unread with
    | none => answered
    | some message =>
      { answered with response := .failed (.internal message) }

end Dispatch

end Tinyray.Service
