import Tinyray.Proto.Rpc

/-!
# What a service answers

Handlers fail with a `ServiceError`; the status on the wire and the error a
caller sees are read off it.
-/

namespace Tinyray.Service

open Tinyray.Proto

/-- `ServiceError` -/
inductive ServiceError where
  | methodNotFound (message : String)
  | fenced (message : String)
  | callerFault (message : String)
  | busy (message : String)
  | remote (typeName message traceback : String)
  | internal (message : String)
  | cancelled
deriving DecidableEq

namespace ServiceError

/-- `ServiceError::status` -/
def status : ServiceError → RpcStatus
  | .methodNotFound _ => .methodNotFound
  | .fenced _ => .fenced
  | .callerFault _ => .callerFault
  | .busy _ => .concurrencyRefused
  | .remote .. => .remoteError
  | .internal _ | .cancelled => .internal

/-- `ServiceError::into_rpc` -/
def intoRpc : ServiceError → RpcError
  | .methodNotFound message => ⟨"AttributeError", message, ""⟩
  | .fenced message => ⟨"Fenced", message, ""⟩
  | .callerFault message => ⟨"TypeError", message, ""⟩
  | .busy message => ⟨"Busy", message, ""⟩
  | .remote typeName message traceback => ⟨typeName, message, traceback⟩
  | .internal message => ⟨"RuntimeError", message, ""⟩
  | .cancelled => ⟨"Cancelled", "the request was cancelled", ""⟩

theorem status_eq_concurrencyRefused_iff {error : ServiceError} :
    error.status = .concurrencyRefused ↔ ∃ message, error = .busy message := by
  cases error <;> simp [status]

theorem status_ne_malformedProtocol (error : ServiceError) : error.status ≠ .malformedProtocol := by
  cases error <;> simp [status]

end ServiceError

/-- What a service returns, apart from the blobs it keeps alive. -/
structure ServiceResponse where
  status : RpcStatus
  batchIndex : Option Nat := none
  completed : Option Nat := none
  error : Option RpcError := none
  payload : Bytes := []
deriving DecidableEq

namespace ServiceResponse

/-- A successful response. -/
def success (payload : Bytes) : ServiceResponse where
  status := .success
  payload := payload

/-- A failed response. -/
def failed (error : ServiceError) : ServiceResponse where
  status := error.status
  error := some error.intoRpc

end ServiceResponse

end Tinyray.Service
