import Tinyray.Proto.Wire

/-!
# Requests and replies of the method protocol

The envelopes as they are sent, with the names their fields have on the wire.
Fields that are absent or empty are skipped.
-/

namespace Tinyray.Proto

/-- `RPC_PROTOCOL` -/
def rpcProtocol : Nat := 1

/-- `MAX_RPC_FRAME_BYTES` -/
def maxRpcFrameBytes : Nat := 32 <<< 20

/-- `MAX_RPC_REQUEST_ID_BYTES` -/
def maxRpcRequestIdBytes : Nat := 200

/-- `MAX_RPC_BATCH` -/
def maxRpcBatch : Nat := 128

/-- `RpcOperation` -/
inductive RpcOperation where
  | call
  | batch
  | blobAck
deriving DecidableEq

/-- `RpcStatus` -/
inductive RpcStatus where
  | success
  | methodNotFound
  | fenced
  | callerFault
  | concurrencyRefused
  | remoteError
  | malformedProtocol
  | internal
deriving DecidableEq

/-- The name on the wire. -/
def RpcStatus.name : RpcStatus → String
  | .success => "success"
  | .methodNotFound => "method_not_found"
  | .fenced => "fenced"
  | .callerFault => "caller_fault"
  | .concurrencyRefused => "concurrency_refused"
  | .remoteError => "remote_error"
  | .malformedProtocol => "malformed_protocol"
  | .internal => "internal"

/-- `RpcError` -/
structure RpcError where
  typeName : String
  message : String
  traceback : String
deriving DecidableEq

/-- `RpcRequest` -/
structure RpcRequest where
  protocol : Nat := rpcProtocol
  requestId : String
  caller : String := ""
  target : String := ""
  operation : RpcOperation
  method : Option String := none
  batchLen : Option Nat := none
  payload : Bytes := []
deriving DecidableEq

/-- `RpcReply` -/
structure RpcReply where
  protocol : Nat := rpcProtocol
  requestId : String
  status : RpcStatus
  batchIndex : Option Nat := none
  completed : Option Nat := none
  error : Option RpcError := none
  blobRefs : Bool := false
  payload : Bytes := []
deriving DecidableEq

/-- `RpcRequest::call` -/
def RpcRequest.call (requestId caller target method : String)
    (payload : Bytes) : RpcRequest where
  requestId := requestId
  caller := caller
  target := target
  operation := .call
  method := some method
  payload := payload

/-- `RpcRequest::blob_ack` -/
def RpcRequest.blobAck (requestId : String) : RpcRequest where
  requestId := requestId
  operation := .blobAck

/-- `RpcReply::error` -/
def RpcReply.failed (requestId : String) (status : RpcStatus)
    (typeName message : String) : RpcReply where
  requestId := requestId
  status := status
  error := some { typeName := typeName, message := message, traceback := "" }

/-! ## What is sent -/

/-- A text that is skipped when it is empty. -/
def textField (name text : String) : List (String × Pack) :=
  if text = "" then [] else [(name, .str text)]

/-- A number that is skipped when it is absent. -/
def numberField (name : String) (number : Option Nat) : List (String × Pack) :=
  (number.map fun value => (name, Pack.uint value)).toList

/-- The map that is sent. -/
def RpcError.pack (error : RpcError) : Pack :=
  .map
    (textField "type" error.typeName ++ [("message", .str error.message)] ++
      textField "traceback" error.traceback)

/-- The map that is sent. -/
def RpcReply.pack (reply : RpcReply) : Pack :=
  .map
    ([("v", .uint reply.protocol), ("id", .str reply.requestId),
        ("status", .str reply.status.name)] ++
      numberField "batch_index" reply.batchIndex ++ numberField "completed" reply.completed ++
      (reply.error.map fun error => ("error", error.pack)).toList ++
      (if reply.blobRefs then [("blobs", .bool true)] else []) ++ [("body", .bin reply.payload)])

end Tinyray.Proto
