/-
  `Message` — requests and responses of remote calls.

  A response has the id of its request, and either a result or a failure.
-/
import SchemaCatalog.Json.Record

namespace SchemaCatalog.Rpc

open Json (Codec Value)

/-- The version that every message names. -/
def version : String := "2.0"

/-- A call. -/
structure Request where
  jsonrpc : String
  method : String
  params : Option Value
  id : Option Value
deriving DecidableEq, Repr, Inhabited

/-- Why a call failed. -/
structure Failure where
  code : Int
  message : String
  data : Option Value
deriving DecidableEq, Repr, Inhabited

/-- The answer to a call. -/
structure Response where
  jsonrpc : String
  result : Option Value
  error : Option Failure
  id : Option Value
deriving DecidableEq, Repr, Inhabited

/-- A member that may be missing from an object only, and is written as `null` when there is no
value. -/
def idField : Json.Field := ⟨"id", Codec.any.optional, .inObject none, fun _ => false⟩

def Request.codec : Codec Request :=
  (Codec.record "JsonRpcRequest"
    [.required "jsonrpc" .string, .required "method" .string, .omissible "params" .any,
     idField]).imap
    (fun (jsonrpc, method, params, id, _) => ⟨jsonrpc, method, params, id⟩)
    (fun r => (r.jsonrpc, r.method, r.params, r.id, ()))

def Failure.codec : Codec Failure :=
  (Codec.record "JsonRpcError"
    [.required "code" .signed32, .required "message" .string, .omissible "data" .any]).imap
    (fun (code, message, data, _) => ⟨code, message, data⟩)
    (fun f => (f.code, f.message, f.data, ()))

def Response.codec : Codec Response :=
  (Codec.record "JsonRpcResponse"
    [.required "jsonrpc" .string, .omissible "result" .any, .omissible "error" Failure.codec,
     idField]).imap
    (fun (jsonrpc, result, error, id, _) => ⟨jsonrpc, result, error, id⟩)
    (fun r => (r.jsonrpc, r.result, r.error, r.id, ()))

namespace Response

/-- The answer that gives a result. -/
def success (id : Option Value) (result : Value) : Response := ⟨version, some result, none, id⟩

/-- The answer that gives a failure. -/
def failure (id : Option Value) (code : Int) (message : String) : Response :=
  ⟨version, none, some ⟨code, message, none⟩, id⟩

end Response

end SchemaCatalog.Rpc
