/-
  `Service` — answering calls from a catalog.

  `answer` reads a request and gives the response to it. Faults are told in a fixed order: a body that
  is no request, a service that has been stopped, a call that does not exist, parameters that are
  missing, a schema and then a path that is not there, and a result that is too large. A health check is
  answered before all of these but the first. Every other call is counted in the metrics, those that do
  not exist under one name.

  A deadline cuts short a call that is still waiting when it passes. What is dispatched here only looks
  things up, and never waits: it has finished when its deadline is looked at for the first time.
-/
import SchemaCatalog.Metrics.Basic
import SchemaCatalog.Rpc.Details
import SchemaCatalog.Rpc.Message
import SchemaCatalog.Rpc.Method

namespace SchemaCatalog.Rpc

open Json (Codec Value)

/-! ### Parameters -/

/-- The text of a parameter that has one. -/
def textParam? (params : Value) (name : String) : Option String := (params.get? name).bind Value.text?

/-- The text of a parameter. -/
def textParam (params : Value) (name : String) : Except Error String :=
  match textParam? params name with
  | some s => .ok s
  | none => .error (.invalidParams (.missing name))

/-- The object that holds the components of the identity: the parameter `schema` if that is an
object, otherwise the parameters themselves. -/
def identityParams (params : Value) : Value :=
  match params.get? "schema" with
  | some (.object members) => .object members
  | _ => params

/-- The identity of the schema that a call is about. -/
def identityParam (params : Value) : Except Error Identity := do
  let source := identityParams params
  let name ← textParam source "name"
  let vendor ← textParam source "vendor"
  let version ← textParam source "version"
  return ⟨name, vendor, version⟩

/-! ### Looking up -/

/-- The paths at and below `lead`, which has to be a path of the schema unless it is empty. -/
def expandEntry (entry : Entry) (lead : String) : Except Error (List DataPath) := do
  if !(DataPath.trim lead).isEmpty then discard (entry.element lead)
  return entry.index.expand lead

/-- The result of a call. -/
def lookUp (c : Catalog) (params : Value) : Method → Except Error Value
  | .getElement => do
    let id ← identityParam params
    let path ← textParam params "path"
    return Element.codec.toValue (← c.getElement id path)
  | .listSchemas => return (Codec.list Identity.codec).toValue c.list
  | .getDetails => do
    let id ← identityParam params
    return Details.codec.toValue (.ofEntry (← c.get id))
  | .expandPath => do
    let id ← identityParam params
    let lead := (textParam? params "path").getD ""
    let entry ← c.get id
    return (Codec.list DataPath.codec).toValue (← expandEntry entry lead)

/-! ### Answering -/

/-- What answers calls. -/
structure Service where
  catalog : Catalog := .empty
  metrics : Metrics := .empty
  /-- How long a call may take. -/
  deadline : Duration := .ofSeconds 60
  /-- The most bytes of a result in its envelope. -/
  sendLimit : Nat := 25165824
  /-- Whether the service has been stopped. -/
  stopped : Bool := false

/-- Why a call has no result. -/
inductive Refusal where
  | unknownMethod
  | failed (error : Error)
deriving DecidableEq, Repr

namespace Refusal

/-- The outcome under which the metrics count a refused call. -/
def outcome : Refusal → String
  | unknownMethod => "method_not_found"
  | failed error => error.outcome

/-- The code of a refused call in its response. -/
def code : Refusal → Int
  | unknownMethod => -32601
  | failed error => error.rpcCode

/-- The wording of a refused call of `method` in its response. -/
def message (method : String) : Refusal → String
  | unknownMethod => "Method not found: " ++ method
  | failed error => error.message

end Refusal

/-- The bytes that a document is written in. -/
def byteSize (v : Value) : Nat := v.compact.utf8ByteSize

/-- The code of the response to a body that is no request. -/
def parseErrorCode : Int := -32700

/-- The call that is answered without looking anything up. -/
def healthCheck : String := "health_check"

/-- The answer to a health check. -/
def healthy : Value := .object [("status", .string "ok")]

/-- The name under which the metrics count calls that do not exist. -/
def unknownLabel : String := "unknown"

namespace Service

/-- The result of a call before its deadline and its size are looked at. -/
def dispatch (s : Service) (method : String) (params : Value) : Except Refusal Value :=
  if s.stopped then .error (.failed (.transport .shuttingDown))
  else
    match Method.ofName? method with
    | none => .error .unknownMethod
    | some m => (lookUp s.catalog params m).mapError .failed

/-- The result of a call that has finished by its deadline; of one that has not, that it took too
long. -/
def byDeadline (s : Service) (finished : Option (Except Refusal Value)) : Except Refusal Value :=
  finished.getD (.error (.failed (.timeout s.deadline)))

/-- A result in its envelope, unless that is too large. -/
def withinSize (s : Service) (v : Value) : Except Refusal Value :=
  if s.sendLimit < byteSize v then .error (.failed (.messageTooLarge (byteSize v) s.sendLimit))
  else .ok v

/-- The result of a call of which `finished` is dispatched by its deadline, in its envelope. -/
def complete (s : Service) (method : String) (finished : Option (Except Refusal Value)) :
    Except Refusal Value := do
  let result ← s.byDeadline finished
  s.withinSize (wrapResult method result)

/-- The result of a call in its envelope. -/
def call (s : Service) (method : String) (params : Value) : Except Refusal Value :=
  s.complete method (some (s.dispatch method params))

/-- The name under which the metrics count a call. -/
def label (method : String) : String :=
  if (Method.ofName? method).isSome then method else unknownLabel

/-- The outcome of a call. -/
def outcome : Except Refusal Value → String
  | .ok _ => "ok"
  | .error refusal => refusal.outcome

/-- The response to a request whose call took `elapsed` and has this result. -/
def conclude (s : Service) (r : Request) (elapsed : Duration) (result : Except Refusal Value) :
    Service × Response :=
  let counted := { s with metrics := s.metrics.observe (label r.method) (outcome result) elapsed }
  match result with
  | .ok v => (counted, .success r.id v)
  | .error refusal => (counted, .failure r.id refusal.code (refusal.message r.method))

/-- The response to a request whose call took `elapsed`. -/
def answerRequest (s : Service) (r : Request) (elapsed : Duration) : Service × Response :=
  if r.method = healthCheck then (s, .success r.id healthy)
  else s.conclude r elapsed (s.call r.method (r.params.getD (.object [])))

/-- The response to a body. -/
def answer (s : Service) (body : Bytes) (elapsed : Duration) : Service × Response :=
  match Request.codec.parse body with
  | .error e => (s, .failure none parseErrorCode ("Parse error: " ++ e.message))
  | .ok r => s.answerRequest r elapsed

end Service

end SchemaCatalog.Rpc
