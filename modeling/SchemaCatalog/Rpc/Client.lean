/-
  `Client` — calling a server.

  A client does not send anything itself: it says what to send, and what a reply means. `connect` takes
  the reply to a health check at `healthUrl?`; from then on `request` gives the next call to send to
  `callUrl?`, with a number of its own, and `result` what the reply to it tells. A reply is judged by its
  status first, then by the length of its body, which is looked at as soon as it is known to be too large,
  and only then by what the body says. The result of a call is taken out of its envelope.
-/
import SchemaCatalog.Http.Basic
import SchemaCatalog.Http.Status
import SchemaCatalog.Http.Url
import SchemaCatalog.Rpc.Details
import SchemaCatalog.Rpc.Message
import SchemaCatalog.Rpc.Method

namespace SchemaCatalog.Rpc

open Json (Codec Value)

/-- A client of one server. -/
structure Client where
  /-- The address of the server, to which paths are added. -/
  base : String
  /-- The most bytes of a body that is read. -/
  receiveLimit : Nat
  /-- The number of the next call, which wraps around at 64 bits. -/
  nextId : UInt64 := 1
deriving DecidableEq, Repr, Inhabited

namespace Client

/-! ### Connecting -/

/-- Whether a text names a scheme of the web. -/
def namesScheme (address : List Char) : Bool :=
  "http://".toList.isPrefixOf address || "https://".toList.isPrefixOf address

/-- The address that paths are added to: an address of the web without the slashes at its end, or a
host and a port. -/
def baseOf (address : String) : String :=
  let cs := address.toList
  if namesScheme cs then String.ofList (cs.reverse.dropWhile (· = '/')).reverse
  else "http://" ++ address

/-- Where a server is asked for its health. -/
def healthUrl? (base : String) : Option Http.Url := Http.Url.parse (base ++ "/health")

/-- Where a server takes calls. -/
def callUrl? (base : String) : Option Http.Url := Http.Url.parse (base ++ "/rpc")

/-- Why something could not be sent. -/
def sendFailure : Option Http.Url → String
  | none => "builder error"
  | some url =>
    (if url.isSendable then "error sending request" else "builder error") ++
      " for url (" ++ url.text ++ ")"

/-- A client for the server at an address, from the reply to a health check there. No reply means
that the health check could not be sent. -/
def connect (address : String) (receiveLimit : Nat) (health : Option Http.Reply) :
    Except Error Client :=
  let base := baseOf address
  match healthUrl? base, health with
  | some _, some reply =>
    if Http.isSuccess reply.status then .ok ⟨base, receiveLimit, 1⟩
    else .error (.transport (.unhealthy base (Http.statusText reply.status)))
  | url, _ => .error (.transport (.unreachable base (sendFailure url)))

/-! ### Calling -/

/-- The next call. -/
def message (c : Client) (method : String) (params : Value) : Request :=
  ⟨version, method, some params, some (.natural c.nextId.toNat)⟩

/-- The next call as it is sent, if something can be sent to where calls are taken, and the client after
it, which has used up a number in any case. -/
def request (c : Client) (method : String) (params : Value) : Client × Option Http.Request :=
  ({ c with nextId := c.nextId + 1 },
    ((callUrl? c.base).filter Http.Url.isSendable).map fun url =>
      { method := "POST"
        target := url.target
        headers := [("content-type", "application/json"), ("accept-encoding", "gzip")]
        body := (Request.codec.print (c.message method params)).toUTF8.toList })

/-- Puts the pieces of a body together while it stays within a limit. -/
def gather (limit : Nat) (body : Bytes) : List Bytes → Except Error Bytes
  | [] => .ok body
  | chunk :: rest =>
    let size := body.length + chunk.length
    if limit < size then .error (.messageTooLarge size limit) else gather limit (body ++ chunk) rest

/-- The body of a reply. -/
def body (limit : Nat) (reply : Http.Reply) : Except Error Bytes :=
  match reply.declaredLength with
  | some declared =>
    if limit < declared then .error (.messageTooLarge declared limit)
    else gather limit [] reply.chunks
  | none => gather limit [] reply.chunks

/-- The result of a call out of its envelope; `null` if it is not in there. -/
def unwrapResult (method : String) (result : Value) : Value :=
  match resultKey method with
  | some key => (result.get? key).getD .null
  | none => result

/-- What a response says about a call. -/
def outcome (method : String) (response : Response) : Except Error Value :=
  match response.error with
  | some failure => .error (.rpc failure.code failure.message)
  | none => .ok (unwrapResult method (response.result.getD .null))

/-- What the reply to a call tells. No reply means that the call could not be sent. -/
def result (c : Client) (method : String) (reply : Option Http.Reply) : Except Error Value :=
  match reply with
  | none => .error (.transport (.callFailed method (sendFailure (callUrl? c.base))))
  | some reply =>
    if reply.status = 413 then .error (.transport (.requestTooLarge method))
    else if !Http.isSuccess reply.status then
      .error (.transport (.unsuccessful method (Http.statusText reply.status)))
    else
      match body c.receiveLimit reply with
      | .error e => .error e
      | .ok bytes =>
        match Response.codec.parse bytes with
        | .error e => .error (.json e)
        | .ok response => outcome method response

/-! ### Calls with results of a type -/

/-- The parameters of a call about the schema of an identity. -/
def identityParams (id : Identity) (path : Option String) : Value :=
  let members : List (String × Value) :=
    [("name", .string id.name), ("vendor", .string id.vendor), ("version", .string id.version)]
  match path with
  | some path => .object (Value.insertMember "path" (.string path) members)
  | none => .object members

/-- A call with what it asks for. -/
inductive Query : Type → Type where
  | element (id : Identity) (path : String) : Query Element
  | schemas : Query (List Identity)
  | details (id : Identity) : Query Details
  | paths (id : Identity) (lead : String) : Query (List DataPath)

namespace Query

/-- The method that a query calls. -/
def method {α : Type} : Query α → Method
  | element .. => .getElement
  | schemas => .listSchemas
  | details _ => .getDetails
  | paths .. => .expandPath

/-- The parameters of the call of a query. -/
def params {α : Type} : Query α → Value
  | element id path => identityParams id (some path)
  | schemas => .object []
  | details id => identityParams id none
  | paths id lead => identityParams id (some lead)

/-- How the result of a query is written. -/
def codec {α : Type} : Query α → Codec α
  | element .. => Element.codec
  | schemas => .list Identity.codec
  | details _ => Details.codec
  | paths .. => .list DataPath.codec

end Query

/-- The call of a query as it is sent, if it can be, and the client after it. -/
def ask {α : Type} (c : Client) (query : Query α) : Client × Option Http.Request :=
  c.request query.method.name query.params

/-- What the reply to the call of a query tells. -/
def answer {α : Type} (c : Client) (query : Query α) (reply : Option Http.Reply) : Except Error α :=
  match c.result query.method.name reply with
  | .error e => .error e
  | .ok v => (query.codec.fromValue v).mapError .json

end Client

end SchemaCatalog.Rpc
