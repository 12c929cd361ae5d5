/-
  `Router` — what a server answers at which path.

  The call router takes calls at `/rpc` and health checks at `/health`; the metrics router shows the
  metrics at `/metrics`. Another path is not found, another method not allowed. `HEAD` is answered like
  `GET`, without a body.
-/
import SchemaCatalog.Http.Encoding
import SchemaCatalog.Metrics.Exposition
import SchemaCatalog.Rpc.Service

namespace SchemaCatalog

/-- The answer to a request that may only ask for it. -/
def Http.Request.getOnly (r : Http.Request) (answer : Http.Answer) : Http.Answer :=
  if r.method = "GET" then answer
  else if r.method = "HEAD" then { answer with body := "" }
  else .empty 405

namespace Rpc.Service

/-- The answer to a body, which holds the response to it. -/
def answerText (s : Service) (body : Bytes) (elapsed : Duration) : Service × Http.Answer :=
  let (s, response) := s.answer body elapsed
  (s, .json (Response.codec.print response))

/-- The answer of the call router before it is compressed, for bodies of at most `receiveLimit`
bytes. -/
def routeCall (s : Service) (receiveLimit : Nat) (r : Http.Request) (elapsed : Duration) :
    Service × Http.Answer :=
  if r.path = "/health" then (s, r.getOnly (.json healthy.compact))
  else if r.path = "/rpc" then
    if r.method != "POST" then (s, .empty 405)
    else if receiveLimit < r.body.length then (s, .tooLarge)
    else s.answerText r.body elapsed
  else (s, .empty 404)

/-- The answer of the call router. -/
def route (s : Service) (receiveLimit : Nat) (r : Http.Request) (elapsed : Duration) :
    Service × Http.Answer :=
  if !r.isReadable then (s, .empty 415)
  else
    let (s, answer) := s.routeCall receiveLimit r elapsed
    (s, answer.compress r)

/-- The answer of the metrics router, where `process` is what the system tells about the process. The
number of schemas is looked at for every answer. -/
def routeMetrics (s : Service) (process : List Metrics.Family) (r : Http.Request) :
    Service × Http.Answer :=
  if r.path = "/metrics" then
    if r.method = "GET" || r.method = "HEAD" then
      let s := { s with metrics := s.metrics.setSchemas s.catalog.size }
      (s, r.getOnly
        { status := 200
          mediaType := some Metrics.mediaType
          body := s.metrics.exposition process })
    else (s, .empty 405)
  else (s, .empty 404)

end Rpc.Service

end SchemaCatalog
