/-
  `Server` — a server from its settings to its end.

  `new` checks the settings and the files for encryption; `bind` takes the addresses, which the one for
  the metrics may fail, and starts to serve; `stop` ends it. A server that has been stopped cannot be
  bound, and answers calls with a refusal.
-/
import SchemaCatalog.Http.Router
import SchemaCatalog.Network
import SchemaCatalog.Settings
import SchemaCatalog.Tls

namespace SchemaCatalog

/-- A server. -/
structure Server where
  listener : ListenerSettings
  /-- Where the metrics are to be shown, if anywhere. -/
  metrics : Option MetricsSettings
  service : Rpc.Service
  /-- Where it listens for calls, once it is bound. -/
  callAddress : Option SocketAddress := none
  /-- Where it shows its metrics, once it is bound. -/
  metricsAddress : Option SocketAddress := none

namespace Server

/-- Looks at the certificates and the key for an encrypted listener. -/
def checkTls (files : Files) (tls : TlsFiles) : Except Error Unit :=
  let flawed (reason : String) : Except Error Unit :=
    .error (.config (.tlsMaterial tls.certFile tls.keyFile reason))
  match files.read tls.certFile, files.read tls.keyFile with
  | .error e, _ => flawed e.message
  | .ok _, .error e => flawed e.message
  | .ok certificates, .ok key =>
    match Tls.check certificates key with
    | .error flaw => flawed flaw.message
    | .ok () => .ok ()

/-- A server of a catalog, not yet bound. -/
def new (files : Files) (settings : Settings) (catalog : Catalog) : Except Error Server := do
  settings.check files
  match settings.listener.tls with
  | none => pure ()
  | some tls => checkTls files tls
  return {
    listener := settings.listener
    metrics := settings.metrics
    service := {
      catalog
      metrics := Metrics.empty.setSchemas catalog.size
      deadline := settings.listener.timeout
      sendLimit := settings.listener.sendLimit } }

/-- Ends a server, now or before it starts. -/
def stop (s : Server) : Server := { s with service := { s.service with stopped := true } }

def isStopped (s : Server) : Bool := s.service.stopped

/-- The addresses that a server listens at. -/
def addresses (s : Server) : List SocketAddress :=
  if s.isStopped then [] else s.callAddress.toList ++ s.metricsAddress.toList

/-- The address to show metrics at, if the host can listen there beside the addresses `taken`. -/
def bindMetrics (network : Network) (taken : List SocketAddress) (settings : MetricsSettings) :
    Option SocketAddress :=
  match settings.socketAddress with
  | .error _ => none
  | .ok address => if (network.bindFailure taken address).isSome then none else some address

/-- Takes the addresses of a server. -/
def bind (network : Network) (s : Server) : Except Error Server := do
  if s.isStopped then throw (.transport .stoppedBeforeStart)
  let address ← s.listener.socketAddress
  match network.bindFailure [] address with
  | some failure => throw (.config (.unbindable address failure.message))
  | none =>
    return { s with
      callAddress := some address
      metricsAddress := s.metrics.bind (bindMetrics network [address]) }

/-- The answer to a request that reaches the listener for calls. -/
def answerCall (s : Server) (r : Http.Request) (elapsed : Duration) : Server × Http.Answer :=
  let (service, answer) := s.service.route s.listener.receiveLimit r elapsed
  ({ s with service }, answer)

/-- The answer to a request that reaches the listener for metrics, where `process` is what the system
tells about the process. -/
def answerMetrics (s : Server) (process : List Metrics.Family) (r : Http.Request) :
    Server × Http.Answer :=
  let (service, answer) := s.service.routeMetrics process r
  ({ s with service }, answer)

end Server

end SchemaCatalog
