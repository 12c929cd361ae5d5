/-
  `Settings` — the configuration of a server.

  Every member may be missing and then has its default. `load` reads a file, takes relative paths in it
  as relative to its directory, and checks it; `check` finds whatever would fail later, when the
  server binds its addresses or loads its schemas.
-/
import SchemaCatalog.Error
import SchemaCatalog.Source

namespace SchemaCatalog

/-- The files with the certificate and the key of a server. -/
structure TlsFiles where
  certFile : String
  keyFile : String
deriving DecidableEq, Repr, Inhabited

/-- Where calls are answered, and their limits. -/
structure ListenerSettings where
  address : String := "0.0.0.0:55000"
  /-- The most bytes of a request. -/
  receiveLimit : Nat := 25165824
  /-- The most bytes of a result. -/
  sendLimit : Nat := 25165824
  /-- How many milliseconds a call may take. -/
  timeoutMs : Nat := 60000
  /-- Without these, the listener is not encrypted. -/
  tls : Option TlsFiles := none
deriving DecidableEq, Repr, Inhabited

/-- Where the metrics are shown. -/
structure MetricsSettings where
  address : String := "0.0.0.0:56090"
deriving DecidableEq, Repr, Inhabited

/-- The configuration of a server. -/
structure Settings where
  listener : ListenerSettings := {}
  /-- Without these, the metrics are not shown. -/
  metrics : Option MetricsSettings := none
  schemas : List Source := []
deriving DecidableEq, Repr, Inhabited

/-! ### As documents -/

def TlsFiles.codec : Json.Codec TlsFiles :=
  (Json.Codec.record "TlsConfig"
    [.required "cert_file" .path, .required "key_file" .path]).imap
    (fun (certFile, keyFile, _) => ⟨certFile, keyFile⟩)
    (fun t => (t.certFile, t.keyFile, ()))

def ListenerSettings.codec : Json.Codec ListenerSettings :=
  let default : ListenerSettings := {}
  (Json.Codec.record "RpcServerConfig"
    [.withDefault "address" .string default.address,
     .withDefault "max_recv_msg_size" .size default.receiveLimit,
     .withDefault "max_send_msg_size" .size default.sendLimit,
     .withDefault "rpc_timeout_ms" .count default.timeoutMs,
     .nullable "tls" TlsFiles.codec]).imap
    (fun (address, receiveLimit, sendLimit, timeoutMs, tls, _) =>
      ⟨address, receiveLimit, sendLimit, timeoutMs, tls⟩)
    (fun l => (l.address, l.receiveLimit, l.sendLimit, l.timeoutMs, l.tls, ()))

def MetricsSettings.codec : Json.Codec MetricsSettings :=
  let default : MetricsSettings := {}
  (Json.Codec.record "MetricsConfig" [.withDefault "address" .string default.address]).imap
    (fun (address, _) => ⟨address⟩)
    (fun m => (m.address, ()))

def Settings.codec : Json.Codec Settings :=
  (Json.Codec.record "ServerConfig"
    [.withDefault "rpc_server" ListenerSettings.codec {},
     .nullable "metrics" MetricsSettings.codec,
     .withDefault "schemas" (.list Source.codec) []]).imap
    (fun (listener, metrics, schemas, _) => ⟨listener, metrics, schemas⟩)
    (fun s => (s.listener, s.metrics, s.schemas, ()))

/-! ### Checks -/

/-- The address that the setting `name` gives. -/
def parseAddress (name value : String) : Except Error SocketAddress :=
  match SocketAddress.parse value with
  | some address => .ok address
  | none => .error (.config (.address name value))

namespace ListenerSettings

/-- How long a call may take. -/
def timeout (l : ListenerSettings) : Duration := .ofMilliseconds l.timeoutMs

/-- The address to answer calls at. -/
def socketAddress (l : ListenerSettings) : Except Error SocketAddress :=
  parseAddress "rpc_server.address" l.address

/-- The address, the limits and the files of the listener. -/
def check (files : Files) (l : ListenerSettings) : Except Error Unit := do
  discard l.socketAddress
  if l.receiveLimit = 0 || l.sendLimit = 0 then throw (.config .zeroMessageSize)
  if l.timeoutMs = 0 then throw (.config .zeroTimeout)
  match l.tls with
  | none => pure ()
  | some tls =>
    if !files.isFile tls.certFile then throw (.config (.missingTlsFile tls.certFile))
    if !files.isFile tls.keyFile then throw (.config (.missingTlsFile tls.keyFile))

end ListenerSettings

/-- The address to show the metrics at. -/
def MetricsSettings.socketAddress (m : MetricsSettings) : Except Error SocketAddress :=
  parseAddress "metrics.address" m.address

namespace Settings

/-- The sources, whose identities are valid and differ from each other and from the keys `seen`, and
which list a file each. -/
def checkSources (seen : List String) : List Source → Except Error Unit
  | [] => .ok ()
  | s :: rest =>
    match s.identity.check with
    | .error flaw => .error (.config (.identity flaw))
    | .ok () =>
      let key := s.identity.key
      if s.files.isEmpty then .error (.config (.noFiles key))
      else if seen.contains key then .error (.config (.repeatedSchema key))
      else checkSources (key :: seen) rest

/-- The first problem of a configuration. -/
def check (files : Files) (s : Settings) : Except Error Unit := do
  s.listener.check files
  match s.metrics with
  | none => pure ()
  | some metrics => discard metrics.socketAddress
  checkSources [] s.schemas

/-- The configuration with relative paths taken as relative to `base`. -/
def resolve (base : String) (s : Settings) : Settings :=
  let below := FilePath.join base
  let tls := s.listener.tls.map fun t => ⟨below t.certFile, below t.keyFile⟩
  { s with
    listener := { s.listener with tls }
    schemas := s.schemas.map fun source => { source with files := source.files.map below } }

/-- Reads the configuration in a file; relative paths in it are relative to its directory. -/
def read (files : Files) (path : String) : Except Error Settings :=
  match files.readText path with
  | .error e => .error (.io (some path) e.message)
  | .ok text =>
    match codec.parse text with
    | .error e => .error (.config (.unparsable path e))
    | .ok settings =>
      match FilePath.parent path with
      | some base => .ok (settings.resolve base)
      | none => .ok settings

/-- The checked configuration in a file. -/
def load (files : Files) (path : String) : Except Error Settings := do
  let settings ← read files path
  settings.check files
  return settings

/-- The paths of all files that a configuration names. -/
def namedFiles (s : Settings) : List String :=
  let tls :=
    match s.listener.tls with
    | some tls => [tls.certFile, tls.keyFile]
    | none => []
  tls ++ s.schemas.flatMap Source.files

end Settings

end SchemaCatalog
