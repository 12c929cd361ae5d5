/-
  `Error` — what can go wrong, and how it is told.

  Errors are causes; `Error.message` is their wording. Errors of the configuration and of building a
  schema end a start. The others are answers to a call, which `rpcCode` and `outcome` sort for the
  remote caller and for the metrics.
-/
import SchemaCatalog.Duration
import SchemaCatalog.Files
import SchemaCatalog.Identity
import SchemaCatalog.Json.Fault
import SchemaCatalog.SocketAddress
import SchemaCatalog.Tree

namespace SchemaCatalog

/-- What is wrong with a configuration. -/
inductive ConfigProblem where
  | identity (flaw : Identity.Flaw)
  | address (setting value : String)
  | zeroMessageSize
  | zeroTimeout
  | missingTlsFile (path : String)
  | noFiles (key : String)
  | repeatedSchema (key : String)
  | unparsable (path : String) (error : Json.Error)
  | tlsMaterial (certFile keyFile reason : String)
  | unbindable (address : SocketAddress) (reason : String)
  /-- A problem that is told in words only. -/
  | told (text : String)
deriving DecidableEq, Repr

/-- Why a schema cannot be built. -/
inductive BuildProblem where
  | tree (flaw : Tree.Flaw)
  | duplicatePath (path : String) (kind : Kind) (name : String)
  | unreadable (path : String) (error : ReadError)
  | unparsable (path : String) (error : Json.Error)
  | rootDeclared (name : String)
  /-- A problem that is told in words only. -/
  | told (text : String)
deriving DecidableEq, Repr

/-- Why the parameters of a call are refused. -/
inductive ParamsProblem where
  | missing (parameter : String)
  /-- A problem that is told in words only. -/
  | told (text : String)
deriving DecidableEq, Repr

/-- Why a message does not get through. -/
inductive TransportProblem where
  | shuttingDown
  | stoppedBeforeStart
  | unreachable (url reason : String)
  | unhealthy (url status : String)
  | callFailed (method reason : String)
  | requestTooLarge (method : String)
  | unsuccessful (method status : String)
  /-- A problem that is told in words only. -/
  | told (text : String)
deriving DecidableEq, Repr

/-- What can go wrong. -/
inductive Error where
  | config (problem : ConfigProblem)
  | build (schema : String) (problem : BuildProblem)
  | schemaNotFound (key : String)
  | pathNotFound (key path : String)
  | timeout (after : Duration)
  | messageTooLarge (size limit : Nat)
  | invalidParams (problem : ParamsProblem)
  | transport (problem : TransportProblem)
  /-- An error that a remote server answered. -/
  | rpc (code : Int) (message : String)
  | io (path : Option String) (cause : String)
  | json (error : Json.Error)
  | other (text : String)
deriving DecidableEq, Repr

/-! ### Wording -/

def ConfigProblem.message : ConfigProblem → String
  | identity flaw => flaw.message
  | address setting value =>
    "invalid " ++ setting ++ " " ++ Text.quoted value ++ ": invalid socket address syntax"
  | zeroMessageSize => "message size limits must be non-zero"
  | zeroTimeout => "rpc_timeout_ms must be non-zero"
  | missingTlsFile path => "TLS file not found: " ++ path
  | noFiles key => "schema " ++ key ++ " lists no files"
  | repeatedSchema key => "schema " ++ key ++ " configured more than once"
  | unparsable path error => "failed to parse " ++ path ++ ": " ++ error.message
  | tlsMaterial certFile keyFile reason =>
    "Invalid TLS material (" ++ certFile ++ ", " ++ keyFile ++ "): " ++ reason
  | unbindable place reason => "Failed to bind " ++ place.text ++ ": " ++ reason
  | told text => text

def BuildProblem.message : BuildProblem → String
  | tree flaw => flaw.message
  | duplicatePath path kind name =>
    "duplicate path " ++ Text.quoted path ++ " for " ++ kind.name ++ " " ++ Text.quoted name
  | unreadable path error => "cannot read " ++ path ++ ": " ++ error.message
  | unparsable path error => "cannot parse " ++ path ++ ": " ++ error.message
  | rootDeclared name => "node " ++ Text.quoted name ++ " cannot declare kind root"
  | told text => text

def ParamsProblem.message : ParamsProblem → String
  | missing parameter => "Missing required parameter: " ++ parameter
  | told text => text

def TransportProblem.message : TransportProblem → String
  | shuttingDown => "Server is shutting down"
  | stoppedBeforeStart => "server was stopped before it started"
  | unreachable url reason => "Failed to connect to " ++ url ++ ": " ++ reason
  | unhealthy url status => "Health check against " ++ url ++ " returned " ++ status
  | callFailed method reason => method ++ " failed: " ++ reason
  | requestTooLarge method => method ++ " request rejected by server as too large"
  | unsuccessful method status => method ++ " returned HTTP " ++ status
  | told text => text

namespace Error

/-- The wording of an error. -/
def message : Error → String
  | config problem => "Configuration error: " ++ problem.message
  | build schema problem => "Schema " ++ schema ++ " build failed: " ++ problem.message
  | schemaNotFound key => "Schema not found: " ++ key
  | pathNotFound key path => "Path not found in schema " ++ key ++ ": " ++ path
  | timeout after => "Request timeout after " ++ after.text
  | messageTooLarge size limit =>
    "Message too large: " ++ toString size ++ " bytes exceeds limit of " ++ toString limit ++ " bytes"
  | invalidParams problem => "Invalid params: " ++ problem.message
  | transport problem => "Transport error: " ++ problem.message
  | rpc code text => "RPC error " ++ toString code ++ ": " ++ text
  | io path cause => "IO error at " ++ Text.quotedOption path ++ ": " ++ cause
  | json error => "JSON error: " ++ error.message
  | other text => text

/-- The wording of the error that lies below, if there is one. -/
def cause : Error → Option String
  | io _ cause => some cause
  | json error => some error.message
  | _ => none

/-! ### What a remote caller is told -/

/-- The code of an error in an answer. -/
def rpcCode : Error → Int
  | schemaNotFound _ => -32001
  | pathNotFound _ _ => -32002
  | timeout _ => -32003
  | messageTooLarge _ _ => -32004
  | invalidParams _ => -32602
  | rpc code _ => code
  | _ => -32603

/-- Whether a schema or a path was not found, here or by a remote server. -/
def isNotFound : Error → Bool
  | schemaNotFound _ | pathNotFound _ _ => true
  | rpc code _ => code = -32001 || code = -32002
  | _ => false

/-- Whether a call ran into its deadline, here or at a remote server. -/
def isTimeout : Error → Bool
  | timeout _ => true
  | rpc code _ => code = -32003
  | _ => false

/-- The outcome under which the metrics count a call that failed. -/
def outcome : Error → String
  | schemaNotFound _ | pathNotFound _ _ => "not_found"
  | timeout _ => "timeout"
  | messageTooLarge _ _ => "too_large"
  | invalidParams _ => "invalid_params"
  | _ => "internal"

end Error

end SchemaCatalog
