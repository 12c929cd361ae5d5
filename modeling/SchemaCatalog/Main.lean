/-
  `Main` — the program: it starts a server from the command line and answers the calls that come in on
  standard input, one body a line.
-/
import SchemaCatalog.CommandLine

namespace SchemaCatalog.CommandLine

/-- What reading a file gives. -/
def readFile (path : String) : IO (Except ReadError Bytes) := do
  try
    return .ok (← IO.FS.readBinFile path).toList
  catch
    | .noFileOrDirectory .. => return .error .notFound
    | .inappropriateType .. => return .error .isDirectory
    | e => return .error (.failed (toString e))

/-- What reading each of these files gives. -/
def readFiles (paths : List String) : IO Files := do
  return .ofReads (← paths.mapM fun path => return (path, ← readFile path))

/-- The files that a start with these arguments reads. -/
def gatherFiles (arguments : List String) : IO Files := do
  match parse arguments with
  | .error _ => return .ofReads []
  | .ok options =>
    let files ← readFiles [options.config]
    match Settings.read files options.config with
    | .error _ => return files
    | .ok settings => readFiles (options.config :: settings.namedFiles)

/-- Answers the calls on `input`, one after the other. -/
partial def answerLines (server : Server) (input output : IO.FS.Stream) : IO Unit := do
  let line ← input.getLine
  if line.isEmpty then return
  let call : Http.Request := { method := "POST", target := "/rpc", body := line.toUTF8.toList }
  let (server, answer) := server.answerCall call ⟨0⟩
  output.putStrLn answer.body
  output.flush
  answerLines server input output

end SchemaCatalog.CommandLine

open SchemaCatalog
def main (arguments : List String) : IO UInt32 := do
  let files ← CommandLine.gatherFiles arguments
  let outcome := CommandLine.start files .isolated arguments
  match outcome with
  | .help => IO.println CommandLine.helpText
  | .usage e => IO.eprintln e.message
  | .failed report => IO.eprintln report
  | .serving server =>
    if let some address := server.callAddress then IO.println ("RPC_ADDR=" ++ address.text)
    if let some address := server.metricsAddress then IO.println ("METRICS_ADDR=" ++ address.text)
    CommandLine.answerLines server (← IO.getStdin) (← IO.getStdout)
  return outcome.exitCode.toUInt32
