import ConnectionProfile.Run

/-!
# The command

Reads the file that the arguments name and the token of the environment, and does one run. The
document goes to the standard output, and all else to the standard error output.
-/

namespace ConnectionProfile.Command

/-- The code of the system for reading a directory. -/
def isDirectoryCode : UInt32 := 21

/-- What the system says when a file cannot be read. -/
def readProblem : IO.Error → ReadProblem
  | .noFileOrDirectory .. => .missing
  | .inappropriateType _ code _ => if code = isDirectoryCode then .isDirectory else .notDirectory
  | .permissionDenied .. => .forbidden
  | _ => .failed

def readFile (path : Path) : IO (Except ReadProblem Octets) := do
  match ← (IO.FS.readBinFile path.toText.toString).toBaseIO with
  | .ok content => return .ok content.toList
  | .error e => return .error (readProblem e)

/-- The file that the arguments name. -/
def namedFile (arguments : List Text) : IO (Except ReadProblem Octets) := do
  match Options.parse arguments with
  | .ok (.options o) =>
    match o.config with
    | .given path => readFile path
    | _ => return .error .missing
  | _ => return .error .missing

end ConnectionProfile.Command

open ConnectionProfile in
def main (arguments : List String) : IO UInt32 := do
  let arguments := arguments.map Text.ofString
  let token := (← IO.getEnv "HOMESERVER_ACCESS_TOKEN").map Text.ofString
  let content ← Command.namedFile arguments
  let run := Run.ofArguments (fun _ => content) Console.lenient arguments token
  (← IO.getStderr).putStr (run.logText ++ run.ending.notice).toString
  (← IO.getStdout).putStr run.output.toString
  return ((run.ending.status?).getD 1).toUInt32
