import ChatSieve.Cli.Run
import ChatSieve.Cli.Terminal

/-!
# The program

Reads the arguments, the environment and the files that a run needs, and writes
what it gives.
-/

namespace ChatSieve.Cli

/-- The error of the system. Its number for what is no directory is 20, and some
functions give it negated. -/
def fileErrorOf : IO.Error → FileError
  | .noFileOrDirectory .. => .notFound
  | .inappropriateType _ code _ => if code = 20 || code = -20 then .notDirectory else .isDirectory
  | .permissionDenied .. => .denied
  | e => .other (toString e)

def readFile (path : String) : IO (Except FileError (List UInt8)) := do
  try
    return .ok (← IO.FS.readBinFile path).toList
  catch e =>
    return .error (fileErrorOf e)

/-- The files that an invocation names. -/
def Invocation.paths (i : Invocation) : List String :=
  i.config.toList ++
    match i.command with
    | .eval _ log _ _ => [log]
    | _ => []

def terminal : IO Terminal := do
  return {
    clicolorForce := ← IO.getEnv "CLICOLOR_FORCE"
    noColor := ← IO.getEnv "NO_COLOR"
    clicolor := ← IO.getEnv "CLICOLOR"
    isTerminal := ← (← IO.getStdout).isTty }

def outcome (args : List String) : IO Outcome := do
  match Invocation.ofArguments (← IO.getEnv "CHAT_FILTER_CONFIG") args with
  | .error refusal => return .ofRefusal refusal
  | .ok i =>
    let contents ← i.paths.mapM fun path => return (path, ← readFile path)
    let files : Files := fun path => (contents.lookup path).getD (.error .notFound)
    let colored := i.color.applies (← terminal)
    return i.outcome files colored

end ChatSieve.Cli

def main (args : List String) : IO UInt32 := do
  let result ← ChatSieve.Cli.outcome args
  IO.print result.output
  IO.eprint result.errors
  return result.code.toUInt32
