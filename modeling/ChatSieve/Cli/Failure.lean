import ChatSieve.Filter
import ChatSieve.Message.Log
import ChatSieve.Report.Verdict

/-!
# Failures

Why a run can fail, and what it then reports.
-/

namespace ChatSieve.Cli

/-- Why a file has no content. -/
inductive FileError where
  | notFound
  | notDirectory
  | isDirectory
  | denied
  | other (message : String)
  deriving DecidableEq, Repr

namespace FileError

def message : FileError → String
  | .notFound => "No such file or directory (os error 2)"
  | .notDirectory => "Not a directory (os error 20)"
  | .isDirectory => "Is a directory (os error 21)"
  | .denied => "Permission denied (os error 13)"
  | .other text => text

end FileError

inductive ConfigError where
  | unreadable (e : FileError)
  /-- the file is no text -/
  | undecodable
  | malformed
  deriving DecidableEq, Repr

/-- Why a run fails. -/
inductive Failure where
  | config (path : String) (e : ConfigError)
  | filter (e : FilterError)
  | noLog (path : String) (e : FileError)
  | log (path : String) (e : Message.LogError)

namespace Failure

def undecodableMessage : String := "stream did not contain valid UTF-8"

/-- A failure of the system is told twice, as the end of the cause and as the
cause of the cause. -/
def twice (cause : String) : String := cause ++ ": " ++ cause

def configMessage (path : String) : ConfigError → String
  | .unreadable e => "Failed to read config file '" ++ path ++ "': " ++ twice e.message
  | .undecodable => "Failed to read config file '" ++ path ++ "': " ++ twice undecodableMessage
  | .malformed => "Failed to parse config file '" ++ path ++ "'"

def logMessage : Message.LogError → String
  | .unreadable => "Failed to read messages: " ++ twice undecodableMessage
  | .invalidLine n => "Invalid message on line " ++ Nat.repr n

/-- What the last line of a run that fails says. Where a document, a message or a
pattern cannot be read, the words of its reader would follow behind a colon; they
are left out. -/
def message : Failure → String
  | .config path e => "Failed to load config: " ++ configMessage path e
  | .filter _ => "invalid filter"
  | .noLog path e =>
    "Failed to parse message file '" ++ path ++ "': Failed to read messages: " ++ twice e.message
  | .log path e => "Failed to parse message file '" ++ path ++ "': " ++ logMessage e

/-- What is written of a failure where it comes up: that of a filter is told
there. -/
def notice (colored : Bool) : Failure → String
  | .filter e => Report.invalid colored e
  | _ => ""

/-- The line at the end of a run that fails. -/
def lastLine (f : Failure) : String := "error: " ++ f.message ++ "\n"

/-- What is written on a failure: what is told of it where it comes up, then the
last line. The words of the readers are left out (`message`), and so are the lines
of a log of the run itself, which can be asked for by an option or the
environment. -/
def report (colored : Bool) (f : Failure) : String := f.notice colored ++ f.lastLine

end Failure

end ChatSieve.Cli
