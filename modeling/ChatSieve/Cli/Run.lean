import ChatSieve.Cli.Arguments
import ChatSieve.Cli.Session
import ChatSieve.Config
import ChatSieve.Report.Listing
import ChatSieve.Report.Table

/-!
# Running commands

What a command does as a session, and how a run ends. The configuration is read
first, then the filter, then the log, and the first failure ends the run.
-/

namespace ChatSieve.Cli

open ChatSieve.Report

/-- The contents of the files that can be read. -/
abbrev Files := String → Except FileError (List UInt8)

/-- The channel state of a configuration file, none without a file. -/
def loadConfig (files : Files) : Option String → Except Failure Channels
  | none => .ok .none
  | some path =>
    match files path with
    | .error e => .error (.config path (.unreadable e))
    | .ok bytes =>
      match String.fromUTF8? ⟨bytes.toArray⟩ with
      | none => .error (.config path .undecodable)
      | some text =>
        match Config.ofText? text with
        | none => .error (.config path .malformed)
        | some channels => .ok channels

def compileFilter (text : String) : Except Failure Filter :=
  match Filter.ofText text with
  | .ok f => .ok f
  | .error e => .error (.filter e)

def loadLog (files : Files) (path : String) : Except Failure (List Message.Recorded) :=
  match files path with
  | .error e => .error (.noLog path e)
  | .ok bytes =>
    match Message.readLog bytes with
    | .error e => .error (.log path e)
    | .ok messages => .ok messages

/-- The results of a filter in a format. The text selects what it lists by
itself. As JSON those are written that match, and all of them on demand or of a
filter that is neither true nor false. -/
def render (colored : Bool) (format : Format) (ty : Ty) (all : Bool) (es : List Evaluation) :
    String :=
  match format with
  | .text => listing colored ty all es
  | .json => jsonListing (es.filter fun e => all || ty != .bool || e.isMatch) ++ "\n"

/-- What a command does under a channel state. -/
def runCommand (files : Files) (colored : Bool) (channels : Channels) : Command → Session Unit
  | .check text debug => do
    let f ← .ofExcept colored (compileFilter text)
    .print (valid colored f debug)
  | .eval text path format all => do
    let f ← .ofExcept colored (compileFilter text)
    let log ← .ofExcept colored (loadLog files path)
    .print (render colored format f.ty all (f.evaluate channels log))
  | .identifiers => .print (identifiers ++ "\n")

/-- What an invocation does. -/
def perform (files : Files) (colored : Bool) (i : Invocation) : Session Unit := do
  let channels ← .ofExcept colored (loadConfig files i.config)
  runCommand files colored channels i.command

/-- What an invocation writes to the output, unless it fails. -/
def run (files : Files) (colored : Bool) (i : Invocation) : Except Failure String :=
  match (perform files colored i).result .empty with
  | (.ok (), c) => .ok c.output
  | (.error f, _) => .error f

/-- How a run ends: its exit code and what it has written. -/
structure Outcome where
  code : Nat
  output : String
  errors : String
  deriving DecidableEq, Repr

namespace Outcome

/-- The outcome of a whole session. A failure has its last line written, behind
what the session has written. -/
def ofSession : Except Failure Unit × Console → Outcome
  | (.ok (), c) => ⟨0, c.output, c.errors⟩
  | (.error f, c) => ⟨1, c.output, (c.complain f.lastLine).errors⟩

def ofResult (colored : Bool) : Except Failure String → Outcome
  | .ok output => ⟨0, output, ""⟩
  | .error f => ⟨1, "", f.report colored⟩

def ofRefusal : Refusal → Outcome
  | .version => ⟨0, "chat-filter 0.1.0\n", ""⟩
  | .usage => ⟨2, "", "error: the arguments are not understood\n"⟩

end Outcome

/-- How an invocation ends. -/
def Invocation.outcome (i : Invocation) (files : Files) (colored : Bool) : Outcome :=
  .ofSession ((perform files colored i).result .empty)

end ChatSieve.Cli
