/-!
# Arguments of the command line

A command line is a list of options, a command, and the options and operands of
the command. Options that take a value may have it attached or as the next
argument; an option stands at most once on either side of the command, and of
two values the one behind the command counts. After `--` there are operands
only.
-/

namespace ChatSieve.Cli

inductive ColorMode where
  | auto
  | always
  | never
  deriving DecidableEq, Repr

inductive Format where
  | text
  | json
  deriving DecidableEq, Repr

inductive Command where
  /-- is a text a filter? -/
  | check (filter : String) (debug : Bool)
  /-- a filter on the messages of a log -/
  | eval (filter : String) (log : String) (format : Format) (all : Bool)
  /-- the catalogue -/
  | identifiers
  deriving DecidableEq, Repr

/-- A command line that asks for something to be done. -/
structure Invocation where
  config : Option String
  color : ColorMode
  command : Command
  deriving DecidableEq, Repr

/-- Why a command line asks for nothing to be done. -/
inductive Refusal where
  /-- it asks for the version only -/
  | version
  /-- it is not understood -/
  | usage
  deriving DecidableEq, Repr

inductive Opt where
  | config
  | color
  | verbose
  | version
  | debug
  | format
  | all
  deriving DecidableEq, Repr

namespace Opt

def longName : Opt → String
  | .config => "config"
  | .color => "color"
  | .verbose => "verbose"
  | .version => "version"
  | .debug => "debug"
  | .format => "format"
  | .all => "all"

def shortName? : Opt → Option Char
  | .verbose => some 'v'
  | .version => some 'V'
  | .format => some 'F'
  | .all => some 'a'
  | _ => none

def takesValue : Opt → Bool
  | .config | .color | .format => true
  | _ => false

end Opt

/-- The place of an option: before the command, or behind one. -/
inductive Place where
  | top
  | check
  | eval
  | identifiers
  deriving DecidableEq, Repr

namespace Place

/-- The options that are known in a place. -/
def options : Place → List Opt
  | .top => [.config, .color, .verbose, .version]
  | .check => [.config, .color, .verbose, .debug]
  | .eval => [.config, .color, .verbose, .format, .all]
  | .identifiers => [.config, .color, .verbose]

def longOption? (p : Place) (name : String) : Option Opt :=
  p.options.find? (·.longName == name)

def shortOption? (p : Place) (name : Char) : Option Opt :=
  p.options.find? (·.shortName? == some name)

/-- The place behind a command. -/
def ofCommand? : String → Option Place
  | "check" => some .check
  | "eval" => some .eval
  | "identifiers" => some .identifiers
  | _ => none

end Place

/-- What the arguments in one place say. -/
structure Given where
  config : Option String
  color : Option ColorMode
  format : Option Format
  debug : Bool
  all : Bool
  operands : List String
  deriving DecidableEq, Repr

namespace Given

def nothing : Given := ⟨none, none, none, false, false, []⟩

def readColor? : String → Option ColorMode
  | "auto" => some .auto
  | "always" => some .always
  | "never" => some .never
  | _ => none

def readFormat? : String → Option Format
  | "text" => some .text
  | "json" => some .json
  | _ => none

/-- An option with its value, if it takes one. Only `verbose` may be repeated;
it asks for more log output, of which there is none. -/
def add (g : Given) (o : Opt) (value : String) : Except Refusal Given :=
  match o with
  | .config =>
    if g.config.isSome || value.isEmpty then .error .usage else .ok { g with config := some value }
  | .color =>
    match g.color, readColor? value with
    | none, some mode => .ok { g with color := some mode }
    | _, _ => .error .usage
  | .format =>
    match g.format, readFormat? value with
    | none, some format => .ok { g with format := some format }
    | _, _ => .error .usage
  | .verbose => .ok g
  | .version => .error .version
  | .debug => if g.debug then .error .usage else .ok { g with debug := true }
  | .all => if g.all then .error .usage else .ok { g with all := true }

def addOperands (g : Given) (operands : List String) : Given :=
  { g with operands := g.operands ++ operands }

/-- Options with short names in one argument. The last one may wait for its
value. -/
def addShorts (place : Place) (g : Given) : List Char → Except Refusal (Given × Option Opt)
  | [] => .ok (g, none)
  | c :: cs =>
    match place.shortOption? c with
    | none => .error .usage
    | some o =>
      if !o.takesValue then do addShorts place (← g.add o "") cs
      else
        match cs with
        | [] => .ok (g, some o)
        | '=' :: value => do return (← g.add o (String.ofList value), none)
        | value => do return (← g.add o (String.ofList value), none)

/-- An option with its long name, which may wait for its value. -/
def addLong (place : Place) (g : Given) (text : List Char) : Except Refusal (Given × Option Opt) :=
  match place.longOption? (String.ofList (text.takeWhile (· ≠ '='))), text.dropWhile (· ≠ '=') with
  | none, _ => .error .usage
  | some o, [] => if o.takesValue then .ok (g, some o) else do return (← g.add o "", none)
  | some o, _ :: value =>
    if o.takesValue then do return (← g.add o (String.ofList value), none) else .error .usage

end Given

/-- An argument by its look: a minus sign alone is an operand. -/
inductive Look where
  | long (text : List Char)
  | shorts (names : List Char)
  /-- all that follows are operands -/
  | stop
  | operand
  deriving DecidableEq, Repr

def Look.ofChars : List Char → Look
  | ['-', '-'] => .stop
  | '-' :: '-' :: text => .long text
  | ['-'] => .operand
  | '-' :: names => .shorts names
  | _ => .operand

/-- Reads the arguments in one place, where an option may wait for its value.
A command ends the place before it. -/
def readPlace (place : Place) (g : Given) (waiting : Option Opt) :
    List String → Except Refusal (Given × Option (Place × List String))
  | [] => if waiting.isSome then .error .usage else .ok (g, none)
  | arg :: rest =>
    match waiting, Look.ofChars arg.toList with
    | some o, .operand => do readPlace place (← g.add o arg) none rest
    | some _, _ => .error .usage
    | none, .stop => .ok (g.addOperands rest, none)
    | none, .long text => do
      let (g, waiting) ← g.addLong place text
      readPlace place g waiting rest
    | none, .shorts names => do
      let (g, waiting) ← g.addShorts place names
      readPlace place g waiting rest
    | none, .operand =>
      match place, Place.ofCommand? arg with
      | .top, some behind => .ok (g, some (behind, rest))
      | .top, none => .error .usage
      | _, _ => readPlace place (g.addOperands [arg]) none rest

/-- The command with the options and operands behind it. -/
def commandOf (place : Place) (g : Given) : Except Refusal Command :=
  match place, g.operands with
  | .check, [filter] => .ok (.check filter g.debug)
  | .eval, [filter, log] =>
    if log.isEmpty then .error .usage else .ok (.eval filter log (g.format.getD .text) g.all)
  | .identifiers, [] => .ok .identifiers
  | _, _ => .error .usage

/-- The configuration file named before the command or behind it, else the one
of the environment. Each of the two places without a name reads the environment,
so that an empty name there is an error unless both have names of their own. -/
def configOf (environment : Option String) (top behind : Given) : Except Refusal (Option String) :=
  if environment = some "" ∧ (top.config.isNone ∨ behind.config.isNone) then .error .usage
  else .ok (behind.config <|> top.config <|> environment)

/-- What a command line asks for, where the environment may name a configuration
file. -/
def Invocation.ofArguments (environment : Option String) (args : List String) :
    Except Refusal Invocation := do
  match ← readPlace .top .nothing none args with
  | (_, none) => .error .usage
  | (top, some (place, rest)) =>
    let (behind, _) ← readPlace place .nothing none rest
    return {
      config := ← configOf environment top behind
      color := (behind.color <|> top.color).getD .auto
      command := ← commandOf place behind }

end ChatSieve.Cli
