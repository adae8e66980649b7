import ChatSieve.Cli.Arguments

/-!
# Colors on terminals

Whether the output of a run has colors, by what the command line and the
environment say.
-/

namespace ChatSieve.Cli

/-- What the environment says of colors, and whether the output is a terminal. -/
structure Terminal where
  clicolorForce : Option String
  noColor : Option String
  clicolor : Option String
  isTerminal : Bool
  deriving DecidableEq, Repr

/-- The environment can force colors; where it does not, it can forbid them.
Without a word on them there are colors on terminals. -/
def Terminal.wantsColors (t : Terminal) : Bool :=
  if t.clicolorForce.any (· ≠ "0") then true
  else if t.noColor.isSome then false
  else t.clicolor.all (· ≠ "0") && t.isTerminal

def ColorMode.applies (mode : ColorMode) (t : Terminal) : Bool :=
  match mode with
  | .auto => t.wantsColors
  | .always => true
  | .never => false

end ChatSieve.Cli
