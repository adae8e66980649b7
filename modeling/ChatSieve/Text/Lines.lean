/-!
# Lines

The lines of a text, which may be given in characters or in bytes. A line ends
at a line feed, and a carriage return before the line feed belongs to neither
of the lines. There is no empty line after the last line feed.
-/

namespace ChatSieve.Text

variable {α : Type} [DecidableEq α]

/-- A line without the carriage return at its end. -/
def dropReturn (ret : α) (line : List α) : List α :=
  if line.getLast? = some ret then line.dropLast else line

/-- The lines, after the part of the current one that is read already, which
comes backwards. -/
def linesAfter (feed ret : α) (current : List α) : List α → List (List α)
  | [] => if current.isEmpty then [] else [current.reverse]
  | x :: rest =>
    if x = feed then dropReturn ret current.reverse :: linesAfter feed ret [] rest
    else linesAfter feed ret (x :: current) rest

/-- The lines of a text in bytes. -/
def byteLines (bytes : List UInt8) : List (List UInt8) := linesAfter 10 13 [] bytes

/-- The lines of a text in characters. -/
def charLines (s : List Char) : List (List Char) := linesAfter '\n' '\r' [] s

end ChatSieve.Text
