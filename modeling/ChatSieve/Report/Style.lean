/-!
# Styles

Text that stands out on a terminal. Without colors a styled text is the plain
text.
-/

namespace ChatSieve.Report

inductive Style where
  | bold
  | boldGreen
  | boldRed
  | cyan
  | yellow
  deriving DecidableEq, Repr

namespace Style

/-- The numbers of a style in control sequences. -/
def codes : Style → String
  | .bold => "1"
  | .boldGreen => "1;32"
  | .boldRed => "1;31"
  | .cyan => "36"
  | .yellow => "33"

/-- The control sequence that begins a style. -/
def start (s : Style) : List Char := ("\x1b[" ++ s.codes ++ "m").toList

/-- The control sequence that ends every style. -/
def stop : List Char := ['\x1b', '[', '0', 'm']

/-- A text in which the style begins anew wherever the text itself ends it. -/
def resume (s : Style) : List Char → List Char
  | '\x1b' :: '[' :: '0' :: 'm' :: rest => stop ++ s.start ++ resume s rest
  | c :: rest => c :: resume s rest
  | [] => []

/-- A text in a style, if there are colors. -/
def paint (s : Style) (colored : Bool) (text : String) : String :=
  if colored then String.ofList (s.start ++ s.resume text.toList ++ stop) else text

end Style

end ChatSieve.Report
