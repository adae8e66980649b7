import ChatSieve.Text.CodePoints

/-!
# Blank characters

The twenty-five characters that Unicode counts as white space, and what is left
of a text without the blanks at its ends.
-/

namespace ChatSieve.Text

/-- White space: the ASCII blanks, the no-break spaces, the typographic spaces
and the line and paragraph separators. -/
def blankPoints : CodePoints := [
  (0x9, 0xD), (0x20, 0x20), (0x85, 0x85), (0xA0, 0xA0), (0x1680, 0x1680), (0x2000, 0x200A),
  (0x2028, 0x2029), (0x202F, 0x202F), (0x205F, 0x205F), (0x3000, 0x3000)]

def isBlank (c : Char) : Bool := blankPoints.hasChar c

/-- The text without the blanks before and after it. -/
def trim (s : List Char) : List Char :=
  ((s.dropWhile isBlank).reverse.dropWhile isBlank).reverse

/-- The text without the blanks before it. -/
def trimStart (s : List Char) : List Char := s.dropWhile isBlank

end ChatSieve.Text
