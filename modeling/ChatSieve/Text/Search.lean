import ChatSieve.Text.Lowercase

/-!
# Searching without case

The tests on strings that the operators of filters make. Two texts are compared
by their lowercase.
-/

namespace ChatSieve.Text

/-- `part` occurs in the text. -/
def occursIn (part : List Char) : List Char → Bool
  | [] => part.isEmpty
  | c :: rest => part.isPrefixOf (c :: rest) || occursIn part rest

/-- The same text but for case. -/
def sameIgnoringCase (s t : String) : Bool :=
  s == t || lowercase s.toList == lowercase t.toList

def containsIgnoringCase (s part : String) : Bool :=
  occursIn (lowercase part.toList) (lowercase s.toList)

def startsIgnoringCase (s part : String) : Bool :=
  (lowercase part.toList).isPrefixOf (lowercase s.toList)

def endsIgnoringCase (s part : String) : Bool :=
  (lowercase part.toList).isSuffixOf (lowercase s.toList)

end ChatSieve.Text
