import ChatSieve.Text.LowercaseTable

/-!
# Lowercase

The full lowercase of a text, in any script. Each character is mapped by
itself, with two exceptions: `İ` becomes two characters, and `Σ` becomes `ς`
at the end of a word and `σ` elsewhere.
-/

namespace ChatSieve.Text

/-- The small letter of a capital among the runs. -/
def smallLetter? (n : Nat) : List (Nat × Nat × Nat × Nat) → Option Nat
  | [] => none
  | (first, last, step, image) :: runs =>
    if first ≤ n && n ≤ last && (n - first) % step == 0 then some (image + (n - first))
    else smallLetter? n runs

/-- The lowercase of one character, outside any word. -/
def lowerChar (c : Char) : List Char :=
  if c.toNat < 128 then [c.toLower]
  else if c = 'İ' then ['i', '\u0307']
  else match smallLetter? c.toNat capitalRuns with
    | some n => [Char.ofNat n]
    | none => [c]

def isCased (c : Char) : Bool := casedPoints.hasChar c

def isCaseIgnorable (c : Char) : Bool := caseIgnorablePoints.hasChar c

/-- The first character that is not skipped over has case. -/
def casedNext (s : List Char) : Bool :=
  match s.dropWhile isCaseIgnorable with
  | [] => false
  | c :: _ => isCased c

/-- A word ends here: a cased character stands before, counted backwards, and
none after. -/
def endsWord (before after : List Char) : Bool := casedNext before && !casedNext after

/-- The lowercase of a text that follows `before`, which is kept backwards. -/
def lowercaseAfter (before : List Char) : List Char → List Char
  | [] => []
  | c :: rest =>
    (if c = 'Σ' then [if endsWord before rest then 'ς' else 'σ'] else lowerChar c)
      ++ lowercaseAfter (c :: before) rest

/-- The lowercase of a text. -/
def lowercase (s : List Char) : List Char := lowercaseAfter [] s

end ChatSieve.Text
