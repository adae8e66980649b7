import ChatSieve.Text.CodePoints

/-!
# The syntax of patterns

A pattern as it is written: sequences, alternatives, repetitions and groups
over literals, character classes and places.
-/

namespace ChatSieve.Pattern

/-- What can be switched inside a pattern. -/
inductive Flag where
  | caseless | multiLine | dotAll | swapGreed | unicode | crlf | verbose
  deriving DecidableEq, Repr

/-- A place between two characters, as written. -/
inductive Anchor where
  | lineStart | lineEnd | textStart | textEnd
  | wordEdge | noWordEdge | wordStart | wordEnd | wordStartHalf | wordEndHalf
  deriving DecidableEq, Repr

/-- The classes with a letter of their own. -/
inductive LetterClass where
  | digit | space | word
  deriving DecidableEq, Repr

/-- A property of characters, by its name or by a name and a value. -/
inductive PropertyQuery where
  | named (name : String)
  | valued (name value : String)
  deriving DecidableEq, Repr

/-- Operators between character classes. -/
inductive SetOp where
  | inter | diff | symmDiff
  deriving DecidableEq, Repr

/-- A character class. -/
inductive CharClass where
  /-- the literals from `lo` to `hi` -/
  | range (lo hi : Char)
  | letter (kind : LetterClass) (negated : Bool)
  /-- a class with a name, over ASCII -/
  | named (points : CodePoints) (negated : Bool)
  | property (query : PropertyQuery) (negated : Bool)
  /-- what stands between a pair of brackets -/
  | bracketed (body : CharClass) (negated : Bool)
  | union (items : List CharClass)
  | op (kind : SetOp) (left right : CharClass)

/-- A pattern. -/
inductive Syntax where
  | empty
  /-- switches that hold up to the end of the enclosing group -/
  | switches (items : List (Flag × Bool))
  /-- a character; `isByte` when it was written as two hexadecimal digits -/
  | literal (c : Char) (isByte : Bool)
  | dot
  | anchor (a : Anchor)
  | cls (c : CharClass)
  | capture (index : Nat) (body : Syntax)
  | group (items : List (Flag × Bool)) (body : Syntax)
  | rep (min : Nat) (max : Option Nat) (greedy : Bool) (body : Syntax)
  | seq (items : List Syntax)
  | alt (branches : List Syntax)
  deriving Inhabited

namespace CharClass

mutual

/-- The levels of a class: brackets, operators and unions of several items
count one each. -/
def depth : CharClass → Nat
  | .bracketed body _ => depth body + 1
  | .op _ left right => max (depth left) (depth right) + 1
  | .union [] => 0
  | .union items => depths items + 1
  | _ => 0

def depths : List CharClass → Nat
  | [] => 0
  | c :: cs => max (depth c) (depths cs)

end

end CharClass

namespace Syntax

mutual

/-- The levels of a pattern: groups, repetitions, sequences, alternatives and
the levels of classes. -/
def depth : Syntax → Nat
  | .cls c => c.depth
  | .capture _ body | .group _ body | .rep _ _ _ body => depth body + 1
  | .seq items | .alt items => depths items + 1
  | _ => 0

def depths : List Syntax → Nat
  | [] => 0
  | s :: ss => max (depth s) (depths ss)

end

/-- The deepest pattern that is accepted. -/
def maxDepth : Nat := 250

/-- A sequence; one item stands for itself. -/
def ofSeq : List Syntax → Syntax
  | [] => .empty
  | [s] => s
  | items => .seq items

/-- Alternatives; one branch stands for itself. -/
def ofAlt : List Syntax → Syntax
  | [] => .empty
  | [s] => s
  | branches => .alt branches

end Syntax

end ChatSieve.Pattern
