import ChatSieve.Token

/-!
# Cursors

A place between the tokens of a filter. It moves forward only and sees one
token on either side.
-/

namespace ChatSieve.Token

structure Cursor where
  /-- the tokens passed, the last one first -/
  passed : List Token
  /-- the tokens to come -/
  coming : List Token
  deriving Repr

namespace Cursor

/-- Before the first token. -/
def start (ts : List Token) : Cursor := ⟨[], ts⟩

/-- All tokens, whatever the place. -/
def all (c : Cursor) : List Token := c.passed.reverse ++ c.coming

def hasNext (c : Cursor) : Bool := !c.coming.isEmpty

/-- Behind the next token; at the end there is nowhere to go. -/
def advance (c : Cursor) : Cursor :=
  match c.coming with
  | [] => c
  | t :: ts => ⟨t :: c.passed, ts⟩

def next? (c : Cursor) : Option Token := c.coming.head?

/-- The token passed last. -/
def current? (c : Cursor) : Option Token := c.passed.head?

/-- The text of the next token, empty at the end. -/
def preview (c : Cursor) : String := (c.next?.map (·.text)).getD ""

def nextKind? (c : Cursor) : Option Kind := c.next?.map (·.kind)

def currentKind? (c : Cursor) : Option Kind := c.current?.map (·.kind)

def nextIs (c : Cursor) (k : Kind) : Bool := c.nextKind? == some k

/-- There is a next token and its kind has the property. -/
def nextHas (c : Cursor) (property : Kind → Bool) : Bool := c.nextKind?.any property

end Cursor

end ChatSieve.Token
