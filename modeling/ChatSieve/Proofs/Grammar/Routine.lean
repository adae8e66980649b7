import ChatSieve.Grammar.Parser
import ChatSieve.Token.Cursor

/-!
# The parser as routines

The parser at work: seven routines that call each other and share a cursor, a
counter of the levels in use and a list of errors. A level is taken by counting
up, and given back by setting the counter to what it was. Where the counter
would fall below zero, and where a call finds no frame left for it, there is no
outcome.

A run keeps a journal of all that the memory has been and of the calls that
have returned.
-/

namespace ChatSieve.Grammar
open ChatSieve.Token

inductive Routine where
  /-- whether nothing may follow the expression -/
  | expression (top : Bool)
  | conjunction
  | negation
  | condition
  | value
  /-- a group, from its opening parenthesis on -/
  | group
  /-- a list, from its opening brace on -/
  | list
  deriving DecidableEq

/-- What all routines read and write. -/
structure Memory where
  cursor : Cursor
  /-- the levels in use -/
  depth : Nat
  errors : List ParseError

namespace Memory

def next (m : Memory) : Memory := { m with cursor := m.cursor.advance }

def setDepth (depth : Nat) (m : Memory) : Memory := { m with depth := depth }

/-- Notes an error; only the first one is kept. -/
def note (e : ParseError) (m : Memory) : Memory :=
  { m with errors := if m.errors.isEmpty then m.errors ++ [e] else m.errors }

/-- The number of tokens that have been passed. -/
def position (m : Memory) : Nat := m.cursor.passed.length

/-- Before the first token. -/
def start (ts : List Token) : Memory := ⟨.start ts, 0, []⟩

end Memory

/-- A call that has returned. -/
structure Call where
  routine : Routine
  /-- the routines that were open, the called one first -/
  stack : List Routine
  entry : Memory
  exit : Memory

/-- The memory, what it has been, the latest first, and the calls that have
returned. -/
structure Journal where
  memory : Memory
  past : List Memory
  calls : List Call

namespace Journal

def write (f : Memory → Memory) (j : Journal) : Journal :=
  { j with memory := f j.memory, past := j.memory :: j.past }

def record (c : Call) (j : Journal) : Journal := { j with calls := c :: j.calls }

end Journal

/-- What is done under some open routines: a value and the journal then, or
nothing. -/
def Program (α : Type) : Type := List Routine → Journal → Option (α × Journal)

namespace Program

instance : Monad Program where
  pure a := fun _ j => some (a, j)
  bind p f := fun stack j => (p stack j).bind fun (a, j) => f a stack j

/-- No outcome. -/
def stuck {α : Type} : Program α := fun _ _ => none

def look {α : Type} (f : Memory → α) : Program α := fun _ j => some (f j.memory, j)

def write (f : Memory → Memory) : Program Unit := fun _ j => some ((), j.write f)

/-- What a routine does, as a call of it. -/
def call (r : Routine) (body : Program Expr) : Program Expr := fun stack j =>
  (body (r :: stack) j).map fun (e, j') => (e, j'.record ⟨r, r :: stack, j.memory, j'.memory⟩)

/-- Takes a level, if there is one. -/
def descend : Program Bool := do
  let depth ← look (·.depth)
  if maxDepth ≤ depth then
    write (.note .tooDeep)
    return false
  else
    write (.setDepth (depth + 1))
    return true

/-- One level less than are in use. -/
def depthAbove : Program Nat := do
  let depth ← look (·.depth)
  if depth = 0 then stuck else return depth - 1

def expectedOperator : Program Unit := do
  let m ← look id
  write (.note (.expectedOperator m.cursor.preview (m.cursor.nextKind?.getD .unknown)))

/-- Refuses a second comparison. -/
def compareOnce : Program Unit := do
  if ← look (·.cursor.nextHas Kind.isComparison) then expectedOperator else return ()

/-- Refuses what follows the whole of a text. -/
def refuseRest (top : Bool) : Program Unit := do
  let m ← look id
  if top && m.cursor.hasNext then write (.note (.trailing m.cursor.preview)) else return ()

def closeGroup : Program Unit := do
  let m ← look id
  if m.cursor.nextIs .rightParen then write .next
  else if m.cursor.hasNext then write (.note (.missingParenthesis (some m.cursor.preview)))
  else write (.note (.missingParenthesis none))

def missingBrace : Program Unit := do
  let m ← look id
  write (.note (.missingBrace (if m.cursor.hasNext then some m.cursor.preview else none)))

/-- More turns than a loop can have: each one takes a token. -/
def turns : Program Nat := look (·.cursor.coming.length + 1)

/-- One more operand of a chain, with which the chain goes on. -/
def join (operand : Program Expr) (op : Kind) (left : Expr) (goOn : Expr → Program Expr) :
    Program Expr := do
  if ← descend then
    write .next
    let right ← operand
    goOn (.binary op left right)
  else return left

/-- The rest of a chain of one logical operator. -/
def chainLoop (op : Kind) (operand : Program Expr) : Nat → Expr → Program Expr
  | 0, _ => stuck
  | turns + 1, left => do
    if ← look (·.cursor.nextIs op) then join operand op left (chainLoop op operand turns)
    else return left

/-- A chain of one logical operator. -/
def chain (op : Kind) (operand : Program Expr) : Program Expr := do
  let first ← operand
  let turns ← turns
  chainLoop op operand turns first

/-- The rest of a condition, after its first value. -/
def conditionLoop (value : Program Expr) : Nat → Expr → Program Expr
  | 0, _ => stuck
  | turns + 1, left => do
    match ← look (·.cursor.nextKind?) with
    | none => return left
    | some kind =>
      if kind.isComparison then
        write .next
        let right ← value
        compareOnce
        return .binary kind left right
      else if kind.isArithmetic then join value kind left (conditionLoop value turns)
      else if kind == .rightParen || kind.isOperator then return left
      else
        expectedOperator
        return left

/-- The rest of a list, after some items, of which there are none at first. At
its end as many levels are in use as outside of it. -/
def itemsLoop (value : Program Expr) (outside : Nat) : Nat → Bool → List Expr → Program Expr
  | 0, _, _ => stuck
  | turns + 1, first, items => do
    let kind ← look (·.cursor.nextKind?)
    if kind = some .listEnd then
      write .next
      write (.setDepth outside)
      return .list items
    else if kind = some .comma ∧ first = false then
      write .next
      let item ← value
      itemsLoop value outside turns first (items ++ [item])
    else if kind.isSome ∧ first = true then
      let item ← value
      itemsLoop value outside turns false (items ++ [item])
    else
      missingBrace
      write (.setDepth outside)
      return .list []

/-- What a routine does, given the calls that it can make. -/
def body (rec : Routine → Program Expr) : Routine → Program Expr
  | .expression top => do
    let depth ← look (·.depth)
    let e ← chain .or (rec .conjunction)
    write (.setDepth depth)
    refuseRest top
    return e
  | .conjunction => do
    let depth ← look (·.depth)
    let e ← chain .and (rec .negation)
    write (.setDepth depth)
    return e
  | .negation => do
    if ← look (·.cursor.nextHas Kind.isNegation) then
      write .next
      let op ← look (·.cursor.currentKind?)
      let e ← rec .condition
      return .unary (op.getD .not) e
    else rec .condition
  | .condition => do
    let depth ← look (·.depth)
    let group ← look (·.cursor.nextIs .leftParen)
    let first ← rec (if group then .group else .value)
    let turns ← turns
    let e ← conditionLoop (rec .value) turns first
    write (.setDepth depth)
    return e
  | .value => do
    match ← look (·.cursor.next?) with
    | none =>
      write (.note .unexpectedEnd)
      return .int 0
    | some t =>
      if t.kind = .leftParen then rec .group
      else if t.kind = .listStart then rec .list
      else
        write .next
        match literalOf t with
        | .ok e => return e
        | .error why =>
          write (.note why)
          return .int 0
  | .group => do
    write .next
    if ← descend then
      let e ← rec (.expression false)
      let outside ← depthAbove
      write (.setDepth outside)
      closeGroup
      return e
    else return .int 0
  | .list => do
    write .next
    if ← descend then
      let outside ← depthAbove
      let turns ← turns
      itemsLoop (rec .value) outside turns true []
    else return .list []

/-- A call of a routine on a stack of so many frames. -/
def perform : Nat → Routine → Program Expr
  | 0, _ => stuck
  | frames + 1, r => call r (body (perform frames) r)

end Program

/-- The frames that suffice for every text: the six that the
routines of a level can take, for no level in use up to all of them. -/
def maxFrames : Nat := 6 * (maxDepth + 1)

/-- Parses some tokens. -/
def performTokens (ts : List Token) : Option (Expr × Journal) :=
  Program.perform maxFrames (.expression true) [] ⟨.start ts, [], []⟩

end ChatSieve.Grammar
