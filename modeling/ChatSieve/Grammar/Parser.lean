import ChatSieve.Grammar.Literal

/-!
# The parser

Filters are alternatives of conjunctions of conditions:

    expression  := conjunction ( "||" conjunction )*
    conjunction := negation ( "&&" negation )*
    negation    := "!"? condition
    condition   := value ( arithmetic value )* ( comparison value )?
    value       := literal | "(" expression ")" | list
    list        := "{" ( value ( "," value )* )? "}"

Parsing never stops at an error. It notes the first one and goes on, so that
there is a tree to show in any case.

A group, a list and each operator of a chain take one level of a limited
number. The parsers are therefore built level by level: those of a level use
those below it, and where there is no level left they refuse.
-/

namespace ChatSieve.Grammar

/-- The levels that an expression may use. -/
def maxDepth : Nat := 256

/-- The tokens that are left and the first error so far. -/
structure State where
  rest : List Token
  error : Option ParseError

namespace State

/-- Notes an error unless there has been one. -/
def fail (s : State) (e : ParseError) : State := { s with error := s.error <|> some e }

/-- With other tokens left. -/
def goOn (s : State) (rest : List Token) : State := { s with rest := rest }

end State

abbrev Parser := State → Expr × State

/-- The parsers of one level. -/
structure Level where
  value : Parser
  /-- the rest of a condition, after its first value -/
  conditionTail : Expr → Parser
  /-- the rest of a conjunction, after its first operand -/
  conjunctionTail : Expr → Parser
  /-- the rest of an expression, after its first operand -/
  expressionTail : Expr → Parser

namespace Level

def condition (l : Level) : Parser := fun s =>
  let (e, s) := l.value s
  l.conditionTail e s

def negation (l : Level) : Parser := fun s =>
  match s.rest with
  | ⟨.not, _⟩ :: rest =>
    let (e, s) := l.condition (s.goOn rest)
    (.unary .not e, s)
  | _ => l.condition s

def conjunction (l : Level) : Parser := fun s =>
  let (e, s) := l.negation s
  l.conjunctionTail e s

def expression (l : Level) : Parser := fun s =>
  let (e, s) := l.conjunction s
  l.expressionTail e s

end Level

/-- The rest of a group, after its opening parenthesis. -/
def groupTail (l : Level) : Parser := fun s =>
  let (e, s) := l.expression s
  match s.rest with
  | ⟨.rightParen, _⟩ :: rest => (e, s.goOn rest)
  | t :: _ => (e, s.fail (.missingParenthesis (some t.text)))
  | [] => (e, s.fail (.missingParenthesis none))

/-- The rest of a list, after some items, of which the last one comes first.
Each further item takes a token, so the tokens left bound their number. -/
def itemsTail (value : Parser) : Nat → List Expr → Parser
  | 0, _, s => (.list [], s)
  | bound + 1, items, s =>
    match s.rest with
    | ⟨.listEnd, _⟩ :: rest => (.list items.reverse, s.goOn rest)
    | ⟨.comma, _⟩ :: rest =>
      let (e, s) := value (s.goOn rest)
      itemsTail value bound (e :: items) s
    | t :: _ => (.list [], s.fail (.missingBrace (some t.text)))
    | [] => (.list [], s.fail (.missingBrace none))

/-- The rest of a list, after its opening brace. -/
def listTail (l : Level) : Parser := fun s =>
  match s.rest with
  | [] => (.list [], s.fail (.missingBrace none))
  | ⟨.listEnd, _⟩ :: rest => (.list [], s.goOn rest)
  | _ =>
    let (e, s) := l.value s
    itemsTail l.value (s.rest.length + 1) [e] s

/-- A value. Groups and lists go one level down. -/
def valueOver (below : Option Level) : Parser := fun s =>
  match s.rest with
  | [] => (.int 0, s.fail .unexpectedEnd)
  | t :: rest =>
    match t.kind, below with
    | .leftParen, some l => groupTail l (s.goOn rest)
    | .leftParen, none => (.int 0, (s.goOn rest).fail .tooDeep)
    | .listStart, some l => listTail l (s.goOn rest)
    | .listStart, none => (.list [], (s.goOn rest).fail .tooDeep)
    | _, _ =>
      match literalOf t with
      | .ok e => (e, s.goOn rest)
      | .error err => (.int 0, (s.goOn rest).fail err)

/-- A comparison, after its operator. It must not be followed by another one. -/
def comparisonTail (value : Parser) (op : Token.Kind) (left : Expr) : Parser := fun s =>
  let (right, s) := value s
  match s.rest with
  | t :: _ =>
    if t.kind.isComparison then
      (.binary op left right, s.fail (.expectedOperator t.text t.kind))
    else (.binary op left right, s)
  | [] => (.binary op left right, s)

/-- The rest of a condition. Each arithmetic operator goes one level down. -/
def conditionTailOver (below : Option Level) (left : Expr) : Parser := fun s =>
  match s.rest with
  | [] => (left, s)
  | t :: rest =>
    if t.kind.isComparison then comparisonTail (valueOver below) t.kind left (s.goOn rest)
    else if t.kind.isArithmetic then
      match below with
      | none => (left, s.fail .tooDeep)
      | some l =>
        let (right, s) := l.value (s.goOn rest)
        l.conditionTail (.binary t.kind left right) s
    else if t.kind == .rightParen || t.kind.isOperator then (left, s)
    else (left, s.fail (.expectedOperator t.text t.kind))

/-- The rest of a chain of one logical operator, each of which goes one level
down. -/
def chainTailOver (op : Token.Kind) (operand : Level → Parser) (tail : Level → Expr → Parser)
    (below : Option Level) (left : Expr) : Parser := fun s =>
  match s.rest with
  | [] => (left, s)
  | t :: rest =>
    if t.kind == op then
      match below with
      | none => (left, s.fail .tooDeep)
      | some l =>
        let (right, s) := operand l (s.goOn rest)
        tail l (.binary op left right) s
    else (left, s)

/-- The parsers over the level below, or over none. -/
def Level.over (below : Option Level) : Level where
  value := valueOver below
  conditionTail := conditionTailOver below
  conjunctionTail := chainTailOver .and Level.negation Level.conjunctionTail below
  expressionTail := chainTailOver .or Level.conjunction Level.expressionTail below

/-- The parsers with some number of levels below. -/
def level : Nat → Level
  | 0 => Level.over none
  | n + 1 => Level.over (some (level n))

/-- A tree, and the first error of the text it comes from. -/
structure Parsed where
  expr : Expr
  error : Option ParseError

/-- Parses all of some tokens. -/
def parseTokens (ts : List Token) : Parsed :=
  let (e, s) := (level maxDepth).expression ⟨ts, none⟩
  match s.rest with
  | [] => ⟨e, s.error⟩
  | t :: _ => ⟨e, (s.fail (.trailing t.text)).error⟩

/-- Parses a filter text in which some identifiers are declared. -/
def parse (decls : Declarations) (text : String) : Parsed :=
  parseTokens (Token.tokens decls text)

end ChatSieve.Grammar
