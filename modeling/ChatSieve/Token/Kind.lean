/-!
# Kinds of tokens

The operators, brackets and literals of the filter language, with the source
text of each operator and the name it has in messages.
-/

namespace ChatSieve.Token

inductive Kind where
  | and | or
  | eq | neq | lt | gt | lte | gte | contains | startsWith | endsWith | matches
  | not
  | plus | minus | multiply | divide | mod
  | leftParen | rightParen | listStart | listEnd | comma
  | int | string | pattern | identifier
  /-- a lexeme that is none of the others -/
  | unknown
  deriving DecidableEq, Repr, Inhabited

namespace Kind

/-- All kinds, in the order of their declaration. -/
def all : List Kind :=
  [.and, .or, .eq, .neq, .lt, .gt, .lte, .gte, .contains, .startsWith, .endsWith, .matches, .not,
   .plus, .minus, .multiply, .divide, .mod, .leftParen, .rightParen, .listStart, .listEnd, .comma,
   .int, .string, .pattern, .identifier, .unknown]

/-- A comparison; a condition holds at most one. -/
def isComparison : Kind → Bool
  | .eq | .neq | .lt | .gt | .lte | .gte | .contains | .startsWith | .endsWith | .matches => true
  | _ => false

def isNegation : Kind → Bool
  | .not => true
  | _ => false

/-- An arithmetic operator; these chain to the left. -/
def isArithmetic : Kind → Bool
  | .plus | .minus | .multiply | .divide | .mod => true
  | _ => false

def isLogical : Kind → Bool
  | .and | .or => true
  | _ => false

def isOperator (k : Kind) : Bool :=
  k.isComparison || k.isNegation || k.isArithmetic || k.isLogical

/-- The name of a kind in messages and in typed renderings. -/
def info : Kind → String
  | .and => "And"
  | .or => "Or"
  | .eq => "Eq"
  | .neq => "NotEq"
  | .lt => "LessThan"
  | .gt => "GreaterThan"
  | .lte => "LessThanEq"
  | .gte => "GreaterThanEq"
  | .contains => "Contains"
  | .startsWith => "StartsWith"
  | .endsWith => "EndsWith"
  | .matches => "Match"
  | .not => "Not"
  | .plus => "Plus"
  | .minus => "Minus"
  | .multiply => "Multiply"
  | .divide => "Divide"
  | .mod => "Mod"
  | .leftParen => "<left parenthesis>"
  | .rightParen => "<right parenthesis>"
  | .listStart => "<list start>"
  | .listEnd => "<list end>"
  | .comma => "<comma>"
  | .int => "<int>"
  | .string => "<string>"
  | .pattern => "<regular expression>"
  | .identifier => "<identifier>"
  | .unknown => "<unknown>"

/-- The source text of an operator. -/
def operatorText? : Kind → Option String
  | .and => some "&&"
  | .or => some "||"
  | .eq => some "=="
  | .neq => some "!="
  | .lt => some "<"
  | .gt => some ">"
  | .lte => some "<="
  | .gte => some ">="
  | .contains => some "contains"
  | .startsWith => some "startswith"
  | .endsWith => some "endswith"
  | .matches => some "match"
  | .not => some "!"
  | .plus => some "+"
  | .minus => some "-"
  | .multiply => some "*"
  | .divide => some "/"
  | .mod => some "%"
  | _ => none

/-- The source text of an operator, nothing for the other kinds. -/
def operatorText (k : Kind) : String := k.operatorText?.getD ""

/-- The kind of a lexeme that always has the same text. -/
def ofFixedText? : String → Option Kind
  | "&&" => some .and
  | "||" => some .or
  | "(" => some .leftParen
  | ")" => some .rightParen
  | "\x7b" => some .listStart
  | "\x7d" => some .listEnd
  | "," => some .comma
  | "+" => some .plus
  | "-" => some .minus
  | "*" => some .multiply
  | "/" => some .divide
  | "%" => some .mod
  | "==" => some .eq
  | "!=" => some .neq
  | "<" => some .lt
  | ">" => some .gt
  | "<=" => some .lte
  | ">=" => some .gte
  | "contains" => some .contains
  | "startswith" => some .startsWith
  | "endswith" => some .endsWith
  | "match" => some .matches
  | "!" => some .not
  | _ => none

end Kind

end ChatSieve.Token
