import ChatSieve.Expr
import ChatSieve.Value.Text

/-!
# The source of expressions

The canonical filter text of a tree: every operation stands in parentheses and
every quote in a literal has a backslash before it.
-/

namespace ChatSieve

/-- A backslash before every quote. -/
def escapeQuotes : List Char → List Char
  | [] => []
  | '"' :: rest => '\\' :: '"' :: escapeQuotes rest
  | c :: rest => c :: escapeQuotes rest

/-- A text as a literal. -/
def quoted (s : String) : String := String.ofList ('"' :: (escapeQuotes s.toList ++ ['"']))

/-- A pattern as a literal. -/
def Pattern.literal (p : Pattern) : String := (if p.caseless then "ri" else "r") ++ quoted p.source

namespace Expr

mutual

/-- The canonical text of an expression. -/
def source : Expr → String
  | .int n => decimalText n
  | .string s => quoted s
  | .identifier name => name
  | .pattern p => p.literal
  | .list items => Value.inBraces (sources items)
  | .unary op x => "(" ++ op.operatorText ++ source x ++ ")"
  | .binary op l r => "(" ++ source l ++ " " ++ op.operatorText ++ " " ++ source r ++ ")"

def sources : List Expr → List String
  | [] => []
  | e :: es => source e :: sources es

end

end Expr

end ChatSieve
