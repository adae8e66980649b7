import ChatSieve.Expr
import ChatSieve.Grammar.Error
import ChatSieve.Token

/-!
# Literals

What a single token stands for in an expression.
-/

namespace ChatSieve.Grammar

open ChatSieve.Text

/-- Quotes without the backslashes before them. -/
def unescapeQuotes : List Char → List Char
  | [] => []
  | '\\' :: '"' :: rest => '"' :: unescapeQuotes rest
  | c :: rest => c :: unescapeQuotes rest

/-- What stands between a quote at the beginning and one at the end; a text
without both stands for itself. -/
def insideQuotes (s : List Char) : List Char :=
  match s with
  | '"' :: rest => if rest.getLast? == some '"' then rest.dropLast else s
  | _ => s

/-- The content of a quoted text. -/
def unquote (s : List Char) : String := String.ofList (unescapeQuotes (insideQuotes s))

/-- The pattern of a literal, if it is valid. -/
def patternOf? (text : List Char) : Option Pattern :=
  match text with
  | 'r' :: 'i' :: body => Pattern.ofSource? (unquote body) true
  | _ :: body => Pattern.ofSource? (unquote body) false
  | [] => none

/-- The expression that a token stands for by itself, or why it stands for
none. -/
def literalOf (t : Token) : Except ParseError Expr :=
  match t.kind with
  | .int =>
    match readInt64 t.text.toList with
    | some n => .ok (.int n)
    | none => .error (.invalidInteger t.text)
  | .string => .ok (.string (unquote t.text.toList))
  | .identifier => .ok (.identifier t.text)
  | .pattern =>
    match patternOf? t.text.toList with
    | some p => .ok (.pattern p)
    | none => .error (.invalidPattern t.text)
  | kind => .error (.expectedValue t.text kind)

end ChatSieve.Grammar
