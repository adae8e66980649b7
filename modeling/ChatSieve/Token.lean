import ChatSieve.Text.Decimal
import ChatSieve.Token.Kind
import ChatSieve.Token.Lexeme
import ChatSieve.Ty

/-!
# Tokens

A lexeme together with its kind. Operators, keywords and brackets have fixed
texts; of the other lexemes the literals are known by their quotes, the
identifiers by their declaration and the integers by their digits.
-/

namespace ChatSieve

structure Token where
  kind : Token.Kind
  text : String
  deriving DecidableEq, Repr, Inhabited

namespace Token

open ChatSieve.Text

/-- In quotes, with an opening and a closing one. -/
def isQuoted (s : List Char) : Bool :=
  2 ≤ s.length && s.head? == some '"' && s.getLast? == some '"'

/-- What a pattern literal has after its `r` or `ri`. -/
def patternBody? : List Char → Option (List Char)
  | 'r' :: 'i' :: body => some body
  | 'r' :: body => some body
  | _ => none

/-- The kind of a lexeme whose text is not fixed. -/
def classifyLiteral (decls : Declarations) (text : String) : Kind :=
  if (patternBody? text.toList).any isQuoted then .pattern
  else if isQuoted text.toList then .string
  else if decls.declares text then .identifier
  else if (readInt64 text.toList).isSome then .int
  else .unknown

/-- The kind of a lexeme. -/
def classify (decls : Declarations) (text : String) : Kind :=
  (Kind.ofFixedText? text).getD (classifyLiteral decls text)

def ofLexeme (decls : Declarations) (lexeme : List Char) : Token :=
  ⟨classify decls (String.ofList lexeme), String.ofList lexeme⟩

/-- The tokens of a filter text. -/
def tokens (decls : Declarations) (text : String) : List Token :=
  (lexemes text.toList).map (ofLexeme decls)

end Token

end ChatSieve
