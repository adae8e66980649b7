import ChatSieve.Token.Kind

/-!
# Errors of parsing

What can be wrong with the tokens of a filter. Only the first error of a text
is reported.
-/

namespace ChatSieve.Grammar

inductive ParseError where
  | unexpectedEnd
  | expectedValue (text : String) (kind : Token.Kind)
  | expectedOperator (text : String) (kind : Token.Kind)
  | invalidInteger (text : String)
  | invalidPattern (literal : String)
  /-- the token found in the place of the parenthesis, if any -/
  | missingParenthesis (got : Option String)
  /-- the token found in the place of the brace, if any -/
  | missingBrace (got : Option String)
  | tooDeep
  | trailing (text : String)
  deriving DecidableEq, Repr

namespace ParseError

def message : ParseError → String
  | .unexpectedEnd => "Unexpected end of statement"
  | .expectedValue text kind => "Expected value but got " ++ text ++ " " ++ kind.info
  | .expectedOperator text kind => "Expected an operator but got " ++ text ++ " " ++ kind.info
  | .invalidInteger text => "Invalid integer " ++ text
  | .invalidPattern literal => "Invalid regular expression " ++ literal
  | .missingParenthesis (some got) => "Missing closing parentheses: got " ++ got
  | .missingParenthesis none => "Missing closing parentheses at end of statement"
  | .missingBrace (some got) => "Missing closing list braces: got " ++ got
  | .missingBrace none => "Missing closing list braces at end of statement"
  | .tooDeep => "Expression is nested too deeply"
  | .trailing text => "Unexpected token at end: " ++ text

end ParseError

end ChatSieve.Grammar
