import ChatSieve.Pattern
import ChatSieve.Token.Kind

/-!
# Expressions

The trees of filters. An operator is any kind of token, so that a tree can be
put together by hand; the parser only uses the kinds that are operators.
-/

namespace ChatSieve

inductive Expr where
  | int (n : Int64)
  | string (s : String)
  | identifier (name : String)
  | pattern (p : Pattern)
  | list (items : List Expr)
  | unary (op : Token.Kind) (operand : Expr)
  | binary (op : Token.Kind) (left right : Expr)
  deriving Inhabited

end ChatSieve
