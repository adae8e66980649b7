import ChatSieve.Catalogue
import ChatSieve.Expr.Eval
import ChatSieve.Expr.Typing
import ChatSieve.Grammar.Parser

/-!
# Filters

A filter text that parses and has a type. It is compiled once and then
evaluated for as many messages as there are.
-/

namespace ChatSieve

structure Filter where
  expr : Expr
  ty : Ty

/-- Why a text is no filter. -/
inductive FilterError where
  | malformed (e : Grammar.ParseError)
  | illTyped (i : IllTyped)

namespace FilterError

def message : FilterError → String
  | .malformed e => e.message
  | .illTyped i => i.explain

end FilterError

namespace Filter

/-- What parsing and typing say of a filter text: the tree in any case, and
its type or the first error. -/
def check (decls : Declarations) (text : String) : Expr × Except FilterError Ty :=
  let parsed := Grammar.parse decls text
  match parsed.error with
  | some e => (parsed.expr, .error (.malformed e))
  | none =>
    match parsed.expr.typeIn decls with
    | .ok ty => (parsed.expr, .ok ty)
    | .error ill => (parsed.expr, .error (.illTyped ill))

/-- The filter that a text is, if it is one. -/
def compile (decls : Declarations) (text : String) : Except FilterError Filter :=
  match check decls text with
  | (e, .ok ty) => .ok ⟨e, ty⟩
  | (_, .error err) => .error err

/-- The filter over chat messages that a text is, if it is one. -/
def ofText (text : String) : Except FilterError Filter := compile Catalogue.declarations text

def eval (f : Filter) (vars : Bindings) : Value := f.expr.eval vars

/-- A result that is neither true nor false does not match. -/
def accepts (v : Value) : Bool := v.toBool?.getD false

def holds (f : Filter) (vars : Bindings) : Bool := accepts (f.eval vars)

end Filter

end ChatSieve
