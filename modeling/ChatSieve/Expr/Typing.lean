import ChatSieve.Expr.Source
import ChatSieve.Ty

/-!
# Types of expressions

The type of an expression is put together from the types of its parts, from
left to right. The first part that has no type is to blame for the whole.
-/

namespace ChatSieve

/-- Why an expression whose parts have types has none itself. -/
inductive TypeError where
  | unknownIdentifier (name : String)
  | negatedNonBool
  | noSuchOperation
  | addition
  | needsInts (op : Token.Kind)
  | needsBools (op : Token.Kind)
  | needsListOrStrings (op : Token.Kind)
  | needsListMapOrStrings (op : Token.Kind)
  | matchOnNonString
  | matchWithNonPattern
  deriving DecidableEq, Repr

namespace TypeError

def message : TypeError → String
  | .unknownIdentifier name => "Unknown identifier " ++ name
  | .negatedNonBool => "Can only negate boolean values"
  | .noSuchOperation => "Not implemented"
  | .addition => "Can only add Ints or concatenate a String"
  | .needsInts op => "Can only perform " ++ op.info ++ " with Ints"
  | .needsBools op => "Can only perform " ++ op.info ++ " with Bools"
  | .needsListOrStrings op => "Can only perform " ++ op.info ++ " with a List or two Strings"
  | .needsListMapOrStrings op =>
    "Can only perform " ++ op.info ++ " with a List, a Map, or two Strings"
  | .matchOnNonString => "Left argument of Match must be a String"
  | .matchWithNonPattern => "Can only match on a RegularExpression or a MatchingSpecifier"

end TypeError

/-- The part of an expression that has no type, and why. -/
structure IllTyped where
  node : Expr
  reason : TypeError

namespace IllTyped

/-- The reason and the source of the part to blame. -/
def explain (i : IllTyped) : String :=
  i.reason.message ++ "\n\nProblem occurred here:\n" ++ i.node.source

end IllTyped

/-- The type of a list from the types of its items. -/
def listType : List Ty → Ty
  | [.pattern, .int] => .groupRequest
  | tys => if tys.all (· == .string) then .stringList else .list

/-- The type of a prefix operation. -/
def unaryType : Token.Kind → Ty → Except TypeError Ty
  | .not, .bool => .ok .bool
  | .not, _ => .error .negatedNonBool
  | _, _ => .error .noSuchOperation

/-- The type of an infix operation. -/
def binaryType (op : Token.Kind) (left right : Ty) : Except TypeError Ty :=
  match op with
  | .plus =>
    if left == .string then .ok .string
    else if left == .int && right == .int then .ok .int
    else .error .addition
  | .minus | .multiply | .divide | .mod =>
    if left == .int && right == .int then .ok .int else .error (.needsInts op)
  | .and | .or =>
    if left == .bool && right == .bool then .ok .bool else .error (.needsBools op)
  | .eq | .neq => .ok .bool
  | .lt | .gt | .lte | .gte =>
    if left == .int && right == .int then .ok .bool else .error (.needsInts op)
  | .startsWith | .endsWith =>
    if left.isList || (left == .string && right == .string) then .ok .bool
    else .error (.needsListOrStrings op)
  | .contains =>
    if left.isList || left == .map || (left == .string && right == .string) then .ok .bool
    else .error (.needsListMapOrStrings op)
  | .matches =>
    if left != .string then .error .matchOnNonString
    else
      match right with
      | .pattern => .ok .bool
      | .groupRequest => .ok .string
      | _ => .error .matchWithNonPattern
  | _ => .error .noSuchOperation

namespace Expr

/-- Blames an expression for an error in its operation. -/
def blame (e : Expr) : Except TypeError Ty → Except IllTyped Ty
  | .ok ty => .ok ty
  | .error reason => .error ⟨e, reason⟩

mutual

/-- The type of an expression, or the part of it that has none. -/
def typeIn (decls : Declarations) : Expr → Except IllTyped Ty
  | .int _ => .ok .int
  | .string _ => .ok .string
  | .identifier name =>
    match decls.typeOf? name with
    | some ty => .ok ty
    | none => .error ⟨.identifier name, .unknownIdentifier name⟩
  | .pattern _ => .ok .pattern
  | .list items =>
    match typesIn decls items with
    | .ok tys => .ok (listType tys)
    | .error ill => .error ill
  | .unary op x =>
    match typeIn decls x with
    | .ok ty => blame (.unary op x) (unaryType op ty)
    | .error ill => .error ill
  | .binary op l r =>
    match typeIn decls l with
    | .error ill => .error ill
    | .ok left =>
      match typeIn decls r with
      | .error ill => .error ill
      | .ok right => blame (.binary op l r) (binaryType op left right)

def typesIn (decls : Declarations) : List Expr → Except IllTyped (List Ty)
  | [] => .ok []
  | e :: es =>
    match typeIn decls e with
    | .error ill => .error ill
    | .ok ty =>
      match typesIn decls es with
      | .error ill => .error ill
      | .ok tys => .ok (ty :: tys)

end

end Expr

/-- The name of a type, or that there is none. -/
def typeText : Except IllTyped Ty → String
  | .ok ty => ty.name
  | .error _ => "IllTyped"

namespace Expr

mutual

/-- The tree of an expression, each operand with its type. -/
def debug (decls : Declarations) : Expr → String
  | .int n => "Val(" ++ decimalText n ++ ")"
  | .string s => "Val(" ++ s ++ ")"
  | .identifier name => "Val(" ++ name ++ ")"
  | .pattern p => "RegEx(" ++ p.source ++ ")"
  | .list items => "List(" ++ ", ".intercalate (debugAll decls items) ++ ")"
  | .unary op x => "UnaryOp[" ++ op.info ++ "](" ++ debug decls x ++ " : "
      ++ typeText (x.typeIn decls) ++ ")"
  | .binary op l r => "BinaryOp[" ++ op.info ++ "](" ++ debug decls l ++ " : "
      ++ typeText (l.typeIn decls) ++ ", " ++ debug decls r ++ " : "
      ++ typeText (r.typeIn decls) ++ ")"

def debugAll (decls : Declarations) : List Expr → List String
  | [] => []
  | e :: es => (debug decls e ++ " : " ++ typeText (e.typeIn decls)) :: debugAll decls es

end

end Expr

end ChatSieve
