import ChatSieve.Expr
import ChatSieve.Text.Search
import ChatSieve.Value.Equality

/-!
# The value of expressions

Evaluation always gives a value: an operation whose operands it cannot use
gives the default of its kind, which is zero or false.
-/

namespace ChatSieve

open ChatSieve.Text

/-- The quotient rounded towards zero; none by zero or where it is out of range. -/
def quotient? (a b : Int64) : Option Int64 :=
  if b = 0 ∨ (a = Int64.minValue ∧ b = -1) then none else some (a / b)

/-- The remainder that belongs to the quotient. -/
def remainder? (a b : Int64) : Option Int64 :=
  if b = 0 ∨ (a = Int64.minValue ∧ b = -1) then none else some (a % b)

/-- An operation on two integers, zero where it has no result. -/
def onInts (f : Int64 → Int64 → Option Int64) (l r : Value) : Value :=
  .int <| match l.toInt?, r.toInt? with
    | some a, some b => (f a b).getD 0
    | _, _ => 0

/-- A test on two integers. -/
def testInts (p : Int64 → Int64 → Bool) (l r : Value) : Bool :=
  match l.toInt?, r.toInt? with
  | some a, some b => p a b
  | _, _ => false

/-- A test on two truth values. -/
def testBools (p : Bool → Bool → Bool) (l r : Value) : Bool :=
  match l.toBool?, r.toBool? with
  | some a, some b => p a b
  | _, _ => false

/-- A string takes on any text; all else is added as integers. -/
def plusValue (l r : Value) : Value :=
  match l, r.toText? with
  | .string a, some b => .string (a ++ b)
  | _, _ => onInts (fun a b => some (a + b)) l r

/-- Strings are equal up to case, other values loosely. -/
def equalValues (l r : Value) : Bool :=
  match l, r with
  | .string a, .string b => sameIgnoringCase a b
  | _, _ => l.looselyEquals r

/-- A test on the texts of two values. -/
def testTexts (p : String → String → Bool) (l r : Value) : Bool :=
  match l.toText?, r.toText? with
  | some a, some b => p a b
  | _, _ => false

/-- Lists contain their items, maps their keys and strings their parts. -/
def containsValue (l r : Value) : Bool :=
  match l, r.toText? with
  | .strings items, some part => items.any fun item => sameIgnoringCase item part
  | .map entries, some key => (entries.lookup key).isSome
  | .list items, _ => items.any fun item => item.looselyEquals r
  | _, _ => testTexts containsIgnoringCase l r

/-- Lists start with their first item and strings with their beginnings. -/
def startsWithValue (l r : Value) : Bool :=
  match l, r.toText? with
  | .strings items, some part => items.head?.any fun item => sameIgnoringCase item part
  | .list items, _ => items.head?.any fun item => item.looselyEquals r
  | _, _ => testTexts startsIgnoringCase l r

/-- Lists end with their last item and strings with their ends. -/
def endsWithValue (l r : Value) : Bool :=
  match l, r.toText? with
  | .strings items, some part => items.getLast?.any fun item => sameIgnoringCase item part
  | .list items, _ => items.getLast?.any fun item => item.looselyEquals r
  | _, _ => testTexts endsIgnoringCase l r

/-- The text of a group of the first match, empty where there is none. -/
def groupText (p : Pattern) (subject : String) (group : Int64) : String :=
  if group < 0 then "" else (p.groupIn? subject group.toInt.toNat).getD ""

/-- Whether a pattern occurs, or the text of one of its groups. -/
def matchValue (l r : Value) : Value :=
  match l.toText?, r with
  | some subject, .pattern p => .bool (p.occursIn subject)
  | some subject, .list [.pattern p, .int group] => .string (groupText p subject group)
  | _, _ => .bool false

/-- A prefix operation. -/
def unaryValue (op : Token.Kind) (x : Value) : Value :=
  match op with
  | .not => .bool (x.toBool?.any fun b => !b)
  | _ => .bool false

/-- An infix operation. -/
def binaryValue (op : Token.Kind) (l r : Value) : Value :=
  match op with
  | .plus => plusValue l r
  | .minus => onInts (fun a b => some (a - b)) l r
  | .multiply => onInts (fun a b => some (a * b)) l r
  | .divide => onInts quotient? l r
  | .mod => onInts remainder? l r
  | .and => .bool (testBools (· && ·) l r)
  | .or => .bool (testBools (· || ·) l r)
  | .eq => .bool (equalValues l r)
  | .neq => .bool (!equalValues l r)
  | .lt => .bool (testInts (fun a b => a < b) l r)
  | .gt => .bool (testInts (fun a b => a > b) l r)
  | .lte => .bool (testInts (fun a b => a ≤ b) l r)
  | .gte => .bool (testInts (fun a b => a ≥ b) l r)
  | .contains => .bool (containsValue l r)
  | .startsWith => .bool (startsWithValue l r)
  | .endsWith => .bool (endsWithValue l r)
  | .matches => matchValue l r
  | _ => .bool false

/-- A list of values; strings only make a list of strings. -/
def listValue (items : List Value) : Value :=
  match items.mapM Value.asString? with
  | some strings => .strings strings
  | none => .list items

namespace Expr

mutual

/-- The value of an expression. -/
def eval (vars : Bindings) : Expr → Value
  | .int n => .int n
  | .string s => .string s
  | .identifier name => vars.valueOf name
  | .pattern p => .pattern p
  | .list items => listValue (evalAll vars items)
  | .unary op x => unaryValue op (eval vars x)
  | .binary op l r => binaryValue op (eval vars l) (eval vars r)

def evalAll (vars : Bindings) : List Expr → List Value
  | [] => []
  | e :: es => eval vars e :: evalAll vars es

end

end Expr

end ChatSieve
