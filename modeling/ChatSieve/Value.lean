import ChatSieve.Color
import ChatSieve.Pattern

/-!
# Values

What filters compute with, and the table that gives the identifiers of a filter
their values.
-/

namespace ChatSieve

inductive Value where
  /-- the value of an identifier that has none -/
  | null
  | int (n : Int64)
  | bool (b : Bool)
  | string (s : String)
  | strings (items : List String)
  | list (items : List Value)
  /-- keys with their values, in the order of the keys -/
  | map (entries : List (String × Value))
  | color (c : Color)
  | pattern (p : Pattern)
  deriving Inhabited

namespace Value

/-- The name of the variant. -/
def kindName : Value → String
  | .null => "Null"
  | .int _ => "Int"
  | .bool _ => "Bool"
  | .string _ => "String"
  | .strings _ => "StringList"
  | .list _ => "List"
  | .map _ => "Map"
  | .color _ => "Color"
  | .pattern _ => "RegularExpression"

def isNull : Value → Bool
  | .null => true
  | _ => false

/-- The string of a string, nothing for the other values. -/
def asString? : Value → Option String
  | .string s => some s
  | _ => none

end Value

/-- Values under the names of identifiers. The first entry of a name counts. -/
abbrev Bindings := List (String × Value)

namespace Bindings

/-- The value of an identifier, `null` where it has none. -/
def valueOf (b : Bindings) (name : String) : Value := (b.lookup name).getD .null

end Bindings

end ChatSieve
