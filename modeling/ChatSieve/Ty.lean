/-!
# Types

The static types of filter expressions, and the declarations that give each
identifier its type.
-/

namespace ChatSieve

inductive Ty where
  | int
  | bool
  | string
  /-- a list of strings only -/
  | stringList
  /-- a list of any values -/
  | list
  | map
  | color
  | pattern
  /-- a pattern together with the group to take out of a match -/
  | groupRequest
  deriving DecidableEq, Repr, Inhabited

namespace Ty

def all : List Ty :=
  [.int, .bool, .string, .stringList, .list, .map, .color, .pattern, .groupRequest]

def name : Ty → String
  | .int => "Int"
  | .bool => "Bool"
  | .string => "String"
  | .stringList => "StringList"
  | .list => "List"
  | .map => "Map"
  | .color => "Color"
  | .pattern => "RegularExpression"
  | .groupRequest => "MatchingSpecifier"

/-- Lists of strings and lists of any values. -/
def isList : Ty → Bool
  | .list | .stringList => true
  | _ => false

end Ty

/-- The identifiers a filter may use, each with its type. The first entry of a
name counts. -/
abbrev Declarations := List (String × Ty)

namespace Declarations

def typeOf? (decls : Declarations) (name : String) : Option Ty := decls.lookup name

def declares (decls : Declarations) (name : String) : Bool := (decls.typeOf? name).isSome

end Declarations

end ChatSieve
