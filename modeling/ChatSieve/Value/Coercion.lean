import ChatSieve.Text.Decimal
import ChatSieve.Value

/-!
# Coercions

How a value is taken for a value of another kind. Every coercion is partial;
whoever asks for one has a default at hand.
-/

namespace ChatSieve

open ChatSieve.Text

/-- The same text but for the case of ASCII letters. -/
def sameIgnoringAsciiCase (s t : String) : Bool :=
  s.toList.map Char.toLower == t.toList.map Char.toLower

/-- The decimal text of a 64-bit integer. -/
def decimalText (n : Int64) : String := String.ofList (int64Text n)

def boolText (b : Bool) : String := if b then "true" else "false"

namespace Value

/-- Truth counts as one; a string is read as a number with blanks around. -/
def toInt? : Value → Option Int64
  | .int n => some n
  | .bool b => some (if b then 1 else 0)
  | .string s => readInt64 (trim s.toList)
  | _ => none

/-- Every string is true but the empty one, `0` and `false` in any case. -/
def isTrueText (s : String) : Bool :=
  !(s == "" || s == "0" || sameIgnoringAsciiCase s "false")

def toBool? : Value → Option Bool
  | .bool b => some b
  | .int n => some (n != 0)
  | .string s => some (isTrueText s)
  | _ => none

def toText? : Value → Option String
  | .string s => some s
  | .int n => some (decimalText n)
  | .bool b => some (boolText b)
  | .color c => some c.text
  | _ => none

def toColor? : Value → Option Color
  | .color c => some c
  | .string s => Color.ofText? s
  | _ => none

/-- A list of strings only is also a list of strings. -/
def toStrings? : Value → Option (List String)
  | .strings items => some items
  | .list items => items.mapM asString?
  | _ => none

def toList? : Value → Option (List Value)
  | .list items => some items
  | .strings items => some (items.map Value.string)
  | _ => none

/-- The value taken for one of the kind of `like`. -/
def convertLike? (v like : Value) : Option Value :=
  match like with
  | .int _ => v.toInt?.map Value.int
  | .bool _ => v.toBool?.map Value.bool
  | .string _ => v.toText?.map Value.string
  | .color _ => v.toColor?.map Value.color
  | .strings _ => v.toStrings?.map Value.strings
  | .list _ => v.toList?.map Value.list
  | _ => none

end Value

end ChatSieve
