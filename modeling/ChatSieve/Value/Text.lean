import ChatSieve.Value.Coercion

/-!
# The text of values

How a value is shown to users. Strings stand without quotes, lists and maps in
braces, patterns between slashes.
-/

namespace ChatSieve.Value

/-- Items with a comma and a space between, in braces. -/
def inBraces (items : List String) : String := "\x7b" ++ ", ".intercalate items ++ "\x7d"

mutual

def text : Value → String
  | .null => "null"
  | .int n => decimalText n
  | .bool b => boolText b
  | .string s => s
  | .strings items => inBraces items
  | .list items => inBraces (texts items)
  | .map entries => inBraces (entryTexts entries)
  | .color c => c.text
  | .pattern p => "/" ++ p.source ++ "/"

def texts : List Value → List String
  | [] => []
  | v :: vs => text v :: texts vs

def entryTexts : List (String × Value) → List String
  | [] => []
  | (k, v) :: rest => (k ++ ": " ++ text v) :: entryTexts rest

end

end ChatSieve.Value
