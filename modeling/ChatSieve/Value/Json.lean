import ChatSieve.Json.Writer
import ChatSieve.Value.Coercion

/-!
# Values as JSON

Colors and patterns are written as strings.
-/

namespace ChatSieve.Value

mutual

def json : Value → Json
  | .null => .null
  | .int n => Json.ofInt n.toInt
  | .bool b => .bool b
  | .string s => Json.ofString s
  | .strings items => .array (items.map Json.ofString)
  | .list items => .array (jsons items)
  | .map entries => .object (jsonMembers entries)
  | .color c => Json.ofString c.text
  | .pattern p => Json.ofString p.source

def jsons : List Value → List Json
  | [] => []
  | v :: vs => json v :: jsons vs

def jsonMembers : List (String × Value) → List (Option String × Json)
  | [] => []
  | (k, v) :: rest => (some k, json v) :: jsonMembers rest

end

end ChatSieve.Value
