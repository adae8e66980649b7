/-!
# JSON

The values that a JSON text stands for. Numbers keep their text. A string in
which an escape stands for half a character can be skipped but not be read; it
has no text.
-/

namespace ChatSieve

inductive Json where
  | null
  | bool (b : Bool)
  | number (literal : List Char)
  | string (text : Option String)
  | array (items : List Json)
  | object (members : List (Option String × Json))
  deriving Inhabited

namespace Json

/-- A string with a text. -/
def ofString (s : String) : Json := .string (some s)

/-- An object whose keys have texts. -/
def ofMembers (members : List (String × Json)) : Json :=
  .object (members.map fun (k, v) => (some k, v))

end Json

end ChatSieve
