import ChatSieve.Json
import ChatSieve.Text.Decimal

/-!
# Writing JSON

The compact text of a value, and the text with a line for every item and two
blanks for every level.
-/

namespace ChatSieve.Json

open ChatSieve.Text

/-- An integer. -/
def ofInt (i : Int) : Json := .number (intText i)

def hexDigitOf (n : Nat) : Char := Nat.digitChar n

/-- A character inside a string: quotes, backslashes and control characters are
escaped. -/
def escape (c : Char) : List Char :=
  match c with
  | '"' => ['\\', '"']
  | '\\' => ['\\', '\\']
  | '\n' => ['\\', 'n']
  | '\r' => ['\\', 'r']
  | '\t' => ['\\', 't']
  | _ =>
    if c.toNat = 8 then ['\\', 'b']
    else if c.toNat = 12 then ['\\', 'f']
    else if c.toNat < 0x20 then
      ['\\', 'u', '0', '0', hexDigitOf (c.toNat / 16), hexDigitOf (c.toNat % 16)]
    else [c]

/-- A string with its quotes. A string without a text is written as if empty. -/
def stringText (t : Option String) : List Char :=
  '"' :: ((t.getD "").toList.flatMap escape ++ ['"'])

mutual

/-- The compact text of a value. -/
def compact : Json → List Char
  | .null => "null".toList
  | .bool b => if b then "true".toList else "false".toList
  | .number n => n
  | .string t => stringText t
  | .array items => '[' :: (compactItems items ++ [']'])
  | .object members => '{' :: (compactMembers members ++ ['}'])

def compactItems : List Json → List Char
  | [] => []
  | [v] => compact v
  | v :: rest => compact v ++ ',' :: compactItems rest

def compactMembers : List (Option String × Json) → List Char
  | [] => []
  | [(k, v)] => stringText k ++ ':' :: compact v
  | (k, v) :: rest => stringText k ++ ':' :: (compact v ++ ',' :: compactMembers rest)

end

/-- A new line at a level. -/
def lineAt (level : Nat) : List Char := '\n' :: List.replicate (2 * level) ' '

mutual

/-- The text of a value at a level, a line for every item. -/
def pretty (level : Nat) : Json → List Char
  | .array [] => "[]".toList
  | .array items => '[' :: (prettyItems (level + 1) items ++ lineAt level ++ [']'])
  | .object [] => ['{', '}']
  | .object members => '{' :: (prettyMembers (level + 1) members ++ lineAt level ++ ['}'])
  | v => compact v

def prettyItems (level : Nat) : List Json → List Char
  | [] => []
  | [v] => lineAt level ++ pretty level v
  | v :: rest => lineAt level ++ pretty level v ++ ',' :: prettyItems level rest

def prettyMembers (level : Nat) : List (Option String × Json) → List Char
  | [] => []
  | [(k, v)] => lineAt level ++ stringText k ++ ": ".toList ++ pretty level v
  | (k, v) :: rest =>
    lineAt level ++ stringText k ++ ": ".toList ++ pretty level v ++ ',' :: prettyMembers level rest

end

def text (v : Json) : String := String.ofList (compact v)

def prettyText (v : Json) : String := String.ofList (pretty 0 v)

end ChatSieve.Json
