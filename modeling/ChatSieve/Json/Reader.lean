import ChatSieve.Json

/-!
# Reading JSON

The grammar of JSON texts. A text that does not follow it to its end is no
JSON; where it fails does not matter.
-/

namespace ChatSieve.Json

/-- The four blanks of JSON. -/
def isSpace (c : Char) : Bool := c == ' ' || c == '\n' || c == '\t' || c == '\r'

def skipSpace (s : List Char) : List Char := s.dropWhile isSpace

/-- `s` without `word` at its head. -/
def after? (word s : List Char) : Option (List Char) :=
  if word.isPrefixOf s then some (s.drop word.length) else none

/-- A character as it stands, or the code unit of an escape. -/
inductive Unit16 where
  | char (c : Char)
  | escape (n : Nat)
  deriving DecidableEq, Repr

/-- The value of a hexadecimal digit. -/
def hexValue? (c : Char) : Option Nat :=
  if c.isDigit then some (c.toNat - 48)
  else if 'a' ≤ c ∧ c ≤ 'f' then some (c.toNat - 87)
  else if 'A' ≤ c ∧ c ≤ 'F' then some (c.toNat - 55)
  else none

def hexValue4? (a b c d : Char) : Option Nat := do
  return ((← hexValue? a) * 16 + (← hexValue? b)) * 256 + (← hexValue? c) * 16 + (← hexValue? d)

/-- The character of an escape of one letter. -/
def escaped? : Char → Option Char
  | '"' => some '"'
  | '\\' => some '\\'
  | '/' => some '/'
  | 'b' => some '\x08'
  | 'f' => some '\x0C'
  | 'n' => some '\n'
  | 'r' => some '\r'
  | 't' => some '\t'
  | _ => none

/-- The units of a string up to its closing quote, and what follows. -/
def readUnits : List Char → Option (List Unit16 × List Char)
  | [] => none
  | '"' :: rest => some ([], rest)
  | '\\' :: 'u' :: a :: b :: c :: d :: rest => do
    let n ← hexValue4? a b c d
    let (units, after) ← readUnits rest
    return (.escape n :: units, after)
  | '\\' :: e :: rest => do
    let c ← escaped? e
    let (units, after) ← readUnits rest
    return (.char c :: units, after)
  | c :: rest =>
    if c.toNat < 0x20 then none
    else do
      let (units, after) ← readUnits rest
      return (.char c :: units, after)

def isHigh (n : Nat) : Bool := 0xD800 ≤ n && n < 0xDC00

def isLow (n : Nat) : Bool := 0xDC00 ≤ n && n < 0xE000

/-- The text of some units. The halves of a character have to be escapes that
follow each other. -/
def textOfUnits? : List Unit16 → Option (List Char)
  | [] => some []
  | .char c :: rest => (textOfUnits? rest).map (c :: ·)
  | .escape hi :: .escape lo :: rest =>
    if isHigh hi then
      if isLow lo then
        (textOfUnits? rest).map (Char.ofNat (0x10000 + (hi - 0xD800) * 0x400 + (lo - 0xDC00)) :: ·)
      else none
    else if isLow hi then none
    else (textOfUnits? (.escape lo :: rest)).map (Char.ofNat hi :: ·)
  | .escape n :: rest =>
    if isHigh n || isLow n then none else (textOfUnits? rest).map (Char.ofNat n :: ·)

/-- A string, after its opening quote. -/
def readString (s : List Char) : Option (Option String × List Char) := do
  let (units, after) ← readUnits s
  return ((textOfUnits? units).map String.ofList, after)

/-- One or more digits at the head of a text. -/
def readDigits (s : List Char) : Option (List Char × List Char) :=
  match s.takeWhile Char.isDigit with
  | [] => none
  | ds => some (ds, s.dropWhile Char.isDigit)

/-- Digits without a leading zero. -/
def readWhole : List Char → Option (List Char × List Char)
  | '0' :: rest => some (['0'], rest)
  | s => readDigits s

/-- The digits after a decimal point, with the point. -/
def readFraction : List Char → Option (List Char × List Char)
  | '.' :: rest => do
    let (ds, after) ← readDigits rest
    return ('.' :: ds, after)
  | s => some ([], s)

/-- An exponent, with its letter and sign. -/
def readExponent : List Char → Option (List Char × List Char)
  | e :: rest =>
    if e == 'e' || e == 'E' then
      match rest with
      | '+' :: rest => (readDigits rest).map fun (ds, after) => (e :: '+' :: ds, after)
      | '-' :: rest => (readDigits rest).map fun (ds, after) => (e :: '-' :: ds, after)
      | rest => (readDigits rest).map fun (ds, after) => (e :: ds, after)
    else some ([], e :: rest)
  | [] => some ([], [])

/-- A number without its sign. -/
def readUnsigned (s : List Char) : Option (List Char × List Char) := do
  let (whole, s) ← readWhole s
  let (fraction, s) ← readFraction s
  let (exponent, s) ← readExponent s
  return (whole ++ fraction ++ exponent, s)

def readNumber : List Char → Option (List Char × List Char)
  | '-' :: rest => (readUnsigned rest).map fun (n, after) => ('-' :: n, after)
  | s => readUnsigned s

mutual

/-- A value at the head of a text, and what follows. Each value takes a
character, so the length of the text bounds the steps. -/
def readValue : Nat → List Char → Option (Json × List Char)
  | 0, _ => none
  | bound + 1, s =>
    match skipSpace s with
    | [] => none
    | '"' :: rest => (readString rest).map fun (t, after) => (.string t, after)
    | '[' :: rest =>
      match skipSpace rest with
      | ']' :: rest => some (.array [], rest)
      | rest => (readItems bound rest).map fun (items, after) => (.array items, after)
    | '{' :: rest =>
      match skipSpace rest with
      | '}' :: rest => some (.object [], rest)
      | rest => (readMembers bound rest).map fun (members, after) => (.object members, after)
    | c :: rest =>
      if c == 'n' then (after? ['u', 'l', 'l'] rest).map fun after => (.null, after)
      else if c == 't' then (after? ['r', 'u', 'e'] rest).map fun after => (.bool true, after)
      else if c == 'f' then
        (after? ['a', 'l', 's', 'e'] rest).map fun after => (.bool false, after)
      else (readNumber (c :: rest)).map fun (n, after) => (.number n, after)

/-- The items of an array up to its closing bracket, one at least. -/
def readItems : Nat → List Char → Option (List Json × List Char)
  | 0, _ => none
  | bound + 1, s => do
    let (item, s) ← readValue bound s
    match skipSpace s with
    | ',' :: rest =>
      let (items, after) ← readItems bound rest
      return (item :: items, after)
    | ']' :: rest => return ([item], rest)
    | _ => none

/-- The members of an object up to its closing brace, one at least. -/
def readMembers : Nat → List Char → Option (List (Option String × Json) × List Char)
  | 0, _ => none
  | bound + 1, s =>
    match skipSpace s with
    | '"' :: rest => do
      let (key, s) ← readString rest
      let s ← after? [':'] (skipSpace s)
      let (value, s) ← readValue bound s
      match skipSpace s with
      | ',' :: rest =>
        let (members, after) ← readMembers bound rest
        return ((key, value) :: members, after)
      | '}' :: rest => return ([(key, value)], rest)
      | _ => none
    | _ => none

end

/-- The value that a text stands for. -/
def ofText? (s : List Char) : Option Json := do
  let (value, after) ← readValue (s.length + 1) s
  if (skipSpace after).isEmpty then some value else none

end ChatSieve.Json
