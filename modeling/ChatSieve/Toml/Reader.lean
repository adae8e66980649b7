import ChatSieve.Message.Timestamp
import ChatSieve.Toml

/-!
# Reading TOML

The statements of a document, one on a line. A text that breaks a rule is no
document; where it does so does not matter.
-/

namespace ChatSieve.Toml

/-- A step of reading a document, which may fail. -/
abbrev Read := StateT (List Char) Option

namespace Read

def peek : Read (Option Char) := return (← get).head?

def bump : Read Unit := modify List.tail

/-- Past a text if it comes next. -/
def bumpIf (t : List Char) : Read Bool := do
  let s ← get
  if t.isPrefixOf s then
    set (s.drop t.length)
    return true
  else return false

def expect (c : Char) : Read Unit := do
  guard (← bumpIf [c])

/-- Past the characters with a property, which are returned. -/
def takeWhile (property : Char → Bool) : Read (List Char) := do
  let s ← get
  set (s.dropWhile property)
  return s.takeWhile property

end Read

open Read

/-- A character that may not stand in a text as it is. -/
def isControl (c : Char) : Bool := (c.toNat < 0x20 && c != '\t') || c.toNat == 0x7F

def skipBlanks : Read Unit := do
  let _ ← takeWhile fun c => c == ' ' || c == '\t'

/-- Past a line ending, if one comes next. -/
def skipNewline : Read Bool := do
  if ← bumpIf ['\n'] then return true else bumpIf ['\r', '\n']

/-- Past a comment, if one comes next. -/
def skipComment : Read Unit := do
  if (← peek) == some '#' then
    let _ ← takeWhile fun c => !isControl c

/-- Past the rest of a line without further content, which may be the last. -/
def endLine : Read Unit := do
  skipBlanks
  skipComment
  if !(← skipNewline) then guard (← peek).isNone

/-- Past blanks, comments and line endings. -/
def skipLines : Nat → Read Unit
  | 0 => return
  | bound + 1 => do
    skipBlanks
    skipComment
    if ← skipNewline then skipLines bound

/-- Past blanks, comments and line endings, however many. -/
def skipAll : Read Unit := do skipLines ((← get).length + 1)

/-! ## Strings -/

def hexValue? (digits : List Char) : Option Nat :=
  digits.foldlM (fun n c =>
    if c.isDigit then some (16 * n + (c.toNat - 48))
    else if 'a' ≤ c.toLower ∧ c.toLower ≤ 'f' then some (16 * n + (c.toLower.toNat - 87))
    else none) 0

/-- The character with a number of some hexadecimal digits. -/
def readCode (digits : Nat) : Read Char := do
  let s ← get
  guard (digits ≤ s.length)
  set (s.drop digits)
  let n ← hexValue? (s.take digits)
  guard n.isValidChar
  return Char.ofNat n

/-- The character of an escape, after its backslash. -/
def readEscape : Read Char := do
  let some c ← peek | failure
  bump
  match c with
  | 'b' => return '\x08'
  | 't' => return '\t'
  | 'n' => return '\n'
  | 'f' => return '\x0C'
  | 'r' => return '\r'
  | 'e' => return '\x1B'
  | '"' => return '"'
  | '\\' => return '\\'
  | 'x' => readCode 2
  | 'u' => readCode 4
  | 'U' => readCode 8
  | _ => failure

/-- A string on one line up to its closing quote. -/
def readBasic : Nat → Read (List Char)
  | 0 => failure
  | bound + 1 => do
    let some c ← peek | failure
    bump
    if c == '"' then return []
    else if c == '\\' then
      let e ← readEscape
      return e :: (← readBasic bound)
    else
      guard (!isControl c)
      return c :: (← readBasic bound)

/-- A string without escapes on one line up to its closing quote. -/
def readLiteral : Read (List Char) := do
  let s ← takeWhile fun c => c != '\'' && !isControl c
  expect '\''
  return s

/-- How many of a quote close a string of several lines: three, and up to two
more before them belong to the string. -/
def closing (quote : Char) : Read (Option (List Char)) := do
  let run := (← get).takeWhile (· == quote)
  if run.length < 3 then return none
  else
    let inside := min run.length 5 - 3
    modify (List.drop (inside + 3))
    return some (List.replicate inside quote)

/-- Past blanks and line endings after a backslash at the end of a line. -/
def skipFolded : Nat → Read Unit
  | 0 => return
  | bound + 1 => do
    skipBlanks
    if ← skipNewline then skipFolded bound

/-- A string of several lines up to its closing quotes. -/
def readLong (quote : Char) (escapes : Bool) : Nat → Read (List Char)
  | 0 => failure
  | bound + 1 => do
    match ← closing quote with
    | some inside => return inside
    | none =>
      if ← skipNewline then return '\n' :: (← readLong quote escapes bound)
      let some c ← peek | failure
      bump
      if escapes && c == '\\' then
        let s ← get
        skipBlanks
        if ← skipNewline then
          skipFolded s.length
          readLong quote escapes bound
        else
          set s
          let e ← readEscape
          return e :: (← readLong quote escapes bound)
      else
        guard (!isControl c)
        return c :: (← readLong quote escapes bound)

/-- A string, if one comes next. -/
def readString? : Read (Option (List Char)) := do
  let bound := (← get).length + 1
  if ← bumpIf ['"', '"', '"'] then
    let _ ← skipNewline
    return some (← readLong '"' true bound)
  else if ← bumpIf ['\'', '\'', '\''] then
    let _ ← skipNewline
    return some (← readLong '\'' false bound)
  else if ← bumpIf ['"'] then return some (← readBasic bound)
  else if ← bumpIf ['\''] then return some (← readLiteral)
  else return none

def isBareKeyChar (c : Char) : Bool := c.isAlphanum || c == '_' || c == '-'

def readSimpleKey : Read String := do
  let bound := (← get).length + 1
  if ← bumpIf ['"'] then return String.ofList (← readBasic bound)
  else if ← bumpIf ['\''] then return String.ofList (← readLiteral)
  else
    let key ← takeWhile isBareKeyChar
    guard (!key.isEmpty)
    return String.ofList key

/-- Keys with dots between. -/
def readKeys : Nat → Read (List String)
  | 0 => failure
  | bound + 1 => do
    skipBlanks
    let key ← readSimpleKey
    skipBlanks
    if ← bumpIf ['.'] then return key :: (← readKeys bound)
    else return [key]

/-- The most arrays and tables in braces that may be open, and the most keys that
a dotted key may have. -/
def maxNesting : Nat := 80

/-- A key that may have dots. -/
def readKey (bound : Nat) : Read (List String) := do
  let path ← readKeys bound
  guard (path.length ≤ maxNesting)
  return path

/-! ## Scalars -/

/-- Digits with single underscores between them. -/
def plainDigits? (isDigit : Char → Bool) : List Char → Option (List Char)
  | [] => none
  | [c] => if isDigit c then some [c] else none
  | c :: '_' :: rest =>
    if isDigit c then (plainDigits? isDigit rest).map (c :: ·) else none
  | c :: rest => if isDigit c then (plainDigits? isDigit rest).map (c :: ·) else none

/-- Decimal digits without a leading zero. -/
def wholeNumber? (s : List Char) : Option Nat := do
  let ds ← plainDigits? Char.isDigit s
  guard (ds.length == 1 || ds.head? != some '0')
  return Nat.ofDigitChars 10 ds 0

def splitSign : List Char → Int × List Char
  | '+' :: s => (1, s)
  | '-' :: s => (-1, s)
  | s => (1, s)

/-- The value of digits of a base. -/
def basedNumber? (base : Nat) (s : List Char) : Option Nat := do
  let value := fun c : Char =>
    if c.isDigit then c.toNat - 48 else if c.isAlpha then c.toLower.toNat - 87 else base
  let ds ← plainDigits? (fun c => value c < base) s
  return ds.foldl (fun n c => base * n + value c) 0

def integer? (s : List Char) : Option Int :=
  match s with
  | '0' :: 'x' :: ds => (basedNumber? 16 ds).map Int.ofNat
  | '0' :: 'o' :: ds => (basedNumber? 8 ds).map Int.ofNat
  | '0' :: 'b' :: ds => (basedNumber? 2 ds).map Int.ofNat
  | _ =>
    let (sign, ds) := splitSign s
    (wholeNumber? ds).map fun n => sign * n

/-- The least number that is infinite once rounded to 64 bits. -/
def floatLimit : Nat := 1 <<< 1024 - 1 <<< 970

/-- A number times a power of ten is too large for 64 bits. Where the number of
digits decides, the power is not computed. -/
def floatOverflows (n : Nat) (power : Int) : Bool :=
  let width := (Nat.toDigits 10 n).length + power
  if n == 0 || width < 309 then false
  else if 309 < width then true
  else floatLimit * Nat.pow 10 (-power).toNat ≤ n * Nat.pow 10 power.toNat

/-- A decimal number with a fraction, an exponent or both, or an infinity or an
undefined number. -/
def float? (s : List Char) : Option Toml := do
  let body := (splitSign s).2
  if body == ['i', 'n', 'f'] || body == ['n', 'a', 'n'] then return .float false
  let mantissa := body.takeWhile fun c => c != 'e' && c != 'E'
  let exponent := body.drop mantissa.length
  let whole := mantissa.takeWhile (· != '.')
  let fraction := mantissa.drop whole.length
  guard (!(fraction.isEmpty && exponent.isEmpty))
  let n ← wholeNumber? whole
  let decimals ← if fraction.isEmpty then some [] else plainDigits? Char.isDigit fraction.tail
  let (sign, shift) := splitSign exponent.tail
  let shift ← if exponent.isEmpty then some [] else plainDigits? Char.isDigit shift
  return .float (floatOverflows (Nat.ofDigitChars 10 decimals n)
    (sign * Nat.ofDigitChars 10 shift 0 - decimals.length))

/-- A number of just so many digits at the head of a text. -/
def fixed? (digits : Nat) (s : List Char) : Option (Nat × List Char) :=
  let ds := s.take digits
  if ds.length == digits && ds.all Char.isDigit then
    some (Nat.ofDigitChars 10 ds 0, s.drop digits)
  else none

def date? (s : List Char) : Option (List Char) := do
  let (year, s) ← fixed? 4 s
  let '-' :: s := s | none
  let (month, s) ← fixed? 2 s
  let '-' :: s := s | none
  let (day, s) ← fixed? 2 s
  if (Message.Date.mk year month day).isValid then some s else none

/-- A time of day; its seconds may be left out. -/
def time? (s : List Char) : Option (List Char) := do
  let (hour, s) ← fixed? 2 s
  let ':' :: s := s | none
  let (minute, s) ← fixed? 2 s
  guard (hour ≤ 23 && minute ≤ 59)
  match s with
  | ':' :: s => do
    let (second, s) ← fixed? 2 s
    guard (second ≤ 60)
    match s with
    | '.' :: s =>
      guard (s.head?.any Char.isDigit)
      return s.dropWhile Char.isDigit
    | s => return s
  | s => return s

/-- An offset from universal time, or none. -/
def isOffset (s : List Char) : Bool :=
  match s with
  | [] | ['Z'] | ['z'] => true
  | sign :: s =>
    (sign == '+' || sign == '-') && match fixed? 2 s with
      | some (hour, ':' :: s) =>
        match fixed? 2 s with
        | some (minute, []) => hour ≤ 23 && minute ≤ 59
        | _ => false
      | _ => false

/-- A date, a time, or both with or without an offset. -/
def isDatetime (s : List Char) : Bool :=
  match date? s with
  | some [] => true
  | some (mark :: s) =>
    (mark == 'T' || mark == 't' || mark == ' ') && (time? s).any isOffset
  | none => time? s == some []

def isScalarChar (c : Char) : Bool :=
  c.isAlphanum || c == '_' || c == '-' || c == '+' || c == '.' || c == ':'

/-- The text of a value without quotes or brackets. A date may be followed by a
blank and a time. -/
def readScalarText : Read (List Char) := do
  let s ← takeWhile isScalarChar
  match ← get with
  | ' ' :: c :: _ =>
    if date? s == some [] && c.isDigit then
      bump
      return s ++ ' ' :: (← takeWhile isScalarChar)
    else return s
  | _ => return s

def scalar? (s : List Char) : Option Toml :=
  if s == ['t', 'r', 'u', 'e'] then some (.boolean true)
  else if s == ['f', 'a', 'l', 's', 'e'] then some (.boolean false)
  else
    match integer? s with
    | some n => some (.integer n)
    | none => float? s <|> if isDatetime s then some .datetime else none

/-! ## Values -/

mutual

/-- A value with so many arrays and tables open around it. Each value takes a
character, so the length of the document bounds the steps. -/
def readValue : Nat → Nat → Read Toml
  | 0, _ => failure
  | bound + 1, depth => do
    match ← readString? with
    | some s => return .string (String.ofList s)
    | none =>
      if ← bumpIf ['['] then
        guard (depth < maxNesting)
        return .array (← readItems bound (depth + 1))
      else if ← bumpIf ['{'] then
        guard (depth < maxNesting)
        return .table .inline (← readPairs bound (depth + 1) [])
      else scalar? (← readScalarText)

/-- The items of an array up to its closing bracket. -/
def readItems : Nat → Nat → Read (List Toml)
  | 0, _ => failure
  | bound + 1, depth => do
    skipAll
    if ← bumpIf [']'] then return []
    else
      let v ← readValue bound depth
      skipAll
      if ← bumpIf [','] then return v :: (← readItems bound depth)
      else
        expect ']'
        return [v]

/-- The pairs of a table up to its closing brace, after some others. -/
def readPairs : Nat → Nat → Entries → Read Entries
  | 0, _, _ => failure
  | bound + 1, depth, entries => do
    skipAll
    if ← bumpIf ['}'] then return entries
    else
      let path ← readKey bound
      expect '='
      skipBlanks
      let v ← readValue bound depth
      let entries ← insert path v entries
      skipAll
      if ← bumpIf [','] then readPairs bound depth entries
      else
        expect '}'
        return entries

end

/-! ## Documents -/

/-- The statements of a document. -/
def readStatements : Nat → Read (List Statement)
  | 0 => failure
  | bound + 1 => do
    skipAll
    if (← peek).isNone then return []
    else if ← bumpIf ['[', '['] then
      let path ← readKey bound
      guard (← bumpIf [']', ']'])
      endLine
      return .repeatedHeader path :: (← readStatements bound)
    else if ← bumpIf ['['] then
      let path ← readKey bound
      expect ']'
      endLine
      return .header path :: (← readStatements bound)
    else
      let path ← readKey bound
      expect '='
      skipBlanks
      let v ← readValue bound 0
      endLine
      return .pair path v :: (← readStatements bound)

/-- The entries of a document. A byte order mark before it is skipped. -/
def ofText? (s : List Char) : Option Entries := do
  let s := match s with
    | '\uFEFF' :: s => s
    | s => s
  let (statements, _) ← (readStatements (s.length + 2)).run s
  build [] [] statements

end ChatSieve.Toml
