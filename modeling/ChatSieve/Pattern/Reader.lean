import ChatSieve.Pattern.Syntax
import ChatSieve.Text.Blank
import ChatSieve.Unicode.Property

/-!
# Reading patterns

From the text of a pattern to its syntax. A reader that fails has found the
text to be no pattern; why does not matter. Every reader takes at least one
character where it repeats itself, so the length of the text bounds the work.
-/

namespace ChatSieve.Pattern

open ChatSieve.Text

/-- How far a pattern has been read. -/
structure ReadState where
  rest : List Char
  /-- blanks and comments are skipped -/
  verbose : Bool
  /-- the number of capturing groups opened so far -/
  captures : Nat
  names : List (List Char)

/-- A step of reading, which may fail. -/
abbrev Read := StateT ReadState Option

namespace Read

def peek : Read (Option Char) := return (← get).rest.head?

def atEnd : Read Bool := return (← get).rest.isEmpty

/-- Past one character. -/
def bump : Read Unit := modify fun s => { s with rest := s.rest.tail }

/-- Past `c`, which has to come next. -/
def expect (c : Char) : Read Unit := do
  guard ((← peek) == some c)
  bump

/-- Past the text `t` if it comes next. -/
def bumpIf (t : String) : Read Bool := do
  let s ← get
  if t.toList.isPrefixOf s.rest then
    set { s with rest := s.rest.drop t.length }
    return true
  else return false

/-- A text without the blanks and comments before its first other character. -/
def skipIgnored : Bool → List Char → List Char
  | _, [] => []
  | true, c :: rest => skipIgnored (c != '\n') rest
  | false, c :: rest =>
    if isBlank c then skipIgnored false rest
    else if c == '#' then skipIgnored true rest
    else c :: rest

/-- Past blanks and comments, where they are skipped. -/
def skipSpace : Read Unit :=
  modify fun s => if s.verbose then { s with rest := skipIgnored false s.rest } else s

/-- Past one character and the space after it; something has to come next. -/
def bumpSpace : Read Unit := do
  bump
  skipSpace

/-- What comes after the next character, without the space between. -/
def peekSpace : Read (Option Char) := do
  let s ← get
  let after := s.rest.tail
  return (if s.verbose then skipIgnored false after else after).head?

/-- Past the characters with a property, which are returned; space is skipped
after each. -/
def takeWhile (property : Char → Bool) : Read (List Char) := do
  let s ← get
  let rec go : Nat → List Char → List Char × List Char
    | 0, rest => ([], rest)
    | _, [] => ([], [])
    | fuel + 1, c :: rest =>
      if property c then
        let (taken, after) := go fuel (if s.verbose then skipIgnored false rest else rest)
        (c :: taken, after)
      else ([], c :: rest)
  let (taken, after) := go s.rest.length s.rest
  set { s with rest := after }
  return taken

end Read

open Read

/-- The characters that have a meaning of their own. -/
def isMeta (c : Char) : Bool :=
  ['\\', '.', '+', '*', '?', '(', ')', '|', '[', ']', '{', '}', '^', '$', '#', '&', '-', '~'].contains c

/-- The characters that stand for themselves after a backslash. -/
def isEscapable (c : Char) : Bool :=
  isMeta c || (c.toNat < 128 && !c.isAlphanum && c != '<' && c != '>')

def isHexDigit (c : Char) : Bool :=
  c.isDigit || ('a' ≤ c && c ≤ 'f') || ('A' ≤ c && c ≤ 'F')

def hexDigitValue (c : Char) : Nat :=
  if c.isDigit then c.toNat - 48 else c.toLower.toNat - 87

def hexValue (digits : List Char) : Nat := digits.foldl (fun n d => 16 * n + hexDigitValue d) 0

/-- The character with a number. -/
def charOf? (n : Nat) : Option Char := if n.isValidChar then some (Char.ofNat n) else none

/-- Characters of a name of a group. -/
def isNameStart (c : Char) : Bool := c == '_' || Unicode.Property.alphabetic.hasChar c

def isNamePart (c : Char) : Bool :=
  c == '_' || c == '.' || c == '[' || c == ']' || Unicode.Property.alphanumeric.hasChar c

/-! ## Escapes -/

/-- A single element of a pattern. -/
inductive Primitive where
  | literal (c : Char) (isByte : Bool)
  | anchor (a : Anchor)
  | cls (c : CharClass)
  | dot

/-- As many hexadecimal digits as asked for. -/
def readHexDigits : Nat → Read (List Char)
  | 0 => return []
  | n + 1 => do
    bumpSpace
    let some c ← peek | failure
    guard (isHexDigit c)
    return c :: (← readHexDigits n)

/-- The character of a hexadecimal escape; its letter comes next. -/
def readHex (digits : Nat) : Read Primitive := do
  let s ← get
  bumpSpace
  if (← peek) == some '{' then
    bumpSpace
    let body ← takeWhile (· != '}')
    guard (body.all isHexDigit && !body.isEmpty)
    guard ((← peek) == some '}')
    bumpSpace
    return .literal (← charOf? (hexValue body)) false
  else
    set s
    let body ← readHexDigits digits
    bumpSpace
    return .literal (← charOf? (hexValue body)) (digits == 2)

/-- The text before and after the first place where `mark` stands. -/
def splitAt? (mark : List Char) : List Char → Option (List Char × List Char)
  | [] => none
  | c :: rest =>
    if mark.isPrefixOf (c :: rest) then some ([], (c :: rest).drop mark.length)
    else (splitAt? mark rest).map fun (before, after) => (c :: before, after)

/-- The query in the braces of a property, and whether it asks for the
characters without it. -/
def propertyQuery (body : List Char) : PropertyQuery × Bool :=
  match splitAt? ['!', '='] body with
  | some (name, value) => (.valued (String.ofList name) (String.ofList value), true)
  | none =>
    match splitAt? [':'] body with
    | some (name, value) => (.valued (String.ofList name) (String.ofList value), false)
    | none =>
      match splitAt? ['='] body with
      | some (name, value) => (.valued (String.ofList name) (String.ofList value), false)
      | none => (.named (String.ofList body), false)

/-- The class of a property; its letter comes next. -/
def readProperty (negated : Bool) : Read Primitive := do
  bumpSpace
  let some c ← peek | failure
  if c == '{' then
    bumpSpace
    let body ← takeWhile (· != '}')
    expect '}'
    let (query, unequal) := propertyQuery body
    return .cls (.property query (negated != unequal))
  else
    guard (c != '\\')
    bumpSpace
    return .cls (.property (.named (String.ofList [c])) negated)

/-- The special places that `\b` may be followed by, in braces. A brace that
opens no name is left to a repetition. -/
def readWordEdge : Read Primitive := do
  let s ← get
  if (← peek) == some '{' then
    bumpSpace
    let isNameChar := fun c : Char => c.isAlpha || c == '-'
    let some c ← peek | failure
    if isNameChar c then
      let name ← takeWhile isNameChar
      expect '}'
      match String.ofList name with
      | "start" => return .anchor .wordStart
      | "end" => return .anchor .wordEnd
      | "start-half" => return .anchor .wordStartHalf
      | "end-half" => return .anchor .wordEndHalf
      | _ => failure
    else
      set s
      return .anchor .wordEdge
  else return .anchor .wordEdge

/-- An escape; its backslash comes next. -/
def readEscape : Read Primitive := do
  bump
  let some c ← peek | failure
  match c with
  | 'x' => readHex 2
  | 'u' => readHex 4
  | 'U' => readHex 8
  | 'p' => readProperty false
  | 'P' => readProperty true
  | 'd' => bump; return .cls (.letter .digit false)
  | 'D' => bump; return .cls (.letter .digit true)
  | 's' => bump; return .cls (.letter .space false)
  | 'S' => bump; return .cls (.letter .space true)
  | 'w' => bump; return .cls (.letter .word false)
  | 'W' => bump; return .cls (.letter .word true)
  | _ =>
    bump
    if isEscapable c then return .literal c false
    match c with
    | 'a' => return .literal '\x07' false
    | 'f' => return .literal '\x0C' false
    | 't' => return .literal '\t' false
    | 'n' => return .literal '\n' false
    | 'r' => return .literal '\r' false
    | 'v' => return .literal '\x0B' false
    | 'A' => return .anchor .textStart
    | 'z' => return .anchor .textEnd
    | 'b' => readWordEdge
    | 'B' => return .anchor .noWordEdge
    | '<' => return .anchor .wordStart
    | '>' => return .anchor .wordEnd
    | _ => failure

/-- An element outside of brackets. -/
def readPrimitive : Read Primitive := do
  let some c ← peek | failure
  match c with
  | '\\' => readEscape
  | '.' => bump; return .dot
  | '^' => bump; return .anchor .lineStart
  | '$' => bump; return .anchor .lineEnd
  | _ => bump; return .literal c false

/-! ## Bracketed classes -/

/-- The named classes over ASCII. -/
def namedClass? (name : List Char) : Option CodePoints :=
  match String.ofList name with
  | "alnum" => some [(0x30, 0x39), (0x41, 0x5A), (0x61, 0x7A)]
  | "alpha" => some [(0x41, 0x5A), (0x61, 0x7A)]
  | "ascii" => some [(0, 0x7F)]
  | "blank" => some [(0x09, 0x09), (0x20, 0x20)]
  | "cntrl" => some [(0, 0x1F), (0x7F, 0x7F)]
  | "digit" => some [(0x30, 0x39)]
  | "graph" => some [(0x21, 0x7E)]
  | "lower" => some [(0x61, 0x7A)]
  | "print" => some [(0x20, 0x7E)]
  | "punct" => some [(0x21, 0x2F), (0x3A, 0x40), (0x5B, 0x60), (0x7B, 0x7E)]
  | "space" => some [(0x09, 0x0D), (0x20, 0x20)]
  | "upper" => some [(0x41, 0x5A)]
  | "word" => some [(0x30, 0x39), (0x41, 0x5A), (0x5F, 0x5F), (0x61, 0x7A)]
  | "xdigit" => some [(0x30, 0x39), (0x41, 0x46), (0x61, 0x66)]
  | _ => none

/-- A named class at the head of a text, `[:name:]` or `[:^name:]`. -/
def namedClassAt? (s : List Char) : Option (CharClass × List Char) := do
  let body ← match s with
    | '[' :: ':' :: body => some body
    | _ => none
  let (negated, body) := match body with
    | '^' :: body => (true, body)
    | _ => (false, body)
  let points ← namedClass? (body.takeWhile (· != ':'))
  match body.dropWhile (· != ':') with
  | ':' :: ']' :: after => some (.named points negated, after)
  | _ => none

/-- An element of a class as a class of its own. -/
def Primitive.asClass : Primitive → Read CharClass
  | .literal c _ => return .range c c
  | .cls c => return c
  | _ => failure

/-- An element of a class as an end of a range. -/
def Primitive.asEnd : Primitive → Read Char
  | .literal c _ => return c
  | _ => failure

def readClassElement : Read Primitive := do
  let some c ← peek | failure
  if c == '\\' then readEscape
  else
    bump
    return .literal c false

/-- An element of a class or a range of literals. -/
def readClassRange : Read CharClass := do
  let first ← readClassElement
  skipSpace
  let some c ← peek | failure
  let after ← peekSpace
  if c != '-' || after == some ']' || after == some '-' then first.asClass
  else
    bumpSpace
    let second ← readClassElement
    let lo ← first.asEnd
    let hi ← second.asEnd
    guard (lo ≤ hi)
    return .range lo hi

/-- The hyphens that a class begins with. -/
def readHyphens : Nat → Read (List CharClass)
  | 0 => return []
  | fuel + 1 => do
    if (← peek) == some '-' then
      bumpSpace
      return .range '-' '-' :: (← readHyphens fuel)
    else return []

/-- Items of a class, the last one first, as one class. -/
def unionOf : List CharClass → CharClass
  | [c] => c
  | items => .union items.reverse

/-- An operator applied to the operand on its left, where there is one. -/
def applyPending (pending : Option (SetOp × CharClass)) (right : CharClass) : CharClass :=
  match pending with
  | none => right
  | some (kind, left) => .op kind left right

mutual

/-- A bracketed class; its bracket comes next. -/
def readBracketed : Nat → Read CharClass
  | 0 => failure
  | fuel + 1 => do
    bumpSpace
    let negated := (← peek) == some '^'
    if negated then bumpSpace
    let hyphens ← readHyphens fuel
    guard (!(← atEnd))
    if hyphens.isEmpty && (← peek) == some ']' then
      bumpSpace
      guard (!(← atEnd))
      readClassItems fuel negated none [.range ']' ']']
    else readClassItems fuel negated none hyphens.reverse

/-- The items of a class up to its closing bracket. -/
def readClassItems : Nat → Bool → Option (SetOp × CharClass) → List CharClass → Read CharClass
  | 0, _, _, _ => failure
  | fuel + 1, negated, pending, items => do
    skipSpace
    let s ← get
    match s.rest with
    | [] => failure
    | '[' :: _ =>
      match namedClassAt? s.rest with
      | some (c, after) =>
        set { s with rest := after }
        readClassItems fuel negated pending (c :: items)
      | none => do
        let c ← readBracketed fuel
        readClassItems fuel negated pending (c :: items)
    | ']' :: _ =>
      bump
      return .bracketed (applyPending pending (unionOf items)) negated
    | '&' :: '&' :: _ =>
      bump; bump
      readClassItems fuel negated (some (.inter, applyPending pending (unionOf items))) []
    | '-' :: '-' :: _ =>
      bump; bump
      readClassItems fuel negated (some (.diff, applyPending pending (unionOf items))) []
    | '~' :: '~' :: _ =>
      bump; bump
      readClassItems fuel negated (some (.symmDiff, applyPending pending (unionOf items))) []
    | _ => do
      let c ← readClassRange
      readClassItems fuel negated pending (c :: items)

end

/-! ## Repetitions and groups -/

/-- A number with blanks around, below 2^32. -/
def readCount : Read (Option Nat) := do
  modify fun s => { s with rest := trimStart s.rest }
  let digits ← takeWhile Char.isDigit
  modify fun s => { s with rest := trimStart s.rest }
  skipSpace
  if digits.isEmpty then return none
  let n := Nat.ofDigitChars 10 digits 0
  guard (n ≤ 0xFFFFFFFF)
  return some n

/-- A `?` after a repetition, which makes it match as little as it can. -/
def readLazy : Read Bool := do
  if (← peek) == some '?' then
    bump
    return true
  else return false

/-- The bounds of a counted repetition; its brace comes next. -/
def readBounds : Read (Nat × Option Nat) := do
  bumpSpace
  guard (!(← atEnd))
  let least ← readCount
  if (← peek) == some ',' then
    bumpSpace
    let some least := least | failure
    if (← peek) == some '}' then return (least, none)
    let some most ← readCount | failure
    guard (least ≤ most)
    return (least, some most)
  else
    let some least := least | failure
    return (least, some least)

/-- The flag with a letter. -/
def flagOf? : Char → Option Flag
  | 'i' => some .caseless
  | 'm' => some .multiLine
  | 's' => some .dotAll
  | 'U' => some .swapGreed
  | 'u' => some .unicode
  | 'R' => some .crlf
  | 'x' => some .verbose
  | _ => none

/-- Switches up to the colon or parenthesis that ends them: each flag once, one
hyphen at most and a flag after it. -/
def readSwitches : Nat → Bool → List (Flag × Bool) → Read (List (Flag × Bool))
  | 0, _, _ => failure
  | fuel + 1, negated, items => do
    let some c ← peek | failure
    match c with
    | ':' | ')' => return items.reverse
    | '-' =>
      guard (!negated)
      bump
      let next ← peek
      guard (next != some ':' && next != some ')')
      readSwitches fuel true items
    | _ =>
      let flag ← flagOf? c
      guard (items.all (·.1 != flag))
      bump
      readSwitches fuel negated ((flag, !negated) :: items)

/-- The name of a group, up to the `>` after it. -/
def readName : Read Unit := do
  let s ← get
  let name := s.rest.takeWhile (· != '>')
  guard (name.head?.any isNameStart && name.all isNamePart && !s.names.contains name)
  set { s with rest := s.rest.drop name.length, names := name :: s.names }
  expect '>'

/-- The number of the next capturing group. -/
def nextCapture : Read Nat := do
  modify fun s => { s with captures := s.captures + 1 }
  return (← get).captures

/-- Whether blanks are skipped after some switches. -/
def verboseAfter (items : List (Flag × Bool)) (before : Bool) : Bool :=
  (items.lookup Flag.verbose).getD before

/-- What an opening parenthesis begins. -/
inductive Opening where
  | switches (items : List (Flag × Bool))
  | capture (index : Nat)
  | group (items : List (Flag × Bool))

/-- What an opening parenthesis begins; it comes next. Looking around is not
part of the language. -/
def readOpening : Read Opening := do
  bump
  skipSpace
  if (← bumpIf "?=") || (← bumpIf "?!") || (← bumpIf "?<=") || (← bumpIf "?<!") then failure
  else if (← bumpIf "?P<") || (← bumpIf "?<") then
    let index ← nextCapture
    readName
    return .capture index
  else if ← bumpIf "?" then
    let items ← readSwitches ((← get).rest.length + 1) false []
    if (← peek) == some ')' then
      bump
      guard (!items.isEmpty)
      return .switches items
    else
      bump
      return .group items
  else return .capture (← nextCapture)

/-- The element that a repetition applies to, and the elements before it. -/
def popRepeatable : List Syntax → Read (Syntax × List Syntax)
  | [] => failure
  | .switches _ :: _ => failure
  | s :: before => return (s, before)

def Primitive.toSyntax : Primitive → Syntax
  | .literal c isByte => .literal c isByte
  | .anchor a => .anchor a
  | .cls c => .cls c
  | .dot => .dot

/-- The alternatives up to a closing parenthesis or the end. The elements of
the current branch and the branches before it come with the last one first. -/
def readAlternatives : Nat → List Syntax → List Syntax → Read Syntax
  | 0, _, _ => failure
  | fuel + 1, items, branches => do
    skipSpace
    let some c ← peek |
      return .ofAlt ((Syntax.ofSeq items.reverse :: branches).reverse)
    match c with
    | ')' => return .ofAlt ((Syntax.ofSeq items.reverse :: branches).reverse)
    | '|' =>
      bump
      readAlternatives fuel [] (Syntax.ofSeq items.reverse :: branches)
    | '(' =>
      match ← readOpening with
      | .switches switched =>
        modify fun s => { s with verbose := verboseAfter switched s.verbose }
        readAlternatives fuel (.switches switched :: items) branches
      | .capture index =>
        let outer := (← get).verbose
        let body ← readAlternatives fuel [] []
        expect ')'
        modify fun s => { s with verbose := outer }
        readAlternatives fuel (.capture index body :: items) branches
      | .group switched =>
        let outer := (← get).verbose
        modify fun s => { s with verbose := verboseAfter switched s.verbose }
        let body ← readAlternatives fuel [] []
        expect ')'
        modify fun s => { s with verbose := outer }
        readAlternatives fuel (.group switched body :: items) branches
    | '[' =>
      let cls ← readBracketed fuel
      readAlternatives fuel (.cls cls :: items) branches
    | '?' | '*' | '+' =>
      let (body, before) ← popRepeatable items
      bump
      let minimal ← readLazy
      let (least, most) := if c == '?' then (0, some 1) else if c == '*' then (0, none) else (1, none)
      readAlternatives fuel (.rep least most (!minimal) body :: before) branches
    | '{' =>
      let (body, before) ← popRepeatable items
      let (least, most) ← readBounds
      guard ((← peek) == some '}')
      bumpSpace
      let minimal ← readLazy
      readAlternatives fuel (.rep least most (!minimal) body :: before) branches
    | _ =>
      let p ← readPrimitive
      readAlternatives fuel (p.toSyntax :: items) branches

/-- The pattern that a text is, if it is one and not too deep. -/
def Syntax.ofText? (text : List Char) : Option Syntax := do
  let (s, state) ← (readAlternatives (2 * text.length + 2) [] []).run ⟨text, false, 0, []⟩
  if state.rest.isEmpty && s.depth ≤ Syntax.maxDepth then some s else none

end ChatSieve.Pattern
