import ChatSieve.Pattern.Reader
import ChatSieve.Text.Word
import ChatSieve.Unicode.CaseFolding
import ChatSieve.Unicode.Script

/-!
# What a pattern means

A pattern with its switches carried out: every class is a set of code points,
every place a test on the characters around it. A pattern may name a class that
does not exist, or be able to match half a character where characters have been
switched off; it then has no meaning.
-/

namespace ChatSieve.Pattern

open ChatSieve.Text

/-- A test on the characters before and after a place. -/
inductive Look where
  | textStart | textEnd
  | lineStart | lineEnd
  | crlfStart | crlfEnd
  | wordEdge (ascii : Bool)
  | noWordEdge (ascii : Bool)
  | wordStart (ascii : Bool)
  | wordEnd (ascii : Bool)
  | wordStartHalf (ascii : Bool)
  | wordEndHalf (ascii : Bool)
  deriving DecidableEq, Repr

/-- The meaning of a pattern. -/
inductive Node where
  | empty
  | points (set : CodePoints)
  | look (l : Look)
  | capture (index : Nat) (body : Node)
  | seq (first second : Node)
  | alt (first second : Node)
  /-- `body` at least `least` and at most `most` times -/
  | rep (least : Nat) (most : Option Nat) (greedy : Bool) (body : Node)
  deriving Inhabited

/-- The switches in force. -/
structure Switches where
  caseless : Bool
  multiLine : Bool
  dotAll : Bool
  swapGreed : Bool
  unicode : Bool
  crlf : Bool

namespace Switches

def initial (caseless : Bool) : Switches := ⟨caseless, false, false, false, true, false⟩

def change (s : Switches) : Flag × Bool → Switches
  | (.caseless, on) => { s with caseless := on }
  | (.multiLine, on) => { s with multiLine := on }
  | (.dotAll, on) => { s with dotAll := on }
  | (.swapGreed, on) => { s with swapGreed := on }
  | (.unicode, on) => { s with unicode := on }
  | (.crlf, on) => { s with crlf := on }
  | (.verbose, _) => s

end Switches

/-- The ASCII characters of a name in lower case, without separators. -/
def bareName (name : List Char) : String :=
  String.ofList ((name.filter fun c => c.toNat < 128 && c != ' ' && c != '_' && c != '-').map
    Char.toLower)

/-- A name in lower case, without separators and without a leading `is`, which
is kept before a single `c`. -/
def looseName (name : String) : String :=
  match name.toList with
  | a :: b :: rest =>
    if a.toLower == 'i' && b.toLower == 's' then
      if bareName rest == "c" then "isc" else bareName rest
    else bareName (a :: b :: rest)
  | short => bareName short

/-- The set that a property stands for. Only general categories, scripts and the
binary properties of `Unicode.Property` are known. `Age`, `Script_Extensions`,
the properties for breaks and the rest of the binary ones (`Changes_When_..`,
`Grapheme_Base`, `Other_..` and the like) are not, and patterns that name them are
taken for patterns without a meaning. -/
def PropertyQuery.points? : PropertyQuery → Option CodePoints
  | .named name =>
    let n := looseName name
    let property := if n == "cf" || n == "sc" || n == "lc" then none else Unicode.Property.points? n
    property <|> Unicode.Category.points? n <|> Unicode.Script.points? n
  | .valued name value =>
    let v := looseName value
    match looseName name with
    | "gc" | "generalcategory" => Unicode.Category.points? v
    | "sc" | "script" => Unicode.Script.points? v
    | _ => none

def asciiOnly (s : CodePoints) : Bool := s.all (·.2 < 128)

/-- The two cases of every ASCII letter in a set. -/
def foldAscii (s : CodePoints) : CodePoints :=
  let inner (lo hi : Nat) := s.filterMap fun iv =>
    if max iv.1 lo ≤ min iv.2 hi then some (max iv.1 lo, min iv.2 hi) else none
  CodePoints.normal (s ++ (inner 0x41 0x5A).map (fun iv => (iv.1 + 32, iv.2 + 32))
    ++ (inner 0x61 0x7A).map (fun iv => (iv.1 - 32, iv.2 - 32)))

/-- A set with the characters that differ from its own in case only, where case
does not count. -/
def foldIn (w : Switches) (s : CodePoints) : CodePoints :=
  if !w.caseless then s else if w.unicode then Unicode.foldCase s else foldAscii s

def negateIf (negated : Bool) (s : CodePoints) : CodePoints :=
  if negated then CodePoints.complement s else s

/-- The set of a class with a letter of its own. -/
def LetterClass.points (unicode : Bool) : LetterClass → CodePoints
  | .digit => if unicode then Unicode.Category.decimalNumber else [(0x30, 0x39)]
  | .space => if unicode then blankPoints else [(0x09, 0x0D), (0x20, 0x20)]
  | .word =>
    if unicode then wordPoints else [(0x30, 0x39), (0x41, 0x5A), (0x5F, 0x5F), (0x61, 0x7A)]

namespace CharClass

mutual

/-- The set that a class stands for. Where characters are switched off, it is
made of bytes below 128 and of sets that the brackets around may still cut. -/
def points? (w : Switches) : CharClass → Option CodePoints
  | .range lo hi =>
    if w.unicode || hi.toNat < 128 then some [(lo.toNat, hi.toNat)] else none
  | .letter kind negated =>
    if !w.unicode && negated then none
    else some (negateIf negated (kind.points w.unicode))
  | .named set negated => some (negateIf negated (foldIn w set))
  | .property query negated =>
    if w.unicode then query.points?.map fun set => negateIf negated (foldIn w set) else none
  | .bracketed body negated =>
    (points? w body).map fun set => negateIf negated (foldIn w set)
  | .union items => pointsAll? w items
  | .op kind left right => do
    let l := foldIn w (← points? w left)
    let r := foldIn w (← points? w right)
    match kind with
    | .inter => return CodePoints.inter l r
    | .diff => return CodePoints.diff l r
    | .symmDiff => return CodePoints.symmDiff l r

def pointsAll? (w : Switches) : List CharClass → Option CodePoints
  | [] => some []
  | c :: cs => do
    let s ← points? w c
    let t ← pointsAll? w cs
    return s ++ t

end

end CharClass

/-! ## Patterns -/

/-- The set of a class by itself. Where characters are switched off it may not
match half of one. -/
def classNode (w : Switches) (c : CharClass) : Option Node := do
  let set ← c.points? w
  if w.unicode || asciiOnly set then some (.points set) else none

def literalNode (w : Switches) (c : Char) (isByte : Bool) : Option Node :=
  let own : CodePoints := [(c.toNat, c.toNat)]
  if w.unicode then some (.points (foldIn w own))
  else if isByte && 128 ≤ c.toNat then none
  else some (.points (if c.toNat < 128 then foldIn w own else own))

def dotNode (w : Switches) : Option Node :=
  if !w.unicode then none
  else if w.dotAll then some (.points CodePoints.full)
  else if w.crlf then some (.points [(0, 9), (11, 12), (14, CodePoints.top)])
  else some (.points [(0, 9), (11, CodePoints.top)])

def anchorLook (w : Switches) : Anchor → Look
  | .lineStart => if w.multiLine then (if w.crlf then .crlfStart else .lineStart) else .textStart
  | .lineEnd => if w.multiLine then (if w.crlf then .crlfEnd else .lineEnd) else .textEnd
  | .textStart => .textStart
  | .textEnd => .textEnd
  | .wordEdge => .wordEdge (!w.unicode)
  | .noWordEdge => .noWordEdge (!w.unicode)
  | .wordStart => .wordStart (!w.unicode)
  | .wordEnd => .wordEnd (!w.unicode)
  | .wordStartHalf => .wordStartHalf (!w.unicode)
  | .wordEndHalf => .wordEndHalf (!w.unicode)

/-- It can match nothing but the empty text. -/
def Node.onlyEmpty : Node → Bool
  | .empty | .look _ => true
  | .points _ => false
  | .capture _ body => body.onlyEmpty
  | .seq a b | .alt a b => a.onlyEmpty && b.onlyEmpty
  | .rep _ most _ body => most == some 0 || body.onlyEmpty

/-- A repetition. What matches only the empty text is not repeated, and what is
repeated once stands for itself. -/
def Node.repeated (least : Nat) (most : Option Nat) (greedy : Bool) (body : Node) : Node :=
  let (least, most) :=
    if body.onlyEmpty then (min least 1, some (min (most.getD 1) 1)) else (least, most)
  if most == some 0 then .empty
  else if least == 1 && most == some 1 then body
  else .rep least most greedy body

mutual

/-- The meaning of a pattern under some switches, and the switches after it. -/
def Syntax.meaning? (w : Switches) : Syntax → Option (Node × Switches)
  | .empty => some (.empty, w)
  | .switches items => some (.empty, items.foldl Switches.change w)
  | .literal c isByte => (literalNode w c isByte).map (·, w)
  | .dot => (dotNode w).map (·, w)
  | .anchor a => some (.look (anchorLook w a), w)
  | .cls c => (classNode w c).map (·, w)
  | .capture index body => do
    let (node, _) ← Syntax.meaning? w body
    return (.capture index node, w)
  | .group items body => do
    let (node, _) ← Syntax.meaning? (items.foldl Switches.change w) body
    return (node, w)
  | .rep least most greedy body => do
    let (node, w') ← Syntax.meaning? w body
    return (.repeated least most (greedy != w.swapGreed) node, w')
  | .seq items => Syntax.seqMeaning? w items
  | .alt branches => Syntax.altMeaning? w branches

def Syntax.seqMeaning? (w : Switches) : List Syntax → Option (Node × Switches)
  | [] => some (.empty, w)
  | s :: ss => do
    let (first, w') ← Syntax.meaning? w s
    let (rest, w'') ← Syntax.seqMeaning? w' ss
    return (.seq first rest, w'')

def Syntax.altMeaning? (w : Switches) : List Syntax → Option (Node × Switches)
  | [] => some (.empty, w)
  | s :: ss => do
    let (first, w') ← Syntax.meaning? w s
    if ss.isEmpty then return (first, w')
    let (rest, w'') ← Syntax.altMeaning? w' ss
    return (.alt first rest, w'')

end

/-! ## Size -/

/-- About how many bytes a set takes once compiled. -/
def pointsWeight (s : CodePoints) : Nat :=
  if asciiOnly s then 32 + (if s.length ≤ 1 then 0 else 8 * s.length) else 64 * s.length + 64

/-- About how many bytes a pattern takes once its repetitions are written out.
This is an estimate of the size of its automaton, which shares and splits sets in
ways that are not followed here. It decides only whether a pattern is too large,
and is off on both sides: `[a-z]{300000}` passes and `é{100000}` does not, while
by the size of the automaton it is the other way round. -/
def Node.weight : Node → Nat
  | .empty => 32
  | .points s => pointsWeight s
  | .look _ => 32
  | .capture _ body => body.weight + 64
  | .seq a b => a.weight + b.weight
  | .alt a b => a.weight + b.weight + 40
  | .rep least none _ body => max least 1 * body.weight + 72
  | .rep least (some most) _ body =>
    least * body.weight + (most - least) * (body.weight + 40) + 32

/-- The most that a pattern may take. -/
def maxWeight : Nat := 10 * 1024 * 1024

/-- The meaning of a text as a pattern, if it is one that is not too large. -/
def Node.ofText? (caseless : Bool) (text : List Char) : Option Node := do
  let s ← Syntax.ofText? text
  let (node, _) ← s.meaning? (Switches.initial caseless)
  if node.weight ≤ maxWeight then some node else none

end ChatSieve.Pattern
