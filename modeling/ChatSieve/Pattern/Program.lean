import ChatSieve.Pattern.Node

/-!
# Matching

A pattern written out as a program for a machine that follows all its threads
through the text at once. Threads are kept in the order of preference, and of
two threads at one place in the program only the preferred one goes on. The
first match is the leftmost one, and among those the most preferred.
-/

namespace ChatSieve.Pattern

open ChatSieve.Text

inductive Inst where
  /-- take a character of the set -/
  | take (set : CodePoints)
  | look (l : Look)
  /-- note the place in a slot -/
  | note (slot : Nat)
  /-- go on at both places, the first one preferred -/
  | fork (first second : Nat)
  | accept

/-- How many instructions a pattern takes. -/
def Node.size : Node → Nat
  | .empty => 0
  | .points _ | .look _ => 1
  | .capture _ body => body.size + 2
  | .seq a b => a.size + b.size
  | .alt a b => a.size + b.size + 2
  | .rep 0 none _ body => body.size + 2
  | .rep least none _ body => least * body.size + 1
  | .rep least (some most) _ body => least * body.size + (most - least) * (body.size + 1)

def forkOf (greedy : Bool) (more done : Nat) : Inst :=
  if greedy then .fork more done else .fork done more

/-- `n` copies of a piece of code of a known size, one after the other. -/
def copies (size : Nat) (code : Nat → List Inst) : Nat → Nat → List Inst
  | 0, _ => []
  | n + 1, pc => code pc ++ copies size code n (pc + size)

/-- `n` copies each of which may be the last, all ending at `done`. -/
def optionals (greedy : Bool) (done size : Nat) (code : Nat → List Inst) :
    Nat → Nat → List Inst
  | 0, _ => []
  | n + 1, pc =>
    forkOf greedy (pc + 1) done :: (code (pc + 1) ++ optionals greedy done size code n (pc + 1 + size))

/-- The instructions of a pattern that begin at a place in the program. -/
def Node.code : Node → Nat → List Inst
  | .empty, _ => []
  | .points s, _ => [.take s]
  | .look l, _ => [.look l]
  | .capture index body, pc => .note (2 * index) :: (body.code (pc + 1) ++ [.note (2 * index + 1)])
  | .seq a b, pc => a.code pc ++ b.code (pc + a.size)
  | .alt a b, pc =>
    let second := pc + 1 + a.size + 1
    let done := second + b.size
    .fork (pc + 1) second :: (a.code (pc + 1) ++ .fork done done :: b.code second)
  | .rep least none greedy body, pc =>
    match least with
    | 0 =>
      let done := pc + body.size + 2
      forkOf greedy (pc + 1) done :: (body.code (pc + 1) ++ [forkOf greedy (pc + 1) done])
    | n + 1 =>
      let last := pc + n * body.size
      copies body.size body.code n pc ++ body.code last
        ++ [forkOf greedy last (last + body.size + 1)]
  | .rep least (some most) greedy body, pc =>
    let start := pc + least * body.size
    let done := start + (most - least) * (body.size + 1)
    copies body.size body.code least pc
      ++ optionals greedy done body.size body.code (most - least) start

abbrev Program := Array Inst

/-- The program that notes the whole match in the first two slots. -/
def Node.program (n : Node) : Program :=
  (.note 0 :: (n.code 1 ++ [.note 1, .accept])).toArray

def isAsciiWord (c : Char) : Bool := c.isAlphanum || c == '_'

/-- A place in a text: its number and the characters around it. -/
structure Place where
  index : Nat
  before : Option Char
  after : Option Char

/-- The test holds at a place. -/
def Look.holds (p : Place) : Look → Bool
  | .textStart => p.before.isNone
  | .textEnd => p.after.isNone
  | .lineStart => p.before.all (· == '\n')
  | .lineEnd => p.after.all (· == '\n')
  | .crlfStart =>
    p.before.isNone || p.before == some '\n' || (p.before == some '\r' && p.after != some '\n')
  | .crlfEnd =>
    p.after.isNone || p.after == some '\r' || (p.after == some '\n' && p.before != some '\r')
  | .wordEdge ascii => wordBefore ascii != wordAfter ascii
  | .noWordEdge ascii => wordBefore ascii == wordAfter ascii
  | .wordStart ascii => !wordBefore ascii && wordAfter ascii
  | .wordEnd ascii => wordBefore ascii && !wordAfter ascii
  | .wordStartHalf ascii => !wordBefore ascii
  | .wordEndHalf ascii => !wordAfter ascii
where
  isWordIn (ascii : Bool) (c : Char) : Bool := if ascii then isAsciiWord c else isWord c
  wordBefore (ascii : Bool) : Bool := p.before.any (isWordIn ascii)
  wordAfter (ascii : Bool) : Bool := p.after.any (isWordIn ascii)

/-- The places noted so far, the latest first. -/
abbrev Slots := List (Nat × Nat)

structure Thread where
  pc : Nat
  slots : Slots

/-- Follow threads at a place up to the instructions that take a character or
accept. Threads are treated in order and an instruction is entered once. Each
step enters an instruction, which leaves at most two threads to follow, or
drops a thread; that bounds the steps. -/
def settle (prog : Program) (here : Place) :
    Nat → List Thread → Array Bool → List Thread → List Thread
  | 0, _, _, ready => ready.reverse
  | _, [], _, ready => ready.reverse
  | fuel + 1, t :: todo, seen, ready =>
    if seen[t.pc]? == some false then
      let seen := seen.setIfInBounds t.pc true
      match prog[t.pc]? with
      | some (.fork a b) =>
        settle prog here fuel ({ t with pc := a } :: { t with pc := b } :: todo) seen ready
      | some (.note slot) =>
        settle prog here fuel (⟨t.pc + 1, (slot, here.index) :: t.slots⟩ :: todo) seen ready
      | some (.look l) =>
        if l.holds here then settle prog here fuel ({ t with pc := t.pc + 1 } :: todo) seen ready
        else settle prog here fuel todo seen ready
      | _ => settle prog here fuel todo seen (t :: ready)
    else settle prog here fuel todo seen ready

/-- The threads that go on over a character, and the slots of the first thread
that accepts; threads after that one are dropped. -/
def advance (prog : Program) (next : Option Char) : List Thread → List Thread × Option Slots
  | [] => ([], none)
  | t :: rest =>
    match prog[t.pc]? with
    | some .accept => ([], some t.slots)
    | some (.take set) =>
      let (threads, found) := advance prog next rest
      if next.any set.hasChar then ({ t with pc := t.pc + 1 } :: threads, found)
      else (threads, found)
    | _ => advance prog next rest

/-- The slots of the first match in the rest of a text. -/
def search (prog : Program) : List Char → Option Char → Nat → List Thread → Option Slots →
    Option Slots
  | rest, before, index, threads, found =>
    let seeds := if found.isNone then threads ++ [⟨0, []⟩] else threads
    let here : Place := ⟨index, before, rest.head?⟩
    let ready := settle prog here (2 * prog.size + seeds.length + 1) seeds
      (Array.replicate prog.size false) []
    let (threads, accepted) := advance prog rest.head? ready
    let found := accepted <|> found
    match rest with
    | [] => found
    | c :: rest =>
      if threads.isEmpty && found.isSome then found
      else search prog rest (some c) (index + 1) threads found

/-- The slots of the first match in a text. -/
def Program.find? (prog : Program) (text : List Char) : Option Slots :=
  search prog text none 0 [] none

end ChatSieve.Pattern
