import ChatSieve.Proofs.Expr.Parts
import ChatSieve.Proofs.Grammar.Completeness

/-!
# The depth of parsed trees

The levels of the parser bound the depth of its trees, but less tightly than
they seem to. A chain has all its levels left again after its first operand,
so the tree of this operand, as deep as it may be, comes to stand under all
operators of the chain. With `n` levels a path can pass `deepest n` lists and
chained operators (`Runs.levels_le`).
-/

namespace ChatSieve

/-- What an operator adds to the depth of a tree: a chained one is a level, a
comparison or negation is none. -/
def Token.Kind.addedLevels (op : Token.Kind) : Nat := if op.isArithmetic || op.isLogical then 1 else 0

namespace Expr

/-- Some path from the root to a leaf passes this many lists and chained
operators. -/
inductive Passes : Expr → Nat → Prop
  | int (n : Int64) : Passes (.int n) 0
  | string (s : String) : Passes (.string s) 0
  | identifier (name : String) : Passes (.identifier name) 0
  | pattern (p : Pattern) : Passes (.pattern p) 0
  | emptyList : Passes (.list []) 1
  | item {e : Expr} {es : List Expr} {k : Nat} (member : e ∈ es) (path : Passes e k) :
      Passes (.list es) (k + 1)
  | operand {op : Token.Kind} {x : Expr} {k : Nat} (path : Passes x k) : Passes (.unary op x) k
  | left {op : Token.Kind} {l r : Expr} {k : Nat} (path : Passes l k) :
      Passes (.binary op l r) (k + op.addedLevels)
  | right {op : Token.Kind} {l r : Expr} {k : Nat} (path : Passes r k) :
      Passes (.binary op l r) (k + op.addedLevels)

mutual

/-- The most lists and chained operators that a path passes. -/
def levels : Expr → Nat
  | .int _ | .string _ | .identifier _ | .pattern _ => 0
  | .list items => mostLevels items + 1
  | .unary _ x => levels x
  | .binary op l r => max (levels l) (levels r) + op.addedLevels

def mostLevels : List Expr → Nat
  | [] => 0
  | e :: es => max (levels e) (mostLevels es)

end

private theorem mostLevels_le_iff {es : List Expr} {bound : Nat} :
    mostLevels es ≤ bound ↔ ∀ e ∈ es, e.levels ≤ bound := by
  induction es with
  | nil => simp [mostLevels]
  | cons e es ih => rw [mostLevels, Nat.max_le, ih, List.forall_mem_cons]

private theorem exists_mostLevels {es : List Expr} (some : es ≠ []) :
    ∃ e ∈ es, e.levels = mostLevels es := by
  induction es with
  | nil => exact absurd rfl some
  | cons e es ih =>
    by_cases last : es = []
    · subst last
      exact ⟨e, List.mem_cons_self, by simp [mostLevels]⟩
    · obtain ⟨f, member, most⟩ := ih last
      by_cases deeper : e.levels ≤ mostLevels es
      · exact ⟨f, List.mem_cons_of_mem _ member, by rw [most, mostLevels, Nat.max_eq_right deeper]⟩
      · exact ⟨e, List.mem_cons_self, by rw [mostLevels, Nat.max_eq_left (by omega)]⟩

private theorem Passes.le_levels {e : Expr} {k : Nat} (path : e.Passes k) : k ≤ e.levels := by
  induction path with
  | item member path ih =>
    have most := mostLevels_le_iff.1 (Nat.le_refl _) _ member
    rw [levels]
    omega
  | operand path ih => exact ih
  | left path ih =>
    rw [levels]
    omega
  | right path ih =>
    rw [levels]
    omega
  | emptyList => exact Nat.le_refl 1
  | _ => exact Nat.zero_le _

theorem passes_levels (e : Expr) : e.Passes e.levels := by
  induction e with
  | int n => exact .int n
  | string s => exact .string s
  | identifier name => exact .identifier name
  | pattern p => exact .pattern p
  | list items ih =>
    by_cases none : items = []
    · subst none
      exact .emptyList
    · obtain ⟨e, member, most⟩ := exists_mostLevels none
      rw [levels, ← most]
      exact .item member (ih e member)
  | unary op x ih => exact .operand ih
  | binary op l r left right =>
    rw [levels]
    rcases Nat.le_total l.levels r.levels with less | more
    · rw [Nat.max_eq_right less]
      exact .right right
    · rw [Nat.max_eq_left more]
      exact .left left

theorem passes_le_iff {e : Expr} {bound : Nat} : (∀ k, e.Passes k → k ≤ bound) ↔ e.levels ≤ bound :=
  ⟨fun all => all _ e.passes_levels, fun most _ path => Nat.le_trans path.le_levels most⟩

end Expr

namespace Grammar
open Token

section
variable (base : Nat)

/-- The depth of the deepest value with some levels left: a list of such a
value one level down, or the deepest group. The values without a level have
the depth `base`. -/
def deepestValue : Nat → Nat
  | 0 => base
  | n + 1 => deepestValue n + max 1 (3 * n)

/-- The depth of the deepest expression: each of its three chains puts all its
operators on the first operand. -/
def deepest (n : Nat) : Nat := deepestValue base n + 3 * n

private theorem deepestValue_le_of_le {n m : Nat} (less : n ≤ m) :
    deepestValue base n ≤ deepestValue base m := by
  induction less with
  | refl => exact Nat.le_refl _
  | step less ih => exact Nat.le_trans ih (Nat.le_add_right _ _)

theorem deepest_le_of_le {base n m : Nat} (less : n ≤ m) : deepest base n ≤ deepest base m := by
  have value := deepestValue_le_of_le base less
  simp only [deepest]
  omega

private theorem deepestValue_succ (n : Nat) :
    2 * deepestValue base (n + 1) = 2 * base + 2 + 3 * n * (n + 1) := by
  induction n with
  | zero =>
    simp only [deepestValue]
    omega
  | succ n ih =>
    rw [deepestValue, Nat.mul_add, ih, Nat.max_eq_right (by omega)]
    simp only [Nat.mul_add, Nat.add_mul]
    omega

/-- The depths grow with the square of the levels. -/
theorem deepest_succ (n : Nat) :
    2 * deepest base (n + 1) = 2 * base + 2 + 3 * (n + 1) * (n + 2) := by
  rw [deepest, Nat.mul_add, deepestValue_succ]
  simp only [Nat.mul_add, Nat.add_mul]
  omega

/-- The depth of the deepest operand of a chain. -/
def Link.deepestOperand : Link → Nat → Nat
  | .arithmetic, n => deepestValue base n
  | .and, n => deepestValue base n + n
  | .or, n => deepestValue base n + 2 * n

private theorem Link.deepestOperand_le_succ (l : Link) (n : Nat) :
    l.deepestOperand base n ≤ l.deepestOperand base (n + 1) := by
  cases l <;> simp only [deepestOperand, deepestValue] <;> omega

/-- How deep the tree of a task can be with some levels left. -/
def Task.Within (n : Nat) : Task → Expr → Prop
  | .value, e => e.levels ≤ deepestValue base n
  | .group, e => e.levels ≤ deepest base n
  | .list, e => e.levels ≤ deepestValue base n + 1
  | .items done, e =>
    (∀ f ∈ done, f.levels ≤ deepestValue base n) → e.levels ≤ deepestValue base n + 1
  | .negation, e => e.levels ≤ deepestValue base n + n
  | .chain l, e => e.levels ≤ l.deepestOperand base n + n
  | .tail l left, e => e.levels ≤ max left.levels (l.deepestOperand base n) + n

end

private theorem Link.joins_addedLevels {l : Link} {op : Kind} (joins : l.joins op) :
    op.addedLevels = 1 := by
  cases l with
  | arithmetic => simp [Kind.addedLevels, show op.isArithmetic from joins]
  | and => obtain rfl := eq_of_beq joins; rfl
  | or => obtain rfl := eq_of_beq joins; rfl

private theorem comparison_addedLevels {op : Kind} (compares : op.isComparison) :
    op.addedLevels = 0 := by
  cases op <;> first | rfl | cases compares

theorem Task.Within.operand {base n : Nat} {l : Link} {e : Expr}
    (within : l.operandTask.Within base n e) : e.levels ≤ l.deepestOperand base n := by
  cases l with
  | arithmetic => exact within
  | and => exact within
  | or =>
    have chain : e.levels ≤ deepestValue base n + n + n := within
    simp only [Link.deepestOperand]
    omega

theorem Denotes.levels {t : Token} {e : Expr} (denotes : Denotes t e) : e.levels = 0 := by
  cases denotes <;> rfl

private theorem levels_list_le {items : List Expr} {bound : Nat}
    (all : ∀ e ∈ items, e.levels ≤ bound) :
    (Expr.list items).levels ≤ bound + 1 := by
  have most := Expr.mostLevels_le_iff.2 all
  rw [Expr.levels]
  omega

/-- No tree of the parser is deeper. Where the levels end, there is an empty
list instead of one that is too deep, so that trees with an error are deeper
by one. -/
theorem Runs.levels_le {n : Nat} {task : Task} {s s' : State} {e : Expr}
    (run : Runs n task s e s') {base : Nat} (clean : 1 ≤ base ∨ s'.error = none) :
    task.Within base n e := by
  induction run with
  | valueMissing => exact Nat.zero_le _
  | @openGroup n rest err e s a inside ih =>
    have group : e.levels ≤ deepestValue base n + 3 * n := ih clean
    simp only [Task.Within, deepestValue]
    omega
  | groupTooDeep => exact Nat.zero_le _
  | openList a inside ih =>
    have list := ih clean
    simp only [Task.Within, deepestValue] at list ⊢
    omega
  | listTooDeep => exact clean.resolve_right (State.fail_error_ne_none _ _)
  | token t denotes =>
    rw [Task.Within, denotes.levels]
    exact Nat.zero_le _
  | noValue => exact Nat.zero_le _
  | groupClosed a inside ih =>
    have chain := ih clean
    simp only [Task.Within, Link.deepestOperand, deepest] at chain ⊢
    omega
  | groupUnclosed inside unclosed ih =>
    have chain := ih (.inl (clean.resolve_right (State.fail_error_ne_none _ _)))
    simp only [Task.Within, Link.deepestOperand, deepest] at chain ⊢
    omega
  | listUnclosed => exact levels_list_le (List.forall_mem_nil _)
  | listClosed => exact levels_list_le (List.forall_mem_nil _)
  | firstItem present item others item_ih others_ih =>
    have first := item_ih (clean.imp_right fun none => (others.sound none).1)
    exact others_ih clean fun f member => List.mem_singleton.1 member ▸ first
  | itemsClosed => exact fun done => levels_list_le fun e member => done e (List.mem_reverse.1 member)
  | nextItem a item others item_ih others_ih =>
    have next := item_ih (clean.imp_right fun none => (others.sound none).1)
    exact fun done => others_ih clean (List.forall_mem_cons.2 ⟨next, done⟩)
  | itemsUnclosed => exact fun _ => levels_list_le (List.forall_mem_nil _)
  | assertion positive condition ih => exact ih clean
  | denial a condition ih => exact ih clean
  | chain first others first_ih others_ih =>
    have operand := (first_ih (clean.imp_right fun none => (others.sound none).1)).operand
    have whole := others_ih clean
    rw [Task.Within, Nat.max_eq_right operand] at whole
    exact whole
  | chainEnds =>
    rw [Task.Within]
    omega
  | chainStops =>
    rw [Task.Within]
    omega
  | @join n _ _ _ _ l _ _ _ t joins operand others operand_ih others_ih =>
    have next := (operand_ih (clean.imp_right fun none => (others.sound none).1)).operand
    have whole := others_ih clean
    have larger := l.deepestOperand_le_succ base n
    rw [Task.Within] at whole ⊢
    rw [Expr.levels, Link.joins_addedLevels joins] at whole
    omega
  | joinTooDeep =>
    rw [Task.Within]
    omega
  | compare t compares operand once ih =>
    have right := ih clean
    simp only [Task.Within, Link.deepestOperand] at right ⊢
    rw [Expr.levels, comparison_addedLevels compares]
    omega
  | compareAgain t compares operand again ih =>
    have right := ih (.inl (clean.resolve_right (State.fail_error_ne_none _ _)))
    simp only [Task.Within, Link.deepestOperand] at right ⊢
    rw [Expr.levels, comparison_addedLevels compares]
    omega
  | strayToken =>
    rw [Task.Within]
    omega

/-- The depth of what parses, and of what does not. -/
theorem parseTokens_levels_le (ts : List Token) : (parseTokens ts).expr.levels ≤ deepest 1 maxDepth := by
  obtain ⟨s, run, -⟩ := parseTokens_runs ts
  have bound := run.levels_le (.inl (Nat.le_refl 1))
  simp only [Task.Within, Link.deepestOperand] at bound
  rw [deepest]
  omega

/-- The depth of an expression that needs some levels. -/
theorem Derives.levels_le {ts : List Token} {e : Expr} {need : Nat}
    (derives : Derives .expression ts e need) : e.levels ≤ deepest 0 need := by
  have parsed : (level need).expression ⟨ts ++ [], none⟩ = (e, ⟨[], none⟩) :=
    (derives.parses need [] (Phrase.before_nil _)).1 (Nat.le_refl need)
  have run := (level_follows need).chain .or ⟨ts ++ [], none⟩
  change Runs need (.chain .or) _ ((level need).expression _).1 ((level need).expression _).2 at run
  rw [parsed] at run
  have bound := run.levels_le (.inr rfl : 1 ≤ 0 ∨ _)
  simp only [Task.Within, Link.deepestOperand] at bound
  rw [deepest]
  omega

end Grammar

end ChatSieve
