import ChatSieve.Proofs.Expr.Typing
import ChatSieve.Proofs.Grammar.Derivation
import ChatSieve.Proofs.Token.Spacing

/-!
# Operands of one operator

One or more operands with the same operator between them: the lexemes of their
text, the tree that leans to the left, the levels that the operands take, the
type of the tree and its value. What holds of each of the operands is taken
to the whole of them, so that the whole may be an operand again.
-/

namespace ChatSieve

/-- The value is true where something holds, and false where it does not. -/
def Value.Decides (v : Value) (p : Prop) : Prop := ∃ b, v = .bool b ∧ (b = true ↔ p)

namespace Value.Decides

variable {v w : Value} {p q : Prop}

theorem not (decides : v.Decides p) : (unaryValue .not v).Decides (¬ p) := by
  obtain ⟨b, rfl, true_iff⟩ := decides
  exact ⟨!b, rfl, by simp [← true_iff]⟩

theorem and (left : v.Decides p) (right : w.Decides q) : (binaryValue .and v w).Decides (p ∧ q) := by
  obtain ⟨b, rfl, true_iff⟩ := left
  obtain ⟨c, rfl, true_iff'⟩ := right
  exact ⟨b && c, rfl, by simp [← true_iff, ← true_iff']⟩

theorem or (left : v.Decides p) (right : w.Decides q) : (binaryValue .or v w).Decides (p ∨ q) := by
  obtain ⟨b, rfl, true_iff⟩ := left
  obtain ⟨c, rfl, true_iff'⟩ := right
  exact ⟨b || c, rfl, by simp [← true_iff, ← true_iff']⟩

end Value.Decides

namespace Grammar
open Text Token

/-- One operand or more. -/
structure Operands (α : Type) where
  first : α
  others : List α

namespace Operands

variable {α : Type}

def toList (ops : Operands α) : List α := ops.first :: ops.others

theorem length_toList (ops : Operands α) : ops.toList.length = ops.others.length + 1 := rfl

/-- Where a blank or nothing follows, the text has these lexemes. -/
def LexesAs (text : String) (ws : List (List Char)) : Prop :=
  ∀ rest : List Char, (∀ c ∈ rest.head?, isBlank c) → lexemes (text.toList ++ rest) = ws ++ lexemes rest

/-- The lexemes of the operands with an operator between them. -/
def lexemes (op : List Char) (lexemesOf : α → List (List Char)) (ops : Operands α) : List (List Char) :=
  lexemesOf ops.first ++ ops.others.flatMap fun x => op :: lexemesOf x

/-- Operands keep their lexemes where blanks stand around the operators. -/
theorem lexesAs_intercalate {op : List Char} (operator : op ∈ operatorTexts) {separator : String}
    (spaced : separator.toList = ' ' :: (op ++ [' '])) {textOf : α → String}
    {lexemesOf : α → List (List Char)} (each : ∀ x, LexesAs (textOf x) (lexemesOf x))
    (ops : Operands α) :
    LexesAs (separator.intercalate (ops.toList.map textOf)) (ops.lexemes op lexemesOf) := by
  obtain ⟨x, xs⟩ := ops
  intro rest ends
  induction xs generalizing x with
  | nil => simpa [toList, lexemes] using each x rest ends
  | cons y ys ih =>
    have blank_next (s : List Char) : ∀ c ∈ (' ' :: s).head?, isBlank c := by
      rintro c ⟨⟩
      decide
    have blank (s : List Char) : Token.lexemes (' ' :: s) = Token.lexemes s := lexemes_blank (by decide) s
    have others := ih y
    simp only [toList, List.map_cons, lexemes] at others ⊢
    rw [String.intercalate_cons_cons, String.toList_append, String.toList_append, spaced]
    simp only [List.append_assoc, List.cons_append, List.nil_append, List.flatMap_cons]
    rw [each x _ (blank_next _), blank, lexemes_operator operator, blank, others]
    · simp
    · rintro c ⟨⟩
      decide

/-- An expression with more operands behind it. -/
def extend (op : Kind) (treeOf : α → Expr) (xs : List α) (e : Expr) : Expr :=
  xs.foldl (fun e x => .binary op e (treeOf x)) e

/-- The tree of the operands leans to the left. -/
def tree (op : Kind) (treeOf : α → Expr) (ops : Operands α) : Expr :=
  extend op treeOf ops.others (treeOf ops.first)

section
variable {treeOf : α → Expr}

/-- Operands that are true or false make up a truth value. -/
theorem typeIn_extend {decls : Declarations} {op : Kind} (logical : op.isLogical)
    (each : ∀ x, (treeOf x).typeIn decls = .ok .bool) (xs : List α) {e : Expr}
    (typed : e.typeIn decls = .ok .bool) : (extend op treeOf xs e).typeIn decls = .ok .bool := by
  induction xs generalizing e with
  | nil => exact typed
  | cons x xs ih =>
    refine ih (Expr.typeIn_binary.2 ⟨_, _, typed, each x, ?_⟩)
    cases op <;> first | rfl | cases logical

theorem typeIn_tree {decls : Declarations} {op : Kind} (logical : op.isLogical)
    (each : ∀ x, (treeOf x).typeIn decls = .ok .bool) (ops : Operands α) :
    (ops.tree op treeOf).typeIn decls = .ok .bool :=
  typeIn_extend logical each ops.others (each ops.first)

variable {vars : Bindings} {holds : α → Prop}

private theorem eval_extend_and (each : ∀ x, ((treeOf x).eval vars).Decides (holds x))
    (xs : List α) {e : Expr}
    {p : Prop} (before : (e.eval vars).Decides p) :
    ((extend .and treeOf xs e).eval vars).Decides (p ∧ ∀ x ∈ xs, holds x) := by
  induction xs generalizing e p with
  | nil => simpa [extend] using before
  | cons x xs ih =>
    rw [List.forall_mem_cons, ← and_assoc]
    exact ih (before.and (each x))

/-- A conjunction is true where all operands are. -/
theorem eval_tree_and (each : ∀ x, ((treeOf x).eval vars).Decides (holds x)) (ops : Operands α) :
    ((ops.tree .and treeOf).eval vars).Decides (∀ x ∈ ops.toList, holds x) := by
  rw [toList, List.forall_mem_cons]
  exact eval_extend_and each ops.others (each ops.first)

private theorem eval_extend_or (each : ∀ x, ((treeOf x).eval vars).Decides (holds x)) (xs : List α)
    {e : Expr}
    {p : Prop} (before : (e.eval vars).Decides p) :
    ((extend .or treeOf xs e).eval vars).Decides (p ∨ ∃ x ∈ xs, holds x) := by
  induction xs generalizing e p with
  | nil => simpa [extend] using before
  | cons x xs ih =>
    simp only [List.mem_cons, exists_eq_or_imp, ← or_assoc]
    exact ih (before.or (each x))

/-- A disjunction is true where one of the operands is. -/
theorem eval_tree_or (each : ∀ x, ((treeOf x).eval vars).Decides (holds x)) (ops : Operands α) :
    ((ops.tree .or treeOf).eval vars).Decides (∃ x ∈ ops.toList, holds x) := by
  simp only [toList, List.mem_cons, exists_eq_or_imp]
  exact eval_extend_or each ops.others (each ops.first)

end

/-- The levels that the operands of a chain take, the first of them behind some
operators. -/
def need (needOf : α → Nat) : Nat → List α → Nat
  | _, [] => 0
  | k, x :: xs => max (k + needOf x) (need needOf (k + 1) xs)

/-- Each operand takes a level for each operator before it. -/
theorem need_le_iff {needOf : α → Nat} {k : Nat} {xs : List α} {bound : Nat} :
    need needOf k xs ≤ bound ↔ ∀ i x, xs[i]? = some x → k + i + needOf x ≤ bound := by
  induction xs generalizing k with
  | nil => simp [need]
  | cons y ys ih =>
    rw [need, Nat.max_le, ih]
    constructor
    · rintro ⟨first, others⟩ (_ | i) x found
      · obtain rfl : y = x := by simpa using found
        exact first
      · have next := others i x (by simpa using found)
        omega
    · intro all
      refine ⟨all 0 y rfl, fun i x found => ?_⟩
      have next := all (i + 1) x (by simpa using found)
      omega

/-- Where the operands take none, the operators are counted. -/
theorem need_of_free {needOf : α → Nat} (free : ∀ x, needOf x = 0) (k : Nat) (x : α) (xs : List α) :
    need needOf k (x :: xs) = k + xs.length := by
  induction xs generalizing k x with
  | nil => simp [need, free]
  | cons y ys ih =>
    rw [need, ih, free, List.length_cons]
    omega

end Operands

section
variable {α : Type} {l : Link} {treeOf : α → Expr} {needOf : α → Nat}

/-- A chain goes on with any operands. -/
theorem Derives.extend {t : Token} {tokensOf : α → List Token} (joins : l.joins t.kind)
    (each : ∀ x, Derives l.operandPhrase (tokensOf x) (treeOf x) (needOf x)) (xs : List α) {k n : Nat}
    {ts : List Token} {e : Expr} (before : Derives (.chain l k) ts e n) :
    Derives (.chain l (k + xs.length)) (ts ++ xs.flatMap fun x => t :: tokensOf x)
      (Operands.extend t.kind treeOf xs e) (max n (Operands.need needOf (k + 1) xs)) := by
  induction xs generalizing k n ts e with
  | nil => simpa [Operands.extend, Operands.need] using before
  | cons x xs ih =>
    have all := ih (.nextOperand t before joins (each x))
    rw [Nat.max_assoc, Nat.add_right_comm, Nat.add_assoc] at all
    simpa [Operands.extend, Operands.need] using all

/-- Operands with the operator between them are a chain. -/
theorem Derives.operands {decls : Declarations} {op : List Char} {kind : Kind}
    {lexemesOf : α → List (List Char)} (is : (ofLexeme decls op).kind = kind) (joins : l.joins kind)
    (each : ∀ x, Derives l.operandPhrase ((lexemesOf x).map (ofLexeme decls)) (treeOf x) (needOf x))
    (ops : Operands α) :
    Derives (.chain l ops.others.length) ((ops.lexemes op lexemesOf).map (ofLexeme decls))
      (ops.tree kind treeOf) (Operands.need needOf 0 ops.toList) := by
  subst is
  have chain := Derives.extend joins each ops.others (.firstOperand (each ops.first))
  rw [Nat.zero_add, ← Nat.zero_add (needOf ops.first)] at chain
  rw [Operands.lexemes, List.map_append, List.map_flatMap]
  exact chain

end

end Grammar

end ChatSieve
