import ChatSieve.Proofs.Expr.Parts

/-!
# Positions in expressions

An expression may hold the same part more than once. A position tells where a
part stands, and post-order says which of two positions a check reaches first:
the operands of an operation before the operation, and each operand with all
its parts before the next one.
-/

namespace ChatSieve

/-- The way to a part: the number of a child, then the number of a child of
this child, and so on. -/
abbrev Position := List Nat

namespace Position

/-- The ways part, and the first position is to the left. -/
inductive IsLeftOf : Position → Position → Prop
  | here {i j : Nat} (smaller : i < j) (q p : Position) : IsLeftOf (i :: q) (j :: p)
  | inside (i : Nat) {q p : Position} (left : IsLeftOf q p) : IsLeftOf (i :: q) (i :: p)

/-- The first position comes earlier in post-order: it is below the second one
or to the left of it. -/
def Precedes (q p : Position) : Prop := (p <+: q ∧ q ≠ p) ∨ q.IsLeftOf p

private theorem precedes_nil (i : Nat) (q : Position) : Precedes (i :: q) [] :=
  .inl ⟨List.nil_prefix, List.cons_ne_nil i q⟩

theorem Precedes.inside (i : Nat) {q p : Position} (before : q.Precedes p) :
    Precedes (i :: q) (i :: p) := by
  rcases before with ⟨below, other⟩ | left
  · refine .inl ⟨List.cons_prefix_cons.2 ⟨rfl, below⟩, ?_⟩
    intro same
    exact other (List.cons.inj same).2
  · exact .inr (.inside i left)

/-- One of two positions comes earlier. -/
theorem precedes_total (q p : Position) : q = p ∨ q.Precedes p ∨ p.Precedes q := by
  induction q generalizing p with
  | nil =>
    cases p with
    | nil => exact .inl rfl
    | cons j p => exact .inr (.inr (precedes_nil j p))
  | cons i q ih =>
    cases p with
    | nil => exact .inr (.inl (precedes_nil i q))
    | cons j p =>
      rcases Nat.lt_trichotomy i j with smaller | rfl | greater
      · exact .inr (.inl (.inr (.here smaller q p)))
      · rcases ih p with rfl | before | after
        · exact .inl rfl
        · exact .inr (.inl (before.inside i))
        · exact .inr (.inr (after.inside i))
      · exact .inr (.inr (.inr (.here greater p q)))

end Position

namespace Expr

/-- The expressions that one is made of directly, from left to right. -/
def children : Expr → List Expr
  | .list items => items
  | .unary _ x => [x]
  | .binary _ l r => [l, r]
  | .int _ | .string _ | .identifier _ | .pattern _ => []

/-- The part at a position. -/
def at? : Expr → Position → Option Expr
  | e, [] => some e
  | e, i :: p =>
    match e.children[i]? with
    | some c => at? c p
    | none => none

theorem at?_cons {e c : Expr} {i : Nat} (child : e.children[i]? = some c) (p : Position) :
    e.at? (i :: p) = c.at? p := by
  rw [at?, child]

theorem at?_cons_eq_some {e x : Expr} {i : Nat} {p : Position} (found : e.at? (i :: p) = some x) :
    ∃ c, e.children[i]? = some c ∧ c.at? p = some x := by
  rw [at?] at found
  split at found
  · exact ⟨_, ‹_›, found⟩
  · cases found

/-- What holds of an expression if it holds of its children holds of every
expression. -/
theorem induction_children {motive : Expr → Prop}
    (step : ∀ e, (∀ c ∈ e.children, motive c) → motive e) (e : Expr) : motive e := by
  induction e with
  | int n => exact step _ nofun
  | string s => exact step _ nofun
  | identifier name => exact step _ nofun
  | pattern p => exact step _ nofun
  | list items ih => exact step _ ih
  | unary op x ih => exact step _ (List.forall_mem_singleton.2 ih)
  | binary op l r left_ih right_ih =>
    exact step _ (List.forall_mem_cons.2 ⟨left_ih, List.forall_mem_singleton.2 right_ih⟩)

private theorem isPartOf_of_mem_children {x c e : Expr} (member : c ∈ e.children)
    (part : x.IsPartOf c) :
    x.IsPartOf e := by
  cases e with
  | list items => exact .item member part
  | unary op y =>
    obtain rfl := List.mem_singleton.1 member
    exact .operand op part
  | binary op l r =>
    rcases List.mem_cons.1 member with rfl | last
    · exact .left op r part
    · obtain rfl := List.mem_singleton.1 last
      exact .right op l part
  | int n => cases member
  | string s => cases member
  | identifier name => cases member
  | pattern p => cases member

/-- The parts of an expression are what stands at its positions. -/
theorem isPartOf_iff {x e : Expr} : x.IsPartOf e ↔ ∃ p, e.at? p = some x := by
  constructor
  · intro part
    have inside {c e : Expr} {i : Nat} (child : e.children[i]? = some c)
        (found : ∃ p, c.at? p = some x) : ∃ p, e.at? p = some x := by
      obtain ⟨p, at_p⟩ := found
      exact ⟨i :: p, (at?_cons child p).trans at_p⟩
    induction part with
    | self => exact ⟨[], rfl⟩
    | item member part ih =>
      obtain ⟨i, child⟩ := List.getElem?_of_mem member
      exact inside (e := .list _) child ih
    | operand op part ih => exact inside (i := 0) (by rfl) ih
    | left op r part ih => exact inside (i := 0) (by rfl) ih
    | right op l part ih => exact inside (i := 1) (by rfl) ih
  · rintro ⟨p, found⟩
    induction p generalizing e with
    | nil =>
      cases found
      exact .self _
    | cons i p ih =>
      obtain ⟨c, child, found⟩ := at?_cons_eq_some found
      exact isPartOf_of_mem_children (List.mem_of_getElem? child) (ih found)

end Expr

end ChatSieve
