import ChatSieve.Expr

/-!
# The parts of expressions

Induction over expressions whose items and operands are expressions, and the
expressions that one is made of.
-/

namespace ChatSieve.Expr

/-- What holds of an expression if it holds of its items or operands holds of
every expression. -/
@[induction_eliminator, elab_as_elim]
theorem induction {motive : Expr → Prop}
    (int : ∀ n, motive (.int n))
    (string : ∀ s, motive (.string s))
    (identifier : ∀ name, motive (.identifier name))
    (pattern : ∀ p, motive (.pattern p))
    (list : ∀ items, (∀ e ∈ items, motive e) → motive (.list items))
    (unary : ∀ op x, motive x → motive (.unary op x))
    (binary : ∀ op l r, motive l → motive r → motive (.binary op l r)) (e : Expr) : motive e :=
  @Expr.rec motive (fun items => ∀ e ∈ items, motive e) int string identifier pattern list unary
    binary (List.forall_mem_nil _) (fun _ _ first others => List.forall_mem_cons.2 ⟨first, others⟩) e

/-- The first expression is the second one or stands somewhere in it. -/
inductive IsPartOf : Expr → Expr → Prop
  | self (e : Expr) : IsPartOf e e
  | item {e f : Expr} {es : List Expr} (member : f ∈ es) (part : IsPartOf e f) :
      IsPartOf e (.list es)
  | operand {e f : Expr} (op : Token.Kind) (part : IsPartOf e f) : IsPartOf e (.unary op f)
  | left {e l : Expr} (op : Token.Kind) (r : Expr) (part : IsPartOf e l) : IsPartOf e (.binary op l r)
  | right {e r : Expr} (op : Token.Kind) (l : Expr) (part : IsPartOf e r) : IsPartOf e (.binary op l r)

theorem IsPartOf.trans {e f g : Expr} (inner : e.IsPartOf f) (outer : f.IsPartOf g) : e.IsPartOf g := by
  induction outer with
  | self => exact inner
  | item member part ih => exact .item member ih
  | operand op part ih => exact .operand op ih
  | left op r part ih => exact .left op r ih
  | right op l part ih => exact .right op l ih

end ChatSieve.Expr
