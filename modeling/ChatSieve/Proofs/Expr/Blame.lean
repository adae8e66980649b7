import ChatSieve.Proofs.Expr.Position
import ChatSieve.Proofs.Expr.Typing

/-!
# The part to blame

An expression has a type just if all its parts have types. Of the parts that
have none, the first one in post-order is blamed, and every expression that it
stands in passes this on as it is (`typeIn_blames_first`). Where a part stands
matters here: an expression may hold a wrong part more than once. So the check is
compared with one that tells the position besides (`check`).
-/

namespace ChatSieve.Expr

variable {decls : Declarations}

def IsTyped (decls : Declarations) (e : Expr) : Prop := ∃ ty, e.typeIn decls = .ok ty

private theorem IsTyped.of_isPartOf {x e : Expr} (typed : e.IsTyped decls) (part : x.IsPartOf e) :
    x.IsTyped decls := by
  obtain ⟨ty, typed⟩ := typed
  exact part.typed typed

/-- The part at the position is the first one without a type. -/
structure BlamesAt (decls : Declarations) (e : Expr) (ill : IllTyped) (p : Position) : Prop where
  /-- the part is there -/
  found : e.at? p = some ill.node
  /-- the part and all that it stands in have this error -/
  passed_on : ∀ q x, q <+: p → e.at? q = some x → x.typeIn decls = .error ill
  /-- what stands in the part has a type -/
  inside : ∀ q x, p <+: q → q ≠ p → e.at? q = some x → x.IsTyped decls
  /-- what is to the left of the part has a type -/
  left : ∀ q x, q.IsLeftOf p → e.at? q = some x → x.IsTyped decls

namespace BlamesAt

variable {e : Expr} {ill : IllTyped} {p : Position}

theorem isPartOf (blames : e.BlamesAt decls ill p) : ill.node.IsPartOf e :=
  isPartOf_iff.2 ⟨p, blames.found⟩

/-- The part to blame has its error by itself. -/
theorem typeIn_node (blames : e.BlamesAt decls ill p) : ill.node.typeIn decls = .error ill :=
  blames.passed_on p ill.node List.prefix_rfl blames.found

private theorem of_precedes (blames : e.BlamesAt decls ill p) {q : Position} {x : Expr}
    (before : q.Precedes p) (found : e.at? q = some x) : x.IsTyped decls := by
  rcases before with ⟨below, other⟩ | left
  · exact blames.inside q x below other found
  · exact blames.left q x left found

private theorem not_isTyped (blames : e.BlamesAt decls ill p) : ¬ ill.node.IsTyped decls := by
  rintro ⟨ty, typed⟩
  rw [blames.typeIn_node] at typed
  cases typed

/-- What has no type comes later. -/
theorem first (blames : e.BlamesAt decls ill p) {q : Position} {x : Expr} (found : e.at? q = some x)
    (untyped : ¬ x.IsTyped decls) : q = p ∨ p.Precedes q := by
  rcases Position.precedes_total q p with same | before | after
  · exact .inl same
  · exact absurd (blames.of_precedes before found) untyped
  · exact .inr after

private theorem unique (blames : e.BlamesAt decls ill p) {q : Position}
    (also : e.BlamesAt decls ill q) :
    q = p := by
  rcases blames.first also.found also.not_isTyped with same | after
  · exact same
  · exact absurd (also.of_precedes after blames.found) blames.not_isTyped

/-- The whole expression is to blame if its children have types. -/
theorem self {reason : TypeError} (failed : e.typeIn decls = .error ⟨e, reason⟩)
    (children : ∀ c ∈ e.children, c.IsTyped decls) : e.BlamesAt decls ⟨e, reason⟩ [] where
  found := rfl
  passed_on := by
    intro q x above found
    obtain rfl := List.prefix_nil.1 above
    cases found
    exact failed
  inside := by
    intro q x below other found
    obtain ⟨i, q, rfl⟩ := List.exists_cons_of_ne_nil other
    obtain ⟨c, child, found⟩ := at?_cons_eq_some found
    exact (children c (List.mem_of_getElem? child)).of_isPartOf (isPartOf_iff.2 ⟨q, found⟩)
  left := nofun

/-- The blame of the first child without a type is that of the whole. -/
theorem child {c : Expr} {i : Nat} (blames : c.BlamesAt decls ill p) (child : e.children[i]? = some c)
    (earlier : ∀ j < i, ∀ d, e.children[j]? = some d → d.IsTyped decls)
    (failed : e.typeIn decls = .error ill) : e.BlamesAt decls ill (i :: p) where
  found := (at?_cons child p).trans blames.found
  passed_on := by
    intro q x above found
    rcases List.prefix_cons_iff.1 above with rfl | ⟨r, rfl, inner⟩
    · cases found
      exact failed
    · exact blames.passed_on r x inner ((at?_cons child r).symm.trans found)
  inside := by
    intro q x below other found
    obtain ⟨r, rfl, inner⟩ := List.cons_prefix_iff.1 below
    refine blames.inside r x inner ?_ ((at?_cons child r).symm.trans found)
    rintro rfl
    exact other rfl
  left := by
    intro q x left found
    cases left with
    | here smaller q p =>
      obtain ⟨d, at_left, found⟩ := at?_cons_eq_some found
      exact (earlier _ smaller d at_left).of_isPartOf (isPartOf_iff.2 ⟨q, found⟩)
    | inside i left => exact blames.left _ x left ((at?_cons child _).symm.trans found)

end BlamesAt

/-- What a check of a child, of this number, finds out about the expression. -/
def under {α : Type} (number : Nat) :
    Except (Position × IllTyped) α → Except (Position × IllTyped) α :=
  .mapError fun why => (number :: why.1, why.2)

/-- What is found out about the expression itself. -/
def here : Except IllTyped Ty → Except (Position × IllTyped) Ty := .mapError fun ill => ([], ill)

mutual

/-- The type of an expression, or the part of it that has none and its position. -/
def check (decls : Declarations) : Expr → Except (Position × IllTyped) Ty
  | .int _ => .ok .int
  | .string _ => .ok .string
  | .identifier name =>
    match decls.typeOf? name with
    | some ty => .ok ty
    | none => .error ([], ⟨.identifier name, .unknownIdentifier name⟩)
  | .pattern _ => .ok .pattern
  | .list items => (checkItems decls 0 items).map listType
  | .unary op x => do
    let ty ← under 0 (check decls x)
    here (blame (.unary op x) (unaryType op ty))
  | .binary op l r => do
    let left ← under 0 (check decls l)
    let right ← under 1 (check decls r)
    here (blame (.binary op l r) (binaryType op left right))

/-- The types of the children from some number on. -/
def checkItems (decls : Declarations) (number : Nat) :
    List Expr → Except (Position × IllTyped) (List Ty)
  | [] => .ok []
  | e :: es => do
    let ty ← under number (check decls e)
    let tys ← checkItems decls (number + 1) es
    return ty :: tys

end

private theorem mapError_under {α : Type} (number : Nat) (x : Except (Position × IllTyped) α) :
    (under number x).mapError Prod.snd = x.mapError Prod.snd := by
  cases x <;> rfl

private theorem mapError_here (x : Except IllTyped Ty) : (here x).mapError Prod.snd = x := by
  cases x <;> rfl

private theorem mapError_bind {α β : Type} (x : Except (Position × IllTyped) α)
    (f : α → Except (Position × IllTyped) β) :
    (x >>= f).mapError Prod.snd = x.mapError Prod.snd >>= fun a => (f a).mapError Prod.snd := by
  cases x <;> rfl

mutual

/-- Without the position a check is `typeIn`. -/
theorem mapError_check (decls : Declarations) :
    ∀ e : Expr, (e.check decls).mapError Prod.snd = e.typeIn decls
  | .int _ | .string _ | .pattern _ => rfl
  | .identifier name => by
    rw [check, typeIn]
    cases decls.typeOf? name <;> rfl
  | .list items => by
    rw [check, typeIn, ← mapError_checkItems decls 0 items]
    cases checkItems decls 0 items <;> rfl
  | .unary op x => by
    simp only [check, typeIn, mapError_bind, mapError_under, mapError_here, mapError_check decls x]
    cases typeIn decls x <;> rfl
  | .binary op l r => by
    simp only [check, typeIn, mapError_bind, mapError_under, mapError_here, mapError_check decls l,
      mapError_check decls r]
    cases typeIn decls l with
    | error ill => rfl
    | ok left => cases typeIn decls r <;> rfl

private theorem mapError_checkItems (decls : Declarations) :
    ∀ (number : Nat) (es : List Expr), (checkItems decls number es).mapError Prod.snd = typesIn decls es
  | _, [] => rfl
  | number, e :: es => by
    simp only [checkItems, typesIn, mapError_bind, mapError_under, mapError_check decls e,
      mapError_checkItems decls (number + 1) es]
    cases typeIn decls e with
    | error ill => rfl
    | ok ty => cases typesIn decls es <;> rfl

end

private theorem typeIn_of_check {e : Expr} {result : Except (Position × IllTyped) Ty}
    (checked : e.check decls = result) : e.typeIn decls = result.mapError Prod.snd := by
  rw [← mapError_check, checked]

private theorem isTyped_of_check {e : Expr} {ty : Ty} (checked : e.check decls = .ok ty) :
    e.IsTyped decls :=
  ⟨ty, typeIn_of_check checked⟩

/-- A check ends in a child, or with what comes after it. -/
theorem under_bind_eq_error {α β : Type} {number : Nat} {x : Except (Position × IllTyped) α}
    {f : α → Except (Position × IllTyped) β} {p : Position} {ill : IllTyped}
    (failed : under number x >>= f = .error (p, ill)) :
    (∃ q, p = number :: q ∧ x = .error (q, ill)) ∨ ∃ a, x = .ok a ∧ f a = .error (p, ill) := by
  cases x with
  | ok a => exact .inr ⟨a, rfl, failed⟩
  | error why =>
    cases failed
    exact .inl ⟨why.1, rfl, rfl⟩

/-- An operation whose operands have types is itself to blame. -/
theorem eq_of_here_error {e : Expr} {result : Except TypeError Ty} {p : Position} {ill : IllTyped}
    (failed : here (blame e result) = .error (p, ill)) : p = [] ∧ ∃ reason, ill = ⟨e, reason⟩ := by
  cases result with
  | ok ty => cases failed
  | error reason =>
    cases failed
    exact ⟨rfl, reason, rfl⟩

/-- The position leads into the first of some expressions that has no type. -/
theorem exists_of_checkItems_error {number : Nat} {es : List Expr} {p : Position} {ill : IllTyped}
    (failed : checkItems decls number es = .error (p, ill)) :
    ∃ (i : Nat) (c : Expr) (q : Position), p = (number + i) :: q ∧ es[i]? = some c ∧
      c.check decls = .error (q, ill) ∧ ∀ j < i, ∀ d, es[j]? = some d → d.IsTyped decls := by
  induction es generalizing number with
  | nil => cases failed
  | cons e es ih =>
    rw [checkItems] at failed
    rcases under_bind_eq_error failed with ⟨q, rfl, first⟩ | ⟨ty, first, later⟩
    · exact ⟨0, e, q, rfl, rfl, first, by omega⟩
    · have later : checkItems decls (number + 1) es = .error (p, ill) := by
        cases rest : checkItems decls (number + 1) es with
        | ok tys =>
          rw [rest] at later
          cases later
        | error why =>
          rw [rest] at later
          cases later
          rfl
      obtain ⟨i, c, q, rfl, child, wrong, earlier⟩ := ih later
      refine ⟨i + 1, c, q, by rw [Nat.add_right_comm, Nat.add_assoc], child, wrong, ?_⟩
      intro j smaller d at_j
      cases j with
      | zero =>
        cases at_j
        exact isTyped_of_check first
      | succ j => exact earlier j (by omega) d at_j

/-- Either the children have types and the expression itself is wrong, or it
has the error of the first child that has no type, at a position in this child. -/
theorem check_error_cases {e : Expr} {p : Position} {ill : IllTyped}
    (failed : e.check decls = .error (p, ill)) :
    (p = [] ∧ ∃ reason, ill = ⟨e, reason⟩ ∧ ∀ c ∈ e.children, c.IsTyped decls) ∨
      ∃ (i : Nat) (c : Expr) (q : Position), p = i :: q ∧ e.children[i]? = some c ∧
        c.check decls = .error (q, ill) ∧
        ∀ j < i, ∀ d, e.children[j]? = some d → d.IsTyped decls := by
  cases e with
  | int n => cases failed
  | string s => cases failed
  | pattern p => cases failed
  | identifier name =>
    rw [check] at failed
    split at failed
    · cases failed
    · cases failed
      exact .inl ⟨rfl, _, rfl, List.forall_mem_nil _⟩
  | list items =>
    rw [check] at failed
    cases checked : checkItems decls 0 items with
    | ok tys =>
      rw [checked] at failed
      cases failed
    | error why =>
      rw [checked] at failed
      cases failed
      obtain ⟨i, c, q, rfl, found⟩ := exists_of_checkItems_error checked
      exact .inr ⟨i, c, q, by rw [Nat.zero_add], found⟩
  | unary op x =>
    rw [check] at failed
    rcases under_bind_eq_error failed with ⟨q, rfl, operand⟩ | ⟨ty, operand, failed⟩
    · exact .inr ⟨0, x, q, rfl, rfl, operand, by omega⟩
    · obtain ⟨rfl, reason, rfl⟩ := eq_of_here_error failed
      exact .inl ⟨rfl, reason, rfl, List.forall_mem_singleton.2 (isTyped_of_check operand)⟩
  | binary op l r =>
    rw [check] at failed
    rcases under_bind_eq_error failed with ⟨q, rfl, left⟩ | ⟨left_ty, left, failed⟩
    · exact .inr ⟨0, l, q, rfl, rfl, left, by omega⟩
    · rcases under_bind_eq_error failed with ⟨q, rfl, right⟩ | ⟨right_ty, right, failed⟩
      · refine .inr ⟨1, r, q, rfl, rfl, right, ?_⟩
        intro j smaller d at_j
        obtain rfl : j = 0 := by omega
        cases at_j
        exact isTyped_of_check left
      · obtain ⟨rfl, reason, rfl⟩ := eq_of_here_error failed
        exact .inl ⟨rfl, reason, rfl, List.forall_mem_cons.2
          ⟨isTyped_of_check left, List.forall_mem_singleton.2 (isTyped_of_check right)⟩⟩

/-- The position that a check returns is that of the part to blame. -/
theorem blamesAt_of_check {e : Expr} {p : Position} {ill : IllTyped}
    (failed : e.check decls = .error (p, ill)) : e.BlamesAt decls ill p := by
  induction e using induction_children generalizing p with
  | step e ih =>
    have untyped := typeIn_of_check failed
    rcases check_error_cases failed with
      ⟨rfl, reason, rfl, children⟩ | ⟨i, c, q, rfl, child, wrong, earlier⟩
    · exact .self untyped children
    · exact (ih c (List.mem_of_getElem? child) wrong).child child earlier untyped

private theorem exists_of_mapError {α : Type} {x : Except (Position × IllTyped) α} {ill : IllTyped}
    (failed : x.mapError Prod.snd = .error ill) : ∃ p, x = .error (p, ill) := by
  cases x with
  | ok a => cases failed
  | error why =>
    cases failed
    exact ⟨why.1, rfl⟩

theorem exists_blamesAt {e : Expr} {ill : IllTyped} (failed : e.typeIn decls = .error ill) :
    ∃ p, e.check decls = .error (p, ill) ∧ e.BlamesAt decls ill p := by
  obtain ⟨p, checked⟩ := exists_of_mapError ((mapError_check decls e).trans failed)
  exact ⟨p, checked, blamesAt_of_check checked⟩

theorem exists_mem_of_typesIn_error {es : List Expr} {ill : IllTyped}
    (failed : typesIn decls es = .error ill) : ∃ e ∈ es, e.typeIn decls = .error ill := by
  obtain ⟨p, checked⟩ := exists_of_mapError ((mapError_checkItems decls 0 es).trans failed)
  obtain ⟨i, e, q, -, found, wrong, -⟩ := exists_of_checkItems_error checked
  exact ⟨e, List.mem_of_getElem? found, typeIn_of_check wrong⟩

/-- An expression has a type if and only if all its parts have types. Otherwise
its error is that of one part, at one position, which the check can tell: the part
has this error by itself, what stands in it or to the left of it has a type, and
all that it stands in has the same error. So it is the first part in post-order
that has no type. -/
theorem typeIn_blames_first (decls : Declarations) (e : Expr) :
    (e.IsTyped decls ↔ ∀ x : Expr, x.IsPartOf e → x.IsTyped decls) ∧
    e.typeIn decls = (e.check decls).mapError Prod.snd ∧
    ∀ ill, e.typeIn decls = .error ill →
      ill.node.IsPartOf e ∧ ill.node.typeIn decls = .error ill ∧
      ∃ p, e.check decls = .error (p, ill) ∧
        e.BlamesAt decls ill p ∧ (∀ q, e.BlamesAt decls ill q → q = p) ∧
        ∀ q x, e.at? q = some x → ¬ x.IsTyped decls → q = p ∨ p.Precedes q := by
  refine ⟨⟨?_, ?_⟩, typeIn_of_check rfl, ?_⟩
  · intro typed x part
    exact typed.of_isPartOf part
  · intro parts
    exact parts e (.self e)
  · intro ill failed
    obtain ⟨p, checked, blames⟩ := exists_blamesAt failed
    refine ⟨blames.isPartOf, blames.typeIn_node, p, checked, blames, ?_, ?_⟩
    · intro q also
      exact blames.unique also
    · intro q x found untyped
      exact blames.first found untyped

/-- A sum with one wrong part twice: the check ends at the first one, which stands
in the list. -/
theorem typeIn_blames_first_twice :
    let wrong : Expr := .binary .minus (.string "a") (.int 1)
    let e : Expr := .binary .plus (.list [.int 1, wrong]) wrong
    e.at? [0, 1] = some wrong ∧ e.at? [1] = some wrong ∧
      e.typeIn [] = .error ⟨wrong, .needsInts .minus⟩ ∧
      e.check [] = .error ([0, 1], ⟨wrong, .needsInts .minus⟩) ∧
      e.BlamesAt [] ⟨wrong, .needsInts .minus⟩ [0, 1] := by
  intro wrong e
  have failed : e.typeIn [] = .error ⟨wrong, .needsInts .minus⟩ := rfl
  have checked : e.check [] = .error ([0, 1], ⟨wrong, .needsInts .minus⟩) := rfl
  obtain ⟨-, -, p, first, blames, -⟩ := (typeIn_blames_first [] e).2.2 _ failed
  rw [checked] at first
  cases first
  exact ⟨rfl, rfl, failed, checked, blames⟩

end ChatSieve.Expr
