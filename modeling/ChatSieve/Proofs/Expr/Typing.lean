import ChatSieve.Filter
import ChatSieve.Proofs.Expr.Parts

/-!
# Types of composed expressions

An expression has a type just if its parts have types and its operation takes
them.
-/

namespace ChatSieve

theorem listType_mem (tys : List Ty) : listType tys ∈ [Ty.groupRequest, .stringList, .list] := by
  rw [listType.eq_def]
  split
  · decide
  · split <;> decide

theorem unaryType_eq_ok {op : Token.Kind} {operand ty : Ty} :
    unaryType op operand = .ok ty ↔ op = .not ∧ operand = .bool ∧ ty = .bool := by
  constructor
  · intro typed
    rw [unaryType.eq_def] at typed
    split at typed
    · cases typed
      exact ⟨rfl, rfl, rfl⟩
    · cases typed
    · cases typed
  · rintro ⟨rfl, rfl, rfl⟩
    rfl

/-- Strings take on anything, integers take on integers. -/
theorem binaryType_plus_eq_ok {left right ty : Ty} :
    binaryType .plus left right = .ok ty ↔
      left = .string ∧ ty = .string ∨ left = .int ∧ right = .int ∧ ty = .int := by
  constructor
  · intro typed
    simp only [binaryType] at typed
    split at typed
    · rename_i string
      cases typed
      exact .inl ⟨eq_of_beq string, rfl⟩
    · split at typed
      · rename_i ints
        cases typed
        simp only [Bool.and_eq_true, beq_iff_eq] at ints
        exact .inr ⟨ints.1, ints.2, rfl⟩
      · cases typed
  · rintro (⟨rfl, rfl⟩ | ⟨rfl, rfl, rfl⟩) <;> rfl

/-- Strings match patterns, and groups of patterns. -/
theorem binaryType_matches_eq_ok {left right ty : Ty} :
    binaryType .matches left right = .ok ty ↔
      left = .string ∧ (right = .pattern ∧ ty = .bool ∨ right = .groupRequest ∧ ty = .string) := by
  constructor
  · intro typed
    simp only [binaryType] at typed
    split at typed
    · cases typed
    · rename_i string
      simp only [bne_iff_ne, ne_eq, Decidable.not_not] at string
      split at typed
      · cases typed
        exact ⟨string, .inl ⟨rfl, rfl⟩⟩
      · cases typed
        exact ⟨string, .inr ⟨rfl, rfl⟩⟩
      · cases typed
  · rintro ⟨rfl, ⟨rfl, rfl⟩ | ⟨rfl, rfl⟩⟩ <;> rfl

namespace Expr

variable {decls : Declarations}

private theorem blame_eq_ok {e : Expr} {typed : Except TypeError Ty} {ty : Ty} :
    blame e typed = .ok ty ↔ typed = .ok ty := by
  cases typed <;> simp [blame]

/-- An identifier that has a type is a declared one. -/
theorem typeOf?_of_typeIn {name : String} {ty : Ty}
    (typed : typeIn decls (.identifier name) = .ok ty) : decls.typeOf? name = some ty := by
  rw [typeIn] at typed
  split at typed
  · rename_i found declared
    cases typed
    exact declared
  · cases typed

theorem typeIn_list {es : List Expr} {ty : Ty} :
    typeIn decls (.list es) = .ok ty ↔ ∃ tys, typesIn decls es = .ok tys ∧ listType tys = ty := by
  rw [typeIn]
  cases typesIn decls es <;> simp

theorem typeIn_unary {op : Token.Kind} {x : Expr} {ty : Ty} :
    typeIn decls (.unary op x) = .ok ty ↔
      ∃ operand, typeIn decls x = .ok operand ∧ unaryType op operand = .ok ty := by
  rw [typeIn]
  cases typeIn decls x <;> simp [blame_eq_ok]

theorem typeIn_binary {op : Token.Kind} {l r : Expr} {ty : Ty} :
    typeIn decls (.binary op l r) = .ok ty ↔
      ∃ left right, typeIn decls l = .ok left ∧ typeIn decls r = .ok right ∧
        binaryType op left right = .ok ty := by
  rw [typeIn]
  cases typeIn decls l <;> cases typeIn decls r <;> simp [blame_eq_ok]

theorem typesIn_cons {e : Expr} {es : List Expr} {tys : List Ty} :
    typesIn decls (e :: es) = .ok tys ↔
      ∃ ty others, typeIn decls e = .ok ty ∧ typesIn decls es = .ok others ∧ ty :: others = tys := by
  rw [typesIn]
  cases typeIn decls e <;> cases typesIn decls es <;> simp

theorem typeIn_of_typesIn {es : List Expr} {tys : List Ty} (typed : typesIn decls es = .ok tys) :
    ∀ e ∈ es, ∃ ty, typeIn decls e = .ok ty := by
  induction es generalizing tys with
  | nil => exact List.forall_mem_nil _
  | cons e es ih =>
    obtain ⟨ty, others, first, rest, -⟩ := typesIn_cons.1 typed
    exact List.forall_mem_cons.2 ⟨⟨ty, first⟩, ih rest⟩

theorem typesIn_of_typeIn {es : List Expr} (typed : ∀ e ∈ es, ∃ ty, typeIn decls e = .ok ty) :
    ∃ tys, typesIn decls es = .ok tys := by
  induction es with
  | nil => exact ⟨[], rfl⟩
  | cons e es ih =>
    obtain ⟨⟨ty, first⟩, others⟩ := List.forall_mem_cons.1 typed
    obtain ⟨tys, rest⟩ := ih others
    exact ⟨ty :: tys, typesIn_cons.2 ⟨ty, tys, first, rest, rfl⟩⟩

/-- The parts of an expression with a type have types. -/
theorem IsPartOf.typed {e f : Expr} (part : e.IsPartOf f) {ty : Ty} (typed : f.typeIn decls = .ok ty) :
    ∃ ty, e.typeIn decls = .ok ty := by
  induction part generalizing ty with
  | self => exact ⟨ty, typed⟩
  | item member part ih =>
    obtain ⟨tys, items_typed, -⟩ := typeIn_list.1 typed
    obtain ⟨item_ty, item_typed⟩ := typeIn_of_typesIn items_typed _ member
    exact ih item_typed
  | operand op part ih =>
    obtain ⟨operand, operand_typed, -⟩ := typeIn_unary.1 typed
    exact ih operand_typed
  | left op r part ih =>
    obtain ⟨left, right, left_typed, -, -⟩ := typeIn_binary.1 typed
    exact ih left_typed
  | right op l part ih =>
    obtain ⟨left, right, -, right_typed, -⟩ := typeIn_binary.1 typed
    exact ih right_typed

end Expr

/-- A text is a filter if it parses to a tree that has a type. -/
theorem Filter.compile_eq_ok_iff (decls : Declarations) (text : String) (f : Filter) :
    Filter.compile decls text = .ok f ↔
      Grammar.parse decls text = ⟨f.expr, none⟩ ∧ f.expr.typeIn decls = .ok f.ty := by
  rw [compile, check]
  obtain ⟨e, error⟩ := Grammar.parse decls text
  obtain ⟨expr, ty⟩ := f
  cases error with
  | some why => simp
  | none =>
    constructor
    · intro compiled
      cases typed : e.typeIn decls with
      | error ill => simp [typed] at compiled
      | ok found =>
        simp only [typed, Except.ok.injEq, Filter.mk.injEq] at compiled
        obtain ⟨rfl, rfl⟩ := compiled
        exact ⟨rfl, typed⟩
    · rintro ⟨same, typed⟩
      cases same
      simp only at typed
      simp [typed]

/-- A text with an error of the parser is no filter. -/
theorem Filter.compile_of_error {decls : Declarations} {text : String} {why : Grammar.ParseError}
    (failed : (Grammar.parse decls text).error = some why) :
    Filter.compile decls text = .error (.malformed why) := by
  rw [compile, check, failed]

end ChatSieve
