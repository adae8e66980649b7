import ChatSieve.Proofs.Expr.Typing
import Mathlib.Data.List.Forall2

/-!
# Type soundness

A filter that has a type has a value of the shape of this type, and so has
every part of it (`eval_hasShape`). The one exception is a string to which
something without a text is added: its type is that of strings, its value is
zero.
-/

namespace ChatSieve

/-- The values of a type. -/
inductive Value.HasShape : Value → Ty → Prop
  | int (n : Int64) : HasShape (.int n) .int
  | bool (b : Bool) : HasShape (.bool b) .bool
  | string (s : String) : HasShape (.string s) .string
  | strings (items : List String) : HasShape (.strings items) .stringList
  | list (items : List Value) : HasShape (.list items) .list
  | map (entries : List (String × Value)) : HasShape (.map entries) .map
  | color (c : Color) : HasShape (.color c) .color
  | pattern (p : Pattern) : HasShape (.pattern p) .pattern
  | groupRequest (p : Pattern) (group : Int64) :
      HasShape (.list [.pattern p, .int group]) .groupRequest

/-- Each declared identifier has a value of its type. -/
def Bindings.Fit (vars : Bindings) (decls : Declarations) : Prop :=
  ∀ name ty, decls.typeOf? name = some ty → (vars.valueOf name).HasShape ty

/-- The types whose values have no text. -/
def Ty.textless : List Ty := [.stringList, .list, .map, .pattern, .groupRequest]

theorem Value.HasShape.toText? {v : Value} {ty : Ty} (shape : v.HasShape ty)
    (text : ty ∉ Ty.textless) : ∃ s, v.toText? = some s := by
  cases shape <;> first | exact ⟨_, rfl⟩ | exact absurd (by decide) text

/-- A value is a string only if its type says so. -/
theorem Value.HasShape.asString? {v : Value} {ty : Ty} (shape : v.HasShape ty) :
    v.asString?.isSome = (ty == .string) := by
  cases shape <;> rfl

theorem Value.HasShape.exists_string {v : Value} (shape : v.HasShape .string) : ∃ s, v = .string s := by
  cases shape with
  | string s => exact ⟨s, rfl⟩

theorem Value.HasShape.exists_bool {v : Value} (shape : v.HasShape .bool) : ∃ b, v = .bool b := by
  cases shape with
  | bool b => exact ⟨b, rfl⟩

theorem unaryValue_hasShape {op : Token.Kind} {v : Value} {operand ty : Ty}
    (typed : unaryType op operand = .ok ty) : (unaryValue op v).HasShape ty := by
  obtain ⟨rfl, -, rfl⟩ := unaryType_eq_ok.1 typed
  exact .bool _

private theorem plusValue_hasShape {l r : Value} {left right ty : Ty} (left_shape : l.HasShape left)
    (right_shape : r.HasShape right) (text : left = .string → right ∉ Ty.textless)
    (typed : binaryType .plus left right = .ok ty) : (plusValue l r).HasShape ty := by
  rcases binaryType_plus_eq_ok.1 typed with ⟨rfl, rfl⟩ | ⟨rfl, rfl, rfl⟩
  · obtain ⟨a, rfl⟩ := left_shape.exists_string
    obtain ⟨b, right_text⟩ := right_shape.toText? (text rfl)
    simp only [plusValue, right_text]
    exact .string _
  · cases left_shape
    exact .int _

/-- Of its left operand a match asks for no more than a text. -/
theorem matchValue_hasShape {l r : Value} {left right ty : Ty}
    (text : left = .string → ∃ s, l.toText? = some s)
    (right_shape : right ≠ .string → right ≠ .stringList → r.HasShape right)
    (typed : binaryType .matches left right = .ok ty) : (matchValue l r).HasShape ty := by
  obtain ⟨rfl, right_typed⟩ := binaryType_matches_eq_ok.1 typed
  obtain ⟨subject, subject_text⟩ := text rfl
  rcases right_typed with ⟨rfl, rfl⟩ | ⟨rfl, rfl⟩
  · cases right_shape (by decide) (by decide)
    simp only [matchValue, subject_text]
    exact .bool _
  · cases right_shape (by decide) (by decide)
    simp only [matchValue, subject_text]
    exact .string _

/-- But for addition and matching, the values of the operands do not matter for
the type of the value. -/
theorem binaryValue_hasShape_of_ne {op : Token.Kind} (l r : Value) {left right ty : Ty}
    (no_plus : op ≠ .plus) (no_matches : op ≠ .matches) (typed : binaryType op left right = .ok ty) :
    (binaryValue op l r).HasShape ty := by
  cases op with
  | plus => exact absurd rfl no_plus
  | «matches» => exact absurd rfl no_matches
  | minus | multiply | divide | mod =>
    simp only [binaryType] at typed
    split at typed
    · cases typed
      exact .int _
    · cases typed
  | and | or | lt | gt | lte | gte | startsWith | endsWith | contains =>
    simp only [binaryType] at typed
    split at typed
    · cases typed
      exact .bool _
    · cases typed
  | eq | neq =>
    cases typed
    exact .bool _
  | _ => cases typed

/-- An operation on values of the types that it takes has a value of the type
that it gives. -/
theorem binaryValue_hasShape {op : Token.Kind} {l r : Value} {left right ty : Ty}
    (left_shape : l.HasShape left) (right_shape : r.HasShape right)
    (text : op = .plus → left = .string → right ∉ Ty.textless)
    (typed : binaryType op left right = .ok ty) : (binaryValue op l r).HasShape ty := by
  by_cases plus : op = .plus
  · subst plus
    exact plusValue_hasShape left_shape right_shape (text rfl) typed
  · by_cases «matches» : op = .matches
    · subst «matches»
      refine matchValue_hasShape ?_ (fun _ _ => right_shape) typed
      rintro rfl
      exact left_shape.toText? (by decide)
    · exact binaryValue_hasShape_of_ne l r plus «matches» typed

/-- Values of types are all strings where the types are. -/
theorem mapM_asString? {vs : List Value} {tys : List Ty} (shapes : List.Forall₂ Value.HasShape vs tys) :
    (vs.mapM Value.asString?).isSome = tys.all (· == .string) := by
  induction shapes with
  | nil => rfl
  | @cons v ty vs tys shape shapes ih =>
    rw [List.mapM_cons, List.all_cons, ← shape.asString?, ← ih]
    cases v.asString? <;> cases vs.mapM Value.asString? <;> rfl

private theorem listValue_hasShape {vs : List Value} {tys : List Ty}
    (shapes : List.Forall₂ Value.HasShape vs tys) : (listValue vs).HasShape (listType tys) := by
  have strings := mapM_asString? shapes
  rw [listType.eq_def]
  split
  · obtain _ | ⟨first, others⟩ := shapes
    obtain _ | ⟨second, nothing⟩ := others
    cases first
    cases second
    cases nothing
    exact .groupRequest _ _
  · rw [← strings, listValue]
    cases vs.mapM Value.asString? with
    | some items => exact .strings _
    | none => exact .list _

namespace Expr

variable {decls : Declarations} {vars : Bindings}

/-- A string to which something without a text is added. -/
def AddsNoText (decls : Declarations) (e : Expr) : Prop :=
  ∃ l r, ∃ ty ∈ Ty.textless, e = .binary .plus l r ∧ l.typeIn decls = .ok .string ∧
    r.typeIn decls = .ok ty

section
variable {R : Value → Ty → Prop}

private theorem forall₂_evalAll {es : List Expr} {tys : List Ty}
    (typed : typesIn decls es = .ok tys)
    (items : ∀ e ∈ es, ∀ ty, typeIn decls e = .ok ty → R (e.eval vars) ty) :
    List.Forall₂ R (evalAll vars es) tys := by
  induction es generalizing tys with
  | nil =>
    cases typed
    exact .nil
  | cons e es ih =>
    obtain ⟨ty, others, first, rest, rfl⟩ := typesIn_cons.1 typed
    exact .cons (items e List.mem_cons_self ty first)
      (ih rest fun f member => items f (List.mem_cons_of_mem _ member))

/-- A relation between values and types that holds of values of a type, and
that lists and the infix operations of an expression keep, holds of the value
and the type of this expression. -/
theorem related_of_typeIn (fit : vars.Fit decls) {e : Expr} {ty : Ty} (typed : e.typeIn decls = .ok ty)
    (shapes : ∀ v ty, v.HasShape ty → R v ty)
    (lists : ∀ vs tys, List.Forall₂ R vs tys → R (listValue vs) (listType tys))
    (operations : ∀ op l r left right ty, (Expr.binary op l r).IsPartOf e →
      l.typeIn decls = .ok left → r.typeIn decls = .ok right → R (l.eval vars) left →
      R (r.eval vars) right → binaryType op left right = .ok ty →
      R (binaryValue op (l.eval vars) (r.eval vars)) ty) :
    R (e.eval vars) ty := by
  induction e generalizing ty with
  | int n =>
    cases typed
    exact shapes _ _ (.int n)
  | string s =>
    cases typed
    exact shapes _ _ (.string s)
  | identifier name =>
    exact shapes _ _ (fit name _ (typeOf?_of_typeIn typed))
  | pattern p =>
    cases typed
    exact shapes _ _ (.pattern p)
  | list items ih =>
    obtain ⟨tys, items_typed, rfl⟩ := typeIn_list.1 typed
    refine lists _ _ (forall₂_evalAll items_typed fun e member ty item_typed => ?_)
    exact ih e member item_typed fun op l r left right ty part =>
      operations op l r left right ty (.item member part)
  | unary op x ih =>
    obtain ⟨operand, -, unary_typed⟩ := typeIn_unary.1 typed
    exact shapes _ _ (unaryValue_hasShape unary_typed)
  | binary op l r left_ih right_ih =>
    obtain ⟨left, right, left_typed, right_typed, binary_typed⟩ := typeIn_binary.1 typed
    have left_related := left_ih left_typed fun op' l' r' left right ty part =>
      operations op' l' r' left right ty (.left op r part)
    have right_related := right_ih right_typed fun op' l' r' left right ty part =>
      operations op' l' r' left right ty (.right op l part)
    exact operations op l r left right ty (.self _) left_typed right_typed left_related
      right_related binary_typed

end

/-- The value of an expression has its type, unless some part adds to a string
what has no text. -/
theorem hasShape_of_typeIn (fit : vars.Fit decls) {e : Expr} {ty : Ty}
    (typed : e.typeIn decls = .ok ty) (texts : ∀ x : Expr, x.IsPartOf e → ¬ x.AddsNoText decls) :
    (e.eval vars).HasShape ty := by
  refine related_of_typeIn fit typed (fun v ty shape => shape) (fun vs tys => listValue_hasShape) ?_
  intro op l r left right ty part left_typed right_typed left_shape right_shape binary_typed
  refine binaryValue_hasShape left_shape right_shape ?_ binary_typed
  rintro rfl rfl no_text
  exact texts _ part ⟨l, r, right, no_text, rfl, left_typed, right_typed⟩

end Expr

/-- A compiled filter and all its parts have values of their types, if the
identifiers have and no part adds to a string what has no text. -/
theorem Filter.eval_hasShape {decls : Declarations} {text : String} {f : Filter} {vars : Bindings}
    (compiled : Filter.compile decls text = .ok f) (fit : vars.Fit decls)
    (texts : ∀ x : Expr, x.IsPartOf f.expr → ¬ x.AddsNoText decls) :
    (f.eval vars).HasShape f.ty ∧
      ∀ x : Expr, x.IsPartOf f.expr → ∃ ty, x.typeIn decls = .ok ty ∧ (x.eval vars).HasShape ty := by
  have typed := ((compile_eq_ok_iff _ _ _).1 compiled).2
  refine ⟨Expr.hasShape_of_typeIn fit typed texts, fun x part => ?_⟩
  obtain ⟨ty, part_typed⟩ := part.typed typed
  exact ⟨ty, part_typed, Expr.hasShape_of_typeIn fit part_typed fun y inner => texts y (inner.trans part)⟩

open Token Grammar in
/-- A string takes on the text of an integer. -/
theorem Filter.eval_hasShape_sum :
    ∃ f, Filter.compile [("author.level", .int)] "\"level \" + author.level == \"level 7\"" = .ok f ∧
      (f.eval [("author.level", .int 7)]).HasShape f.ty ∧ f.ty = .bool := by
  have found : tokens [("author.level", .int)] "\"level \" + author.level == \"level 7\"" =
      [⟨.string, "\"level \""⟩, ⟨.plus, "+"⟩, ⟨.identifier, "author.level"⟩, ⟨.eq, "=="⟩,
       ⟨.string, "\"level 7\""⟩] := by
    decide +kernel
  have parsed : parse [("author.level", .int)] "\"level \" + author.level == \"level 7\"" =
      ⟨.binary .eq (.binary .plus (.string "level ") (.identifier "author.level"))
        (.string "level 7"), none⟩ := by
    rw [parse, found]
    rfl
  have compiled := (Filter.compile_eq_ok_iff _ _ ⟨_, .bool⟩).2 ⟨parsed, rfl⟩
  have fit : Bindings.Fit [("author.level", .int 7)] [("author.level", .int)] := by
    intro name ty declared
    by_cases same : name = "author.level"
    · subst same
      cases declared
      exact .int 7
    · have other : (name == "author.level") = false := beq_eq_false_iff_ne.2 same
      simp [Declarations.typeOf?, List.lookup_cons, other] at declared
  refine ⟨_, compiled, (Filter.eval_hasShape compiled fit ?_).1, rfl⟩
  rintro x part ⟨l, r, ty, no_text, rfl, -, right⟩
  cases part with
  | left op r part =>
    cases part with
    | self =>
      cases right
      exact absurd no_text (by decide)
    | left op r part => cases part
    | right op l part => cases part
  | right op l part => cases part

/-- Without a text there is nothing to add, and the sum is zero. -/
example : Expr.typeIn [] (.binary .plus (.string "a") (.list [])) = .ok .string ∧
    Expr.eval [] (.binary .plus (.string "a") (.list [])) = .int 0 := ⟨rfl, rfl⟩

end ChatSieve
