import ChatSieve.Proofs.Expr.Soundness
import ChatSieve.Proofs.Message.Context

/-!
# Strings in sums

What is added to a string has to have a text. The type of a sum asks for it of
no operand, so a sum of the type of strings may have an integer as its value.
Just which sums lose their text in this way is told by the types of what they
add (`Filter.eval_sum`): those that add a list, a map or a pattern to a string,
and those that add something to such a sum.
-/

namespace ChatSieve

/-- The values of a type if some sum in place of a string is an integer. -/
inductive Value.HasLooseShape : Value → Ty → Prop
  | same {v : Value} {ty : Ty} (shape : v.HasShape ty) : HasLooseShape v ty
  | lostText (n : Int64) : HasLooseShape (.int n) .string
  /-- a list of strings of which one has lost its text -/
  | lostTexts (items : List Value) : HasLooseShape (.list items) .stringList

namespace Value.HasLooseShape

variable {v : Value} {ty : Ty}

theorem hasShape (shape : v.HasLooseShape ty) (no_string : ty ≠ .string)
    (no_strings : ty ≠ .stringList) : v.HasShape ty := by
  cases shape with
  | same shape => exact shape
  | lostText n => exact absurd rfl no_string
  | lostTexts items => exact absurd rfl no_strings

theorem toText? (shape : v.HasLooseShape ty) (text : ty ∉ Ty.textless) : ∃ s, v.toText? = some s := by
  cases shape with
  | same shape => exact shape.toText? text
  | lostText n => exact ⟨_, rfl⟩
  | lostTexts items => exact absurd (by decide) text

/-- What has no text is no integer either. -/
theorem textless (shape : v.HasLooseShape ty) (no_text : ty ∈ Ty.textless) :
    v.toText? = none ∧ v.toInt? = none := by
  cases shape with
  | same shape => cases shape <;> first | exact ⟨rfl, rfl⟩ | exact absurd no_text (by decide)
  | lostText n => exact absurd no_text (by decide)
  | lostTexts items => exact ⟨rfl, rfl⟩

private theorem eq_string_of_asString? (shape : v.HasLooseShape ty) {s : String}
    (string : v.asString? = some s) : ty = .string := by
  cases shape with
  | same shape =>
    have is_string := shape.asString?
    rw [string] at is_string
    exact eq_of_beq is_string.symm
  | lostText n => rfl
  | lostTexts items => cases string

end Value.HasLooseShape

private theorem plusValue_string_or_int (l r : Value) :
    (∃ s, plusValue l r = .string s) ∨ ∃ n, plusValue l r = .int n := by
  rw [plusValue.eq_def]
  split
  · exact .inl ⟨_, rfl⟩
  · exact .inr ⟨_, rfl⟩

private theorem plusValue_textless (l : Value) {r : Value} (no_text : r.toText? = none)
    (no_int : r.toInt? = none) : plusValue l r = .int 0 := by
  cases l <;> simp [plusValue, onInts, no_text, no_int]

private theorem plusValue_hasLooseShape {l r : Value} {left right ty : Ty}
    (left_shape : l.HasLooseShape left)
    (typed : binaryType .plus left right = .ok ty) : (plusValue l r).HasLooseShape ty := by
  rcases binaryType_plus_eq_ok.1 typed with ⟨rfl, rfl⟩ | ⟨rfl, rfl, rfl⟩
  · rcases plusValue_string_or_int l r with ⟨s, same⟩ | ⟨n, same⟩
    · rw [same]
      exact .same (.string s)
    · rw [same]
      exact .lostText n
  · cases left_shape.hasShape (by decide) (by decide)
    exact .same (.int _)

/-- Only a sum may lose a text. -/
theorem binaryValue_hasShape_of_ne_plus {op : Token.Kind} {l r : Value} {left right ty : Ty}
    (no_plus : op ≠ .plus) (left_shape : l.HasLooseShape left) (right_shape : r.HasLooseShape right)
    (typed : binaryType op left right = .ok ty) : (binaryValue op l r).HasShape ty := by
  by_cases «matches» : op = .matches
  · subst «matches»
    refine matchValue_hasShape ?_ right_shape.hasShape typed
    rintro rfl
    exact left_shape.toText? (by decide)
  · exact binaryValue_hasShape_of_ne l r no_plus «matches» typed

private theorem binaryValue_hasLooseShape {op : Token.Kind} {l r : Value} {left right ty : Ty}
    (left_shape : l.HasLooseShape left) (right_shape : r.HasLooseShape right)
    (typed : binaryType op left right = .ok ty) : (binaryValue op l r).HasLooseShape ty := by
  by_cases plus : op = .plus
  · subst plus
    exact plusValue_hasLooseShape left_shape typed
  · exact .same (binaryValue_hasShape_of_ne_plus plus left_shape right_shape typed)

private theorem all_string_of_mapM_asString? {vs : List Value} {tys : List Ty}
    (shapes : List.Forall₂ Value.HasLooseShape vs tys) {items : List String}
    (strings : vs.mapM Value.asString? = some items) : tys.all (· == .string) := by
  induction shapes generalizing items with
  | nil => rfl
  | @cons v ty vs tys shape shapes ih =>
    rw [List.mapM_cons] at strings
    cases first : v.asString? with
    | none => simp [first] at strings
    | some s =>
      cases rest : vs.mapM Value.asString? with
      | none => simp [first, rest] at strings
      | some others => simp [shape.eq_string_of_asString? first, ih rest]

private theorem listValue_hasLooseShape {vs : List Value} {tys : List Ty}
    (shapes : List.Forall₂ Value.HasLooseShape vs tys) :
    (listValue vs).HasLooseShape (listType tys) := by
  rw [listType.eq_def]
  split
  · obtain _ | ⟨first, others⟩ := shapes
    obtain _ | ⟨second, nothing⟩ := others
    cases first.hasShape (by decide) (by decide)
    cases second.hasShape (by decide) (by decide)
    cases nothing
    exact .same (.groupRequest _ _)
  · rw [listValue]
    cases strings : vs.mapM Value.asString? with
    | some items =>
      rw [if_pos (all_string_of_mapM_asString? shapes strings)]
      exact .same (.strings items)
    | none =>
      cases tys.all (· == .string) with
      | true => exact .lostTexts vs
      | false => exact .same (.list vs)

namespace Expr

variable {decls : Declarations} {vars : Bindings}

theorem hasLooseShape_of_typeIn (fit : vars.Fit decls) {e : Expr} {ty : Ty}
    (typed : e.typeIn decls = .ok ty) : (e.eval vars).HasLooseShape ty := by
  refine related_of_typeIn fit typed (fun v ty => .same) (fun vs tys => listValue_hasLooseShape) ?_
  intro op l r left right ty part left_typed right_typed left_shape right_shape binary_typed
  exact binaryValue_hasLooseShape left_shape right_shape binary_typed

/-- A sum that adds to a string what has no text, or adds to such a sum. -/
inductive LosesText (decls : Declarations) : Expr → Prop
  | here {e : Expr} (adds : e.AddsNoText decls) : LosesText decls e
  | before {l : Expr} (lost : LosesText decls l) (r : Expr) : LosesText decls (.binary .plus l r)

private theorem losesText_iff {l r : Expr} :
    (Expr.binary .plus l r).LosesText decls ↔
      (Expr.binary .plus l r).AddsNoText decls ∨ l.LosesText decls := by
  constructor
  · intro lost
    cases lost with
    | here adds => exact .inl adds
    | before lost r => exact .inr lost
  · rintro (adds | lost)
    · exact .here adds
    · exact .before lost r

private theorem eval_of_addsNoText (fit : vars.Fit decls) {e : Expr} (adds : e.AddsNoText decls) :
    e.eval vars = .int 0 := by
  obtain ⟨l, r, ty, no_text, rfl, -, right_typed⟩ := adds
  obtain ⟨text, int⟩ := (hasLooseShape_of_typeIn fit right_typed).textless no_text
  exact plusValue_textless _ text int

private theorem not_losesText {e : Expr} (no_sum : ∀ l r, e ≠ .binary .plus l r) :
    ¬ e.LosesText decls := by
  intro lost
  cases lost with
  | here adds =>
    obtain ⟨l, r, ty, -, rfl, -⟩ := adds
    exact no_sum l r rfl
  | before lost r => exact no_sum _ r rfl

/-- A sum has the type of strings if its left operand has. -/
theorem typeIn_plus {l r : Expr} : (Expr.binary .plus l r).typeIn decls = .ok .string ↔
    l.typeIn decls = .ok .string ∧ ∃ right, r.typeIn decls = .ok right := by
  rw [typeIn_binary]
  constructor
  · rintro ⟨left, right, left_typed, right_typed, typed⟩
    rcases binaryType_plus_eq_ok.1 typed with ⟨rfl, -⟩ | ⟨-, -, string⟩
    · exact ⟨left_typed, right, right_typed⟩
    · cases string
  · rintro ⟨left_typed, right, right_typed⟩
    exact ⟨.string, right, left_typed, right_typed, binaryType_plus_eq_ok.2 (.inl ⟨rfl, rfl⟩)⟩

/-- What is no sum keeps its text. -/
theorem exists_string_of_no_sum (fit : vars.Fit decls) {e : Expr} (typed : e.typeIn decls = .ok .string)
    (no_sum : ∀ l r, e ≠ .binary .plus l r) : ∃ s, e.eval vars = .string s := by
  have shape : (e.eval vars).HasShape .string := by
    cases e with
    | int n => cases typed
    | string s => exact .string s
    | pattern p => cases typed
    | identifier name => exact fit name _ (typeOf?_of_typeIn typed)
    | list items =>
      obtain ⟨tys, -, string⟩ := typeIn_list.1 typed
      exact absurd (listType_mem tys) (by rw [string]; decide)
    | unary op x =>
      obtain ⟨operand, -, unary_typed⟩ := typeIn_unary.1 typed
      exact unaryValue_hasShape unary_typed
    | binary op l r =>
      obtain ⟨left, right, left_typed, right_typed, binary_typed⟩ := typeIn_binary.1 typed
      refine binaryValue_hasShape_of_ne_plus ?_ (hasLooseShape_of_typeIn fit left_typed)
        (hasLooseShape_of_typeIn fit right_typed) binary_typed
      rintro rfl
      exact no_sum l r rfl
  exact shape.exists_string

/-- What may be added to a string that is one. -/
theorem eval_plus_of_string (fit : vars.Fit decls) {l r : Expr}
    (typed : (Expr.binary .plus l r).typeIn decls = .ok .string)
    (has_text : ¬ (Expr.binary .plus l r).AddsNoText decls) {a : String}
    (string : l.eval vars = .string a) :
    ∃ b, (r.eval vars).toText? = some b ∧ (Expr.binary .plus l r).eval vars = .string (a ++ b) := by
  obtain ⟨left_typed, right, right_typed⟩ := typeIn_plus.1 typed
  have with_text : right ∉ Ty.textless := by
    intro no_text
    exact has_text ⟨l, r, right, no_text, rfl, left_typed, right_typed⟩
  obtain ⟨b, text⟩ := (hasLooseShape_of_typeIn fit right_typed).toText? with_text
  refine ⟨b, text, ?_⟩
  simp only [eval, string, binaryValue, plusValue, text]

/-- An expression of the type of strings is a string if it does not lose its
text, and an integer otherwise. -/
theorem eval_of_typeIn_string (fit : vars.Fit decls) {e : Expr} (typed : e.typeIn decls = .ok .string) :
    (¬ e.LosesText decls → ∃ s, e.eval vars = .string s) ∧
      (e.LosesText decls → ∃ n, e.eval vars = .int n) := by
  have other {e : Expr} (typed : e.typeIn decls = .ok .string) (no_sum : ∀ l r, e ≠ .binary .plus l r) :
      (¬ e.LosesText decls → ∃ s, e.eval vars = .string s) ∧
        (e.LosesText decls → ∃ n, e.eval vars = .int n) :=
    ⟨fun _ => exists_string_of_no_sum fit typed no_sum, fun lost => absurd lost (not_losesText no_sum)⟩
  induction e with
  | binary op l r left_ih right_ih =>
    by_cases plus : op = .plus
    · subst plus
      obtain ⟨left_typed, -⟩ := typeIn_plus.1 typed
      obtain ⟨kept, lost⟩ := left_ih left_typed
      rw [losesText_iff]
      constructor
      · intro none_lost
        obtain ⟨has_text, before⟩ := not_or.1 none_lost
        obtain ⟨a, string⟩ := kept before
        obtain ⟨b, -, sum⟩ := eval_plus_of_string fit typed has_text string
        exact ⟨a ++ b, sum⟩
      · rintro (adds | before)
        · exact ⟨0, eval_of_addsNoText fit adds⟩
        · obtain ⟨n, int⟩ := lost before
          rw [eval, int]
          exact ⟨_, rfl⟩
    · refine other typed ?_
      rintro l r ⟨⟩
      exact plus rfl
  | int n => exact other typed nofun
  | string s => exact other typed nofun
  | identifier name => exact other typed nofun
  | pattern p => exact other typed nofun
  | list items => exact other typed nofun
  | unary op x => exact other typed nofun

end Expr

namespace Filter
open ChatSieve.Expr

/-- A sum in a compiled filter whose left operand has the type of strings has
this type itself. Its value is a string, the text of the right operand after
the left one, unless it loses its text: then its value is an integer, and zero
if the right operand is what has no text. -/
theorem eval_sum {decls : Declarations} {text : String} {f : Filter} {vars : Bindings}
    (compiled : compile decls text = .ok f) (fit : vars.Fit decls) {l r : Expr}
    (part : (Expr.binary .plus l r).IsPartOf f.expr) (left : l.typeIn decls = .ok .string) :
    (Expr.binary .plus l r).typeIn decls = .ok .string ∧
    (¬ (Expr.binary .plus l r).LosesText decls →
      ∃ a b, l.eval vars = .string a ∧ (r.eval vars).toText? = some b ∧
        (Expr.binary .plus l r).eval vars = .string (a ++ b)) ∧
    ((Expr.binary .plus l r).LosesText decls → ∃ n, (Expr.binary .plus l r).eval vars = .int n) ∧
    ((Expr.binary .plus l r).AddsNoText decls → (Expr.binary .plus l r).eval vars = .int 0) := by
  obtain ⟨ty, sum_typed⟩ := part.typed ((compile_eq_ok_iff _ _ _).1 compiled).2
  obtain ⟨-, right, -, right_typed, -⟩ := typeIn_binary.1 sum_typed
  have typed := typeIn_plus.2 ⟨left, right, right_typed⟩
  refine ⟨typed, ?_, (eval_of_typeIn_string fit typed).2, eval_of_addsNoText fit⟩
  intro kept
  obtain ⟨has_text, before⟩ := not_or.1 (mt losesText_iff.2 kept)
  obtain ⟨a, string⟩ := (eval_of_typeIn_string fit left).1 before
  obtain ⟨b, right_text, sum⟩ := eval_plus_of_string fit typed has_text string
  exact ⟨a, b, string, right_text, sum⟩

open Token Grammar

/-- A sum that has lost its text, and is zero, has a text again where it is
added itself. -/
theorem eval_sum_again :
    ∃ f : Filter, compile [] "\"a\" + (\"b\" + \x7b\x7d) == \"a0\"" = .ok f ∧
      (Expr.binary .plus (.string "b") (.list [])).eval [] = .int 0 ∧
      (Expr.binary .plus (.string "a") (.binary .plus (.string "b") (.list []))).eval [] =
        .string "a0" := by
  have found : tokens [] "\"a\" + (\"b\" + \x7b\x7d) == \"a0\"" =
      [⟨.string, "\"a\""⟩, ⟨.plus, "+"⟩, ⟨.leftParen, "("⟩, ⟨.string, "\"b\""⟩, ⟨.plus, "+"⟩,
       ⟨.listStart, "\x7b"⟩, ⟨.listEnd, "\x7d"⟩, ⟨.rightParen, ")"⟩, ⟨.eq, "=="⟩,
       ⟨.string, "\"a0\""⟩] := by
    decide +kernel
  have compiled : compile [] "\"a\" + (\"b\" + \x7b\x7d) == \"a0\"" =
      .ok ⟨.binary .eq (.binary .plus (.string "a") (.binary .plus (.string "b") (.list [])))
        (.string "a0"), .bool⟩ := by
    refine (compile_eq_ok_iff _ _ _).2 ⟨?_, rfl⟩
    rw [parse, found]
    rfl
  have fit : Bindings.Fit [] [] := by
    rintro name ty ⟨⟩
  have outer := eval_sum compiled fit (.left .eq _ (.self _)) rfl
  have inner := eval_sum compiled fit (.left .eq _ (.right .plus _ (.self _))) rfl
  have has_text : ¬ (Expr.binary .plus (.string "a")
      (.binary .plus (.string "b") (.list []))).LosesText [] := by
    rw [losesText_iff]
    rintro (⟨l, r, ty, no_text, same, -, right⟩ | before)
    · cases same
      cases right
      exact absurd no_text (by decide)
    · exact not_losesText (by rintro l r ⟨⟩) before
  obtain ⟨a, b, left, right, sum⟩ := outer.2.1 has_text
  cases left
  cases right
  exact ⟨_, compiled, inner.2.2.2 ⟨_, _, .stringList, by decide, rfl, rfl, rfl⟩, sum⟩

/-- The badges of an author have no text to add to the name. -/
theorem eval_sum_badges :
    ∃ f : Filter, ofText "author.name + author.badges" = .ok f ∧ f.ty = .string ∧
      f.expr = .binary .plus (.identifier "author.name") (.identifier "author.badges") ∧
      ∀ (m : Message) (channels : Channels),
        (m.bindings channels).Fit Catalogue.declarations ∧ f.eval (m.bindings channels) = .int 0 := by
  have found : tokens Catalogue.declarations "author.name + author.badges" =
      [⟨.identifier, "author.name"⟩, ⟨.plus, "+"⟩, ⟨.identifier, "author.badges"⟩] := by
    decide +kernel
  have compiled : ofText "author.name + author.badges" =
      .ok ⟨.binary .plus (.identifier "author.name") (.identifier "author.badges"), .string⟩ := by
    refine (compile_eq_ok_iff _ _ _).2 ⟨?_, rfl⟩
    rw [parse, found]
    rfl
  refine ⟨_, compiled, rfl, rfl, ?_⟩
  intro m channels
  have fit := m.bindings_fit channels
  exact ⟨fit, eval_of_addsNoText fit ⟨_, _, .stringList, by decide, rfl, rfl, rfl⟩⟩

end Filter

end ChatSieve
