import ChatSieve.Proofs.Expr.Affixes
import Mathlib.Data.List.Infix

/-!
# Beginnings, ends and parts

What a value starts or ends with it contains, whatever the two values are: the
item at an end of a list is an item of it, and an end of a text is a part of it.
Between strings each of the three tests is an order of the lowercase texts. So
it is an order of strings up to case, which is what the equality of filters
disregards (`containment_laws`).
-/

namespace ChatSieve

open Text

/-- The operation is true of two values. -/
def IsTrueOf (op : Token.Kind) (l r : Value) : Prop := binaryValue op l r = .bool true

private theorem isTrueOf_iff {op : Token.Kind} {l r : Value} {b : Bool}
    (value : binaryValue op l r = .bool b) :
    IsTrueOf op l r ↔ b := by
  rw [IsTrueOf, value, Value.bool.injEq]

/-- The tests at either end of a value, of which `pick` gives the item at the
end of a list and `test` the test on strings. -/
def edgeValue (pick : ∀ {α : Type}, List α → Option α) (test : String → String → Bool)
    (l r : Value) : Bool :=
  match l, r.toText? with
  | .strings items, some part => (pick items).any fun item => sameIgnoringCase item part
  | .list items, _ => (pick items).any fun item => item.looselyEquals r
  | _, _ => testTexts test l r

private theorem isTrueOf_startsWith_iff (l r : Value) :
    IsTrueOf .startsWith l r ↔ edgeValue List.head? startsIgnoringCase l r :=
  isTrueOf_iff rfl

private theorem isTrueOf_endsWith_iff (l r : Value) :
    IsTrueOf .endsWith l r ↔ edgeValue List.getLast? endsIgnoringCase l r :=
  isTrueOf_iff rfl

private theorem isTrueOf_contains_iff (l r : Value) : IsTrueOf .contains l r ↔ containsValue l r :=
  isTrueOf_iff rfl

private theorem any_of_pick {α : Type} {items : List α} {picked : Option α}
    (member : ∀ x ∈ picked, x ∈ items)
    {p : α → Bool} (found : picked.any p) : items.any p := by
  cases picked with
  | none => cases found
  | some x => exact List.any_eq_true.2 ⟨x, member x rfl, found⟩

private theorem testTexts_mono {p q : String → String → Bool} (weaker : ∀ s t, p s t → q s t)
    {l r : Value}
    (holds : testTexts p l r) : testTexts q l r := by
  cases left : l.toText? with
  | none => simp [testTexts, left] at holds
  | some s =>
    cases right : r.toText? with
    | none => simp [testTexts, left, right] at holds
    | some t =>
      simp only [testTexts, left, right] at holds ⊢
      exact weaker s t holds

/-- What is at an end of a value is in the value. -/
theorem containsValue_of_edgeValue {pick : ∀ {α : Type}, List α → Option α}
    {test : String → String → Bool} (member : ∀ {α : Type} (items : List α), ∀ x ∈ pick items, x ∈ items)
    (part : ∀ s t, test s t → containsIgnoringCase s t) {l r : Value} (edge : edgeValue pick test l r) :
    containsValue l r := by
  cases l with
  | strings items =>
    cases text : r.toText? with
    | some s =>
      simp only [edgeValue, containsValue, text] at edge ⊢
      exact any_of_pick (member items) edge
    | none => simp [edgeValue, testTexts, text] at edge
  | list items =>
    simp only [edgeValue, containsValue] at edge ⊢
    exact any_of_pick (member items) edge
  | null | map entries | pattern p => simp [edgeValue, testTexts, Value.toText?] at edge
  | _ => exact testTexts_mono part edge

private theorem startsIgnoringCase_iff (s t : String) :
    startsIgnoringCase s t ↔ lowercase t.toList <+: lowercase s.toList :=
  List.isPrefixOf_iff_prefix

private theorem endsIgnoringCase_iff (s t : String) :
    endsIgnoringCase s t ↔ lowercase t.toList <:+ lowercase s.toList :=
  List.isSuffixOf_iff_suffix

private theorem containsIgnoringCase_iff (s t : String) :
    containsIgnoringCase s t ↔ lowercase t.toList <:+: lowercase s.toList :=
  occursIn_iff_infix _ _

/-- The same text has the same lowercase. -/
theorem sameIgnoringCase_iff (s t : String) :
    sameIgnoringCase s t ↔ lowercase s.toList = lowercase t.toList := by
  rw [sameIgnoringCase, Bool.or_eq_true, beq_iff_eq, beq_iff_eq]
  constructor
  · rintro (rfl | same)
    · rfl
    · exact same
  · exact .inr

private theorem isTrueOf_eq_string_iff (s t : String) :
    IsTrueOf .eq (.string s) (.string t) ↔ lowercase s.toList = lowercase t.toList := by
  rw [← sameIgnoringCase_iff]
  exact isTrueOf_iff rfl

/-- An operation that is an order of strings, but that strings are not told
apart which filters take for equal. -/
structure OrdersStrings (op : Token.Kind) : Prop where
  refl (s : String) : IsTrueOf op (.string s) (.string s)
  trans (s t u : String) : IsTrueOf op (.string s) (.string t) → IsTrueOf op (.string t) (.string u) →
    IsTrueOf op (.string s) (.string u)
  of_eq (s t : String) : IsTrueOf .eq (.string s) (.string t) → IsTrueOf op (.string s) (.string t)
  antisymm (s t : String) : IsTrueOf op (.string s) (.string t) → IsTrueOf op (.string t) (.string s) →
    IsTrueOf .eq (.string s) (.string t)

/-- An operation that compares the lowercase texts of strings by an order. -/
theorem ordersStrings_of_order {op : Token.Kind} (order : List Char → List Char → Prop)
    [IsPartialOrder (List Char) order]
    (meaning : ∀ s t : String,
      IsTrueOf op (.string s) (.string t) ↔ order (lowercase t.toList) (lowercase s.toList)) :
    OrdersStrings op where
  refl s := (meaning s s).2 (refl_of order _)
  trans s t u left right := (meaning s u).2 (trans_of order ((meaning t u).1 right) ((meaning s t).1 left))
  of_eq s t same := by
    rw [meaning, (isTrueOf_eq_string_iff s t).1 same]
    exact refl_of order _
  antisymm s t left right :=
    (isTrueOf_eq_string_iff s t).2 (antisymm_of order ((meaning t s).1 right) ((meaning s t).1 left))

/-- What a value starts with and what it ends with is contained in it. Between
strings, starting with, ending with and containing are orders up to equality. -/
theorem containment_laws :
    (∀ l r : Value, IsTrueOf .startsWith l r → IsTrueOf .contains l r) ∧
    (∀ l r : Value, IsTrueOf .endsWith l r → IsTrueOf .contains l r) ∧
    OrdersStrings .contains ∧ OrdersStrings .startsWith ∧ OrdersStrings .endsWith := by
  refine ⟨?_, ?_, ?_, ?_, ?_⟩
  · intro l r starts
    refine (isTrueOf_contains_iff l r).2
      (containsValue_of_edgeValue ?_ ?_ ((isTrueOf_startsWith_iff l r).1 starts))
    · intro α items x head
      exact List.mem_of_mem_head? head
    · intro s t beginning
      exact (containsIgnoringCase_iff s t).2 ((startsIgnoringCase_iff s t).1 beginning).isInfix
  · intro l r ends
    refine (isTrueOf_contains_iff l r).2
      (containsValue_of_edgeValue ?_ ?_ ((isTrueOf_endsWith_iff l r).1 ends))
    · intro α items x last
      exact List.mem_of_mem_getLast? last
    · intro s t ending
      exact (containsIgnoringCase_iff s t).2 ((endsIgnoringCase_iff s t).1 ending).isInfix
  · refine ordersStrings_of_order (· <:+: ·) ?_
    intro s t
    exact (isTrueOf_contains_iff _ _).trans (containsIgnoringCase_iff s t)
  · refine ordersStrings_of_order (· <+: ·) ?_
    intro s t
    exact (isTrueOf_startsWith_iff _ _).trans (startsIgnoringCase_iff s t)
  · refine ordersStrings_of_order (· <:+ ·) ?_
    intro s t
    exact (isTrueOf_endsWith_iff _ _).trans (endsIgnoringCase_iff s t)

end ChatSieve
