import ChatSieve.Proofs.Expr.Typing
import ChatSieve.Proofs.Grammar.RoundTrip

/-!
# Trees put together by hand

A tree that no text has been parsed to has a source as well. It parses back to
the tree just if the brackets do not take too many levels and every literal but
the last one is closed (`parse_source_composed`). Both conditions are needed:
an open literal takes the quotes of the next one for its own, since backslashes
are not escaped.
-/

namespace ChatSieve
open Token Grammar

namespace Expr

mutual

/-- Put together from integers without a sign, declared identifiers, literals,
lists and the operators of filters. -/
def isComposed (decls : Declarations) : Expr → Bool
  | .int n => 0 ≤ n
  | .string _ | .pattern _ => true
  | .identifier name => decls.declares name
  | .list items => areComposed decls items
  | .unary op x => op.isNegation && isComposed decls x
  | .binary op l r =>
    (op.isArithmetic || op.isLogical || op.isComparison) && isComposed decls l && isComposed decls r

def areComposed (decls : Declarations) : List Expr → Bool
  | [] => true
  | e :: es => isComposed decls e && areComposed decls es

end

private theorem areComposed_iff {decls : Declarations} {es : List Expr} :
    areComposed decls es ↔ ∀ e ∈ es, e.isComposed decls := by
  induction es with
  | nil => simp [areComposed]
  | cons e es ih => simp [areComposed, ih]

end Expr

/-- The names of the catalogue are no keywords. -/
theorem Catalogue.classify_of_declares {name : String} (declared : declarations.declares name) :
    classify declarations name = .identifier := by
  have all : ∀ entry ∈ declarations, classify declarations entry.1 = .identifier := by
    decide +kernel
  obtain ⟨entry, member, same⟩ := List.lookup_isSome_iff.1 declared
  rw [eq_of_beq same]
  exact all entry member

/-- These trees are like those of texts. -/
theorem Expr.readable_of_isComposed {e : Expr} (composed : e.isComposed Catalogue.declarations) :
    e.Readable Catalogue.declarations := by
  induction e with
  | int n =>
    apply Readable.int
    simpa [isComposed, Int64.le_iff_toInt_le] using composed
  | string s => exact .string s
  | identifier name => exact .identifier (Catalogue.classify_of_declares composed)
  | pattern p => exact .pattern p
  | list items ih =>
    apply Readable.list
    intro e member
    exact ih e member (areComposed_iff.1 composed e member)
  | unary op x ih =>
    simp only [isComposed, Bool.and_eq_true] at composed
    obtain ⟨negation, operand⟩ := composed
    cases op with
    | not => exact .denial (ih operand)
    | _ => cases negation
  | binary op l r left_ih right_ih =>
    simp only [isComposed, Bool.and_eq_true, Bool.or_eq_true] at composed
    obtain ⟨⟨operator, left⟩, right⟩ := composed
    rw [or_assoc] at operator
    exact .operation operator (left_ih left) (right_ih right)

namespace Grammar

variable {decls : Declarations}

theorem derives_source (named : decls.WellNamed) {e : Expr} (readable : e.Readable decls)
    (closed : Closed e.literals) :
    Derives .expression (tokens decls e.source) e e.renderDepth := by
  rw [tokens_source named readable closed]
  exact (derives_of_readable named readable).expression_of_value

/-- Only a tree with closed literals is that of its source, because the tokens
of any text are closed, and only one with few brackets, because the others are
nested too deeply. -/
theorem parse_source_iff (named : decls.WellNamed) {e : Expr} (readable : e.Readable decls) :
    parse decls e.source = ⟨e, none⟩ ↔ Closed e.literals ∧ e.renderDepth ≤ maxDepth := by
  constructor
  · intro parsed
    have closed := (readable_of_parse parsed).2
    refine ⟨closed, ?_⟩
    apply Nat.le_of_not_lt
    intro few
    have failed : (parse decls e.source).error = some .tooDeep :=
      (parseTokens_of_derives (derives_source named readable closed)).2 few
    rw [parsed] at failed
    cases failed
  · rintro ⟨closed, enough⟩
    exact (parseTokens_of_derives (derives_source named readable closed)).1 enough

/-- The source of a tree over the catalogue parses to the tree again if and only
if no literal that ends in a backslash comes before another literal, and the
brackets do not take more levels than there are. So any string by itself is
compiled back from its literal. -/
theorem parse_source_composed :
    (∀ e : Expr, e.isComposed Catalogue.declarations →
      (parse Catalogue.declarations e.source = ⟨e, none⟩ ↔
        Closed e.literals ∧ e.renderDepth ≤ maxDepth)) ∧
    ∀ s : String, Filter.ofText (Expr.string s).source = .ok ⟨.string s, .string⟩ := by
  constructor
  · intro e composed
    exact parse_source_iff Catalogue.wellNamed (Expr.readable_of_isComposed composed)
  · intro s
    apply (Filter.compile_eq_ok_iff _ _ _).2
    refine ⟨(parse_source_iff Catalogue.wellNamed (.string s)).2 ⟨?_, ?_⟩, rfl⟩
    · exact List.pairwise_singleton _ s
    · exact Nat.zero_le maxDepth

/-- Of two strings only the second one may end in a backslash. -/
theorem parse_source_composed_strings :
    let pair (first second : String) : Expr := .binary .eq (.string first) (.string second)
    (pair "a\"b" "c\\").isComposed Catalogue.declarations ∧
      parse Catalogue.declarations (pair "a\"b" "c\\").source = ⟨pair "a\"b" "c\\", none⟩ ∧
      (pair "c\\" "a\"b").isComposed Catalogue.declarations ∧
      parse Catalogue.declarations (pair "c\\" "a\"b").source ≠ ⟨pair "c\\" "a\"b", none⟩ ∧
      Filter.ofText (Expr.string "c\\").source = .ok ⟨.string "c\\", .string⟩ := by
  intro pair
  obtain ⟨trees, strings⟩ := parse_source_composed
  refine ⟨by decide, ?_, by decide, ?_, strings "c\\"⟩
  · apply (trees _ (by decide)).2
    unfold Closed
    decide
  · intro parsed
    have closed := ((trees _ (by decide)).1 parsed).1
    unfold Closed at closed
    exact absurd closed (by decide)

end Grammar

end ChatSieve
