import ChatSieve.Proofs.Expr.Soundness
import ChatSieve.Proofs.Grammar.Acceptance

/-!
# Truth values in any table

A filter over messages that has the type of truth values is true or false even
where the identifiers have no values, or values of other types
(`Filter.eval_eq_holds`). Only a bare identifier has whatever value the table
gives it. Matching is the one operation whose result depends on what its right
operand is, and nothing but a literal has the type of patterns.
-/

namespace ChatSieve

/-- No identifier stands for a pattern. -/
def Declarations.WithoutPatterns (decls : Declarations) : Prop :=
  ∀ name, decls.typeOf? name ≠ some .pattern

private theorem Catalogue.withoutPatterns : declarations.WithoutPatterns := by
  have none : ∀ entry ∈ declarations, entry.2 ≠ .pattern := by decide
  intro name declared
  obtain ⟨before, after, split, -⟩ := List.lookup_eq_some_iff.1 declared
  exact none (name, .pattern) (by simp [split]) rfl

private theorem binaryType_mem {op : Token.Kind} {left right ty : Ty}
    (typed : binaryType op left right = .ok ty) : ty ∈ [Ty.int, .bool, .string] := by
  cases op with
  | plus => rcases binaryType_plus_eq_ok.1 typed with ⟨-, rfl⟩ | ⟨-, -, rfl⟩ <;> decide
  | «matches» => obtain ⟨-, ⟨-, rfl⟩ | ⟨-, rfl⟩⟩ := binaryType_matches_eq_ok.1 typed <;> decide
  | minus | multiply | divide | mod | and | or | lt | gt | lte | gte | startsWith | endsWith
    | contains =>
    simp only [binaryType] at typed
    split at typed
    · cases typed
      decide
    · cases typed
  | eq | neq =>
    cases typed
    decide
  | _ => cases typed

private theorem matchValue_pattern (l : Value) (p : Pattern) :
    ∃ b, matchValue l (.pattern p) = .bool b := by
  rw [matchValue.eq_def]
  cases l.toText? with
  | some subject => exact ⟨_, rfl⟩
  | none => exact ⟨false, rfl⟩

namespace Expr

variable {decls : Declarations}

/-- Only literals have the type of patterns. -/
theorem exists_pattern_of_typeIn (no_patterns : decls.WithoutPatterns) {e : Expr}
    (typed : e.typeIn decls = .ok .pattern) : ∃ p, e = .pattern p := by
  cases e with
  | int n => cases typed
  | string s => cases typed
  | pattern p => exact ⟨p, rfl⟩
  | identifier name => exact absurd (typeOf?_of_typeIn typed) (no_patterns name)
  | list items =>
    obtain ⟨tys, -, pattern⟩ := typeIn_list.1 typed
    exact absurd (listType_mem tys) (by rw [pattern]; decide)
  | unary op x =>
    obtain ⟨operand, -, unary_typed⟩ := typeIn_unary.1 typed
    cases (unaryType_eq_ok.1 unary_typed).2.2
  | binary op l r =>
    obtain ⟨left, right, -, -, binary_typed⟩ := typeIn_binary.1 typed
    exact absurd (binaryType_mem binary_typed) (by decide)

/-- What has the type of truth values is one, but for an identifier. -/
theorem exists_bool_of_typeIn (no_patterns : decls.WithoutPatterns) {e : Expr}
    (typed : e.typeIn decls = .ok .bool) (compound : ∀ name, e ≠ .identifier name) (vars : Bindings) :
    ∃ b, e.eval vars = .bool b := by
  cases e with
  | int n => cases typed
  | string s => cases typed
  | pattern p => cases typed
  | identifier name => exact absurd rfl (compound name)
  | list items =>
    obtain ⟨tys, -, bool⟩ := typeIn_list.1 typed
    exact absurd (listType_mem tys) (by rw [bool]; decide)
  | unary op x =>
    obtain ⟨operand, -, unary_typed⟩ := typeIn_unary.1 typed
    exact (unaryValue_hasShape unary_typed).exists_bool
  | binary op l r =>
    obtain ⟨left, right, -, right_typed, binary_typed⟩ := typeIn_binary.1 typed
    by_cases plus : op = .plus
    · subst plus
      rcases binaryType_plus_eq_ok.1 binary_typed with ⟨-, string⟩ | ⟨-, -, int⟩
      · cases string
      · cases int
    · by_cases «matches» : op = .matches
      · subst «matches»
        obtain ⟨-, ⟨rfl, -⟩ | ⟨-, string⟩⟩ := binaryType_matches_eq_ok.1 binary_typed
        · obtain ⟨p, rfl⟩ := exists_pattern_of_typeIn no_patterns right_typed
          exact matchValue_pattern _ p
        · cases string
      · exact (binaryValue_hasShape_of_ne _ _ plus «matches» binary_typed).exists_bool

end Expr

namespace Filter

/-- A filter of the type of truth values that is no bare identifier is true or
false whatever the identifiers stand for, and holds just if it is true. -/
theorem eval_eq_holds {text : String} {f : Filter} (compiled : ofText text = .ok f) (bool : f.ty = .bool)
    (compound : ∀ name, f.expr ≠ .identifier name) (vars : Bindings) :
    f.eval vars = .bool (f.holds vars) := by
  have typed : f.expr.typeIn Catalogue.declarations = .ok .bool := by
    rw [((compile_eq_ok_iff _ _ _).1 compiled).2, bool]
  obtain ⟨b, value⟩ := Expr.exists_bool_of_typeIn Catalogue.withoutPatterns typed compound vars
  rw [holds, eval, value]
  rfl

open Token Grammar

/-- Nothing matches in a list, nor in what has no value. -/
theorem eval_eq_holds_match :
    ∃ f : Filter, ofText "author.name match r\"a\"" = .ok f ∧
      f.eval [("author.name", .list [.string "a"])] = .bool false ∧ f.eval [] = .bool false := by
  obtain ⟨p, valid⟩ : ∃ p, patternOf? "r\"a\"".toList = some p :=
    Option.isSome_iff_exists.1 (by decide +kernel)
  have found : tokens Catalogue.declarations "author.name match r\"a\"" =
      [⟨.identifier, "author.name"⟩, ⟨.matches, "match"⟩, ⟨.pattern, "r\"a\""⟩] := by
    decide +kernel
  have condition := Derives.comparison ⟨.matches, "match"⟩
    (.firstOperand (.token (.identifier "author.name"))) rfl (.token (.pattern valid))
  have derived := Derives.expression (.firstOperand (.conjunction (.firstOperand (.assertion condition))))
  have parsed := (parseTokens_of_derives derived).1 (by decide)
  have compiled : ofText "author.name match r\"a\"" =
      .ok ⟨.binary .matches (.identifier "author.name") (.pattern p), .bool⟩ := by
    refine (compile_eq_ok_iff _ _ _).2 ⟨?_, rfl⟩
    rw [parse, found]
    exact parsed
  have truth := eval_eq_holds compiled rfl (by rintro name ⟨⟩)
  exact ⟨_, compiled, truth _, truth []⟩

end Filter

end ChatSieve
