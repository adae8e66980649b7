import ChatSieve.Proofs.Expr.Typing
import ChatSieve.Proofs.Grammar.Acceptance
import ChatSieve.Proofs.Grammar.Readable

/-!
# More declarations

Further identifiers do not change the filters that there are: what is a filter
under some declarations is the same filter under more of them
(`Filter.compile_of_extends`). A lexeme that has a kind keeps it, and a filter
has no lexeme without one, so that both runs of the parser see the same tokens.
A type, once found, stays as well. Only integers must not be declared anew,
because a declared name is an identifier even if it reads as an integer.
-/

namespace ChatSieve
open ChatSieve.Text

/-- All declarations of `decls` are also in `more`, and no other name that is
in `more` reads as an integer. -/
structure Declarations.Extends (more decls : Declarations) : Prop where
  typeOf?_eq : ∀ name ty, decls.typeOf? name = some ty → more.typeOf? name = some ty
  no_integer : ∀ name, more.declares name → decls.declares name = false →
    readInt64 name.toList = none

namespace Declarations

variable {decls more : Declarations}

theorem Extends.declares (extension : more.Extends decls) {name : String}
    (declared : decls.declares name) : more.declares name := by
  obtain ⟨ty, found⟩ := Option.isSome_iff_exists.1 declared
  rw [Declarations.declares, extension.typeOf?_eq name ty found]
  rfl

/-- Entries behind the others extend them if they are no integers: the first
entry of a name counts. -/
theorem extends_append (decls : Declarations) {new : Declarations}
    (no_integer : ∀ entry ∈ new, readInt64 entry.1.toList = none) :
    (decls ++ new).Extends decls where
  typeOf?_eq name ty declared := by
    rw [typeOf?, List.lookup_append, ← typeOf?, declared]
    rfl
  no_integer name declared undeclared := by
    rw [Declarations.declares, typeOf?, List.lookup_append, ← typeOf?] at declared
    have before : decls.typeOf? name = none := Option.isNone_iff_eq_none.1 (by
      rw [← Option.not_isSome, ← Declarations.declares, undeclared]
      rfl)
    rw [before, Option.none_or] at declared
    obtain ⟨entry, member, same⟩ := List.lookup_isSome_iff.1 declared
    rw [eq_of_beq same]
    exact no_integer entry member

end Declarations

namespace Token

variable {decls more : Declarations}

/-- A text that has a kind keeps it. -/
theorem classify_of_extends (extension : more.Extends decls) {text : String}
    (known : classify decls text ≠ .unknown) : classify more text = classify decls text := by
  rw [classify] at known ⊢
  rw [classify]
  cases fixed : Kind.ofFixedText? text with
  | some k => rfl
  | none =>
    simp only [fixed, Option.getD_none, classifyLiteral] at known ⊢
    by_cases pattern : (patternBody? text.toList).any isQuoted
    · rw [if_pos pattern, if_pos pattern]
    · by_cases string : isQuoted text.toList
      · rw [if_neg pattern, if_neg pattern, if_pos string, if_pos string]
      · simp only [pattern, string, Bool.false_eq_true, if_false] at known ⊢
        by_cases declared : decls.declares text
        · rw [if_pos declared, if_pos (extension.declares declared)]
        · by_cases integer : (readInt64 text.toList).isSome
          · have undeclared : ¬ more.declares text := by
              intro anew
              rw [extension.no_integer text anew (Bool.eq_false_iff.2 declared)] at integer
              cases integer
            rw [if_neg declared, if_neg undeclared]
          · simp [declared, integer] at known

/-- If all tokens of a text are known, they stay as they are. -/
theorem tokens_of_extends (extension : more.Extends decls) {text : String}
    (known : ∀ t ∈ tokens decls text, t.kind ≠ .unknown) :
    tokens more text = tokens decls text := by
  rw [tokens, tokens]
  apply List.map_congr_left
  intro lexeme member
  have kept := classify_of_extends extension (known _ (List.mem_map_of_mem member))
  rw [ofLexeme, ofLexeme, kept]

end Token

namespace Expr

variable {decls more : Declarations}

/-- An expression with a type keeps it. -/
theorem typeIn_of_extends (extension : more.Extends decls) {e : Expr} {ty : Ty}
    (typed : e.typeIn decls = .ok ty) : e.typeIn more = .ok ty := by
  induction e generalizing ty with
  | int n => exact typed
  | string s => exact typed
  | pattern p => exact typed
  | identifier name =>
    rw [typeIn] at typed ⊢
    cases declared : decls.typeOf? name with
    | none => simp [declared] at typed
    | some found =>
      rw [extension.typeOf?_eq name found declared]
      rw [declared] at typed
      exact typed
  | list items ih =>
    obtain ⟨tys, items_typed, rfl⟩ := typeIn_list.1 typed
    refine typeIn_list.2 ⟨tys, ?_, rfl⟩
    clear typed
    induction items generalizing tys with
    | nil => exact items_typed
    | cons e es others_ih =>
      obtain ⟨first, others, first_typed, others_typed, rfl⟩ := typesIn_cons.1 items_typed
      have kept := others_ih (fun e member => ih e (List.mem_cons_of_mem _ member)) others
        others_typed
      exact typesIn_cons.2 ⟨first, others, ih e List.mem_cons_self first_typed, kept, rfl⟩
  | unary op x ih =>
    obtain ⟨operand, operand_typed, applies⟩ := typeIn_unary.1 typed
    exact typeIn_unary.2 ⟨operand, ih operand_typed, applies⟩
  | binary op l r left_ih right_ih =>
    obtain ⟨left, right, left_typed, right_typed, applies⟩ := typeIn_binary.1 typed
    exact typeIn_binary.2 ⟨left, right, left_ih left_typed, right_ih right_typed, applies⟩

end Expr

namespace Filter
open Grammar Token

variable {decls more : Declarations}

/-- A filter is the same filter under more declarations: the text has the same
tokens, tree and type, and so the same value for whatever the identifiers
stand for. -/
theorem compile_of_extends (extension : more.Extends decls) {text : String} {f : Filter}
    (compiled : compile decls text = .ok f) :
    tokens more text = tokens decls text ∧ compile more text = .ok f := by
  obtain ⟨parsed, typed⟩ := (compile_eq_ok_iff decls text f).1 compiled
  obtain ⟨need, -, derives⟩ := parseTokens_eq_ok_iff.1 parsed
  have same := tokens_of_extends extension derives.known
  refine ⟨same, (compile_eq_ok_iff more text f).2 ⟨?_, Expr.typeIn_of_extends extension typed⟩⟩
  rw [parse, same]
  exact parsed

/-- Neither a keyword nor the text of a literal becomes an identifier by being
declared, and a second type for a name does not count. -/
theorem compile_of_extends_points :
    ∃ f, compile [("user.name", .string), ("user.points", .int)]
        "user.name contains \"3\" && user.points > 3" = .ok f ∧
      compile ([("user.name", .string), ("user.points", .int)] ++
          [("contains", .bool), ("\"3\"", .list), ("user.points", .map)])
        "user.name contains \"3\" && user.points > 3" = .ok f := by
  have found : tokens [("user.name", .string), ("user.points", .int)]
      "user.name contains \"3\" && user.points > 3" =
      [⟨.identifier, "user.name"⟩, ⟨.contains, "contains"⟩, ⟨.string, "\"3\""⟩, ⟨.and, "&&"⟩,
       ⟨.identifier, "user.points"⟩, ⟨.gt, ">"⟩, ⟨.int, "3"⟩] := by
    decide +kernel
  have compiled : compile [("user.name", .string), ("user.points", .int)]
      "user.name contains \"3\" && user.points > 3" =
      .ok ⟨.binary .and (.binary .contains (.identifier "user.name") (.string "3"))
        (.binary .gt (.identifier "user.points") (.int 3)), .bool⟩ := by
    refine (compile_eq_ok_iff _ _ _).2 ⟨?_, rfl⟩
    rw [parse, found]
    rfl
  have no_integer : ∀ entry ∈ [("contains", .bool), ("\"3\"", .list), ("user.points", Ty.map)],
      readInt64 entry.1.toList = none := by
    decide
  have extension :=
    Declarations.extends_append [("user.name", .string), ("user.points", .int)] no_integer
  exact ⟨_, compiled, (compile_of_extends extension compiled).2⟩

/-- A declared integer is an identifier. -/
example : tokens [] "3" = [⟨.int, "3"⟩] ∧ tokens [("3", .string)] "3" = [⟨.identifier, "3"⟩] := by
  decide +kernel

end Filter

end ChatSieve
