import ChatSieve.Proofs.Expr.Typing
import ChatSieve.Proofs.Grammar.RoundTrip
import ChatSieve.Proofs.Token.Adjoining

/-!
# Texts in brackets

A text of the grammar in brackets keeps its lexemes (`lexemes_bracketed`), also
where the last of them is a literal that ends in a backslash: the brackets bring
no quote that this literal could go on to. So a filter text in brackets is the
same filter, and with a `!` before them it is the negation, unless the level
that the brackets take is not there (`Filter.compile_bracketed`).
-/

namespace ChatSieve

namespace Grammar
open Token

variable {decls : Declarations}

/-- A quote and a backslash alone are unknown lexemes. -/
theorem kind_of_stray (words : decls.AreWords) {c : Char} (stray : c = '"' ∨ c = '\\') :
    (ofLexeme decls [c]).kind = .unknown := by
  have undeclared : decls.declares (String.ofList [c]) = false := by
    refine Bool.eq_false_iff.2 fun declared => ?_
    have name := words.names declared c (by simp)
    rcases stray with rfl | rfl <;> exact absurd name (by decide)
  have not_fixed : Kind.ofFixedText? (String.ofList [c]) = none := by
    rcases stray with rfl | rfl <;> decide
  have no_literal : (patternBody? [c]).any isQuoted = false ∧ isQuoted [c] = false ∧
      (Text.readInt64 [c]).isSome = false := by
    rcases stray with rfl | rfl <;> decide
  simp only [ofLexeme, classify, not_fixed, classifyLiteral, String.toList_ofList, no_literal, undeclared]
  rfl

/-- So the texts of the grammar have neither among their lexemes. -/
theorem Derives.no_stray (words : decls.AreWords) {text : String} {e : Expr} {need : Nat}
    (derives : Derives .expression (tokens decls text) e need) {c : Char} (stray : c = '"' ∨ c = '\\') :
    [c] ∉ lexemes text.toList := fun member =>
  derives.known _ (List.mem_map_of_mem member) (kind_of_stray words stray)

/-- A text in brackets keeps its lexemes, and what follows keeps its own, if the
text has no literal that could go on into it. -/
theorem lexemes_bracketed {s t : List Char} (no_lone : ['"'] ∉ lexemes s)
    (quiet : HasOpen (lexemes s) → '"' ∉ t) :
    lexemes ('(' :: (s ++ ')' :: t)) = ['('] :: (lexemes s ++ [')'] :: lexemes t) := by
  have closing : Apart (')' :: t) := by
    rintro c ⟨⟩
    decide
  rw [lexemes_bracket (by decide), lexemes_append closing no_lone, lexemes_bracket (by decide)]
  intro is_open
  simpa using quiet is_open

variable {text : String} {e : Expr} {need : Nat}

/-- The brackets take a level. -/
theorem Derives.bracketed (words : decls.AreWords)
    (derives : Derives .expression (tokens decls text) e need) :
    Derives .value (tokens decls ("(" ++ text ++ ")")) e (need + 1) := by
  have found := lexemes_bracketed (t := []) (derives.no_stray words (.inl rfl)) (by simp)
  have whole : ("(" ++ text ++ ")").toList = '(' :: (text.toList ++ [')']) := by simp
  rw [tokens, whole, found, lexemes]
  simpa [tokens] using derives.parenthesized decls

/-- The negation of a text in brackets takes no more. -/
theorem Derives.denied (words : decls.AreWords)
    (derives : Derives .expression (tokens decls text) e need) :
    Derives .expression (tokens decls ("!(" ++ text ++ ")")) (.unary .not e) (need + 1) := by
  have not_sign : ofLexeme decls ['!'] = ⟨.not, "!"⟩ := ofLexeme_of_fixed decls (by decide)
  have whole : ("!(" ++ text ++ ")").toList = ['!'] ++ ("(" ++ text ++ ")").toList := by simp
  have first : lexemes ("!(" ++ text ++ ")").toList = ['!'] :: lexemes ("(" ++ text ++ ")").toList := by
    rw [whole]
    refine lexemes_operator (by decide) ?_
    intro c first
    obtain rfl : '(' = c := by simpa using first
    decide
  have value := derives.bracketed words
  rw [tokens, first, List.map_cons, not_sign, ← tokens]
  exact .expression (.firstOperand (.conjunction (.firstOperand
    (.denial "!" (.plain (.firstOperand value))))))

end Grammar

namespace Filter
open Token Grammar

variable {decls : Declarations} {text : String} {f : Filter}

/-- A filter text in brackets is the same filter, and behind a `!` it is the
negation if it is true or false, where the levels of the text leave one for the
brackets. Where they leave none, both texts are nested too deeply. -/
theorem compile_bracketed (words : decls.AreWords) (compiled : compile decls text = .ok f) :
    ∃ need ≤ maxDepth, Derives .expression (tokens decls text) f.expr need ∧
      ((need < maxDepth ∧ compile decls ("(" ++ text ++ ")") = .ok f ∧
          (f.ty = .bool → compile decls ("!(" ++ text ++ ")") = .ok ⟨.unary .not f.expr, .bool⟩)) ∨
        (need = maxDepth ∧ ∃ why, why.message = "Expression is nested too deeply" ∧
          compile decls ("(" ++ text ++ ")") = .error why ∧
          compile decls ("!(" ++ text ++ ")") = .error why)) := by
  obtain ⟨parsed, typed⟩ := (compile_eq_ok_iff _ _ _).1 compiled
  obtain ⟨need, enough, derives⟩ := parseTokens_eq_ok_iff.1 parsed
  obtain ⟨within, beyond⟩ := parseTokens_of_derives (derives.bracketed words).expression_of_value
  obtain ⟨denied_within, denied_beyond⟩ := parseTokens_of_derives (derives.denied words)
  refine ⟨need, enough, derives, ?_⟩
  rcases Nat.lt_or_eq_of_le enough with fewer | all
  · refine .inl ⟨fewer, (compile_eq_ok_iff _ _ _).2 ⟨within fewer, typed⟩, fun is_bool => ?_⟩
    rw [is_bool] at typed
    exact (compile_eq_ok_iff _ _ _).2 ⟨denied_within fewer, Expr.typeIn_unary.2 ⟨_, typed, rfl⟩⟩
  · have few : maxDepth < need + 1 := by omega
    exact .inr ⟨all, .malformed .tooDeep, rfl, compile_of_error (beyond few),
      compile_of_error (denied_beyond few)⟩

/-- The text ends in an open literal, and the identifier before it looks like an
integer. -/
theorem compile_bracketed_open_literal :
    let decls : Declarations := [("7", .string)]
    let tree : Expr := .binary .eq (.identifier "7") (.string "a\\")
    decls.AreWords ∧ compile decls "7 == \"a\\\"" = .ok ⟨tree, .bool⟩ ∧
      compile decls "(7 == \"a\\\")" = .ok ⟨tree, .bool⟩ ∧
      compile decls "!(7 == \"a\\\")" = .ok ⟨.unary .not tree, .bool⟩ := by
  intro decls tree
  have words : decls.AreWords := by
    intro entry member
    obtain rfl := List.mem_singleton.1 member
    exact List.all_eq_true.1 (by decide)
  have found : tokens decls "7 == \"a\\\"" =
      [⟨.identifier, "7"⟩, ⟨.eq, "=="⟩, ⟨.string, "\"a\\\""⟩] := by
    decide +kernel
  have compiled : compile decls "7 == \"a\\\"" = .ok ⟨tree, .bool⟩ := by
    refine (compile_eq_ok_iff _ _ _).2 ⟨?_, rfl⟩
    rw [parse, found]
    rfl
  obtain ⟨need, -, derives, bracketed⟩ := compile_bracketed words compiled
  refine ⟨words, compiled, ?_⟩
  rcases bracketed with ⟨-, same, denied⟩ | ⟨all, -⟩
  · exact ⟨same, denied rfl⟩
  · rw [found] at derives
    obtain ⟨-, rfl⟩ := derives.unambiguous (.expression_of_operation (.inr (.inr rfl)) "=="
      (.token (.identifier "7")) (.token (.string "\"a\\\"")))
    exact absurd all (by decide)

end Filter

end ChatSieve
