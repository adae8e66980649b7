import ChatSieve.Proofs.Grammar.Completeness

/-!
# The parser and the grammar

The parser accepts the texts of the grammar that do not need more levels than
there are, and makes their trees. Of the other texts of the grammar it says
that they are nested too deeply, and texts that are not in the grammar have an
error as well (`parse_decides_grammar`).
-/

namespace ChatSieve.Grammar
open ChatSieve.Token

/-- What comes of an expression that takes all tokens. -/
theorem parseTokens_of_derives {ts : List Token} {e : Expr} {need : Nat}
    (derives : Derives .expression ts e need) :
    (need ≤ maxDepth → parseTokens ts = ⟨e, none⟩) ∧
      (maxDepth < need → (parseTokens ts).error = some .tooDeep) := by
  have outcome := derives.parses maxDepth [] (Phrase.before_nil _)
  rw [List.append_nil] at outcome
  rw [parseTokens_eq]
  constructor
  · intro enough
    rw [outcome.1 enough]
    rfl
  · intro few
    have failed := outcome.2 few
    generalize (level maxDepth).expression ⟨ts, none⟩ = result at failed ⊢
    obtain ⟨e, rest, err⟩ := result
    cases rest with
    | nil => exact failed
    | cons t rest => exact State.fail_error_of_some failed _

/-- Tokens are an expression in at most one way. -/
theorem Derives.unambiguous {ts : List Token} {e f : Expr} {n m : Nat}
    (one : Derives .expression ts e n) (other : Derives .expression ts f m) : e = f ∧ n = m := by
  have first := fun levels => one.parses levels [] (Phrase.before_nil _)
  have second := fun levels => other.parses levels [] (Phrase.before_nil _)
  simp only [List.append_nil] at first second
  have same := ((first (max n m)).1 (by omega)).symm.trans ((second (max n m)).1 (by omega))
  -- with the levels that the one derivation needs, the other one succeeds too
  have fewer := (first m).need_le (by rw [(second m).1 (Nat.le_refl m)])
  have more := (second n).need_le (by rw [(first n).1 (Nat.le_refl n)])
  exact ⟨congrArg Prod.fst same, Nat.le_antisymm fewer more⟩

/-- Tokens parse without an error if and only if they are an expression with
the levels that there are. -/
theorem parseTokens_eq_ok_iff {ts : List Token} {e : Expr} :
    parseTokens ts = ⟨e, none⟩ ↔ ∃ need ≤ maxDepth, Derives .expression ts e need := by
  constructor
  · intro parsed
    have clean : (parseTokens ts).error = none := by rw [parsed]
    have derives := derives_of_parseTokens clean
    rw [parsed] at derives
    exact derives
  · rintro ⟨need, enough, derives⟩
    exact (parseTokens_of_derives derives).1 enough

/-- The parser decides the grammar: it makes the tree of each text that derives
with the levels that there are, finds those that need more nested too deeply,
and has an error for each text that does not derive. -/
theorem parse_decides_grammar (decls : Declarations) (text : String) :
    (∀ e need, Derives .expression (tokens decls text) e need → need ≤ maxDepth →
      parse decls text = ⟨e, none⟩) ∧
    (∀ e need, Derives .expression (tokens decls text) e need → maxDepth < need →
      (parse decls text).error.map ParseError.message = some "Expression is nested too deeply") ∧
    ((¬ ∃ e need, Derives .expression (tokens decls text) e need) →
      (parse decls text).error ≠ none) := by
  refine ⟨fun e need derives enough => ?_, fun e need derives few => ?_, fun outside clean => ?_⟩
  · exact (parseTokens_of_derives derives).1 enough
  · have failed : (parse decls text).error = some .tooDeep := (parseTokens_of_derives derives).2 few
    rw [failed]
    rfl
  · obtain ⟨need, _, derives⟩ := derives_of_parseTokens clean
    exact outside ⟨_, need, derives⟩

end ChatSieve.Grammar
