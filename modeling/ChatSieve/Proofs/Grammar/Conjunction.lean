import ChatSieve.Proofs.Expr.Typing
import ChatSieve.Proofs.Grammar.Brackets
import ChatSieve.Proofs.Token.Pairing

/-!
# Conjunctions of texts

Two filter texts, each in brackets, with `&&` between are the conjunction of
the two filters, if there are levels left for the brackets
(`Filter.ofText_conjoined`). There is one exception: where the first text has a
literal that ends in a backslash and the second one has a quote, this literal
goes on into the second text, and the whole is no filter.
-/

namespace ChatSieve

/-- One of the literals ends in a backslash. -/
def Expr.EndsOpen (e : Expr) : Prop := ∃ s ∈ e.literals, Token.IsOpen s.toList

/-- Two texts in brackets with `&&` between. -/
def Filter.conjoined (a b : String) : String := "(" ++ a ++ ") && (" ++ b ++ ")"

namespace Grammar
open Token

variable {decls : Declarations}

/-- The texts of the grammar have no stray quotes and backslashes, so that their
quotes pair up. -/
theorem Derives.pairs (named : decls.WellNamed) {text : String} {e : Expr} {need : Nat}
    (derives : Derives .expression (tokens decls text) e need) :
    ['"'] ∉ lexemes text.toList ∧ ∃ b, Pairs text.toList b ∧ (b = true ↔ e.EndsOpen) := by
  have no_lone := derives.no_stray named.areWords (.inl rfl)
  obtain ⟨b, pairs, open_iff⟩ := pairs_of_lexemes no_lone (derives.no_stray named.areWords (.inr rfl))
  refine ⟨no_lone, b, pairs, open_iff.trans ?_⟩
  rw [hasOpen_lexemes_iff decls, ← tokens, derives.contents fun t => lexed_of_mem_tokens]
  rfl

private theorem toList_conjoined (a b : String) : (Filter.conjoined a b).toList =
    '(' :: (a.toList ++ ([')', ' ', '&', '&', ' ', '('] ++ (b.toList ++ [')']))) := by
  simp [Filter.conjoined]

/-- Between the brackets both texts keep their lexemes, if the first one has no
literal that could go on into the second. -/
theorem lexemes_conjoined {a b : String} (no_lone : ['"'] ∉ lexemes a.toList ∧ ['"'] ∉ lexemes b.toList)
    (quiet : HasOpen (lexemes a.toList) → '"' ∉ b.toList) :
    lexemes (Filter.conjoined a b).toList =
      ['('] :: (lexemes a.toList ++ [')'] :: ['&', '&'] :: ['('] :: (lexemes b.toList ++ [[')']])) := by
  have blank (rest : List Char) : lexemes (' ' :: rest) = lexemes rest := lexemes_blank (by decide) rest
  have operator (rest : List Char) : lexemes ('&' :: '&' :: ' ' :: rest) = ['&', '&'] :: lexemes rest := by
    rw [← blank rest]
    exact lexemes_operator (show ['&', '&'] ∈ operatorTexts by decide) (by rintro c ⟨⟩; decide)
  have last := lexemes_bracketed (t := []) no_lone.2 (by simp)
  rw [lexemes] at last
  rw [toList_conjoined]
  simp only [List.cons_append, List.nil_append]
  rw [lexemes_bracketed no_lone.1, blank, operator, last]
  intro is_open
  simpa using quiet is_open

/-- The brackets of the first text take a level, and those of the second one
take one more for the operator before it. -/
theorem derives_conjoined (named : decls.WellNamed) {a b : String} {e f : Expr} {n m : Nat}
    (left : Derives .expression (tokens decls a) e n) (right : Derives .expression (tokens decls b) f m)
    (quiet : e.EndsOpen → '"' ∉ b.toList) :
    Derives .expression (tokens decls (Filter.conjoined a b)) (.binary .and e f)
      (max (n + 1) (m + 2)) := by
  have open_iff : HasOpen (lexemes a.toList) ↔ e.EndsOpen := by
    rw [hasOpen_lexemes_iff decls, ← tokens, left.contents fun t => lexed_of_mem_tokens]
    rfl
  have found := lexemes_conjoined ⟨(left.pairs named).1, (right.pairs named).1⟩
    fun is_open => quiet (open_iff.1 is_open)
  have ampersands : ofLexeme decls ['&', '&'] = ⟨.and, "&&"⟩ := ofLexeme_of_fixed decls (by decide)
  have whole := Derives.expression_of_operation (.inr (.inl (show Kind.and.isLogical from rfl))) "&&"
    (left.parenthesized decls) (right.parenthesized decls)
  rw [tokens, found]
  simpa [ampersands, tokens, Kind.isComparison, Nat.add_comm, Nat.add_left_comm]
    using whole

/-- An open literal before a quote leaves no way to pair up the quotes. -/
theorem not_derives_conjoined (named : decls.WellNamed) {a b : String} {e f : Expr} {n m : Nat}
    (left : Derives .expression (tokens decls a) e n) (right : Derives .expression (tokens decls b) f m)
    (is_open : e.EndsOpen) (quote : '"' ∈ b.toList) (whole : Expr) (need : Nat) :
    ¬ Derives .expression (tokens decls (Filter.conjoined a b)) whole need := by
  intro derives
  obtain ⟨-, _, first, first_open⟩ := left.pairs named
  obtain ⟨-, _, second, -⟩ := right.pairs named
  obtain ⟨-, last, pairs, -⟩ := derives.pairs named
  obtain rfl := first_open.2 is_open
  rw [toList_conjoined, ← List.cons_append] at pairs
  refine (Pairs.plain (by decide) (by decide) first).not_append second quote ?_ ?_ ?_ last pairs
  · simp [IsPlain]
  · simp
  · simp [IsPlain]

end Grammar

namespace Filter
open Token Grammar

/-- The conjunction of two filters. -/
def both (f g : Filter) : Filter := ⟨.binary .and f.expr g.expr, .bool⟩

private theorem holds_both (f g : Filter) (vars : Bindings) :
    (both f g).holds vars = (f.holds vars && g.holds vars) := by
  simp only [holds, both, eval, Expr.eval, binaryValue, testBools]
  generalize f.expr.eval vars = left
  generalize g.expr.eval vars = right
  cases left <;> cases right <;> simp [accepts, Value.toBool?]

private theorem tokens_openName : tokens Catalogue.declarations "author.name == \"a\\\"" =
    [⟨.identifier, "author.name"⟩, ⟨.eq, "=="⟩, ⟨.string, "\"a\\\""⟩] := by
  decide +kernel

private theorem ofText_openName : ofText "author.name == \"a\\\"" =
    .ok ⟨.binary .eq (.identifier "author.name") (.string "a\\"), .bool⟩ := by
  refine (compile_eq_ok_iff _ _ _).2 ⟨?_, rfl⟩
  rw [parse, tokens_openName]
  rfl

/-- Two texts of filters that are true or false make up the conjunction of the
filters, or they are nested too deeply, unless a literal of the first text ends
in a backslash and the second one has a quote: these never make up a filter. -/
theorem ofText_conjoined {a b : String} {f g : Filter}
    (left : ofText a = .ok f) (right : ofText b = .ok g)
    (left_bool : f.ty = .bool) (right_bool : g.ty = .bool) :
    ∃ n m, Derives .expression (tokens Catalogue.declarations a) f.expr n ∧
      Derives .expression (tokens Catalogue.declarations b) g.expr m ∧
      ((f.expr.EndsOpen → '"' ∉ b.toList) →
        (max (n + 1) (m + 2) ≤ maxDepth ∧ ofText (conjoined a b) = .ok (both f g) ∧
          ∀ vars, (both f g).holds vars = (f.holds vars && g.holds vars)) ∨
        (maxDepth < max (n + 1) (m + 2) ∧
          ∃ why, ofText (conjoined a b) = .error why ∧
            why.message = "Expression is nested too deeply")) ∧
      (f.expr.EndsOpen → '"' ∈ b.toList → ∃ why, ofText (conjoined a b) = .error (.malformed why)) := by
  obtain ⟨left_parsed, left_typed⟩ := (compile_eq_ok_iff _ _ _).1 left
  obtain ⟨right_parsed, right_typed⟩ := (compile_eq_ok_iff _ _ _).1 right
  obtain ⟨n, -, left_derives⟩ := parseTokens_eq_ok_iff.1 left_parsed
  obtain ⟨m, -, right_derives⟩ := parseTokens_eq_ok_iff.1 right_parsed
  refine ⟨n, m, left_derives, right_derives, fun quiet => ?_, fun is_open quote => ?_⟩
  · have derives := derives_conjoined Catalogue.wellNamed left_derives right_derives quiet
    obtain ⟨within, beyond⟩ := parseTokens_of_derives derives
    by_cases enough : max (n + 1) (m + 2) ≤ maxDepth
    · refine .inl ⟨enough, (compile_eq_ok_iff _ _ _).2 ⟨within enough, ?_⟩, holds_both f g⟩
      refine Expr.typeIn_binary.2 ⟨_, _, left_typed, right_typed, ?_⟩
      rw [left_bool, right_bool]
      rfl
    · have few := Nat.lt_of_not_le enough
      exact .inr ⟨few, _, compile_of_error (beyond few), rfl⟩
  · cases failed : (parse Catalogue.declarations (conjoined a b)).error with
    | some why => exact ⟨why, compile_of_error failed⟩
    | none =>
      obtain ⟨need, -, derives⟩ := derives_of_parseTokens failed
      exact absurd derives (not_derives_conjoined Catalogue.wellNamed left_derives right_derives is_open
        quote _ need)

/-- An open literal is kept before a text without quotes. -/
theorem ofText_conjoined_flag :
    ofText "(author.name == \"a\\\") && (flags.reply)" =
      .ok ⟨.binary .and (.binary .eq (.identifier "author.name") (.string "a\\"))
        (.identifier "flags.reply"), .bool⟩ := by
  have flag : tokens Catalogue.declarations "flags.reply" = [⟨.identifier, "flags.reply"⟩] := by
    decide +kernel
  have right : ofText "flags.reply" = .ok ⟨.identifier "flags.reply", .bool⟩ := by
    refine (compile_eq_ok_iff _ _ _).2 ⟨?_, rfl⟩
    rw [parse, flag]
    rfl
  obtain ⟨n, m, left_derives, right_derives, quiet, -⟩ := ofText_conjoined ofText_openName right rfl rfl
  rcases quiet fun _ => by decide with ⟨-, compiled, -⟩ | ⟨few, -⟩
  · exact compiled
  · rw [tokens_openName] at left_derives
    rw [flag] at right_derives
    obtain ⟨-, rfl⟩ := left_derives.unambiguous (.expression_of_operation (.inr (.inr rfl)) "=="
      (.token (.identifier "author.name")) (.token (.string "\"a\\\"")))
    obtain ⟨-, rfl⟩ := right_derives.unambiguous (.expression_of_value (.token (.identifier "flags.reply")))
    exact absurd few (by decide)

/-- Before another quote the open literal goes on, and the next name comes in
the place of a bracket. -/
theorem ofText_conjoined_names :
    ∃ f g why, ofText "author.name == \"a\\\"" = .ok f ∧ f.ty = .bool ∧
      ofText "author.name == \"b\"" = .ok g ∧ g.ty = .bool ∧
      ofText (conjoined "author.name == \"a\\\"" "author.name == \"b\"") = .error why ∧
      why.message = "Missing closing parentheses: got b" ∧
      why.message ≠ "Expression is nested too deeply" := by
  have name : tokens Catalogue.declarations "author.name == \"b\"" =
      [⟨.identifier, "author.name"⟩, ⟨.eq, "=="⟩, ⟨.string, "\"b\""⟩] := by
    decide +kernel
  have right : ofText "author.name == \"b\"" =
      .ok ⟨.binary .eq (.identifier "author.name") (.string "b"), .bool⟩ := by
    refine (compile_eq_ok_iff _ _ _).2 ⟨?_, rfl⟩
    rw [parse, name]
    rfl
  have both : tokens Catalogue.declarations
      (conjoined "author.name == \"a\\\"" "author.name == \"b\"") =
      [⟨.leftParen, "("⟩, ⟨.identifier, "author.name"⟩, ⟨.eq, "=="⟩,
       ⟨.string, "\"a\\\") && (author.name == \""⟩, ⟨.unknown, "b"⟩, ⟨.unknown, "\""⟩,
       ⟨.rightParen, ")"⟩] := by
    decide +kernel
  have failed : (parse Catalogue.declarations
      (conjoined "author.name == \"a\\\"" "author.name == \"b\"")).error =
      some (.missingParenthesis (some "b")) := by
    rw [parse, both]
    rfl
  exact ⟨_, _, _, ofText_openName, rfl, right, rfl, compile_of_error failed, by decide, by decide⟩

end Filter

end ChatSieve
