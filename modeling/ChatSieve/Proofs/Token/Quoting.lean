import ChatSieve.Expr.Source
import ChatSieve.Grammar.Literal

/-!
# Quoted literals

What a literal holds and how it is written. Unescaping undoes escaping
(`unescapeQuotes_escapeQuotes`), and the literals that the lexer cuts off are
just the escaped ones (`literalTail?_eq_some_iff`). One that ends in a
backslash is open: its closing quote counts only as the last one of the text.
-/

namespace ChatSieve.Token
open ChatSieve.Grammar

theorem escapeQuotes_cons {c : Char} (no_quote : c ≠ '"') (s : List Char) :
    escapeQuotes (c :: s) = c :: escapeQuotes s := by
  rw [escapeQuotes]
  exact no_quote

/-- What does not begin with an escaped quote keeps its first character. -/
theorem unescapeQuotes_cons {c : Char} {s : List Char}
    (no_escape : ¬ (c = '\\' ∧ ∃ rest, s = '"' :: rest)) :
    unescapeQuotes (c :: s) = c :: unescapeQuotes s := by
  rw [unescapeQuotes]
  rintro rest rfl rfl
  exact no_escape ⟨rfl, rest, rfl⟩

/-- An escaped text never begins with a quote. -/
theorem escapeQuotes_ne_quote (s rest : List Char) : escapeQuotes s ≠ '"' :: rest := by
  cases s with
  | nil => exact (List.cons_ne_nil _ _).symm
  | cons c s =>
    by_cases quote : c = '"'
    · subst quote
      simp [escapeQuotes]
    · rw [escapeQuotes_cons quote]
      exact fun same => quote (List.cons.inj same).1

/-- Only before an escaped text that is empty the closing quote comes first. -/
theorem eq_nil_of_escapeQuotes_append {content after rest : List Char}
    (same : escapeQuotes content ++ '"' :: after = '"' :: rest) : content = [] := by
  cases content with
  | nil => rfl
  | cons c content =>
    by_cases quote : c = '"'
    · subst quote
      simp [escapeQuotes] at same
    · rw [escapeQuotes_cons quote] at same
      exact absurd (List.cons.inj same).1 quote

theorem unescapeQuotes_escapeQuotes (s : List Char) : unescapeQuotes (escapeQuotes s) = s := by
  induction s with
  | nil => rfl
  | cons c s ih =>
    by_cases quote : c = '"'
    · subst quote
      rw [escapeQuotes, unescapeQuotes, ih]
    · rw [escapeQuotes_cons quote, unescapeQuotes_cons, ih]
      rintro ⟨-, rest, same⟩
      exact escapeQuotes_ne_quote s rest same

private theorem insideQuotes_quoted (s : List Char) : insideQuotes ('"' :: (s ++ ['"'])) = s := by
  simp [insideQuotes]

theorem unquote_escapeQuotes (content : List Char) :
    unquote ('"' :: (escapeQuotes content ++ ['"'])) = String.ofList content := by
  rw [unquote, insideQuotes_quoted, unescapeQuotes_escapeQuotes]

/-- The content of a literal ends in a backslash, which looks like an escape of
the closing quote. -/
def IsOpen (content : List Char) : Prop := content.getLast? = some '\\'

instance (content : List Char) : Decidable (IsOpen content) := inferInstanceAs (Decidable (_ = _))

theorem isOpen_cons {c : Char} {content : List Char} :
    IsOpen (c :: content) ↔ (content = [] ∧ c = '\\') ∨ IsOpen content := by
  cases content <;> simp [IsOpen]

/-- A character that neither is a quote nor escapes one. -/
theorem literalTail?_cons {c : Char} {s : List Char} (no_quote : c ≠ '"')
    (no_escape : ¬ (c = '\\' ∧ ∃ rest, s = '"' :: rest)) :
    literalTail? (c :: s) = (literalTail? s).map fun (tail, after) => (c :: tail, after) := by
  rw [literalTail?]
  · exact no_quote
  · rintro rest rfl rfl
    exact no_escape ⟨rfl, rest, rfl⟩

/-- Only a text without quotes has no end of a literal. -/
theorem literalTail?_eq_none_iff (s : List Char) : literalTail? s = none ↔ '"' ∉ s := by
  fun_induction literalTail? s with
  | case1 => simp
  | case2 rest => simp
  | case3 rest tail after found ih => simp
  | case4 rest missing ih => simp
  | case5 c rest no_quote no_escape ih =>
    rw [Option.map_eq_none_iff, ih]
    simp [Ne.symm (show c ≠ '"' from no_quote)]

/-- The lexer finds the end of an escaped text, which must be the last quote if
the text is open. -/
theorem literalTail?_escapeQuotes (content after : List Char) (last : IsOpen content → '"' ∉ after) :
    literalTail? (escapeQuotes content ++ '"' :: after) =
      some (escapeQuotes content ++ ['"'], after) := by
  induction content with
  | nil => rfl
  | cons c content ih =>
    have rest := ih fun is_open => last (isOpen_cons.2 (.inr is_open))
    by_cases quote : c = '"'
    · subst quote
      simp only [escapeQuotes, List.cons_append, literalTail?, rest]
    · rw [escapeQuotes_cons quote, List.cons_append]
      by_cases ends : c = '\\' ∧ content = []
      · obtain ⟨rfl, rfl⟩ := ends
        have none_after := (literalTail?_eq_none_iff after).2 (last rfl)
        simp [escapeQuotes, literalTail?, none_after]
      · rw [literalTail?_cons quote, rest]
        · rfl
        · rintro ⟨rfl, others, same⟩
          exact ends ⟨rfl, eq_nil_of_escapeQuotes_append same⟩

/-- What the lexer cuts off after an opening quote is an escaped text and the
closing quote, the last one if the text is open. -/
theorem literalTail?_eq_some_iff (s tail after : List Char) :
    literalTail? s = some (tail, after) ↔
      ∃ content, tail = escapeQuotes content ++ ['"'] ∧ s = escapeQuotes content ++ '"' :: after ∧
        (IsOpen content → '"' ∉ after) := by
  constructor
  · intro found
    fun_induction literalTail? s generalizing tail after with
    | case1 => cases found
    | case2 rest =>
      cases found
      exact ⟨[], rfl, rfl, fun is_open => by cases is_open⟩
    | case3 rest tail' after' found' ih =>
      cases found
      obtain ⟨content, rfl, rfl, last⟩ := ih _ _ found'
      refine ⟨'"' :: content, rfl, rfl, fun is_open => last ?_⟩
      exact (isOpen_cons.1 is_open).resolve_left (by simp)
    | case4 rest missing ih =>
      cases found
      exact ⟨['\\'], rfl, rfl, fun _ => (literalTail?_eq_none_iff _).1 missing⟩
    | case5 c rest no_quote no_escape ih =>
      obtain ⟨⟨tail', after'⟩, found', same⟩ := Option.map_eq_some_iff.1 found
      cases same
      obtain ⟨content, rfl, rfl, last⟩ := ih _ _ found'
      have quote : c ≠ '"' := no_quote
      refine ⟨c :: content, by rw [escapeQuotes_cons quote]; rfl,
        by rw [escapeQuotes_cons quote]; rfl, fun is_open => last ?_⟩
      refine (isOpen_cons.1 is_open).resolve_left ?_
      rintro ⟨rfl, rfl⟩
      exact no_escape _ rfl rfl
  · rintro ⟨content, rfl, rfl, last⟩
    exact literalTail?_escapeQuotes content after last

end ChatSieve.Token
