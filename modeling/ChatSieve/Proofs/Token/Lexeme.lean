import ChatSieve.Proofs.Text.Characters
import ChatSieve.Proofs.Token.Quoting

/-!
# What lexemes look like

Each lexeme is a literal, a word, a run of operators or a single character
(`nextLexeme_cut`), and a text in which these are kept apart falls into them
again (`lexemes_word` and the theorems after it).
-/

namespace ChatSieve.Token
open ChatSieve.Text

private theorem operatorRun_all (s : List Char) : (operatorRun s).1.all isOperatorChar := by
  fun_induction operatorRun s with
  | case7 => grind [isOperatorChar]
  | case8 => rfl
  | case9 => rfl
  | _ => simp_all [isOperatorChar]

/-- There is no operator at the head of other characters. -/
theorem operatorRun_of_none {s : List Char} (none : ∀ c ∈ s.head?, isOperatorChar c = false) :
    operatorRun s = ([], s) := by
  cases s with
  | nil => rfl
  | cons c rest =>
    have no_operator := none c rfl
    simp only [isOperatorChar, decide_eq_false_iff_not, List.mem_cons, List.not_mem_nil, or_false,
      not_or] at no_operator
    rw [operatorRun.eq_def]
    split <;> simp_all

/-- The operators of the language that are no words. -/
def operatorTexts : List (List Char) :=
  [['&', '&'], ['|', '|'], ['=', '='], ['!', '='], ['<'], ['>'], ['<', '='], ['>', '='], ['!'],
   ['+'], ['-'], ['*'], ['/'], ['%']]

/-- An operator ends where no other one follows. -/
theorem operatorRun_of_operator {op rest : List Char} (member : op ∈ operatorTexts)
    (apart : ∀ c ∈ rest.head?, isOperatorChar c = false) : operatorRun (op ++ rest) = (op, rest) := by
  have stops := operatorRun_of_none apart
  have no_eq : ∀ others, rest ≠ '=' :: others := by
    rintro others rfl
    exact absurd (apart '=' rfl) (by decide)
  simp only [operatorTexts, List.mem_cons, List.not_mem_nil, or_false] at member
  rcases member with rfl | rfl | rfl | rfl | rfl | rfl | rfl | rfl | rfl | rfl | rfl | rfl | rfl |
    rfl <;> simp [operatorRun, stops, no_eq]

/-- What can stand before the opening quote of a literal. -/
def literalFronts : List (List Char) := [[], ['r'], ['r', 'i']]

theorem names_of_front {front : List Char} (member : front ∈ literalFronts) :
    ∀ c ∈ front, isNameChar c := by
  simp only [literalFronts, List.mem_cons, List.not_mem_nil, or_false] at member
  rcases member with rfl | rfl | rfl <;> exact List.all_eq_true.1 (by decide)

/-- A literal with some content. -/
def literalText (front content : List Char) : List Char :=
  front ++ '"' :: (escapeQuotes content ++ ['"'])

/-- The lexer cuts off escaped texts in quotes, where an open one has the last
quote of all. -/
theorem literal?_eq_some_iff (s lexeme after : List Char) :
    literal? s = some (lexeme, after) ↔
      ∃ front ∈ literalFronts, ∃ content, lexeme = literalText front content ∧
        s = literalText front content ++ after ∧ (IsOpen content → '"' ∉ after) := by
  constructor
  · intro found
    rw [literal?.eq_def] at found
    split at found
    case h_4 => cases found
    all_goals
      obtain ⟨⟨tail, rest⟩, cut, same⟩ := Option.map_eq_some_iff.1 found
      cases same
      obtain ⟨content, rfl, rfl, last⟩ := (literalTail?_eq_some_iff _ _ _).1 cut
    · exact ⟨[], by decide, content, rfl, by simp [literalText], last⟩
    · exact ⟨['r'], by decide, content, rfl, by simp [literalText], last⟩
    · exact ⟨['r', 'i'], by decide, content, rfl, by simp [literalText], last⟩
  · rintro ⟨front, member, content, rfl, rfl, last⟩
    have cut := literalTail?_escapeQuotes content after last
    simp only [literalFronts, List.mem_cons, List.not_mem_nil, or_false] at member
    rcases member with rfl | rfl | rfl <;> simp [literalText, literal?, cut]

/-- A lexeme and what follows it. -/
inductive Cut : List Char → List Char → Prop
  | literal {front content after : List Char} (member : front ∈ literalFronts)
      (last : IsOpen content → '"' ∉ after) : Cut (literalText front content) after
  | word {w after : List Char} (some : w ≠ []) (names : ∀ c ∈ w, isNameChar c) : Cut w after
  | operators {run after : List Char} (operators : ∀ c ∈ run, isOperatorChar c) : Cut run after
  | single {c : Char} {after : List Char} (no_name : isNameChar c = false) : Cut [c] after

theorem nextLexeme_cut (c : Char) (rest : List Char) :
    Cut (nextLexeme c rest).1 (nextLexeme c rest).2 := by
  rw [nextLexeme]
  split
  · rename_i cut found
    obtain ⟨front, member, content, same, -, last⟩ := (literal?_eq_some_iff _ _ _).1 found
    rw [same]
    exact .literal member last
  · split
    · rename_i cut found
      rw [word?] at found
      split at found
      · cases found
      · rename_i some_taken
        cases found
        exact .word some_taken (List.all_eq_true.1 List.all_takeWhile)
    · rename_i no_word
      split
      · rename_i cut found
        rw [operators?] at found
        split at found
        · cases found
        · cases found
          exact .operators (List.all_eq_true.1 (operatorRun_all _))
      · refine .single (Bool.eq_false_iff.2 fun name => ?_)
        simp [word?, name] at no_word

/-- Lexemes have the characters of their text only. -/
theorem mem_of_mem_lexemes {s lexeme : List Char} {c : Char} (member : lexeme ∈ lexemes s)
    (inside : c ∈ lexeme) : c ∈ s := by
  fun_induction lexemes s with
  | case1 => cases member
  | case2 d rest blank ih => exact List.mem_cons_of_mem _ (ih member)
  | case3 d rest no_blank ih =>
    have whole := (nextLexeme_isCut d rest).1
    rw [← whole, List.mem_append]
    rcases List.mem_cons.1 member with rfl | later
    · exact .inl inside
    · exact .inr (ih later)

/-- Blanks only separate. -/
theorem lexemes_blank {c : Char} (blank : isBlank c) (rest : List Char) :
    lexemes (c :: rest) = lexemes rest := by
  rw [lexemes, if_pos blank]

theorem lexemes_of_nextLexeme {c : Char} {rest lexeme after : List Char}
    (no_blank : isBlank c = false) (next : nextLexeme c rest = (lexeme, after)) :
    lexemes (c :: rest) = lexeme :: lexemes after := by
  rw [lexemes, if_neg (by simp [no_blank]), next]

/-- A literal is one lexeme, if its closing quote is found. -/
theorem lexemes_literal {front content rest : List Char} (member : front ∈ literalFronts)
    (last : IsOpen content → '"' ∉ rest) :
    lexemes (literalText front content ++ rest) = literalText front content :: lexemes rest := by
  have found := (literal?_eq_some_iff _ _ _).2 ⟨front, member, content, rfl, rfl, last⟩
  obtain ⟨c, tail, split, no_blank⟩ :
      ∃ c tail, literalText front content = c :: tail ∧ isBlank c = false := by
    simp only [literalFronts, List.mem_cons, List.not_mem_nil, or_false] at member
    rcases member with rfl | rfl | rfl
    · exact ⟨'"', _, rfl, by decide⟩
    · exact ⟨'r', _, rfl, by decide⟩
    · exact ⟨'r', _, rfl, by decide⟩
  rw [split, List.cons_append] at found ⊢
  exact lexemes_of_nextLexeme no_blank (by rw [nextLexeme, found])

/-- What follows a word that ends there. -/
def EndsWord (rest : List Char) : Prop := ∀ c ∈ rest.head?, isNameChar c = false ∧ c ≠ '"'

private theorem takeWhile_names {w : List Char} (rest : List Char) (names : ∀ c ∈ w, isNameChar c)
    (stops : ∀ c ∈ rest.head?, isNameChar c = false) :
    (w ++ rest).takeWhile isNameChar = w ∧ (w ++ rest).dropWhile isNameChar = rest := by
  rw [List.takeWhile_append_of_pos names, List.dropWhile_append_of_pos names]
  cases rest with
  | nil => simp
  | cons c rest => simp [stops c rfl]

/-- A word is one lexeme. -/
theorem lexemes_word {w rest : List Char} (some : w ≠ []) (names : ∀ c ∈ w, isNameChar c)
    (ends : EndsWord rest) : lexemes (w ++ rest) = w :: lexemes rest := by
  obtain ⟨taken, dropped⟩ := takeWhile_names rest names fun c member => (ends c member).1
  obtain ⟨c, tail, rfl⟩ := List.exists_cons_of_ne_nil some
  have no_literal : literal? (c :: tail ++ rest) = none := by
    refine Option.eq_none_iff_forall_ne_some.2 ?_
    rintro ⟨lexeme, after⟩ found
    -- what stands before the quote would be the whole word
    obtain ⟨front, member, content, -, same, -⟩ := (literal?_eq_some_iff _ _ _).1 found
    rw [literalText, List.append_assoc] at same
    have front_names := names_of_front member
    obtain ⟨-, quoted⟩ := takeWhile_names
      ('"' :: (escapeQuotes content ++ ['"']) ++ after) front_names (by rintro d ⟨⟩; decide)
    rw [← same, dropped] at quoted
    rw [quoted] at ends
    exact (ends '"' rfl).2 rfl
  have word : word? (c :: tail ++ rest) = Option.some (c :: tail, rest) := by
    rw [word?, taken, dropped]
  have no_blank := not_isBlank_of_isNameChar (names c List.mem_cons_self)
  rw [List.cons_append] at no_literal word ⊢
  exact lexemes_of_nextLexeme no_blank (by rw [nextLexeme, no_literal, word])

/-- Neither a literal nor a word begins with any other character. -/
theorem nextLexeme_of_no_name {c : Char} (no_name : isNameChar c = false) (no_quote : c ≠ '"')
    (rest : List Char) : nextLexeme c rest = (operators? (c :: rest)).getD ([c], rest) := by
  have no_literal : literal? (c :: rest) = none := by
    rw [literal?.eq_def]
    split
    · rename_i same
      exact absurd (List.cons.inj same).1 no_quote
    · rename_i same
      obtain rfl := (List.cons.inj same).1
      exact absurd no_name (by decide)
    · rename_i same
      obtain rfl := (List.cons.inj same).1
      exact absurd no_name (by decide)
    · rfl
  have no_word : word? (c :: rest) = none := by simp [word?, no_name]
  rw [nextLexeme, no_literal, no_word]
  cases operators? (c :: rest) <;> rfl

/-- Operators that are cut off together are one lexeme. -/
theorem lexemes_operatorRun {run rest : List Char} (some : run ≠ [])
    (cut : operatorRun (run ++ rest) = (run, rest)) : lexemes (run ++ rest) = run :: lexemes rest := by
  obtain ⟨c, tail, rfl⟩ := List.exists_cons_of_ne_nil some
  have operators := operatorRun_all (c :: tail ++ rest)
  rw [cut, List.all_cons, Bool.and_eq_true] at operators
  obtain ⟨no_blank, no_name, no_quote⟩ := of_isOperatorChar operators.1
  rw [List.cons_append] at cut ⊢
  refine lexemes_of_nextLexeme no_blank ?_
  rw [nextLexeme_of_no_name no_name no_quote, operators?, cut]
  rfl

/-- An operator is one lexeme. -/
theorem lexemes_operator {op rest : List Char} (member : op ∈ operatorTexts)
    (apart : ∀ c ∈ rest.head?, isOperatorChar c = false) :
    lexemes (op ++ rest) = op :: lexemes rest := by
  have some : ∀ op ∈ operatorTexts, op ≠ [] := by decide
  exact lexemes_operatorRun (some op member) (operatorRun_of_operator member apart)

/-- A bracket or comma is one lexeme. -/
theorem lexemes_bracket {c : Char} (member : c ∈ ['(', ')', '\x7b', '\x7d', ',']) (rest : List Char) :
    lexemes (c :: rest) = [c] :: lexemes rest := by
  obtain ⟨no_blank, no_name, no_quote, no_operator⟩ :
      isBlank c = false ∧ isNameChar c = false ∧ c ≠ '"' ∧ isOperatorChar c = false := by
    simp only [List.mem_cons, List.not_mem_nil, or_false] at member
    rcases member with rfl | rfl | rfl | rfl | rfl <;> decide
  have run := operatorRun_of_none (s := c :: rest) (by rintro d ⟨⟩; exact no_operator)
  refine lexemes_of_nextLexeme no_blank ?_
  rw [nextLexeme_of_no_name no_name no_quote, operators?, run]
  rfl

end ChatSieve.Token
