import ChatSieve.Filter
import ChatSieve.Proofs.Token.Adjoining
import ChatSieve.Proofs.Token.Lossless

/-!
# Blanks between tokens

How many blanks there are around the tokens of a text, and whether there are
any between two tokens that are apart without them, makes no difference: the
tokens written down with blanks between them are found again, and so the new
text means what the old one did (`check_weave`). A lexeme ends by what follows
it. A blank ends each of them where it did end, and a literal finds the same
closing quote, because blanks bring no quotes with them.
-/

namespace ChatSieve.Token
open ChatSieve.Text

theorem apart_of_blank {rest : List Char} (blank : ∀ c ∈ rest.head?, isBlank c) : Apart rest := by
  intro c first
  have is_blank := blank c first
  refine ⟨?_, ?_, ?_⟩
  · cases name : isNameChar c with
    | false => rfl
    | true => simp [not_isBlank_of_isNameChar name] at is_blank
  · rintro rfl
    exact absurd is_blank (by decide)
  · cases operator : isOperatorChar c with
    | false => rfl
    | true => simp [(of_isOperatorChar operator).1] at is_blank

/-- All operators that were cut off are cut off again. -/
theorem operatorRun_operatorRun (s : List Char) :
    operatorRun (operatorRun s).1 = ((operatorRun s).1, []) := by
  fun_induction operatorRun s with
  | case7 c s lt gt bang eq bar ampersand member run after found ih =>
    rw [found] at ih
    have whole := operatorRun_append s
    rw [found] at whole
    -- a pair among the operators is one of the text
    have no_pair {first second : Char} (none : ∀ others, c = first → s = second :: others → False) :
        ∀ others, c = first → run = second :: others → False := by
      intro others same_first same
      apply none (others ++ after) same_first
      rw [← whole, same, List.cons_append]
    rw [operatorRun.eq_7 c _ (no_pair lt) (no_pair gt) (no_pair bang) (no_pair eq) (no_pair bar)
      (no_pair ampersand), if_pos member, ih]
  | case8 => rfl
  | case9 => rfl
  | _ => simp_all [operatorRun]

/-- A character at which no operators begin is none by itself. -/
theorem operators?_singleton {c : Char} {s : List Char} (none : operators? (c :: s) = none) :
    operators? [c] = Option.none := by
  by_cases member : c ∈ ['<', '>', '!', '+', '-', '*', '/', '%']
  · have some_taken : (operatorRun (c :: s)).1 ≠ [] := by
      rw [operatorRun.eq_def]
      split <;> simp_all
    simp [operators?, some_taken] at none
  · rw [operators?, operatorRun.eq_7 c [] (by simp) (by simp) (by simp) (by simp) (by simp) (by simp),
      if_neg member]
    rfl

section
variable {c : Char} {s lexeme after rest : List Char}

/-- A literal stays open no longer if no quote follows where none did follow. -/
theorem lexemes_of_literal? (found : literal? s = some (lexeme, after))
    (quiet : '"' ∈ rest → '"' ∈ after) : lexemes (lexeme ++ rest) = lexeme :: lexemes rest := by
  obtain ⟨front, member, content, rfl, -, last⟩ := (literal?_eq_some_iff _ _ _).1 found
  apply lexemes_literal member
  intro is_open quote
  exact last is_open (quiet quote)

private theorem lexemes_of_word? (found : word? s = some (lexeme, after)) (apart : Apart rest) :
    lexemes (lexeme ++ rest) = lexeme :: lexemes rest := by
  have some := (word?_isCut found).2
  rw [word?] at found
  split at found
  · cases found
  · cases found
    apply lexemes_word some
    · exact List.all_eq_true.1 List.all_takeWhile
    · intro d first
      exact ⟨(apart d first).1, (apart d first).2.1⟩

private theorem lexemes_of_operators? (found : operators? s = some (lexeme, after))
    (apart : Apart rest) :
    lexemes (lexeme ++ rest) = lexeme :: lexemes rest := by
  have some := (operators?_isCut found).2
  rw [operators?] at found
  split at found
  · cases found
  · have again := operatorRun_operatorRun s
    rw [Option.some.inj found] at again
    apply lexemes_operatorRun some
    rw [operatorRun_apart apart, again, List.nil_append]

/-- What is a lexeme only because it begins none stays one, a quote only if no
other quote follows. -/
theorem nextLexeme_of_none (no_literal : literal? (c :: s) = none) (no_word : word? (c :: s) = none)
    (no_operators : operators? (c :: s) = none) (apart : Apart rest)
    (quiet : '"' ∈ rest → '"' ∈ s) : nextLexeme c rest = ([c], rest) := by
  by_cases quote : c = '"'
  · subst quote
    have none_after := quote_of_literal?_eq_none (by decide : [] ∈ literalFronts) no_literal
    apply nextLexeme_lone_quote
    intro later
    exact none_after (quiet later)
  · have no_name : isNameChar c = false := by
      cases name : isNameChar c with
      | false => rfl
      | true => simp [word?, name] at no_word
    have still : operators? (c :: rest) = none := by
      rw [← List.singleton_append, operators?_apart apart, operators?_singleton no_operators]
      rfl
    rw [nextLexeme_of_no_name no_name quote, still]
    rfl

/-- A lexeme is found again before a blank, if no quote follows where none did
follow. -/
theorem lexemes_again (no_blank : isBlank c = false) (apart : Apart rest)
    (quiet : '"' ∈ rest → '"' ∈ (nextLexeme c s).2) :
    lexemes ((nextLexeme c s).1 ++ rest) = (nextLexeme c s).1 :: lexemes rest := by
  rw [nextLexeme] at quiet ⊢
  cases literal : literal? (c :: s) with
  | some cut =>
    simp only [literal] at quiet ⊢
    exact lexemes_of_literal? literal quiet
  | none =>
    cases word : word? (c :: s) with
    | some cut => exact lexemes_of_word? word apart
    | none =>
      cases operators : operators? (c :: s) with
      | some cut => exact lexemes_of_operators? operators apart
      | none =>
        simp only [literal, word, operators] at quiet
        exact lexemes_of_nextLexeme no_blank (nextLexeme_of_none literal word operators apart quiet)

end

/-- Gaps that keep words apart: they are blank, and none between two words is
empty. -/
structure Separates (gaps words : List (List Char)) : Prop extends AreGaps gaps words where
  between : ∀ gap ∈ gaps.tail.dropLast, gap ≠ []

namespace Separates

variable {gap : List Char} {gaps words : List (List Char)} {word : List Char}

theorem tail (separates : Separates (gap :: gaps) (word :: words)) : Separates gaps words where
  length_eq := Nat.succ.inj separates.length_eq
  blank := fun g member => separates.blank g (List.mem_cons_of_mem _ member)
  between := by
    intro g member
    apply separates.between g
    rw [List.tail_cons]
    cases gaps with
    | nil => cases member
    | cons first others =>
      rw [List.tail_cons] at member
      cases others with
      | nil => cases member
      | cons second others => exact List.mem_cons_of_mem _ member

/-- Behind a word there is a blank or nothing. -/
theorem head_weave (separates : Separates (gap :: gaps) (word :: words)) :
    ∀ c ∈ (weave gaps words).head?, isBlank c := by
  intro c first
  have length_eq : gaps.length = words.length + 1 := Nat.succ.inj separates.length_eq
  cases gaps with
  | nil => cases length_eq
  | cons next others =>
    have blank := separates.blank next (by simp)
    cases words with
    | nil =>
      obtain rfl : others = [] := List.length_eq_zero_iff.1 (Nat.succ.inj length_eq)
      simp only [weave, List.flatten_cons, List.flatten_nil, List.append_nil] at first
      exact blank c (List.mem_of_head? first)
    | cons w words =>
      have some : next ≠ [] := by
        apply separates.between next
        cases others with
        | nil => simp at length_eq
        | cons second others => simp
      obtain ⟨d, more, rfl⟩ := List.exists_cons_of_ne_nil some
      obtain rfl : d = c := Option.some.inj first
      exact blank d List.mem_cons_self

end Separates

/-- The quotes of a text with gaps are those of its words. -/
theorem quote_of_mem_weave {gaps words : List (List Char)} (are : AreGaps gaps words)
    (quote : '"' ∈ weave gaps words) : ∃ word ∈ words, '"' ∈ word := by
  have no_blank : isBlank '"' = false := by decide
  have kept : '"' ∈ (weave gaps words).filter (!isBlank ·) := by simp [quote, no_blank]
  rw [are.filter_weave, List.mem_filter, List.mem_flatten] at kept
  exact kept.1

private theorem lexemes_gap {gap : List Char} (blank : ∀ c ∈ gap, isBlank c) (rest : List Char) :
    lexemes (gap ++ rest) = lexemes rest := by
  induction gap with
  | nil => rfl
  | cons c gap ih =>
    rw [List.cons_append, lexemes_blank (blank c List.mem_cons_self)]
    apply ih
    intro d member
    exact blank d (List.mem_cons_of_mem _ member)

/-- The lexemes of a text are found again with any gaps that keep them apart. -/
theorem lexemes_weave {s : List Char} {gaps : List (List Char)}
    (separates : Separates gaps (lexemes s)) : lexemes (weave gaps (lexemes s)) = lexemes s := by
  fun_induction lexemes s generalizing gaps with
  | case1 =>
    have blank : ∀ c ∈ gaps.flatten, isBlank c := by
      intro c member
      obtain ⟨gap, among, inside⟩ := List.mem_flatten.1 member
      exact separates.blank gap among c inside
    rw [weave_nil, ← List.append_nil gaps.flatten, lexemes_gap blank, lexemes]
  | case2 c rest blank ih => exact ih separates
  | case3 c rest no_blank ih =>
    cases gaps with
    | nil => cases separates.length_eq
    | cons gap gaps =>
      rw [weave, lexemes_gap (separates.blank gap List.mem_cons_self), lexemes_again, ih separates.tail]
      · exact Bool.eq_false_iff.2 no_blank
      · exact apart_of_blank separates.head_weave
      · intro quote
        obtain ⟨word, member, inside⟩ := quote_of_mem_weave separates.tail.toAreGaps quote
        exact mem_of_mem_lexemes member inside

/-- Any text in which the tokens of a text stand in their order with blanks
between them, and perhaps before and after them, has the same tokens. So it has
the same tree, and the same type or the same error. -/
theorem check_weave (decls : Declarations) (text other : String) (gaps : List (List Char))
    (separates : Separates gaps ((tokens decls text).map (·.text.toList)))
    (written : other.toList = weave gaps ((tokens decls text).map (·.text.toList))) :
    tokens decls other = tokens decls text ∧
      Grammar.parse decls other = Grammar.parse decls text ∧
      Filter.check decls other = Filter.check decls text := by
  rw [map_toList_tokens] at separates written
  have same : tokens decls other = tokens decls text := by
    rw [tokens, written, lexemes_weave separates, ← tokens]
  have parsed : Grammar.parse decls other = Grammar.parse decls text := by
    rw [Grammar.parse, same, ← Grammar.parse]
  refine ⟨same, parsed, ?_⟩
  rw [Filter.check, parsed, ← Filter.check]

/-- A literal that ends in a backslash, directly behind an operator and then
behind two other blanks. -/
theorem check_weave_open_literal :
    Separates [['\n'], [' '], ['\u2003', '\t'], [' ']]
        ((tokens Catalogue.declarations "author.name==\"a\\\"").map (·.text.toList)) ∧
      tokens Catalogue.declarations "\nauthor.name ==\u2003\t\"a\\\" " =
        [⟨.identifier, "author.name"⟩, ⟨.eq, "=="⟩, ⟨.string, "\"a\\\""⟩] ∧
      Filter.check Catalogue.declarations "\nauthor.name ==\u2003\t\"a\\\" " =
        Filter.check Catalogue.declarations "author.name==\"a\\\"" := by
  have found : tokens Catalogue.declarations "author.name==\"a\\\"" =
      [⟨.identifier, "author.name"⟩, ⟨.eq, "=="⟩, ⟨.string, "\"a\\\""⟩] := by
    decide +kernel
  have separates : Separates [['\n'], [' '], ['\u2003', '\t'], [' ']]
      ((tokens Catalogue.declarations "author.name==\"a\\\"").map (·.text.toList)) := by
    have blank : [['\n'], [' '], ['\u2003', '\t'], [' ']].all (·.all isBlank) := by decide
    rw [found]
    exact ⟨⟨rfl, fun gap among => List.all_eq_true.1 (List.all_eq_true.1 blank gap among)⟩, by decide⟩
  obtain ⟨same, -, checked⟩ := check_weave Catalogue.declarations "author.name==\"a\\\""
    "\nauthor.name ==\u2003\t\"a\\\" " _ separates (by rw [found]; decide)
  exact ⟨separates, same.trans found, checked⟩

end ChatSieve.Token
