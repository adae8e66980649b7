import ChatSieve.Proofs.Token.Adjoining

/-!
# How quotes pair up

The quotes of a text without stray characters pair up to literals. Each closed
literal has two quotes that are not escaped, and an open one, which can only be
the last, has one. So the number of these quotes is odd just if the last quote
of the text has a backslash before it. Two texts of which the first ends with
an open literal do not pair up side by side, if the second one has a quote
(`Pairs.not_append`).
-/

namespace ChatSieve.Token
open ChatSieve.Text

/-- The quotes of a text are those of literals, and no backslash is outside of
them. The flag tells whether the last literal is open. -/
inductive Pairs : List Char → Bool → Prop
  | nil : Pairs [] false
  | plain {c : Char} (no_quote : c ≠ '"') (no_backslash : c ≠ '\\') (rest : Pairs s b) :
      Pairs (c :: s) b
  | closed {content : List Char} (is_closed : ¬ IsOpen content) (rest : Pairs s b) :
      Pairs ('"' :: (escapeQuotes content ++ '"' :: s)) b
  | last {content : List Char} (is_open : IsOpen content) (none : '"' ∉ s) (rest : Pairs s false) :
      Pairs ('"' :: (escapeQuotes content ++ '"' :: s)) true

/-- Neither quotes nor backslashes. -/
def IsPlain (s : List Char) : Prop := ∀ c ∈ s, c ≠ '"' ∧ c ≠ '\\'

theorem Pairs.prepend {s : List Char} {b : Bool} (pairs : Pairs s b) {front : List Char}
    (is_plain : IsPlain front) : Pairs (front ++ s) b := by
  induction front with
  | nil => exact pairs
  | cons c front ih =>
    obtain ⟨⟨no_quote, no_backslash⟩, others⟩ := List.forall_mem_cons.1 is_plain
    exact .plain no_quote no_backslash (ih others)

private theorem isPlain_of_names {s : List Char} (names : ∀ c ∈ s, isNameChar c) : IsPlain s := by
  intro c member
  have name := names c member
  constructor <;> rintro rfl <;> exact absurd name (by decide)

private theorem isPlain_of_operators {s : List Char} (operators : ∀ c ∈ s, isOperatorChar c) :
    IsPlain s := by
  intro c member
  have operator := operators c member
  constructor <;> rintro rfl <;> exact absurd operator (by decide)

/-- A lexeme is a literal or has neither quotes nor backslashes, unless it is
one of these characters alone. -/
theorem Cut.literal_or_plain {lexeme after : List Char} (cut : Cut lexeme after)
    (no_quote : lexeme ≠ ['"']) (no_backslash : lexeme ≠ ['\\']) :
    (∃ front ∈ literalFronts, ∃ content, lexeme = literalText front content ∧
      (IsOpen content → '"' ∉ after)) ∨ IsPlain lexeme := by
  cases cut with
  | literal member last => exact .inl ⟨_, member, _, rfl, last⟩
  | word some names => exact .inr (isPlain_of_names names)
  | operators operators => exact .inr (isPlain_of_operators operators)
  | single no_name =>
    refine .inr (List.forall_mem_singleton.2 ⟨?_, ?_⟩)
    · rintro rfl
      exact no_quote rfl
    · rintro rfl
      exact no_backslash rfl

private theorem quote_mem_literalText (front content : List Char) :
    '"' ∈ literalText front content := by
  simp [literalText]

/-- Literals with one text have one content. -/
theorem literalText_content_inj {front front' content content' : List Char}
    (member : front ∈ literalFronts) (member' : front' ∈ literalFronts)
    (same : literalText front content = literalText front' content') : content = content' := by
  have one := content?_literalText [] content member
  have other := content?_literalText [] content' member'
  rw [same, other] at one
  exact (String.ofList_injective (Option.some.inj one)).symm

private theorem hasOpen_cons_literal {front content : List Char} (member : front ∈ literalFronts)
    (ls : List (List Char)) :
    HasOpen (literalText front content :: ls) ↔ IsOpen content ∨ HasOpen ls := by
  constructor
  · rintro ⟨front', member', content', among, is_open⟩
    rcases List.mem_cons.1 among with same | later
    · rw [← literalText_content_inj member' member same]
      exact .inl is_open
    · exact .inr ⟨front', member', content', later, is_open⟩
  · rintro (is_open | ⟨front', member', content', later, is_open⟩)
    · exact ⟨front, member, content, List.mem_cons_self, is_open⟩
    · exact ⟨front', member', content', List.mem_cons_of_mem _ later, is_open⟩

private theorem hasOpen_cons_plain {lexeme : List Char} (is_plain : IsPlain lexeme)
    (ls : List (List Char)) :
    HasOpen (lexeme :: ls) ↔ HasOpen ls := by
  constructor
  · rintro ⟨front, member, content, among, is_open⟩
    rcases List.mem_cons.1 among with rfl | later
    · exact absurd rfl (is_plain '"' (quote_mem_literalText front content)).1
    · exact ⟨front, member, content, later, is_open⟩
  · rintro ⟨front, member, content, later, is_open⟩
    exact ⟨front, member, content, List.mem_cons_of_mem _ later, is_open⟩

/-- Without quotes there is no open literal. -/
theorem not_hasOpen_of_no_quote {s : List Char} (none : '"' ∉ s) : ¬ HasOpen (lexemes s) := by
  rintro ⟨front, member, content, among, -⟩
  exact none (mem_of_mem_lexemes among (quote_mem_literalText front content))

/-- The quotes of a text without stray characters pair up. -/
theorem pairs_of_lexemes {s : List Char} (no_quote : ['"'] ∉ lexemes s)
    (no_backslash : ['\\'] ∉ lexemes s) : ∃ b, Pairs s b ∧ (b = true ↔ HasOpen (lexemes s)) := by
  fun_induction lexemes s with
  | case1 =>
    refine ⟨false, .nil, ?_⟩
    simp [HasOpen]
  | case2 c s blank ih =>
    obtain ⟨b, pairs, open_iff⟩ := ih no_quote no_backslash
    have is_plain : IsPlain [c] := by
      refine List.forall_mem_singleton.2 ⟨?_, ?_⟩ <;> rintro rfl <;> exact absurd blank (by decide)
    exact ⟨b, pairs.prepend is_plain, open_iff⟩
  | case3 c s no_blank ih =>
    have cut := nextLexeme_cut c s
    have whole := (nextLexeme_isCut c s).1
    generalize nextLexeme c s = parts at cut whole ih no_quote no_backslash ⊢
    obtain ⟨lexeme, after⟩ := parts
    simp only at cut whole ih no_quote no_backslash ⊢
    rw [List.mem_cons, not_or] at no_quote no_backslash
    obtain ⟨b, pairs, open_iff⟩ := ih no_quote.2 no_backslash.2
    rw [← whole]
    rcases cut.literal_or_plain (Ne.symm no_quote.1) (Ne.symm no_backslash.1) with
      ⟨front, member, content, rfl, last⟩ | is_plain
    · have front_plain := isPlain_of_names (names_of_front member)
      rw [hasOpen_cons_literal member, literalText, List.append_assoc, List.cons_append,
        List.append_assoc, List.singleton_append]
      by_cases is_open : IsOpen content
      · have none := last is_open
        obtain rfl : b = false :=
          Bool.eq_false_iff.2 fun is_true => not_hasOpen_of_no_quote none (open_iff.1 is_true)
        exact ⟨true, (Pairs.last is_open none pairs).prepend front_plain, by simp [is_open]⟩
      · exact ⟨b, (Pairs.closed is_open pairs).prepend front_plain, by simp [is_open, open_iff]⟩
    · rw [hasOpen_cons_plain is_plain]
      exact ⟨b, pairs.prepend is_plain, open_iff⟩

/-- The quotes of a text that have no backslash before them. -/
def bareQuotes : List Char → Nat
  | [] => 0
  | '\\' :: '"' :: rest => bareQuotes rest
  | '"' :: rest => bareQuotes rest + 1
  | _ :: rest => bareQuotes rest

private theorem bareQuotes_cons {c : Char} {s : List Char} (no_quote : c ≠ '"')
    (no_escape : ¬ (c = '\\' ∧ ∃ rest, s = '"' :: rest)) : bareQuotes (c :: s) = bareQuotes s := by
  rw [bareQuotes]
  · rintro rest rfl rfl
    exact no_escape ⟨rfl, rest, rfl⟩
  · exact no_quote

private theorem bareQuotes_plain {front : List Char} (is_plain : IsPlain front) (s : List Char) :
    bareQuotes (front ++ s) = bareQuotes s := by
  induction front with
  | nil => rfl
  | cons c front ih =>
    obtain ⟨⟨no_quote, no_backslash⟩, others⟩ := List.forall_mem_cons.1 is_plain
    rw [List.cons_append, bareQuotes_cons no_quote fun escape => no_backslash escape.1, ih others]

/-- Of the quotes behind the opening one only the closing one counts, if the
literal is not open. -/
theorem bareQuotes_escapeQuotes (content s : List Char) :
    bareQuotes (escapeQuotes content ++ '"' :: s) =
      bareQuotes s + if IsOpen content then 0 else 1 := by
  induction content with
  | nil => simp [escapeQuotes, bareQuotes, IsOpen]
  | cons c content ih =>
    by_cases quote : c = '"'
    · subst quote
      have same : IsOpen ('"' :: content) ↔ IsOpen content := by simp [isOpen_cons]
      simp only [escapeQuotes, List.cons_append, bareQuotes, ih, same]
    · rw [escapeQuotes_cons quote, List.cons_append]
      by_cases ends : c = '\\' ∧ content = []
      · obtain ⟨rfl, rfl⟩ := ends
        simp [escapeQuotes, bareQuotes, IsOpen]
      · have same : IsOpen (c :: content) ↔ IsOpen content := by
          rw [isOpen_cons, and_comm]
          simp [ends]
        rw [bareQuotes_cons quote, ih]
        · simp only [same]
        · rintro ⟨rfl, rest, first⟩
          exact ends ⟨rfl, eq_nil_of_escapeQuotes_append first⟩

/-- Quotes are counted one text after the other, unless the second one begins
with a quote. -/
theorem bareQuotes_append (s : List Char) {t : List Char} (apart : t.head? ≠ some '"') :
    bareQuotes (s ++ t) = bareQuotes s + bareQuotes t := by
  fun_induction bareQuotes s with
  | case1 => simp
  | case2 rest ih => simpa [bareQuotes] using ih
  | case3 rest ih =>
    simp only [List.cons_append, bareQuotes, ih]
    omega
  | case4 c rest no_escape no_quote ih =>
    rw [List.cons_append, bareQuotes_cons no_quote, ih]
    rintro ⟨rfl, others, same⟩
    cases rest with
    | nil =>
      obtain rfl : t = '"' :: others := same
      exact apart rfl
    | cons d rest => exact no_escape rest rfl (by rw [(List.cons.inj same).1])

/-- The number of these quotes is odd just if the last literal is open. -/
theorem Pairs.bareQuotes_mod {s : List Char} {b : Bool} (pairs : Pairs s b) :
    bareQuotes s % 2 = b.toNat := by
  induction pairs with
  | nil => rfl
  | plain no_quote no_backslash rest ih =>
    rw [bareQuotes_cons no_quote fun escape => no_backslash escape.1, ih]
  | closed is_closed rest ih =>
    rw [bareQuotes, bareQuotes_escapeQuotes, if_neg is_closed]
    omega
  | last is_open none rest ih =>
    rw [bareQuotes, bareQuotes_escapeQuotes, if_pos is_open, Bool.toNat_true]
    rw [Bool.toNat_false] at ih
    omega

private theorem getLast?_escapeQuotes (content : List Char) :
    (escapeQuotes content).getLast? = content.getLast? := by
  induction content with
  | nil => rfl
  | cons c content ih =>
    by_cases quote : c = '"'
    · subst quote
      simp [escapeQuotes, List.getLast?_cons, ih]
    · rw [escapeQuotes_cons quote, List.getLast?_cons, List.getLast?_cons, ih]

/-- The closing quote of a literal has a backslash before it just if the
literal is open. -/
theorem exists_before_closing (content : List Char) :
    ∃ before x, '"' :: escapeQuotes content = before ++ [x] ∧ (x = '\\' ↔ IsOpen content) := by
  rcases List.eq_nil_or_concat ('"' :: escapeQuotes content) with none | ⟨before, x, split⟩
  · cases none
  · rw [List.concat_eq_append] at split
    refine ⟨before, x, split, ?_⟩
    have last := congrArg List.getLast? split
    rw [List.getLast?_cons, getLast?_escapeQuotes, List.getLast?_concat, Option.some.injEq] at last
    rw [← last, IsOpen]
    cases content.getLast? with
    | none => simp
    | some y => simp

private theorem Pairs.false_of_no_quote {s : List Char} {b : Bool} (pairs : Pairs s b)
    (none : '"' ∉ s) :
    b = false := by
  induction pairs with
  | nil => rfl
  | plain no_quote no_backslash rest ih => exact ih fun quote => none (List.mem_cons_of_mem _ quote)
  | closed => exact absurd List.mem_cons_self none
  | last => exact absurd List.mem_cons_self none

/-- The last quote has a backslash before it just if the last literal is open. -/
theorem Pairs.exists_last_quote {s : List Char} {b : Bool} (pairs : Pairs s b) (quote : '"' ∈ s) :
    ∃ before x after, s = before ++ x :: '"' :: after ∧ '"' ∉ after ∧ (x = '\\' ↔ b = true) := by
  induction pairs with
  | nil => cases quote
  | @plain s b c no_quote no_backslash rest ih =>
    obtain ⟨before, x, after, rfl, none, open_iff⟩ := ih (by simpa [Ne.symm no_quote] using quote)
    exact ⟨c :: before, x, after, rfl, none, open_iff⟩
  | @closed s b content is_closed rest ih =>
    by_cases later : '"' ∈ s
    · obtain ⟨before, x, after, rfl, none, open_iff⟩ := ih later
      exact ⟨'"' :: (escapeQuotes content ++ '"' :: before), x, after, by simp, none, open_iff⟩
    · obtain ⟨before, x, split, open_iff⟩ := exists_before_closing content
      refine ⟨before, x, s, ?_, later, ?_⟩
      · rw [← List.cons_append, split, List.append_assoc, List.singleton_append]
      · rw [rest.false_of_no_quote later, open_iff]
        simp [is_closed]
  | @last s content is_open none rest ih =>
    obtain ⟨before, x, split, open_iff⟩ := exists_before_closing content
    refine ⟨before, x, s, ?_, none, ?_⟩
    · rw [← List.cons_append, split, List.append_assoc, List.singleton_append]
    · simp [open_iff, is_open]

/-- A quote in front of the last one of a text comes before what follows it. -/
theorem eq_of_prefix_quote {between after after' : List Char} {x y : Char}
    (same : x :: '"' :: after = between ++ y :: '"' :: after') (none : '"' ∉ after) : x = y := by
  cases between with
  | nil => exact (List.cons.inj same).1
  | cons c others =>
    obtain ⟨-, tail⟩ := List.cons.inj same
    cases others with
    | nil =>
      rw [(List.cons.inj tail).2] at none
      exact absurd List.mem_cons_self none
    | cons d others =>
      rw [(List.cons.inj tail).2] at none
      exact absurd (by simp) none

/-- There is only one last quote. -/
theorem eq_of_last_quote {before before' after after' : List Char} {x y : Char}
    (same : before ++ x :: '"' :: after = before' ++ y :: '"' :: after') (none : '"' ∉ after)
    (none' : '"' ∉ after') : x = y := by
  rcases List.append_eq_append_iff.1 same with ⟨between, -, split⟩ | ⟨between, -, split⟩
  · exact eq_of_prefix_quote split none
  · exact (eq_of_prefix_quote split none').symm

/-- Behind a text with an open literal, a text with a quote and all that it
stands between do not pair up: the parity of the quotes would be that of the
second text and would not. -/
theorem Pairs.not_append {s t between after : List Char} {b : Bool} (first : Pairs s true)
    (second : Pairs t b) (quote : '"' ∈ t) (between_plain : IsPlain between) (some : between ≠ [])
    (after_plain : IsPlain after) (whole : Bool) : ¬ Pairs (s ++ (between ++ (t ++ after))) whole := by
  intro pairs
  have count : bareQuotes (s ++ (between ++ (t ++ after))) = bareQuotes s + bareQuotes t := by
    have no_quote {u : List Char} (plain : IsPlain u) : u.head? ≠ Option.some '"' := fun head =>
      (plain '"' (List.mem_of_head? head)).1 rfl
    have none : bareQuotes after = 0 := by
      simpa [bareQuotes] using bareQuotes_plain after_plain []
    rw [bareQuotes_append s, bareQuotes_plain between_plain, bareQuotes_append t (no_quote after_plain),
      none, Nat.add_zero]
    obtain ⟨c, others, rfl⟩ := List.exists_cons_of_ne_nil some
    have head := no_quote between_plain
    rwa [List.head?_cons] at head
  -- the last quote of the second text is also that of the whole
  have same_end : whole = b := by
    obtain ⟨before, x, rest, rfl, none, open_iff⟩ := second.exists_last_quote quote
    obtain ⟨before', y, rest', split, none', open_iff'⟩ := pairs.exists_last_quote (by simp)
    have none_after : '"' ∉ rest ++ after := fun member =>
      (List.mem_append.1 member).elim none fun later => (after_plain '"' later).1 rfl
    have places : (s ++ (between ++ before)) ++ x :: '"' :: (rest ++ after) =
        before' ++ y :: '"' :: rest' := by
      rw [← split]
      simp
    have same := eq_of_last_quote places none_after none'
    rw [← same, open_iff] at open_iff'
    exact (Bool.eq_iff_iff.2 open_iff').symm
  have odd := first.bareQuotes_mod
  have second_parity := second.bareQuotes_mod
  have whole_parity := pairs.bareQuotes_mod
  rw [count, same_end] at whole_parity
  cases b <;> simp only [Bool.toNat_true, Bool.toNat_false] at odd second_parity whole_parity <;> omega

end ChatSieve.Token
