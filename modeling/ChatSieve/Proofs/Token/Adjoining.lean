import ChatSieve.Proofs.Token.Names

/-!
# Texts side by side

A text keeps its lexemes when another one follows that cannot continue the last
of them (`lexemes_append`). There is one exception. A literal that ends in a
backslash closes at its last quote only because no other quote follows, so
that with one more quote behind it the literal becomes a longer one.
-/

namespace ChatSieve.Token
open ChatSieve.Text

/-- What begins with this continues neither a word nor an operator, and it does
not make a literal of a word. -/
def Apart (rest : List Char) : Prop :=
  ∀ c ∈ rest.head?, isNameChar c = false ∧ c ≠ '"' ∧ isOperatorChar c = false

/-- No pair of operator characters comes about where the texts meet. -/
theorem Apart.no_pair {rest s : List Char} (apart : Apart rest) {c first second : Char}
    (operator : isOperatorChar second) (none : ∀ others, c = first → s = second :: others → False) :
    ∀ others, c = first → s ++ rest = second :: others → False := by
  intro others same_first same
  cases s with
  | nil =>
    obtain rfl : rest = second :: others := same
    rw [(apart second rfl).2.2] at operator
    cases operator
  | cons d s =>
    exact none s same_first (by rw [(List.cons.inj same).1])

theorem operatorRun_apart {rest : List Char} (apart : Apart rest) (s : List Char) :
    operatorRun (s ++ rest) = ((operatorRun s).1, (operatorRun s).2 ++ rest) := by
  fun_induction operatorRun s with
  | case7 c s lt gt bang eq bar ampersand member run after found ih =>
    rw [found] at ih
    rw [List.cons_append, operatorRun.eq_7 c _ (apart.no_pair (by decide) lt)
      (apart.no_pair (by decide) gt) (apart.no_pair (by decide) bang) (apart.no_pair (by decide) eq)
      (apart.no_pair (by decide) bar) (apart.no_pair (by decide) ampersand), if_pos member, ih]
  | case8 c s lt gt bang eq bar ampersand no_member =>
    rw [List.cons_append, operatorRun.eq_7 c _ (apart.no_pair (by decide) lt)
      (apart.no_pair (by decide) gt) (apart.no_pair (by decide) bang) (apart.no_pair (by decide) eq)
      (apart.no_pair (by decide) bar) (apart.no_pair (by decide) ampersand), if_neg no_member]
  | case9 => exact operatorRun_of_none fun c member => (apart c member).2.2
  | _ => simp_all [operatorRun]

theorem operators?_apart {rest : List Char} (apart : Apart rest) (s : List Char) :
    operators? (s ++ rest) = (operators? s).map fun (run, after) => (run, after ++ rest) := by
  rw [operators?, operators?, operatorRun_apart apart]
  by_cases none : (operatorRun s).1.isEmpty
  · simp [none]
  · simp [none]

private theorem word?_apart {rest : List Char} (apart : Apart rest) (s : List Char) :
    word? (s ++ rest) = (word? s).map fun (word, after) => (word, after ++ rest) := by
  have none_taken : rest.takeWhile isNameChar = [] ∧ rest.dropWhile isNameChar = rest := by
    cases rest with
    | nil => exact ⟨rfl, rfl⟩
    | cons c rest => simp [(apart c rfl).1]
  have taken : (s ++ rest).takeWhile isNameChar = s.takeWhile isNameChar := by
    rw [List.takeWhile_append, none_taken.1, List.append_nil]
    split
    · rename_i all
      exact ((List.takeWhile_prefix _).eq_of_length all).symm
    · rfl
  have dropped : (s ++ rest).dropWhile isNameChar = s.dropWhile isNameChar ++ rest := by
    rw [List.dropWhile_append, none_taken.2]
    split
    · rename_i all
      rw [List.isEmpty_iff.1 all, List.nil_append]
    · rfl
  rw [word?, word?, taken, dropped]
  cases s.takeWhile isNameChar <;> rfl

theorem nextLexeme_lone_quote {rest : List Char} (none : '"' ∉ rest) :
    nextLexeme '"' rest = (['"'], rest) := by
  have no_end := (literalTail?_eq_none_iff rest).2 none
  have no_name : isNameChar '"' = false := by decide
  have no_operators : operatorRun ('"' :: rest) = ([], '"' :: rest) :=
    operatorRun_of_none (by rintro c ⟨⟩; decide)
  simp [nextLexeme, literal?, no_end, word?, no_name, operators?, no_operators]

/-- A quote that no other quote follows is a lexeme of its own, also behind
what could begin a literal. -/
theorem lone_quote {front rest : List Char} (member : front ∈ literalFronts) (none : '"' ∉ rest) :
    ['"'] ∈ lexemes (front ++ '"' :: rest) := by
  have no_end := (literalTail?_eq_none_iff rest).2 none
  have no_name : isNameChar '"' = false := by decide
  have lone : ['"'] ∈ lexemes ('"' :: rest) := by
    rw [lexemes_of_nextLexeme (by decide) (nextLexeme_lone_quote none)]
    exact List.mem_cons_self
  have names : isNameChar 'r' ∧ isNameChar 'i' := by decide
  simp only [literalFronts, List.mem_cons, List.not_mem_nil, or_false] at member
  rcases member with rfl | rfl | rfl
  · exact lone
  · have next : nextLexeme 'r' ('"' :: rest) = (['r'], '"' :: rest) := by
      simp [nextLexeme, literal?, no_end, word?, names, no_name]
    rw [List.singleton_append, lexemes_of_nextLexeme (by decide) next]
    exact List.mem_cons_of_mem _ lone
  · have next : nextLexeme 'r' ('i' :: '"' :: rest) = (['r', 'i'], '"' :: rest) := by
      simp [nextLexeme, literal?, no_end, word?, names, no_name]
    rw [List.cons_append, List.singleton_append, lexemes_of_nextLexeme (by decide) next]
    exact List.mem_cons_of_mem _ lone

/-- Only where no quote follows, an opening quote opens nothing. -/
theorem quote_of_literal?_eq_none {front rest : List Char} (member : front ∈ literalFronts)
    (none : literal? (front ++ '"' :: rest) = none) : '"' ∉ rest := by
  refine (literalTail?_eq_none_iff rest).1 ?_
  simp only [literalFronts, List.mem_cons, List.not_mem_nil, or_false] at member
  rcases member with rfl | rfl | rfl <;> simpa [literal?] using none

/-- What follows does not make a literal of what is none. -/
theorem literal?_apart_none {rest s : List Char} (apart : Apart rest) (no_lone : ['"'] ∉ lexemes s)
    (none : literal? s = none) : literal? (s ++ rest) = Option.none := by
  refine Option.eq_none_iff_forall_ne_some.2 ?_
  rintro ⟨lexeme, after⟩ found
  obtain ⟨front, member, content, -, same, -⟩ := (literal?_eq_some_iff _ _ _).1 found
  rw [literalText, List.append_assoc, List.cons_append, List.append_eq_append_iff] at same
  -- the opening quote belongs to what follows or to the text
  rcases same with ⟨others, split, follows⟩ | ⟨others, split, follows⟩
  · cases others with
    | nil =>
      rw [List.nil_append] at follows
      rw [follows] at apart
      exact (apart '"' rfl).2.1 rfl
    | cons c others =>
      have name := names_of_front member c (by simp [split])
      rw [follows] at apart
      rw [(apart c rfl).1] at name
      cases name
  · cases others with
    | nil =>
      rw [List.nil_append] at follows
      rw [← follows] at apart
      exact (apart '"' rfl).2.1 rfl
    | cons c others =>
      obtain ⟨rfl, -⟩ := List.cons.inj follows
      rw [split] at none no_lone
      exact no_lone (lone_quote member (quote_of_literal?_eq_none member none))

/-- A literal stays one if it may, and an open one may only before a text
without quotes. -/
theorem literal?_apart_some {rest s lexeme after : List Char} (found : literal? s = some (lexeme, after))
    (quiet : ∀ front ∈ literalFronts, ∀ content, lexeme = literalText front content → IsOpen content →
      '"' ∉ rest) : literal? (s ++ rest) = some (lexeme, after ++ rest) := by
  obtain ⟨front, member, content, rfl, rfl, last⟩ := (literal?_eq_some_iff _ _ _).1 found
  refine (literal?_eq_some_iff _ _ _).2 ⟨front, member, content, rfl, List.append_assoc _ _ _, ?_⟩
  intro is_open quote
  rcases List.mem_append.1 quote with here | there
  · exact last is_open here
  · exact quiet front member content rfl is_open there

private theorem nextLexeme_apart {c : Char} {s rest : List Char} (apart : Apart rest)
    (no_lone : ['"'] ∉ lexemes (c :: s))
    (quiet : ∀ front ∈ literalFronts, ∀ content, (nextLexeme c s).1 = literalText front content →
      IsOpen content → '"' ∉ rest) :
    nextLexeme c (s ++ rest) = ((nextLexeme c s).1, (nextLexeme c s).2 ++ rest) := by
  have word := word?_apart apart (c :: s)
  have operators := operators?_apart apart (c :: s)
  rw [nextLexeme] at quiet
  rw [nextLexeme, nextLexeme]
  rw [List.cons_append] at word operators
  cases literal : literal? (c :: s) with
  | some cut =>
    simp only [literal] at quiet
    have still : literal? (c :: (s ++ rest)) = some (cut.1, cut.2 ++ rest) :=
      literal?_apart_some literal quiet
    rw [still]
  | none =>
    have still := literal?_apart_none apart no_lone literal
    rw [List.cons_append] at still
    rw [still, word]
    cases word? (c :: s) with
    | some cut => rfl
    | none =>
      simp only [Option.map_none, operators]
      cases operators? (c :: s) <;> rfl

/-- One of the lexemes is a literal that ends in a backslash. -/
def HasOpen (ls : List (List Char)) : Prop :=
  ∃ front ∈ literalFronts, ∃ content, literalText front content ∈ ls ∧ IsOpen content

/-- A text keeps its lexemes if none of them is a lone quote and, where there is
an open literal, no quote follows. -/
theorem lexemes_append {s rest : List Char} (apart : Apart rest) (no_lone : ['"'] ∉ lexemes s)
    (quiet : HasOpen (lexemes s) → '"' ∉ rest) : lexemes (s ++ rest) = lexemes s ++ lexemes rest := by
  fun_induction lexemes s with
  | case1 => rfl
  | case2 c s blank ih =>
    rw [List.cons_append, lexemes_blank blank, ih no_lone quiet]
  | case3 c s no_blank ih =>
    have lexeme : lexemes (c :: s) = (nextLexeme c s).1 :: lexemes (nextLexeme c s).2 :=
      lexemes_of_nextLexeme (Bool.eq_false_iff.2 no_blank) rfl
    have next := nextLexeme_apart apart (by rw [lexeme]; exact no_lone)
      fun front member content same is_open =>
        quiet ⟨front, member, content, by rw [← same]; exact List.mem_cons_self, is_open⟩
    rw [List.cons_append, lexemes_of_nextLexeme (Bool.eq_false_iff.2 no_blank) next, List.cons_append,
      ih (fun lone => no_lone (List.mem_cons_of_mem _ lone))]
    rintro ⟨front, member, content, later, is_open⟩
    exact quiet ⟨front, member, content, List.mem_cons_of_mem _ later, is_open⟩

/-- What the literals among the tokens of a text hold. -/
theorem mem_contents_iff (decls : Declarations) (s : List Char) (a : String) :
    a ∈ contents ((lexemes s).map (ofLexeme decls)) ↔
      ∃ front ∈ literalFronts, literalText front a.toList ∈ lexemes s := by
  rw [contents, List.mem_filterMap]
  constructor
  · rintro ⟨t, member, literal⟩
    obtain ⟨lexeme, cut_off, rfl⟩ := List.mem_map.1 member
    obtain ⟨quote, long⟩ := quote_of_content? literal
    obtain ⟨after, cut⟩ := cut_of_mem_lexemes cut_off
    cases cut with
    | @literal front content _ front_member last =>
      rw [content?_literalText decls _ front_member] at literal
      obtain rfl := Option.some.inj literal
      exact ⟨front, front_member, by rw [String.toList_ofList]; exact cut_off⟩
    | word some names => exact absurd (names _ quote) (by decide)
    | operators operators => exact absurd (operators _ quote) (by decide)
    | single no_name => exact absurd long (by simp)
  · rintro ⟨front, member, cut_off⟩
    refine ⟨_, List.mem_map_of_mem cut_off, ?_⟩
    rw [content?_literalText decls _ member, String.ofList_toList]

theorem hasOpen_lexemes_iff (decls : Declarations) (s : List Char) :
    HasOpen (lexemes s) ↔
      ∃ a ∈ contents ((lexemes s).map (ofLexeme decls)), IsOpen a.toList := by
  constructor
  · rintro ⟨front, member, content, cut_off, is_open⟩
    refine ⟨String.ofList content, (mem_contents_iff decls s _).2 ⟨front, member, ?_⟩, ?_⟩
    · rw [String.toList_ofList]
      exact cut_off
    · rw [String.toList_ofList]
      exact is_open
  · rintro ⟨a, holds, is_open⟩
    obtain ⟨front, member, cut_off⟩ := (mem_contents_iff decls s a).1 holds
    exact ⟨front, member, a.toList, cut_off, is_open⟩

end ChatSieve.Token
