import ChatSieve.Proofs.Text.Decimal
import ChatSieve.Proofs.Token.Lexeme

/-!
# Kinds of lexemes

Which texts are literals, names and integers. The literals of a text are
closed, but for the last one (`tokens_closed`), and its integers have no sign
(`lexed_of_mem_tokens`).
-/

namespace ChatSieve.Token
open ChatSieve.Text ChatSieve.Grammar

/-- A fixed text is no literal, no name and no integer. -/
theorem Kind.ofFixedText?_some {text : String} {k : Kind} (fixed : Kind.ofFixedText? text = some k) :
    k ∉ [.int, .string, .pattern, .identifier, .unknown] ∧ '"' ∉ text.toList ∧
      readInt64 text.toList = none := by
  unfold Kind.ofFixedText? at fixed
  split at fixed <;> cases fixed <;> decide

/-- What a text must be for its kind. -/
def Kind.Fits (decls : Declarations) (text : String) : Kind → Prop
  | .pattern => (patternBody? text.toList).any isQuoted
  | .string => isQuoted text.toList
  | .identifier => decls.declares text
  | .int => (readInt64 text.toList).isSome
  | _ => True

private theorem classifyLiteral_fits (decls : Declarations) (text : String) :
    (classifyLiteral decls text).Fits decls text := by
  rw [classifyLiteral]
  split
  · assumption
  · split
    · assumption
    · split
      · assumption
      · split
        · assumption
        · trivial

theorem classify_fits (decls : Declarations) (text : String) :
    (classify decls text).Fits decls text := by
  rw [classify]
  cases fixed : Kind.ofFixedText? text with
  | none => exact classifyLiteral_fits decls text
  | some k =>
    have no_literal := (Kind.ofFixedText?_some fixed).1
    cases k with
    | identifier | int | string | pattern => exact absurd (by decide) no_literal
    | _ => trivial

theorem declares_of_classify {decls : Declarations} {name : String}
    (identifier : classify decls name = .identifier) : decls.declares name := by
  have fits := classify_fits decls name
  rwa [identifier] at fits

theorem classify_of_free {decls : Declarations} {text : String}
    (free : '"' ∈ text.toList ∨ (readInt64 text.toList).isSome) :
    classify decls text = classifyLiteral decls text := by
  rw [classify]
  cases fixed : Kind.ofFixedText? text with
  | none => rfl
  | some k =>
    obtain ⟨-, no_quote, no_int⟩ := Kind.ofFixedText?_some fixed
    simp [no_quote, no_int] at free

/-- A fixed text is known as what it is. -/
theorem ofLexeme_of_fixed (decls : Declarations) {lexeme : List Char} {k : Kind}
    (fixed : Kind.ofFixedText? (String.ofList lexeme) = some k) :
    ofLexeme decls lexeme = ⟨k, String.ofList lexeme⟩ := by
  rw [ofLexeme, classify, fixed]
  rfl

theorem kind_of_fixed (decls : Declarations) {lexeme : List Char} {k : Kind}
    (fixed : Kind.ofFixedText? (String.ofList lexeme) = some k) : (ofLexeme decls lexeme).kind = k := by
  rw [ofLexeme_of_fixed decls fixed]

/-- An operator is known by its text. -/
theorem ofLexeme_operatorText (decls : Declarations) {op : Kind} (operator : op.isOperator) :
    ofLexeme decls op.operatorText.toList = ⟨op, op.operatorText⟩ := by
  have fixed : Kind.ofFixedText? op.operatorText = some op := by
    cases op <;> first | cases operator; done | decide
  rw [ofLexeme_of_fixed decls (by rw [String.ofList_toList, fixed]), String.ofList_toList]

private theorem isQuoted_quotes (s : List Char) : isQuoted ('"' :: (s ++ ['"'])) := by
  have last : ('"' :: (s ++ ['"'])).getLast? = some '"' := by
    rw [← List.cons_append, List.getLast?_concat]
  simp [isQuoted, last]

private theorem quote_of_isQuoted {s : List Char} (quoted : isQuoted s) :
    '"' ∈ s ∧ 2 ≤ s.length := by
  simp only [isQuoted, Bool.and_eq_true, decide_eq_true_eq, beq_iff_eq] at quoted
  exact ⟨List.mem_of_head? quoted.1.2, quoted.1.1⟩

private theorem suffix_of_patternBody? {s body : List Char} (pattern : patternBody? s = some body) :
    body <:+ s := by
  rw [patternBody?.eq_def] at pattern
  split at pattern
  · cases pattern
    exact ⟨['r', 'i'], rfl⟩
  · cases pattern
    exact ⟨['r'], rfl⟩
  · cases pattern

/-- The kind of literals. -/
def literalKind : List Char → Kind
  | [] => .string
  | _ => .pattern

theorem classify_literalText (decls : Declarations) {front : List Char} (content : List Char)
    (member : front ∈ literalFronts) :
    classify decls (String.ofList (literalText front content)) = literalKind front := by
  have quoted := isQuoted_quotes (escapeQuotes content)
  rw [classify_of_free (.inl (by simp [literalText]))]
  simp only [literalFronts, List.mem_cons, List.not_mem_nil, or_false] at member
  rcases member with rfl | rfl | rfl <;>
    simp [classifyLiteral, literalText, patternBody?, quoted, literalKind]

/-- What a literal holds. -/
def content? (t : Token) : Option String :=
  match t.kind with
  | .string => some (unquote t.text.toList)
  | .pattern => (patternBody? t.text.toList).map unquote
  | _ => none

theorem content?_literalText (decls : Declarations) {front : List Char} (content : List Char)
    (member : front ∈ literalFronts) :
    (ofLexeme decls (literalText front content)).content? = some (String.ofList content) := by
  rw [ofLexeme, classify_literalText decls content member]
  simp only [literalFronts, List.mem_cons, List.not_mem_nil, or_false] at member
  rcases member with rfl | rfl | rfl <;>
    simp [content?, literalKind, literalText, patternBody?, unquote_escapeQuotes]

/-- A token that holds something has a quote and more. -/
theorem quote_of_content? {decls : Declarations} {lexeme : List Char} {content : String}
    (literal : (ofLexeme decls lexeme).content? = some content) : '"' ∈ lexeme ∧ 2 ≤ lexeme.length := by
  have fits := classify_fits decls (String.ofList lexeme)
  simp only [ofLexeme, content?, String.toList_ofList] at literal
  split at literal
  · rename_i kind
    simp only [kind, Kind.Fits, String.toList_ofList] at fits
    exact quote_of_isQuoted fits
  · rename_i kind
    obtain ⟨body, pattern, -⟩ := Option.map_eq_some_iff.1 literal
    simp only [kind, Kind.Fits, String.toList_ofList, pattern, Option.any_some] at fits
    obtain ⟨quote, long⟩ := quote_of_isQuoted fits
    have suffix := suffix_of_patternBody? pattern
    exact ⟨suffix.subset quote, Nat.le_trans long suffix.length_le⟩
  · cases literal

private theorem content?_of_no_quote {decls : Declarations} {lexeme : List Char}
    (no_quote : '"' ∉ lexeme) :
    (ofLexeme decls lexeme).content? = none :=
  Option.eq_none_iff_forall_ne_some.2 fun _ literal => no_quote (quote_of_content? literal).1

/-- What the literals of some tokens hold, in their order. -/
def contents (ts : List Token) : List String := ts.filterMap content?

theorem contents_append (ts us : List Token) : contents (ts ++ us) = contents ts ++ contents us :=
  List.filterMap_append

/-- Only literals hold something. -/
theorem contents_cons {t : Token} (no_literal : t.kind ≠ .string ∧ t.kind ≠ .pattern)
    (ts : List Token) : contents (t :: ts) = contents ts := by
  obtain ⟨k, text⟩ := t
  cases k <;> first | rfl | exact absurd rfl no_literal.1 | exact absurd rfl no_literal.2

/-- All literals but the last one are closed: they do not end in a backslash. -/
def Closed (literals : List String) : Prop := literals.Pairwise fun a _ => ¬ IsOpen a.toList

private theorem contents_of_no_quote {decls : Declarations} {s : List Char} (no_quote : '"' ∉ s) :
    contents ((lexemes s).map (ofLexeme decls)) = [] := by
  refine List.filterMap_eq_nil_iff.2 fun t member => ?_
  obtain ⟨lexeme, cut_off, rfl⟩ := List.mem_map.1 member
  exact content?_of_no_quote fun quote => no_quote (mem_of_mem_lexemes cut_off quote)

/-- Only a literal holds something, and after an open one there is no other. -/
theorem Cut.content? {lexeme after : List Char} (cut : Cut lexeme after) (decls : Declarations) :
    (ofLexeme decls lexeme).content? = none ∨
      ∃ content, (ofLexeme decls lexeme).content? = some (String.ofList content) ∧
        (IsOpen content → '"' ∉ after) := by
  cases cut with
  | literal member last => exact .inr ⟨_, content?_literalText decls _ member, last⟩
  | word some names =>
    refine .inl (content?_of_no_quote fun quote => ?_)
    exact absurd (names _ quote) (by decide)
  | operators operators =>
    refine .inl (content?_of_no_quote fun quote => ?_)
    exact absurd (operators _ quote) (by decide)
  | single no_name =>
    refine .inl (Option.eq_none_iff_forall_ne_some.2 fun _ literal => ?_)
    exact absurd (quote_of_content? literal).2 (by simp)

/-- The literals of a text are closed, but for the last one. -/
theorem tokens_closed (decls : Declarations) (text : String) :
    Closed (contents (tokens decls text)) := by
  rw [tokens]
  generalize text.toList = s
  fun_induction lexemes s with
  | case1 => exact .nil
  | case2 c rest blank ih => exact ih
  | case3 c rest no_blank ih =>
    rw [List.map_cons, contents, List.filterMap_cons]
    obtain nothing | ⟨content, literal, last⟩ := (nextLexeme_cut c rest).content? decls
    · rw [nothing]
      exact ih
    · rw [literal]
      refine List.pairwise_cons.2 ⟨fun later member is_open => ?_, ih⟩
      rw [String.toList_ofList] at is_open
      rw [← contents, contents_of_no_quote (last is_open)] at member
      cases member

/-- A lexeme with a sign and a digit after it would not be one. -/
theorem Cut.no_sign {sign digit : Char} {rest after : List Char}
    (cut : Cut (sign :: digit :: rest) after) (signs : sign = '+' ∨ sign = '-')
    (digits : digit.isDigit) : False := by
  have no_name : isNameChar sign = false := by rcases signs with rfl | rfl <;> decide
  have no_front : sign ≠ '"' ∧ sign ≠ 'r' := by rcases signs with rfl | rfl <;> decide
  generalize lexeme_eq : sign :: digit :: rest = lexeme at cut
  cases cut with
  | literal member last =>
    simp only [literalFronts, List.mem_cons, List.not_mem_nil, or_false] at member
    rcases member with rfl | rfl | rfl <;> simp_all [literalText]
  | word some names =>
    subst lexeme_eq
    simp [names sign List.mem_cons_self] at no_name
  | operators operators =>
    subst lexeme_eq
    have no_operator := not_isOperatorChar_of_isNameChar (isNameChar_of_isDigit digits)
    simp [operators digit (by simp)] at no_operator
  | single no_name => cases lexeme_eq

theorem cut_of_mem_lexemes {s lexeme : List Char} (member : lexeme ∈ lexemes s) :
    ∃ after, Cut lexeme after := by
  fun_induction lexemes s with
  | case1 => cases member
  | case2 c rest blank ih => exact ih member
  | case3 c rest no_blank ih =>
    rcases List.mem_cons.1 member with rfl | later
    · exact ⟨_, nextLexeme_cut c rest⟩
    · exact ih later

/-- A token with the kind of its text. A sign is a token of its own, so that
no integer has one. -/
structure Lexed (decls : Declarations) (t : Token) : Prop where
  kind_eq : t.kind = classify decls t.text
  nonneg : ∀ n, readInt64 t.text.toList = some n → 0 ≤ n.toInt

theorem Lexed.fits {decls : Declarations} {t : Token} (lexed : Lexed decls t) :
    t.kind.Fits decls t.text := by
  rw [lexed.kind_eq]
  exact classify_fits decls t.text

theorem lexed_of_mem_tokens {decls : Declarations} {text : String} {t : Token}
    (member : t ∈ tokens decls text) : Lexed decls t := by
  obtain ⟨lexeme, cut_off, rfl⟩ := List.mem_map.1 member
  refine ⟨rfl, fun n read => ?_⟩
  rw [ofLexeme, String.toList_ofList] at read
  obtain ⟨-, -, -, -, nonneg⟩ | ⟨sign, digit, rest, rfl, signs, digits⟩ := head_of_readInt64 read
  · exact nonneg
  · obtain ⟨after, cut⟩ := cut_of_mem_lexemes cut_off
    exact (cut.no_sign signs digits).elim

end ChatSieve.Token
