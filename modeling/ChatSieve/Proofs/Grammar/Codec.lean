import ChatSieve.Proofs.Grammar.RoundTrip

/-!
# The codec of literals

The literal tokens of a text are in the form in which literals are rendered:
between its outer quotes a literal has no quote without a backslash before it.
The parser takes off the outer quotes and just these backslashes, so that what
it makes of the token is rendered as the token again (`literal_codec`).
-/

namespace ChatSieve

namespace Token
open ChatSieve.Grammar

/-- Every quote has a backslash before it. -/
def AllEscaped (s : List Char) : Prop :=
  ∀ before after, s = before ++ '"' :: after → before.getLast? = some '\\'

/-- The characters of a text but for the backslashes that stand right before a
quote. -/
def withoutEscapes (s : List Char) : List Char :=
  ((s.zip (s.tail.map some ++ [none])).filter fun (c, next) =>
    !(c == '\\' && next == some '"')).map Prod.fst

private theorem withoutEscapes_cons (c : Char) (s : List Char) :
    withoutEscapes (c :: s) =
      if c = '\\' ∧ s.head? = some '"' then withoutEscapes s else c :: withoutEscapes s := by
  have next : (c :: s).zip ((c :: s).tail.map some ++ [none]) =
      (c, s.head?) :: s.zip (s.tail.map some ++ [none]) := by
    cases s <;> rfl
  rw [withoutEscapes, next, List.filter_cons]
  by_cases escape : c = '\\' ∧ s.head? = some '"'
  · simp [escape, withoutEscapes]
  · have kept : (!(c == '\\' && s.head? == some '"')) = true := by
      rw [Bool.not_eq_true', ← Bool.not_eq_true]
      simpa using escape
    simp only [kept, if_true, if_neg escape, List.map_cons, withoutEscapes]

/-- Unescaping takes these backslashes and nothing else, whatever the text. -/
theorem unescapeQuotes_eq (s : List Char) : unescapeQuotes s = withoutEscapes s := by
  fun_induction unescapeQuotes s with
  | case1 => rfl
  | case2 rest ih => simp [withoutEscapes_cons, ih]
  | case3 c rest no_escape ih =>
    rw [withoutEscapes_cons, if_neg, ih]
    rintro ⟨rfl, quote⟩
    obtain ⟨others, rfl⟩ := List.head?_eq_some_iff.1 quote
    exact no_escape others rfl rfl

private theorem withoutEscapes_escapeQuotes (s : List Char) :
    withoutEscapes (escapeQuotes s) = s := by
  rw [← unescapeQuotes_eq, unescapeQuotes_escapeQuotes]

/-- In an escaped text no quote is bare. -/
theorem allEscaped_escapeQuotes (s : List Char) : AllEscaped (escapeQuotes s) := by
  induction s with
  | nil => simp [AllEscaped, escapeQuotes]
  | cons c s ih =>
    intro before after same
    by_cases quote : c = '"'
    · subst quote
      rw [escapeQuotes] at same
      rcases before with _ | ⟨b, _ | ⟨b', before⟩⟩
      · cases same
      · exact congrArg some (List.cons.inj same).1.symm
      · obtain ⟨-, rest⟩ := List.cons.inj same
        have last := ih before after (List.cons.inj rest).2
        rw [List.getLast?_cons_cons, List.getLast?_cons, last]
        rfl
    · rw [escapeQuotes_cons quote] at same
      rcases before with _ | ⟨b, before⟩
      · exact absurd (List.cons.inj same).1 quote
      · rw [List.getLast?_cons, ih before after (List.cons.inj same).2]
        rfl

/-- A literal token holds something. -/
theorem exists_content? {decls : Declarations} {lexeme : List Char}
    (literal : (ofLexeme decls lexeme).kind = .string ∨ (ofLexeme decls lexeme).kind = .pattern) :
    ∃ content, (ofLexeme decls lexeme).content? = some content := by
  have fits := classify_fits decls (String.ofList lexeme)
  rcases literal with string | pattern
  · simp [content?, string]
  · have kind : classify decls (String.ofList lexeme) = .pattern := pattern
    rw [kind] at fits
    obtain ⟨body, found, -⟩ := (Option.any_eq_true _ _).1 fits
    rw [String.toList_ofList] at found
    exact ⟨unquote body, by simp [content?, ofLexeme, kind, found]⟩

/-- The literal tokens of a text are the literals that the lexer cuts off. -/
theorem exists_literalText {decls : Declarations} {text : String} {t : Token}
    (member : t ∈ tokens decls text) (literal : t.kind = .string ∨ t.kind = .pattern) :
    ∃ front ∈ literalFronts, ∃ content, t = ofLexeme decls (literalText front content) := by
  obtain ⟨lexeme, cut_off, rfl⟩ := List.mem_map.1 member
  obtain ⟨content, holds⟩ := exists_content? literal
  obtain ⟨quote, long⟩ := quote_of_content? holds
  obtain ⟨after, cut⟩ := cut_of_mem_lexemes cut_off
  cases cut with
  | literal front_mem last => exact ⟨_, front_mem, _, rfl⟩
  | word some names => exact absurd (names _ quote) (by decide)
  | operators operators => exact absurd (operators _ quote) (by decide)
  | single no_name => exact absurd long (by simp)

end Token

namespace Grammar
open Token

/-- The expression that a literal with this front and this content is, if there
is one. -/
def literalExpr? (front : List Char) (content : String) : Option Expr :=
  match front with
  | [] => some (.string content)
  | ['r', 'i'] => (Pattern.ofSource? content true).map .pattern
  | _ => (Pattern.ofSource? content false).map .pattern

/-- What is to be said of a literal token: with which front it is written and
what stands between its quotes. -/
structure IsLiteral (t : Token) (front inside : List Char) : Prop where
  front_mem : front ∈ literalFronts
  kind_eq : t.kind = literalKind front
  text_eq : t.text.toList = front ++ '"' :: (inside ++ ['"'])
  /-- between the outer quotes none is bare -/
  escaped : AllEscaped inside
  /-- what is taken off are the outer quotes and the backslashes before others -/
  unquote_eq : unquote ('"' :: (inside ++ ['"'])) = String.ofList (withoutEscapes inside)
  /-- only the pattern of a literal can be invalid -/
  literalOf_eq : literalOf t = match literalExpr? front (String.ofList (withoutEscapes inside)) with
    | some e => .ok e
    | none => .error (.invalidPattern t.text)

private theorem source_of_literalExpr? {front content : List Char} (member : front ∈ literalFronts)
    {e : Expr}
    (found : literalExpr? front (String.ofList content) = some e) :
    e.source.toList = literalText front content := by
  simp only [literalFronts, List.mem_cons, List.not_mem_nil, or_false] at member
  rcases member with rfl | rfl | rfl
  · cases found
    rw [Expr.toList_source_string, String.toList_ofList]
  all_goals
    obtain ⟨p, valid, rfl⟩ := Option.map_eq_some_iff.1 found
    obtain ⟨source, caseless⟩ := (Pattern.ofSource?_eq_some_iff _ _ _).1 valid
    rw [Expr.toList_source_pattern, source, caseless, String.toList_ofList]
    rfl

private theorem literalOf_literalText (decls : Declarations) {front : List Char}
    (content : List Char)
    (member : front ∈ literalFronts) :
    literalOf (ofLexeme decls (literalText front content)) =
      match literalExpr? front (String.ofList content) with
      | some e => .ok e
      | none => .error (.invalidPattern (String.ofList (literalText front content))) := by
  rw [ofLexeme, classify_literalText decls content member]
  simp only [literalFronts, List.mem_cons, List.not_mem_nil, or_false] at member
  rcases member with rfl | rfl | rfl
  · simp [literalOf, literalKind, literalExpr?, literalText, unquote_escapeQuotes]
  · have pattern := patternOf?_literalText false content
    simp only [Bool.false_eq_true, if_false] at pattern
    simp only [literalOf, literalKind, String.toList_ofList, pattern, literalExpr?]
    cases Pattern.ofSource? (String.ofList content) false <;> rfl
  · have pattern := patternOf?_literalText true content
    simp only [if_true] at pattern
    simp only [literalOf, literalKind, String.toList_ofList, pattern, literalExpr?]
    cases Pattern.ofSource? (String.ofList content) true <;> rfl

private theorem isLiteral_literalText (decls : Declarations) {front : List Char}
    (content : List Char)
    (member : front ∈ literalFronts) :
    IsLiteral (ofLexeme decls (literalText front content)) front (escapeQuotes content) where
  front_mem := member
  kind_eq := classify_literalText decls content member
  text_eq := by simp [ofLexeme, literalText]
  escaped := allEscaped_escapeQuotes content
  unquote_eq := by rw [unquote_escapeQuotes, withoutEscapes_escapeQuotes]
  literalOf_eq := by
    rw [withoutEscapes_escapeQuotes, literalOf_literalText decls content member]
    rfl

/-- What a literal token stands for is rendered as the token. -/
theorem source_of_literalOf {decls : Declarations} {front content : List Char}
    (member : front ∈ literalFronts) {e : Expr}
    (denoted : literalOf (ofLexeme decls (literalText front content)) = .ok e) :
    e.source = (ofLexeme decls (literalText front content)).text := by
  rw [literalOf_literalText decls content member] at denoted
  split at denoted
  · rename_i found
    cases denoted
    rw [← String.toList_inj, source_of_literalExpr? member found]
    simp [ofLexeme]
  · cases denoted

/-- Literals are written and read by inverse rules. A string or pattern token of
a text is a front, a quote, an inside without a bare quote, and a quote. The
parser takes off the outer quotes and the backslashes before the others, and no
more; unless that is an invalid pattern, the expression that it makes is
rendered as the token. Conversely, what is escaped and put into quotes is read
as it was. -/
theorem literal_codec (decls : Declarations) :
    (∀ text, ∀ t ∈ tokens decls text, t.kind = .string ∨ t.kind = .pattern →
      (∃ front inside, IsLiteral t front inside) ∧
        ∀ e, literalOf t = .ok e → e.source = t.text ∧
          ∀ n rest err, (level n).value ⟨t :: rest, err⟩ = (e, ⟨rest, err⟩)) ∧
    ∀ s : String, unquote ('"' :: (escapeQuotes s.toList ++ ['"'])) = s := by
  refine ⟨fun text t member literal => ?_, fun s => ?_⟩
  · obtain ⟨front, front_mem, content, rfl⟩ := exists_literalText member literal
    refine ⟨⟨front, _, isLiteral_literalText decls content front_mem⟩, fun e denoted => ?_⟩
    exact ⟨source_of_literalOf front_mem denoted, value_token ((literalOf_eq_ok_iff _ _).1 denoted)⟩
  · rw [unquote_escapeQuotes, String.ofList_toList]

/-- A pattern with a quote in it, an escape of its own, and two backslashes at
its end, which do not escape the closing quote. -/
theorem literal_codec_pattern :
    (⟨.pattern, "ri\"\\\"\\d+\\\\\""⟩ : Token) ∈
        tokens Catalogue.declarations "author.name match ri\"\\\"\\d+\\\\\"" ∧
      ∃ e, literalOf ⟨.pattern, "ri\"\\\"\\d+\\\\\""⟩ = .ok e ∧
        e.source = "ri\"\\\"\\d+\\\\\"" := by
  have member : (⟨.pattern, "ri\"\\\"\\d+\\\\\""⟩ : Token) ∈
      tokens Catalogue.declarations "author.name match ri\"\\\"\\d+\\\\\"" := by
    decide +kernel
  have valid : (literalOf ⟨.pattern, "ri\"\\\"\\d+\\\\\""⟩).toOption.isSome := by
    decide +kernel
  cases denoted : literalOf ⟨.pattern, "ri\"\\\"\\d+\\\\\""⟩ with
  | error why =>
    rw [denoted] at valid
    cases valid
  | ok e =>
    have codec := (literal_codec Catalogue.declarations).1 _ _ member (.inr rfl)
    exact ⟨member, e, rfl, (codec.2 e denoted).1⟩

end Grammar

end ChatSieve
