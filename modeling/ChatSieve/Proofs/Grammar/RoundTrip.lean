import ChatSieve.Filter
import ChatSieve.Proofs.Grammar.Acceptance
import ChatSieve.Proofs.Grammar.Source

/-!
# Round trips

The source of a tree that comes from a text parses to this tree again, if the
brackets of the source do not take more levels than there are
(`parse_source`). So nothing is lost between a filter and its canonical text.
-/

namespace ChatSieve

namespace Expr

mutual

/-- The levels that the source of an expression takes. -/
def renderDepth : Expr → Nat
  | .int _ | .string _ | .identifier _ | .pattern _ => 0
  | .list items => 1 + renderDepths items
  | .unary _ x => 1 + renderDepth x
  | .binary op l r =>
    if op.isComparison then 1 + max (renderDepth l) (renderDepth r)
    else 1 + max (renderDepth l) (1 + renderDepth r)

/-- The levels that the deepest of some expressions takes. -/
def renderDepths : List Expr → Nat
  | [] => 0
  | e :: es => max (renderDepth e) (renderDepths es)

end

/-- The tokens of the source of an expression. -/
def tokens (decls : Declarations) (e : Expr) : List Token := e.lexemes.map (Token.ofLexeme decls)

end Expr

namespace Grammar
open Text Token

/-- A value by itself is an expression. -/
theorem Derives.expression_of_value {ts : List Token} {e : Expr} {need : Nat}
    (value : Derives .value ts e need) : Derives .expression ts e need :=
  .expression (.firstOperand (.conjunction (.firstOperand (.assertion (.plain (.firstOperand value))))))

/-- An infix operation on two values is an expression. -/
theorem Derives.expression_of_operation {ts us : List Token} {l r : Expr} {op : Kind} {n m : Nat}
    (operator : op.isArithmetic ∨ op.isLogical ∨ op.isComparison) (text : String)
    (left : Derives .value ts l n) (right : Derives .value us r m) :
    Derives .expression (ts ++ ⟨op, text⟩ :: us) (.binary op l r)
      (if op.isComparison then max n m else max n (1 + m)) := by
  have negation {ts : List Token} {e : Expr} {need : Nat} (value : Derives .value ts e need) :
      Derives .negation ts e need := .assertion (.plain (.firstOperand value))
  have conjunction {ts : List Token} {e : Expr} {need : Nat} (value : Derives .value ts e need) :
      Derives .conjunction ts e need := .conjunction (.firstOperand (negation value))
  by_cases compares : op.isComparison
  · have condition := Derives.comparison ⟨op, text⟩ (.firstOperand left) compares right
    rw [if_pos compares, ← Nat.zero_add m]
    exact .expression (.firstOperand (.conjunction (.firstOperand (.assertion condition))))
  · rw [if_neg compares]
    rcases operator with arithmetic | logical | compares'
    · have sum := Derives.nextOperand (l := .arithmetic) ⟨op, text⟩ (.firstOperand left) arithmetic right
      exact .expression (.firstOperand (.conjunction (.firstOperand (.assertion (.plain sum)))))
    · cases op with
      | and =>
        have chain := Derives.nextOperand (l := .and) ⟨.and, text⟩ (.firstOperand (negation left)) rfl
          (negation right)
        exact .expression (.firstOperand (.conjunction chain))
      | or =>
        exact .expression (Derives.nextOperand (l := .or) ⟨.or, text⟩
          (.firstOperand (conjunction left)) rfl (conjunction right))
      | _ => cases logical
    · exact absurd compares' compares

/-- An expression in brackets is a value. -/
theorem Derives.parenthesized (decls : Declarations) {ts : List Token} {e : Expr} {need : Nat}
    (inside : Derives .expression ts e need) :
    Derives .value (ofLexeme decls ['('] :: (ts ++ [ofLexeme decls [')']])) e (need + 1) := by
  have leftParen : ofLexeme decls ['('] = ⟨.leftParen, "("⟩ := ofLexeme_of_fixed decls (by decide)
  have rightParen : ofLexeme decls [')'] = ⟨.rightParen, ")"⟩ := ofLexeme_of_fixed decls (by decide)
  rw [leftParen, rightParen]
  exact .group "(" ")" inside

/-- The lexemes of further items, each after a comma. -/
def furtherLexemes (es : List Expr) : List (List Char) := es.flatMap fun e => [','] :: e.lexemes

private theorem itemLexemes_cons (e : Expr) (es : List Expr) :
    Expr.itemLexemes (e :: es) = e.lexemes ++ furtherLexemes es := by
  induction es generalizing e with
  | nil => simp [Expr.itemLexemes, furtherLexemes]
  | cons f es ih =>
    rw [Expr.itemLexemes, ih]
    · simp [furtherLexemes]
    · exact List.cons_ne_nil f es

/-- Items, and others after them. -/
theorem Derives.furtherItems {decls : Declarations} {ts : List Token} {done : List Expr} {n : Nat}
    (before : Derives .items ts (.list done) n) {es : List Expr}
    (items : ∀ e ∈ es, Derives .value (e.tokens decls) e e.renderDepth) :
    Derives .items (ts ++ (furtherLexemes es).map (ofLexeme decls)) (.list (done ++ es))
      (max n (Expr.renderDepths es)) := by
  have comma : ofLexeme decls [','] = ⟨.comma, ","⟩ := ofLexeme_of_fixed decls (by decide)
  induction es generalizing ts done n with
  | nil => simpa [furtherLexemes, Expr.renderDepths] using before
  | cons e es ih =>
    have next := Derives.nextItem "," before (items e List.mem_cons_self)
    have all := ih next fun f member => items f (List.mem_cons_of_mem _ member)
    rw [Expr.renderDepths, ← Nat.max_assoc]
    simpa [furtherLexemes, Expr.tokens, comma] using all

/-- The tokens of a source are a value, and stand for the tree. -/
theorem derives_of_readable {decls : Declarations} (named : decls.WellNamed) {e : Expr}
    (readable : e.Readable decls) : Derives .value (e.tokens decls) e e.renderDepth := by
  induction readable with
  | @int n nonneg =>
    have read : readInt64 (String.ofList (int64Text n)).toList = some n := by
      rw [String.toList_ofList, readInt64_int64Text]
    have denotes := Denotes.int read
    rw [← named.classify_of_readInt64 read] at denotes
    exact .token denotes
  | string s => exact .token (denotes_string decls s)
  | @identifier name declared =>
    have denotes := Denotes.identifier name
    rw [← declared] at denotes
    rw [Expr.tokens, Expr.lexemes, List.map_singleton, ofLexeme, String.ofList_toList]
    exact .token denotes
  | pattern p => exact .token (denotes_pattern decls p)
  | @list es items ih =>
    have listStart : ofLexeme decls ['\x7b'] = ⟨.listStart, "\x7b"⟩ := ofLexeme_of_fixed decls (by decide)
    have listEnd : ofLexeme decls ['\x7d'] = ⟨.listEnd, "\x7d"⟩ := ofLexeme_of_fixed decls (by decide)
    cases es with
    | nil =>
      simpa [Expr.tokens, Expr.lexemes, Expr.itemLexemes, Expr.renderDepth, Expr.renderDepths,
        listStart, listEnd] using Derives.emptyList "\x7b" "\x7d"
    | cons e es =>
      have inside := (Derives.firstItem (ih e List.mem_cons_self)).furtherItems
        fun f member => ih f (List.mem_cons_of_mem _ member)
      have list := Derives.list "\x7b" "\x7d" inside
      rw [Expr.renderDepth, Expr.renderDepths, Nat.add_comm]
      simpa [Expr.tokens, Expr.lexemes, itemLexemes_cons, listStart, listEnd] using list
  | @denial x operand ih =>
    have denial := Derives.denial "!" (.plain (.firstOperand ih))
    have inside := Derives.expression (.firstOperand (.conjunction (.firstOperand denial)))
    have sign : ofLexeme decls Kind.not.operatorText.toList = ⟨.not, "!"⟩ :=
      ofLexeme_operatorText decls rfl
    rw [Expr.renderDepth, Nat.add_comm]
    simpa [Expr.tokens, Expr.lexemes, sign] using inside.parenthesized decls
  | @operation op l r operator left right left_ih right_ih =>
    have inside := Derives.expression_of_operation operator op.operatorText left_ih right_ih
    have sign : ofLexeme decls op.operatorText.toList = ⟨op, op.operatorText⟩ :=
      ofLexeme_operatorText decls (by
        rcases operator with is | is | is <;> simp [Kind.isOperator, is])
    have depth : (Expr.binary op l r).renderDepth =
        (if op.isComparison then max l.renderDepth r.renderDepth
          else max l.renderDepth (1 + r.renderDepth)) + 1 := by
      rw [Expr.renderDepth]
      split <;> omega
    rw [depth]
    simpa [Expr.tokens, Expr.lexemes, sign] using inside.parenthesized decls

/-- What the tree of a text is like. -/
theorem readable_of_parse {decls : Declarations} {text : String} {e : Expr}
    (parsed : parse decls text = ⟨e, none⟩) : e.Readable decls ∧ Closed e.literals := by
  obtain ⟨need, -, derives⟩ := parseTokens_eq_ok_iff.1 parsed
  have lexed : ∀ t ∈ tokens decls text, Lexed decls t := fun t => lexed_of_mem_tokens
  refine ⟨derives.readable lexed, ?_⟩
  rw [← derives.contents lexed]
  exact tokens_closed decls text

theorem tokens_source {decls : Declarations} (named : decls.WellNamed) {e : Expr}
    (readable : e.Readable decls) (closed : Closed e.literals) :
    tokens decls e.source = e.tokens decls := by
  have found := readable.lexemes_source named [] (by rintro c ⟨⟩)
    ⟨closed, fun _ _ _ => List.not_mem_nil⟩
  rw [List.append_nil] at found
  rw [tokens, found, lexemes, List.append_nil, Expr.tokens]

/-- The canonical text of a filter parses to the same tree, and so it has the
same type or type error and the same canonical text, unless its brackets take
too many levels: then it is nested too deeply. -/
theorem parse_source {decls : Declarations} (named : decls.WellNamed) {text : String} {e : Expr}
    (parsed : parse decls text = ⟨e, none⟩) :
    (e.renderDepth ≤ maxDepth →
      parse decls e.source = ⟨e, none⟩ ∧ Filter.check decls e.source = Filter.check decls text) ∧
    (maxDepth < e.renderDepth →
      (parse decls e.source).error.map ParseError.message = some "Expression is nested too deeply") := by
  obtain ⟨readable, closed⟩ := readable_of_parse parsed
  have derives := (derives_of_readable named readable).expression_of_value
  rw [← tokens_source named readable closed] at derives
  obtain ⟨within, beyond⟩ := parseTokens_of_derives derives
  constructor
  · intro enough
    have again : parse decls e.source = ⟨e, none⟩ := within enough
    exact ⟨again, by rw [Filter.check, Filter.check, again, parsed]⟩
  · intro few
    have failed : (parse decls e.source).error = some .tooDeep := beyond few
    rw [failed]
    rfl

/-- Zeros in front of an integer go, and a literal that ends in a backslash
stays the last one. -/
theorem parse_source_open_literal :
    ∃ e, parse Catalogue.declarations "007 <= author.sub_length && author.name != \"a\\\"" = ⟨e, none⟩ ∧
      e.renderDepth ≤ maxDepth ∧
      e.source = "((7 <= author.sub_length) && (author.name != \"a\\\"))" ∧
      parse Catalogue.declarations e.source = ⟨e, none⟩ := by
  have found : tokens Catalogue.declarations "007 <= author.sub_length && author.name != \"a\\\"" =
      [⟨.int, "007"⟩, ⟨.lte, "<="⟩, ⟨.identifier, "author.sub_length"⟩, ⟨.and, "&&"⟩,
       ⟨.identifier, "author.name"⟩, ⟨.neq, "!="⟩, ⟨.string, "\"a\\\""⟩] := by
    decide +kernel
  have parsed : parse Catalogue.declarations "007 <= author.sub_length && author.name != \"a\\\"" =
      ⟨.binary .and (.binary .lte (.int 7) (.identifier "author.sub_length"))
        (.binary .neq (.identifier "author.name") (.string "a\\")), none⟩ := by
    rw [parse, found]
    rfl
  exact ⟨_, parsed, by decide, by decide, ((parse_source Catalogue.wellNamed parsed).1 (by decide)).1⟩

end Grammar

end ChatSieve
