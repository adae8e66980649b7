import ChatSieve.Proofs.Grammar.Readable
import ChatSieve.Proofs.Token.Names

/-!
# The lexemes of a source

The source of a tree that comes from a text falls into just the lexemes that
were put together (`Readable.lexemes_source`). Blanks and brackets keep them
apart, and an open literal stays the last one.
-/

namespace ChatSieve.Expr
open ChatSieve.Text ChatSieve.Token

mutual

/-- The lexemes of the source of an expression. -/
def lexemes : Expr → List (List Char)
  | .int n => [int64Text n]
  | .string s => [literalText [] s.toList]
  | .identifier name => [name.toList]
  | .pattern p => [literalText (if p.caseless then ['r', 'i'] else ['r']) p.source.toList]
  | .list items => ['\x7b'] :: (itemLexemes items ++ [['\x7d']])
  | .unary op x => ['('] :: op.operatorText.toList :: (lexemes x ++ [[')']])
  | .binary op l r => ['('] :: (lexemes l ++ op.operatorText.toList :: (lexemes r ++ [[')']]))

/-- The lexemes of items with commas between. -/
def itemLexemes : List Expr → List (List Char)
  | [] => []
  | [e] => lexemes e
  | e :: es => lexemes e ++ [','] :: itemLexemes es

end

/-- The sources of items with a comma and a blank between. -/
def itemsText : List Expr → List Char
  | [] => []
  | [e] => e.source.toList
  | e :: es => e.source.toList ++ ',' :: ' ' :: itemsText es

private theorem mem_itemsText {es : List Expr} {c : Char} (member : c ∈ itemsText es) :
    c = ',' ∨ c = ' ' ∨ ∃ e ∈ es, c ∈ e.source.toList := by
  fun_induction itemsText es with
  | case1 => cases member
  | case2 e => exact .inr (.inr ⟨e, List.mem_cons_self, member⟩)
  | case3 e es some ih =>
    simp only [List.mem_append, List.mem_cons] at member
    rcases member with here | comma | blank | later
    · exact .inr (.inr ⟨e, List.mem_cons_self, here⟩)
    · exact .inl comma
    · exact .inr (.inl blank)
    · rcases ih later with comma | blank | ⟨f, item, inside⟩
      · exact .inl comma
      · exact .inr (.inl blank)
      · exact .inr (.inr ⟨f, List.mem_cons_of_mem _ item, inside⟩)

private theorem not_mem_itemsText {es : List Expr} (items : ∀ e ∈ es, '"' ∉ e.source.toList) :
    '"' ∉ itemsText es := by
  intro quote
  rcases mem_itemsText quote with comma | blank | ⟨e, member, inside⟩
  · cases comma
  · cases blank
  · exact items e member inside

private theorem toList_intercalate_sources (es : List Expr) :
    (", ".intercalate (sources es)).toList = itemsText es := by
  fun_induction itemsText es with
  | case1 => rfl
  | case2 e => simp [sources]
  | case3 e es some ih =>
    obtain ⟨f, fs, rfl⟩ := List.exists_cons_of_ne_nil (show es ≠ [] from some)
    rw [sources] at ih ⊢
    rw [sources, String.intercalate_cons_cons, String.toList_append, String.toList_append, ih]
    simp

theorem toList_source_string (s : String) : (source (.string s)).toList = literalText [] s.toList := by
  simp [source, quoted, literalText]

theorem toList_source_pattern (p : Pattern) : (source (.pattern p)).toList =
    literalText (if p.caseless then ['r', 'i'] else ['r']) p.source.toList := by
  cases caseless : p.caseless <;> simp [source, Pattern.literal, quoted, literalText, caseless]

private theorem toList_source_list (es : List Expr) :
    (source (.list es)).toList = '\x7b' :: (itemsText es ++ ['\x7d']) := by
  rw [source, Value.inBraces, String.toList_append, String.toList_append,
    toList_intercalate_sources]
  rfl

private theorem toList_source_unary (op : Kind) (x : Expr) : (source (.unary op x)).toList =
    '(' :: (op.operatorText.toList ++ (x.source.toList ++ [')'])) := by
  simp [source]

private theorem toList_source_binary (op : Kind) (l r : Expr) : (source (.binary op l r)).toList =
    '(' :: (l.source.toList ++ ' ' :: (op.operatorText.toList ++ ' ' :: (r.source.toList ++ [')']))) := by
  simp [source]

/-- Before this rest the literals are found again: only the last one is open,
and then no quote follows. -/
structure Fits (literals : List String) (rest : List Char) : Prop where
  closed : Closed literals
  last : ∀ a ∈ literals, IsOpen a.toList → '"' ∉ rest

namespace Fits

variable {as bs : List String} {rest between : List Char}

theorem right (fits : Fits (as ++ bs) rest) : Fits bs rest :=
  ⟨(List.pairwise_append.1 fits.closed).2.1, fun b member => fits.last b (List.mem_append_right _ member)⟩

/-- More may follow that has no quote unless there are more literals. -/
theorem left (fits : Fits (as ++ bs) rest) (quiet : bs = [] → '"' ∉ between) :
    Fits as (between ++ rest) := by
  obtain ⟨closed, -, ordered⟩ := List.pairwise_append.1 fits.closed
  refine ⟨closed, fun a member is_open quote => ?_⟩
  have none_later : bs = [] :=
    List.eq_nil_iff_forall_not_mem.2 fun b later => ordered a member b later is_open
  rcases List.mem_append.1 quote with here | there
  · exact quiet none_later here
  · exact fits.last a (List.mem_append_left _ member) is_open there

theorem before (fits : Fits as rest) (between : List Char) (quiet : '"' ∉ between) :
    Fits as (between ++ rest) := by
  have split : Fits (as ++ []) rest := by rwa [List.append_nil]
  exact split.left fun _ => quiet

end Fits

private theorem literals_of_allLiterals {es : List Expr} (none : allLiterals es = []) :
    ∀ e ∈ es, e.literals = [] := by
  induction es with
  | nil => exact List.forall_mem_nil _
  | cons e es ih =>
    obtain ⟨here, later⟩ := List.append_eq_nil_iff.1 none
    exact List.forall_mem_cons.2 ⟨here, ih later⟩

private theorem no_quote_operatorText (op : Kind) : '"' ∉ op.operatorText.toList := by
  cases op <;> decide

/-- An operator between blanks is one lexeme, be it a word or not. -/
theorem lexemes_operatorText {op : Kind} (operator : op.isArithmetic ∨ op.isLogical ∨ op.isComparison)
    (rest : List Char) :
    Token.lexemes (op.operatorText.toList ++ ' ' :: rest) =
      op.operatorText.toList :: Token.lexemes rest := by
  have apart : ∀ c ∈ (' ' :: rest).head?, isOperatorChar c = false := by
    rintro c ⟨⟩
    decide
  have ends : EndsWord (' ' :: rest) := by
    rintro c ⟨⟩
    decide
  rw [← lexemes_blank (c := ' ') (by decide) rest]
  by_cases word : op.operatorText.toList ∈ operatorTexts
  · exact lexemes_operator word apart
  · refine lexemes_word ?_ ?_ ends
    · cases op <;> first | decide | simp_all [Kind.isArithmetic, Kind.isLogical, Kind.isComparison]
    · cases op <;> first | exact List.all_eq_true.1 (by decide) | exact absurd (by decide) word

variable {decls : Declarations} (named : decls.WellNamed)

include named

/-- Without literals there are no quotes. -/
theorem Readable.no_quote {e : Expr} (readable : e.Readable decls) (none : e.literals = []) :
    '"' ∉ e.source.toList := by
  induction readable with
  | @int n nonneg =>
    intro quote
    rw [source, decimalText, String.toList_ofList] at quote
    exact absurd ((int64Text_of_nonneg nonneg).2 _ quote) (by decide)
  | string s => cases none
  | identifier declared =>
    intro quote
    exact absurd ((named.isName_of_classify declared).names _ quote) (by decide)
  | pattern p => cases none
  | @list es items ih =>
    have inside := not_mem_itemsText fun e member => ih e member (literals_of_allLiterals none e member)
    rw [toList_source_list]
    simp [inside]
  | denial operand ih =>
    rw [toList_source_unary]
    simp [ih none, Kind.operatorText, Kind.operatorText?]
  | @operation op l r operator left right left_ih right_ih =>
    obtain ⟨left_none, right_none⟩ := List.append_eq_nil_iff.1 none
    rw [toList_source_binary]
    simp [left_ih left_none, right_ih right_none, no_quote_operatorText]

/-- No source begins with an operator. -/
theorem Readable.head {e : Expr} (readable : e.Readable decls) (rest : List Char) :
    ∀ c ∈ (e.source.toList ++ rest).head?, isOperatorChar c = false := by
  have of_name {w : List Char} (some : w ≠ []) (names : ∀ c ∈ w, isNameChar c) :
      ∀ c ∈ (w ++ rest).head?, isOperatorChar c = false := by
    obtain ⟨c, tail, rfl⟩ := List.exists_cons_of_ne_nil some
    rintro d ⟨⟩
    exact not_isOperatorChar_of_isNameChar (names c List.mem_cons_self)
  cases readable with
  | @int n nonneg =>
    obtain ⟨some, digits⟩ := int64Text_of_nonneg nonneg
    rw [source, decimalText, String.toList_ofList]
    exact of_name some fun c member => isNameChar_of_isDigit (digits c member)
  | string s =>
    rw [toList_source_string]
    rintro c ⟨⟩
    decide
  | identifier declared =>
    have name := named.isName_of_classify declared
    exact of_name name.some name.names
  | pattern p =>
    rw [toList_source_pattern]
    cases p.caseless <;> rintro c ⟨⟩ <;> decide
  | list items =>
    rw [toList_source_list]
    rintro c ⟨⟩
    decide
  | denial operand =>
    rw [toList_source_unary]
    rintro c ⟨⟩
    decide
  | operation operator left right =>
    rw [toList_source_binary]
    rintro c ⟨⟩
    decide

omit named in
/-- The items of a list fall into their lexemes if each of them does. -/
theorem lexemes_itemsText {es : List Expr} (rest : List Char) (ends : EndsWord rest)
    (fits : Fits (allLiterals es) rest)
    (quiet : ∀ e ∈ es, e.literals = [] → '"' ∉ e.source.toList)
    (items : ∀ e ∈ es, ∀ rest, EndsWord rest → Fits e.literals rest →
      Token.lexemes (e.source.toList ++ rest) = e.lexemes ++ Token.lexemes rest) :
    Token.lexemes (itemsText es ++ rest) = itemLexemes es ++ Token.lexemes rest := by
  fun_induction itemsText es with
  | case1 => rfl
  | case2 e =>
    rw [allLiterals, allLiterals, List.append_nil] at fits
    exact items e List.mem_cons_self rest ends fits
  | case3 e es some ih =>
    obtain ⟨f, fs, rfl⟩ := List.exists_cons_of_ne_nil (show es ≠ [] from some)
    rw [allLiterals] at fits
    have later := ih fits.right (fun e member => quiet e (List.mem_cons_of_mem _ member))
      fun e member => items e (List.mem_cons_of_mem _ member)
    have first := items e List.mem_cons_self
      (',' :: ' ' :: itemsText (f :: fs) ++ rest) (by rintro c ⟨⟩; decide)
      (fits.left fun none => by
        have inside := not_mem_itemsText fun g member =>
          quiet g (List.mem_cons_of_mem _ member) (literals_of_allLiterals none g member)
        simp [inside])
    rw [List.append_assoc, first, List.cons_append, lexemes_bracket (by decide), List.cons_append,
      lexemes_blank (by decide), later]
    simp [itemLexemes]

/-- The source of a tree falls into its lexemes. -/
theorem Readable.lexemes_source {e : Expr} (readable : e.Readable decls) (rest : List Char)
    (ends : EndsWord rest) (fits : Fits e.literals rest) :
    Token.lexemes (e.source.toList ++ rest) = e.lexemes ++ Token.lexemes rest := by
  induction readable generalizing rest with
  | @int n nonneg =>
    obtain ⟨some, digits⟩ := int64Text_of_nonneg nonneg
    rw [source, decimalText, String.toList_ofList]
    exact lexemes_word some (fun c member => isNameChar_of_isDigit (digits c member)) ends
  | string s =>
    rw [toList_source_string]
    exact lexemes_literal (by decide) (fits.last s (List.mem_singleton_self s))
  | identifier declared =>
    have name := named.isName_of_classify declared
    exact lexemes_word name.some name.names ends
  | pattern p =>
    rw [toList_source_pattern]
    exact lexemes_literal (by cases p.caseless <;> decide)
      (fits.last p.source (List.mem_singleton_self _))
  | @list es items ih =>
    have inside := lexemes_itemsText ('\x7d' :: rest) (by rintro c ⟨⟩; decide)
      (fits.before ['\x7d'] (by decide))
      (fun e member => (items e member).no_quote named) ih
    rw [toList_source_list, List.cons_append, lexemes_bracket (by decide), List.append_assoc]
    simp [inside, lexemes, lexemes_bracket]
  | @denial x operand ih =>
    have inside := ih (')' :: rest) (by rintro c ⟨⟩; decide)
      (fits.before [')'] (by decide))
    rw [toList_source_unary, List.cons_append, lexemes_bracket (by decide), List.append_assoc,
      List.append_assoc, lexemes_operator (by decide) (operand.head named _)]
    simp [inside, lexemes, lexemes_bracket]
  | @operation op l r operator left right left_ih right_ih =>
    have last := right_ih (')' :: rest) (by rintro c ⟨⟩; decide)
      (fits.right.before [')'] (by decide))
    have first := left_ih
      (' ' :: (op.operatorText.toList ++ ' ' :: (r.source.toList ++ [')'])) ++ rest)
      (by rintro c ⟨⟩; decide)
      (fits.left fun none => by
        simp [right.no_quote named none, no_quote_operatorText])
    rw [toList_source_binary, List.cons_append, lexemes_bracket (by decide), List.append_assoc, first,
      List.cons_append, lexemes_blank (by decide), List.append_assoc, List.cons_append,
      lexemes_operatorText operator, List.append_assoc]
    simp [last, lexemes, lexemes_bracket]

end ChatSieve.Expr
