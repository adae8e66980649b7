import ChatSieve.Proofs.Expr.Parts
import ChatSieve.Proofs.Grammar.Derivation
import ChatSieve.Proofs.Token.Classification

/-!
# Trees of texts

What is true of a tree because it comes from a text: its integers have no
sign, its identifiers are declared, and its literals are closed, but for the
last one.
-/

namespace ChatSieve

/-- A pattern is what its source and its regard to case make. -/
theorem Pattern.ofSource?_eq_some_iff (source : String) (caseless : Bool) (p : Pattern) :
    Pattern.ofSource? source caseless = some p ↔ p.source = source ∧ p.caseless = caseless := by
  constructor
  · intro valid
    rw [ofSource?] at valid
    split at valid
    · cases valid
      exact ⟨rfl, rfl⟩
    · cases valid
  · rintro ⟨rfl, rfl⟩
    rw [ofSource?]
    split
    · rename_i node valid
      exact congrArg some (ext_source rfl rfl)
    · rename_i invalid
      exact absurd p.node_eq (by simp [invalid])

namespace Expr

mutual

/-- The contents of the literals of an expression, in their order. -/
def literals : Expr → List String
  | .string s => [s]
  | .pattern p => [p.source]
  | .int _ | .identifier _ => []
  | .list items => allLiterals items
  | .unary _ x => literals x
  | .binary _ l r => literals l ++ literals r

def allLiterals : List Expr → List String
  | [] => []
  | e :: es => literals e ++ allLiterals es

end

/-- What every tree of a text is like, apart from its depth. -/
inductive Readable (decls : Declarations) : Expr → Prop
  | int {n : Int64} (nonneg : 0 ≤ n.toInt) : Readable decls (.int n)
  | string (s : String) : Readable decls (.string s)
  | identifier {name : String} (declared : Token.classify decls name = .identifier) :
      Readable decls (.identifier name)
  | pattern (p : Pattern) : Readable decls (.pattern p)
  | list {es : List Expr} (items : ∀ e ∈ es, Readable decls e) : Readable decls (.list es)
  | denial {x : Expr} (operand : Readable decls x) : Readable decls (.unary .not x)
  | operation {op : Token.Kind} {l r : Expr}
      (operator : op.isArithmetic ∨ op.isLogical ∨ op.isComparison)
      (left : Readable decls l) (right : Readable decls r) : Readable decls (.binary op l r)

theorem Readable.items {decls : Declarations} {es : List Expr} (readable : Readable decls (.list es)) :
    ∀ e ∈ es, Readable decls e := by
  cases readable with
  | list items => exact items

/-- The parts of a tree of a text are such trees. -/
theorem IsPartOf.readable {decls : Declarations} {x e : Expr} (part : x.IsPartOf e)
    (readable : e.Readable decls) : x.Readable decls := by
  induction part with
  | self => exact readable
  | item member part ih => exact ih (readable.items _ member)
  | operand op part ih =>
    cases readable with
    | denial operand => exact ih operand
  | left op r part ih =>
    cases readable with
    | operation operator left right => exact ih left
  | right op l part ih =>
    cases readable with
    | operation operator left right => exact ih right

private theorem allLiterals_append (es fs : List Expr) :
    allLiterals (es ++ fs) = allLiterals es ++ allLiterals fs := by
  induction es with
  | nil => rfl
  | cons e es ih => simp [allLiterals, ih]

end Expr

namespace Grammar
open Token Text

variable {decls : Declarations} {ts : List Token} {e : Expr} {need : Nat}

theorem Link.joins_infix {l : Link} {op : Kind} (joins : l.joins op) :
    op.isArithmetic ∨ op.isLogical ∨ op.isComparison := by
  cases l with
  | arithmetic => exact .inl joins
  | and => obtain rfl := eq_of_beq joins; exact .inr (.inl rfl)
  | or => obtain rfl := eq_of_beq joins; exact .inr (.inl rfl)

/-- All tokens of a phrase are known. -/
theorem Derives.known {phrase : Phrase} (derives : Derives phrase ts e need) :
    ∀ t ∈ ts, t.kind ≠ .unknown := by
  have operator {op : Kind} (infix_op : op.isArithmetic ∨ op.isLogical ∨ op.isComparison) :
      op ≠ .unknown := by
    rintro rfl
    simp [Kind.isArithmetic, Kind.isLogical, Kind.isComparison] at infix_op
  induction derives with
  | token denotes =>
    cases denotes <;> simp
  | group a b inside ih | list a b inside ih =>
    simp only [List.forall_mem_cons, List.forall_mem_append]
    exact ⟨by simp, ih, by simp, List.forall_mem_nil _⟩
  | emptyList a b => simp
  | firstItem item ih => exact ih
  | nextItem a before item before_ih item_ih =>
    simp only [List.forall_mem_cons, List.forall_mem_append]
    exact ⟨before_ih, by simp, item_ih⟩
  | firstOperand operand ih => exact ih
  | nextOperand t before joins operand before_ih operand_ih =>
    simp only [List.forall_mem_cons, List.forall_mem_append]
    exact ⟨before_ih, operator (Link.joins_infix joins), operand_ih⟩
  | plain sum ih => exact ih
  | comparison t left compares right left_ih right_ih =>
    simp only [List.forall_mem_cons, List.forall_mem_append]
    exact ⟨left_ih, operator (.inr (.inr compares)), right_ih⟩
  | assertion condition ih => exact ih
  | denial a condition ih => exact List.forall_mem_cons.2 ⟨by simp, ih⟩
  | conjunction chain ih => exact ih
  | expression chain ih => exact ih

theorem Denotes.readable {t : Token} (denotes : Denotes t e) (lexed : Lexed decls t) :
    e.Readable decls := by
  cases denotes with
  | int read => exact .int (lexed.nonneg _ read)
  | string text => exact .string _
  | identifier text => exact .identifier lexed.kind_eq.symm
  | pattern valid => exact .pattern _

/-- A pattern literal is read from what it has after its front. -/
theorem patternOf?_of_patternBody? {s body : List Char} (found : patternBody? s = some body) :
    ∃ caseless, patternOf? s = Pattern.ofSource? (unquote body) caseless := by
  rw [patternBody?.eq_def] at found
  split at found
  · cases found
    exact ⟨true, rfl⟩
  · rename_i no_i
    cases found
    refine ⟨false, ?_⟩
    rw [patternOf?]
    exact fun rest _ => no_i rest
  · cases found

theorem Denotes.contents {t : Token} (denotes : Denotes t e) (lexed : Lexed decls t) :
    contents [t] = e.literals := by
  cases denotes with
  | int read => rfl
  | string text => rfl
  | identifier text => rfl
  | @pattern text p valid =>
    obtain ⟨body, found, -⟩ := (Option.any_eq_true _ _).1 lexed.fits
    obtain ⟨caseless, same⟩ := patternOf?_of_patternBody? found
    have source := ((Pattern.ofSource?_eq_some_iff _ _ _).1 (same.symm.trans valid)).1
    simp [Token.contents, content?, found, Expr.literals, source]

theorem denotes_string (decls : Declarations) (s : String) :
    Denotes (ofLexeme decls (literalText [] s.toList)) (.string s) := by
  have kind := classify_literalText decls s.toList (by decide : [] ∈ literalFronts)
  have denotes := Denotes.string (String.ofList (literalText [] s.toList))
  rw [String.toList_ofList, literalText, List.nil_append, unquote_escapeQuotes,
    String.ofList_toList] at denotes
  rw [ofLexeme, kind]
  exact denotes

/-- A literal with a front is read as the pattern that it holds. -/
theorem patternOf?_literalText (caseless : Bool) (content : List Char) :
    patternOf? (literalText (if caseless then ['r', 'i'] else ['r']) content) =
      Pattern.ofSource? (String.ofList content) caseless := by
  cases caseless <;> simp [literalText, patternOf?, unquote_escapeQuotes]

theorem denotes_pattern (decls : Declarations) (p : Pattern) :
    Denotes (ofLexeme decls (literalText (if p.caseless then ['r', 'i'] else ['r']) p.source.toList))
      (.pattern p) := by
  have kind : classify decls (String.ofList
      (literalText (if p.caseless then ['r', 'i'] else ['r']) p.source.toList)) = .pattern := by
    rw [classify_literalText decls p.source.toList (by cases p.caseless <;> decide)]
    cases p.caseless <;> rfl
  have valid := (Pattern.ofSource?_eq_some_iff p.source p.caseless p).2 ⟨rfl, rfl⟩
  rw [ofLexeme, kind]
  refine .pattern ?_
  rw [String.toList_ofList, patternOf?_literalText, String.ofList_toList, valid]

/-- The tree of a text. -/
theorem Derives.readable {phrase : Phrase} (derives : Derives phrase ts e need)
    (lexed : ∀ t ∈ ts, Lexed decls t) : e.Readable decls := by
  induction derives with
  | token denotes => exact denotes.readable (lexed _ List.mem_cons_self)
  | group a b inside ih => exact ih fun t member => lexed t (by simp [member])
  | emptyList a b => exact .list (List.forall_mem_nil _)
  | list a b inside ih => exact ih fun t member => lexed t (by simp [member])
  | firstItem item ih => exact .list (by simpa using ih lexed)
  | nextItem a before item before_ih item_ih =>
    have items := (before_ih fun t member => lexed t (by simp [member])).items
    have last := item_ih fun t member => lexed t (by simp [member])
    refine .list fun e member => ?_
    rcases List.mem_append.1 member with earlier | here
    · exact items e earlier
    · obtain rfl := List.mem_singleton.1 here
      exact last
  | firstOperand operand ih => exact ih lexed
  | nextOperand t before joins operand before_ih operand_ih =>
    exact .operation (Link.joins_infix joins) (before_ih fun t member => lexed t (by simp [member]))
      (operand_ih fun t member => lexed t (by simp [member]))
  | plain sum ih => exact ih lexed
  | comparison t left compares right left_ih right_ih =>
    exact .operation (.inr (.inr compares)) (left_ih fun t member => lexed t (by simp [member]))
      (right_ih fun t member => lexed t (by simp [member]))
  | assertion condition ih => exact ih lexed
  | denial a condition ih => exact .denial (ih fun t member => lexed t (by simp [member]))
  | conjunction chain ih => exact ih lexed
  | expression chain ih => exact ih lexed

private theorem no_literal_of_operator {op : Kind}
    (operator : op.isArithmetic ∨ op.isLogical ∨ op.isComparison) : op ≠ .string ∧ op ≠ .pattern := by
  constructor <;> rintro rfl <;> simp [Kind.isArithmetic, Kind.isLogical, Kind.isComparison] at operator

/-- The literals of a tree are those of its text. -/
theorem Derives.contents {phrase : Phrase} (derives : Derives phrase ts e need)
    (lexed : ∀ t ∈ ts, Lexed decls t) : contents ts = e.literals := by
  induction derives with
  | token denotes => exact denotes.contents (lexed _ List.mem_cons_self)
  | group a b inside ih =>
    rw [contents_cons (by simp), contents_append, ih fun t member => lexed t (by simp [member])]
    exact List.append_nil _
  | emptyList a b => rfl
  | list a b inside ih =>
    rw [contents_cons (by simp), contents_append, ih fun t member => lexed t (by simp [member])]
    exact List.append_nil _
  | firstItem item ih =>
    rw [ih lexed]
    exact (List.append_nil _).symm
  | nextItem a before item before_ih item_ih =>
    rw [contents_append, contents_cons (by simp), Expr.literals, Expr.allLiterals_append,
      before_ih fun t member => lexed t (by simp [member]),
      item_ih fun t member => lexed t (by simp [member])]
    simp [Expr.literals, Expr.allLiterals]
  | firstOperand operand ih => exact ih lexed
  | nextOperand t before joins operand before_ih operand_ih =>
    rw [contents_append, contents_cons (no_literal_of_operator (Link.joins_infix joins)),
      before_ih fun t member => lexed t (by simp [member]),
      operand_ih fun t member => lexed t (by simp [member])]
    rfl
  | plain sum ih => exact ih lexed
  | comparison t left compares right left_ih right_ih =>
    rw [contents_append, contents_cons (no_literal_of_operator (.inr (.inr compares))),
      left_ih fun t member => lexed t (by simp [member]),
      right_ih fun t member => lexed t (by simp [member])]
    rfl
  | assertion condition ih => exact ih lexed
  | denial a condition ih =>
    rw [contents_cons (by simp), ih fun t member => lexed t (by simp [member])]
    rfl
  | conjunction chain ih => exact ih lexed
  | expression chain ih => exact ih lexed

end Grammar

end ChatSieve
