import ChatSieve.Proofs.Expr.Typing
import ChatSieve.Proofs.Grammar.Deepest
import ChatSieve.Proofs.Grammar.Operands
import ChatSieve.Proofs.Grammar.RoundTrip

/-!
# Canonical texts of filters

The source of a filter has brackets around each operation, and each pair of
brackets takes a level. The text that the filter came from may do with fewer,
since the operators of a chain do not add up with those of the next chain, and
comparisons and negations are free. If it needs `n` levels, the source takes
`(n + 1) * (n + 2)` at most (`Derives.renderDepth_le`), and that many for some
filters. So it depends on the filter whether its source is a filter again
(`Filter.ofText_source`).
-/

namespace ChatSieve

/-- The types of what arithmetic starts with. -/
def Ty.isAdditive : Ty → Bool
  | .int | .string => true
  | _ => false

namespace Expr

variable {op : Token.Kind} {left right ty : Ty}

private theorem isAdditive_of_arithmetic (typed : binaryType op left right = .ok ty)
    (arithmetic : op.isArithmetic) : left.isAdditive := by
  cases op with
  | plus | minus | multiply | divide | mod =>
    cases left <;> first | rfl | simp [binaryType] at typed
  | _ => cases arithmetic

/-- Only the text of a group of a match is no truth value. -/
theorem isAdditive_of_comparison (typed : binaryType op left right = .ok ty)
    (compares : op.isComparison) (additive : ty.isAdditive) : left.isAdditive := by
  cases op with
  | «matches» =>
    cases left with
    | string => rfl
    | _ => simp [binaryType] at typed
  | eq | neq =>
    cases typed
    cases additive
  | lt | gt | lte | gte | contains | startsWith | endsWith =>
    rw [binaryType] at typed
    split at typed <;> cases typed
    cases additive
  | _ => cases compares

private theorem bool_of_logical (typed : binaryType op left right = .ok ty)
    (logical : op.isLogical) :
    ty = .bool := by
  cases op with
  | and | or =>
    simp only [binaryType] at typed
    split at typed <;> cases typed
    rfl
  | _ => cases logical

private theorem not_isAdditive_listType (tys : List Ty) : ¬ (listType tys).isAdditive := by
  have none : ∀ ty ∈ [Ty.groupRequest, .stringList, .list], ¬ ty.isAdditive := by decide
  exact none _ (listType_mem tys)

private theorem renderDepth_comparison (compares : op.isComparison) (e f : Expr) :
    (binary op e f).renderDepth = 1 + max e.renderDepth f.renderDepth := by
  rw [renderDepth, if_pos compares]

private theorem renderDepths_append (es fs : List Expr) :
    renderDepths (es ++ fs) = max (renderDepths es) (renderDepths fs) := by
  induction es with
  | nil => simp [renderDepths]
  | cons e es ih => rw [List.cons_append, renderDepths, ih, renderDepths, Nat.max_assoc]

end Expr

namespace Grammar
open Token

/-! ## The most levels of a source -/

/-- How many levels the source of a phrase with a type takes at most, by those
that the phrase itself needs. -/
def Phrase.mostRendered : Phrase → Nat → Nat
  | .value, n | .chain .arithmetic _, n => n * n + n
  | .items, n | .condition, n => n * n + n + 1
  | .negation, n => n * n + n + 2
  | .chain .and k, n => n * n + n + 2 + k
  | .conjunction, n => n * n + 2 * n + 2
  | .chain .or k, n => n * n + 2 * n + 2 + k
  | .expression, n => n * n + 3 * n + 2

/-- The same for what arithmetic starts with: no logical operation is at the
top of it. -/
def Phrase.mostAdditive : Phrase → Nat → Nat
  | .value, n => n * n
  | .chain .arithmetic k, n => n * n + k
  | _, n => n * n + 2 * n + 1

/-- What the source of a typed phrase takes. -/
structure Phrase.Renders (phrase : Phrase) (need : Nat) (e : Expr) (ty : Ty) : Prop where
  le : e.renderDepth ≤ phrase.mostRendered need
  additive_le : ty.isAdditive → e.renderDepth ≤ phrase.mostAdditive need

private theorem Phrase.Renders.weaken {phrase other : Phrase} {n m : Nat} {e : Expr} {ty : Ty}
    (renders : phrase.Renders n e ty) (most : phrase.mostRendered n ≤ other.mostRendered m)
    (most_additive : phrase.mostAdditive n ≤ other.mostAdditive m) : other.Renders m e ty :=
  ⟨Nat.le_trans renders.le most,
    fun additive => Nat.le_trans (renders.additive_le additive) most_additive⟩

private theorem square_succ_le {n m : Nat} (less : n + 1 ≤ m) : n * n + 2 * n + 1 ≤ m * m := by
  have le := Nat.mul_self_le_mul_self less
  simp only [Nat.add_mul, Nat.mul_add] at le
  omega

variable {decls : Declarations}

theorem Denotes.renderDepth {t : Token} {e : Expr} (denotes : Denotes t e) : e.renderDepth = 0 := by
  cases denotes <;> rfl

/-- In the source of an operation of a chain, the right operand is a level
further down. -/
theorem Link.renderDepth_join {l : Link} {op : Kind} (joins : l.joins op) (e f : Expr) :
    (Expr.binary op e f).renderDepth = 1 + max e.renderDepth (1 + f.renderDepth) := by
  have no_comparison : op.isComparison = false := by
    cases l with
    | arithmetic => cases op <;> first | rfl | cases joins
    | and | or => rw [eq_of_beq joins]; rfl
  rw [Expr.renderDepth, no_comparison]
  rfl

/-- One more operand in a chain. -/
theorem Phrase.Renders.join {l : Link} {k n m : Nat} {op : Kind} {e f : Expr} {left right ty : Ty}
    (joins : l.joins op) (enough : k ≤ n) (before : Phrase.Renders (.chain l k) n e left)
    (operand : Phrase.Renders l.operandPhrase m f right)
    (typed : binaryType op left right = .ok ty) :
    Phrase.Renders (.chain l (k + 1)) (max n (k + 1 + m)) (.binary op e f) ty := by
  have square := Nat.mul_self_le_mul_self (Nat.le_max_left n (k + 1 + m))
  have square_succ : m * m + 2 * m + 1 ≤ max n (k + 1 + m) * max n (k + 1 + m) :=
    square_succ_le (by omega)
  have first := before.le
  have next := operand.le
  have depth := Link.renderDepth_join joins e f
  cases l with
  | arithmetic =>
    have additive := before.additive_le (Expr.isAdditive_of_arithmetic typed joins)
    simp only [mostRendered, mostAdditive, Link.operandPhrase] at additive next
    have le : (Expr.binary op e f).renderDepth ≤
        max n (k + 1 + m) * max n (k + 1 + m) + (k + 1) := by omega
    exact ⟨by rw [mostRendered]; omega, fun _ => le⟩
  | and | or =>
    obtain rfl := eq_of_beq joins
    obtain rfl := Expr.bool_of_logical typed rfl
    simp only [mostRendered, Link.operandPhrase] at first next
    exact ⟨by rw [mostRendered]; omega, fun additive => by cases additive⟩

/-- A comparison of a chain with a value. -/
theorem Phrase.Renders.compare {k n m : Nat} {op : Kind} {e f : Expr} {left right ty : Ty}
    (compares : op.isComparison) (enough : k ≤ n)
    (chain : Phrase.Renders (.chain .arithmetic k) n e left) (value : Phrase.Renders .value m f right)
    (typed : binaryType op left right = .ok ty) :
    Phrase.Renders .condition (max n (k + m)) (.binary op e f) ty := by
  have left_square := Nat.mul_self_le_mul_self (Nat.le_max_left n (k + m))
  have right_square : m * m ≤ max n (k + m) * max n (k + m) := Nat.mul_self_le_mul_self (by omega)
  have first := chain.le
  have next := value.le
  have depth := Expr.renderDepth_comparison compares e f
  simp only [mostRendered] at first next
  refine ⟨by rw [mostRendered]; omega, fun additive => ?_⟩
  have first_additive := chain.additive_le (Expr.isAdditive_of_comparison typed compares additive)
  simp only [mostAdditive] at first_additive ⊢
  omega

/-- The source of a phrase takes more levels than the phrase needs, but not
more than about the square of them. -/
theorem Derives.renders {phrase : Phrase} {ts : List Token} {e : Expr} {need : Nat} {ty : Ty}
    (derives : Derives phrase ts e need) (typed : e.typeIn decls = .ok ty) :
    phrase.Renders need e ty := by
  induction derives generalizing ty with
  | token denotes =>
    have flat := denotes.renderDepth
    exact ⟨by omega, fun _ => by omega⟩
  | group a b inside ih =>
    refine (ih typed).weaken ?_ ?_ <;>
      simp only [Phrase.mostRendered, Phrase.mostAdditive, Nat.add_mul, Nat.mul_add] <;> omega
  | emptyList a b =>
    cases typed
    exact ⟨by decide, fun additive => by cases additive⟩
  | list a b inside ih =>
    obtain ⟨tys, -, rfl⟩ := Expr.typeIn_list.1 typed
    have items := (ih typed).le
    simp only [Phrase.mostRendered] at items
    refine ⟨?_, fun additive => absurd additive (Expr.not_isAdditive_listType tys)⟩
    simp only [Phrase.mostRendered, Nat.add_mul, Nat.mul_add]
    omega
  | firstItem item ih =>
    obtain ⟨tys, items_typed, rfl⟩ := Expr.typeIn_list.1 typed
    obtain ⟨item_ty, item_typed⟩ := Expr.typeIn_of_typesIn items_typed _ List.mem_cons_self
    have first := (ih item_typed).le
    simp only [Phrase.mostRendered] at first
    refine ⟨?_, fun additive => absurd additive (Expr.not_isAdditive_listType tys)⟩
    simp only [Phrase.mostRendered, Expr.renderDepth, Expr.renderDepths]
    omega
  | @nextItem _ es n _ e m a before item before_ih item_ih =>
    obtain ⟨tys, items_typed, rfl⟩ := Expr.typeIn_list.1 typed
    have all := Expr.typeIn_of_typesIn items_typed
    obtain ⟨others, others_typed⟩ := Expr.typesIn_of_typeIn fun f member =>
      all f (List.mem_append_left _ member)
    obtain ⟨item_ty, item_typed⟩ := all e (by simp)
    have first := (before_ih (Expr.typeIn_list.2 ⟨others, others_typed, rfl⟩)).le
    have next := (item_ih item_typed).le
    have first_square := Nat.mul_self_le_mul_self (Nat.le_max_left n m)
    have next_square := Nat.mul_self_le_mul_self (Nat.le_max_right n m)
    refine ⟨?_, fun additive => absurd additive (Expr.not_isAdditive_listType tys)⟩
    simp only [Phrase.mostRendered, Expr.renderDepth, Expr.renderDepths_append,
      Expr.renderDepths] at first next ⊢
    omega
  | @firstOperand _ _ _ l operand ih =>
    cases l <;> exact (ih typed).weaken (Nat.le_refl _) (Nat.le_refl _)
  | nextOperand t before joins operand before_ih operand_ih =>
    obtain ⟨left, right, left_typed, right_typed, operation_typed⟩ := Expr.typeIn_binary.1 typed
    exact (before_ih left_typed).join joins before.operators_le (operand_ih right_typed) operation_typed
  | plain sum ih =>
    have enough := sum.operators_le
    refine (ih typed).weaken ?_ ?_ <;> simp only [Phrase.mostRendered, Phrase.mostAdditive] <;> omega
  | comparison t left compares right left_ih right_ih =>
    obtain ⟨_, _, left_typed, right_typed, operation_typed⟩ := Expr.typeIn_binary.1 typed
    exact (left_ih left_typed).compare compares left.operators_le (right_ih right_typed) operation_typed
  | assertion condition ih =>
    refine (ih typed).weaken ?_ ?_ <;> simp only [Phrase.mostRendered, Phrase.mostAdditive] <;> omega
  | denial a condition ih =>
    obtain ⟨operand, operand_typed, unary_typed⟩ := Expr.typeIn_unary.1 typed
    have inside := (ih operand_typed).le
    obtain ⟨-, -, rfl⟩ := unaryType_eq_ok.1 unary_typed
    refine ⟨?_, fun additive => by cases additive⟩
    simp only [Phrase.mostRendered, Expr.renderDepth] at inside ⊢
    omega
  | conjunction chain ih | expression chain ih =>
    have enough := chain.operators_le
    refine (ih typed).weaken ?_ ?_ <;> simp only [Phrase.mostRendered, Phrase.mostAdditive] <;> omega

/-- The source of an expression with a type. -/
theorem Derives.renderDepth_le {ts : List Token} {e : Expr} {need : Nat} {ty : Ty}
    (derives : Derives .expression ts e need) (typed : e.typeIn decls = .ok ty) :
    e.renderDepth ≤ (need + 1) * (need + 2) := by
  have le := (derives.renders typed).le
  simp only [Phrase.mostRendered, Nat.add_mul, Nat.mul_add] at le ⊢
  omega

/-! ## Filters that attain it -/

section
variable (decls : Declarations)

/-- The same operand again and again is one way to go on with operands. -/
theorem stacked_eq_extend (op : Kind) (operand : Expr) (n : Nat) (e : Expr) :
    stacked op operand n e = Operands.extend op (fun _ => operand) (List.replicate n ()) e := by
  induction n generalizing e with
  | zero => rfl
  | succ n ih => exact ih _

private theorem wordTokens_repeated (op word : List Char) (n : Nat) :
    wordTokens decls (repeated op word n) =
      (List.replicate n ()).flatMap fun _ => ofLexeme decls op :: [ofLexeme decls word] := by
  induction n with
  | zero => rfl
  | succ n ih =>
    rw [List.replicate_succ, List.flatMap_cons, ← ih]
    rfl

/-- A chain goes on with the same operand again and again. -/
theorem Derives.furtherOperands {l : Link} {op word : List Char} {kind : Kind} {operand : Expr}
    (is : (ofLexeme decls op).kind = kind) (joins : l.joins kind)
    (denotes : Derives l.operandPhrase [ofLexeme decls word] operand 0) (j : Nat) {k n : Nat}
    {ts : List Token} {e : Expr} (before : Derives (.chain l k) ts e n) :
    Derives (.chain l (k + j)) (ts ++ wordTokens decls (repeated op word j)) (stacked kind operand j e)
      (max n (k + j)) := by
  subst is
  have all := Derives.extend joins (fun _ => denotes) (List.replicate j ()) before
  have counted : max n (Operands.need (fun _ => 0) (k + 1) (List.replicate j ())) = max n (k + j) := by
    have enough := before.operators_le
    cases j with
    | zero =>
      rw [List.replicate_zero, Operands.need]
      omega
    | succ j =>
      rw [List.replicate_succ, Operands.need_of_free fun _ => rfl, List.length_replicate]
      omega
  rwa [counted, List.length_replicate, ← wordTokens_repeated, ← stacked_eq_extend] at all

variable (word : List Char) (flag : Expr)

/-- The negation of a comparison, with all operators of two chains after it. -/
def withFlags (n : Nat) (value : List (List Char)) : List (List Char) :=
  ['!'] :: (value ++ ['=', '='] :: word ::
    (repeated ['&', '&'] word n ++ repeated ['|', '|'] word n))

/-- The tree of these words. -/
def flagged (n : Nat) (e : Expr) : Expr :=
  stacked .or flag n (stacked .and flag n (.unary .not (.binary .eq e flag)))

/-- The value with the most brackets in its source, by its levels. -/
def flagWords : Nat → List (List Char)
  | 0 => [word]
  | n + 1 => ['('] :: (withFlags word n (flagWords n) ++ [[')']])

/-- The trees of these words. -/
def flagTree : Nat → Expr
  | 0 => flag
  | n + 1 => flagged flag n (flagTree n)

variable {word flag} {decls}

/-- The chains take no more levels than the value has. -/
theorem derives_withFlags (denotes : Denotes (ofLexeme decls word) flag) {n : Nat}
    {value : List (List Char)} {e : Expr} (derives : Derives .value (wordTokens decls value) e n) :
    Derives .expression (wordTokens decls (withFlags word n value)) (flagged flag n e) n := by
  have not_sign : ofLexeme decls ['!'] = ⟨.not, "!"⟩ := ofLexeme_of_fixed decls (by decide)
  have equals : (ofLexeme decls ['=', '=']).kind = .eq := kind_of_fixed decls (by decide)
  have ampersands : (ofLexeme decls ['&', '&']).kind = .and := kind_of_fixed decls (by decide)
  have bars : (ofLexeme decls ['|', '|']).kind = .or := kind_of_fixed decls (by decide)
  have negation : Derives .negation [ofLexeme decls word] flag 0 :=
    .assertion (.plain (.firstOperand (.token denotes)))
  have comparison := Derives.comparison (ofLexeme decls ['=', '=']) (.firstOperand derives)
    (by rw [equals]; rfl) (.token denotes)
  rw [equals, Nat.add_zero, Nat.max_eq_left (Nat.zero_le n)] at comparison
  have conjunctions := Derives.furtherOperands decls ampersands (l := .and) rfl negation n
    (.firstOperand (.denial "!" comparison))
  have alternatives := Derives.furtherOperands decls bars (l := .or) rfl
    (.conjunction (.firstOperand negation)) n (.firstOperand (.conjunction conjunctions))
  have whole := Derives.expression alternatives
  rw [Nat.zero_add, Nat.max_self, Nat.max_self, ← not_sign] at whole
  simpa [withFlags, wordTokens, flagged] using whole

private theorem derives_flagWords (denotes : Denotes (ofLexeme decls word) flag) (n : Nat) :
    Derives .value (wordTokens decls (flagWords word n)) (flagTree flag n) n := by
  induction n with
  | zero => exact .token denotes
  | succ n ih =>
    simpa [flagWords, flagTree, wordTokens] using (derives_withFlags denotes ih).parenthesized decls

private theorem withFlags_isLexeme (lexeme : IsLexeme word) (n : Nat) {value : List (List Char)}
    (all : ∀ w ∈ value, IsLexeme w) : ∀ w ∈ withFlags word n value, IsLexeme w := by
  simp only [withFlags, List.forall_mem_cons, List.forall_mem_append]
  exact ⟨isLexeme_operator (by decide), all, isLexeme_operator (by decide), lexeme,
    repeated_isLexeme (by decide) lexeme n, repeated_isLexeme (by decide) lexeme n⟩

private theorem flagWords_isLexeme (lexeme : IsLexeme word) (n : Nat) :
    ∀ w ∈ flagWords word n, IsLexeme w := by
  induction n with
  | zero => simpa [flagWords] using lexeme
  | succ n ih =>
    simp only [flagWords, List.forall_mem_cons, List.forall_mem_append]
    exact ⟨isLexeme_bracket (by decide), withFlags_isLexeme lexeme n ih,
      isLexeme_bracket (by decide), List.forall_mem_nil _⟩

private theorem renderDepth_stacked {op : Kind} {operand : Expr} (chained : op.isComparison = false)
    (flat : operand.renderDepth = 0) (n : Nat) {e : Expr} (deep : 1 ≤ e.renderDepth) :
    (stacked op operand n e).renderDepth = e.renderDepth + n := by
  induction n generalizing e with
  | zero => rfl
  | succ n ih =>
    have next : (Expr.binary op e operand).renderDepth = e.renderDepth + 1 := by
      rw [Expr.renderDepth, chained, flat]
      simp
      omega
    rw [stacked, ih (by omega), next]
    omega

/-- A level for each operator. -/
theorem renderDepth_flagged (flat : flag.renderDepth = 0) (n : Nat) (e : Expr) :
    (flagged flag n e).renderDepth = e.renderDepth + 2 * n + 2 := by
  have top : (Expr.unary .not (.binary .eq e flag)).renderDepth = e.renderDepth + 2 := by
    rw [Expr.renderDepth, Expr.renderDepth_comparison rfl, flat]
    omega
  have conjunctions : (stacked .and flag n (.unary .not (.binary .eq e flag))).renderDepth =
      e.renderDepth + 2 + n := by
    rw [renderDepth_stacked rfl flat n (by omega), top]
  rw [flagged, renderDepth_stacked rfl flat n (by omega), conjunctions]
  omega

private theorem renderDepth_flagTree (flat : flag.renderDepth = 0) (n : Nat) :
    (flagTree flag n).renderDepth = n * (n + 1) := by
  induction n with
  | zero => exact flat
  | succ n ih =>
    rw [flagTree, renderDepth_flagged flat, ih]
    simp only [Nat.add_mul, Nat.mul_add]
    omega

private theorem typeIn_stacked {op : Kind} (logical : op.isLogical)
    (typed : flag.typeIn decls = .ok .bool)
    (n : Nat) {e : Expr} (e_typed : e.typeIn decls = .ok .bool) :
    (stacked op flag n e).typeIn decls = .ok .bool := by
  rw [stacked_eq_extend]
  exact Operands.typeIn_extend logical (fun _ => typed) _ e_typed

private theorem typeIn_flagged (typed : flag.typeIn decls = .ok .bool) (n : Nat) {e : Expr}
    (e_typed : e.typeIn decls = .ok .bool) : (flagged flag n e).typeIn decls = .ok .bool :=
  typeIn_stacked rfl typed n (typeIn_stacked rfl typed n
    (Expr.typeIn_unary.2 ⟨_, Expr.typeIn_binary.2 ⟨_, _, e_typed, typed, rfl⟩, rfl⟩))

private theorem typeIn_flagTree (typed : flag.typeIn decls = .ok .bool) (n : Nat) :
    (flagTree flag n).typeIn decls = .ok .bool := by
  induction n with
  | zero => exact typed
  | succ n ih => exact typeIn_flagged typed n ih

end

/-- A word that is a flag. -/
theorem flag_denotes : Denotes (ofLexeme Catalogue.declarations "flags.reply".toList)
    (.identifier "flags.reply") := by
  have flag : ofLexeme Catalogue.declarations "flags.reply".toList = ⟨.identifier, "flags.reply"⟩ := by
    decide +kernel
  rw [flag]
  exact .identifier _

private theorem flag_isLexeme : IsLexeme "flags.reply".toList :=
  isLexeme_word (by decide) (List.all_eq_true.1 (by decide))

private theorem flag_typeIn :
    (Expr.identifier "flags.reply").typeIn Catalogue.declarations = .ok .bool := by
  rfl

/-- A filter with the most brackets in its source. -/
def flagText (n : Nat) : String :=
  String.ofList (spaced (withFlags "flags.reply".toList n (flagWords "flags.reply".toList n)))

private theorem derives_flagText (n : Nat) :
    Derives .expression (tokens Catalogue.declarations (flagText n))
      (flagTree (.identifier "flags.reply") (n + 1)) n := by
  rw [flagText, tokens_spaced _ (withFlags_isLexeme flag_isLexeme n (flagWords_isLexeme flag_isLexeme n)),
    ← wordTokens]
  exact derives_withFlags flag_denotes (derives_flagWords flag_denotes n)

end Grammar

namespace Filter
open Token Grammar

/-- A text that derives with the levels that there are, and has a type. -/
theorem ofText_of_derives {text : String} {e : Expr} {ty : Ty} {need : Nat}
    (derives : Derives .expression (tokens Catalogue.declarations text) e need) (enough : need ≤ maxDepth)
    (typed : e.typeIn Catalogue.declarations = .ok ty) : ofText text = .ok ⟨e, ty⟩ :=
  (compile_eq_ok_iff _ _ _).2 ⟨(parseTokens_of_derives derives).1 enough, typed⟩

/-- The source is a filter again, with the same source and the same type. -/
def Stable (f : Filter) : Prop :=
  ∃ g, ofText f.expr.source = .ok g ∧ g.expr.source = f.expr.source ∧ g.ty = f.ty

/-- The source of a filter is this filter, if it does not take too many levels. -/
theorem ofText_source_cases {text : String} {f : Filter} (compiled : ofText text = .ok f) :
    (f.expr.renderDepth ≤ maxDepth → ofText f.expr.source = .ok f) ∧
      (maxDepth < f.expr.renderDepth → ofText f.expr.source = .error (.malformed .tooDeep)) := by
  obtain ⟨parsed, typed⟩ := (compile_eq_ok_iff _ _ _).1 compiled
  obtain ⟨readable, closed⟩ := readable_of_parse parsed
  have derives := (derives_of_readable Catalogue.wellNamed readable).expression_of_value
  rw [← tokens_source Catalogue.wellNamed readable closed] at derives
  exact ⟨fun enough => ofText_of_derives derives enough typed,
    fun few => compile_of_error ((parseTokens_of_derives derives).2 few)⟩

private theorem stable_iff {text : String} {f : Filter} (compiled : ofText text = .ok f) :
    f.Stable ↔ f.expr.renderDepth ≤ maxDepth := by
  obtain ⟨within, beyond⟩ := ofText_source_cases compiled
  constructor
  · rintro ⟨g, again, -⟩
    refine Nat.not_lt.1 fun few => ?_
    rw [beyond few] at again
    cases again
  · exact fun enough => ⟨f, within enough, rfl, rfl⟩

/-- The sources of the filters that need so many levels are filters again. -/
def StableWithin (n : Nat) : Prop :=
  ∀ text f need, ofText text = .ok f →
    Derives .expression (tokens Catalogue.declarations text) f.expr need → need ≤ n → f.Stable

/-- With fifteen levels a source may take 272. -/
theorem stableWithin_iff (n : Nat) : StableWithin n ↔ n ≤ 14 := by
  constructor
  · intro all
    refine Nat.not_lt.1 fun more => ?_
    have typed := typeIn_flagTree flag_typeIn 16
    have compiled := ofText_of_derives (derives_flagText 15) (by decide) typed
    have stable := (stable_iff compiled).1 (all _ _ 15 compiled (derives_flagText 15) more)
    rw [renderDepth_flagTree rfl] at stable
    exact absurd stable (by decide)
  · intro few text f need compiled derives needed
    have typed := ((compile_eq_ok_iff _ _ _).1 compiled).2
    have bound : (need + 1) * (need + 2) ≤ 15 * 16 := Nat.mul_le_mul (by omega) (by omega)
    have within := Nat.le_trans (derives.renderDepth_le typed) bound
    exact (stable_iff compiled).2 (Nat.le_trans within (by decide))

/-- A flag and so many conjunctions with it. -/
def conjunctionsText (n : Nat) : String :=
  String.ofList (spaced ("flags.reply".toList :: repeated ['&', '&'] "flags.reply".toList n))

/-- The text needs a level for each conjunction, and the source takes one more:
the brackets of the whole. -/
theorem exists_conjunctions {n : Nat} (within : n + 1 ≤ maxDepth) :
    ∃ f, ofText (conjunctionsText (n + 1)) = .ok f ∧ f.ty = .bool ∧ f.expr.renderDepth = n + 2 := by
  have ampersands : (ofLexeme Catalogue.declarations ['&', '&']).kind = .and :=
    kind_of_fixed _ (by decide)
  have operand : Derives .negation [ofLexeme Catalogue.declarations "flags.reply".toList]
      (.identifier "flags.reply") 0 := .assertion (.plain (.firstOperand (.token flag_denotes)))
  have chain := Derives.furtherOperands _ ampersands (l := .and) rfl operand (n + 1)
    (.firstOperand operand)
  have all : ∀ w ∈ "flags.reply".toList :: repeated ['&', '&'] "flags.reply".toList (n + 1),
      IsLexeme w :=
    List.forall_mem_cons.2 ⟨flag_isLexeme, repeated_isLexeme (by decide) flag_isLexeme _⟩
  have found : tokens Catalogue.declarations (conjunctionsText (n + 1)) =
      [ofLexeme Catalogue.declarations "flags.reply".toList] ++
        wordTokens Catalogue.declarations (repeated ['&', '&'] "flags.reply".toList (n + 1)) :=
    tokens_spaced _ all
  have derives := Derives.expression (.firstOperand (.conjunction chain))
  rw [← found] at derives
  refine ⟨_, ofText_of_derives derives (by omega) (typeIn_stacked rfl flag_typeIn _ flag_typeIn), rfl, ?_⟩
  rw [stacked, renderDepth_stacked rfl rfl n (by decide)]
  exact Nat.add_comm 2 n

/-- The source of a filter is the same filter again, with the same source and
the same type, just if its brackets do not take more levels than there are.
Otherwise it is nested too deeply. Where the text needs fourteen levels at
most, the source is a filter. -/
theorem ofText_source {text : String} {f : Filter} (compiled : ofText text = .ok f) :
    (f.Stable ↔ f.expr.renderDepth ≤ maxDepth) ∧
    (f.expr.renderDepth ≤ maxDepth → ofText f.expr.source = .ok f) ∧
    (maxDepth < f.expr.renderDepth →
      ∃ why, ofText f.expr.source = .error why ∧ why.message = "Expression is nested too deeply") ∧
    ∀ need, Derives .expression (tokens Catalogue.declarations text) f.expr need → need ≤ 14 →
      f.Stable := by
  obtain ⟨within, beyond⟩ := ofText_source_cases compiled
  exact ⟨stable_iff compiled, within, fun few => ⟨_, beyond few, rfl⟩,
    fun need => (stableWithin_iff 14).2 (Nat.le_refl 14) text f need compiled⟩

/-- The source of 255 conjunctions takes all levels. -/
theorem ofText_source_conjunctions :
    ∃ f, ofText (conjunctionsText 255) = .ok f ∧ f.expr.renderDepth = maxDepth ∧
      ofText f.expr.source = .ok f := by
  obtain ⟨f, compiled, -, depth⟩ := exists_conjunctions (show 254 + 1 ≤ maxDepth by decide)
  exact ⟨f, compiled, depth, (ofText_source compiled).2.1 (Nat.le_of_eq depth)⟩

/-- With one more there is a filter whose source is none. -/
theorem not_stable_conjunctions :
    ∃ f why, ofText (conjunctionsText 256) = .ok f ∧ f.ty = .bool ∧ ofText f.expr.source = .error why ∧
      why.message = "Expression is nested too deeply" ∧ ¬ f.Stable := by
  obtain ⟨f, compiled, is_bool, depth⟩ := exists_conjunctions (show 255 + 1 ≤ maxDepth by decide)
  have deep : maxDepth < f.expr.renderDepth := by
    rw [depth]
    decide
  exact ⟨f, _, compiled, is_bool, (ofText_source_cases compiled).2 deep, rfl,
    fun stable => absurd ((stable_iff compiled).1 stable) (Nat.not_le.2 deep)⟩

end Filter

end ChatSieve
