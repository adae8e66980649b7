import ChatSieve.Proofs.Grammar.Soundness

/-!
# What is in the grammar parses

On tokens that derive a phrase the parser takes exactly these and makes their
tree, if it has the levels that the derivation needs. With fewer levels its
error is that of too deep nesting (`Derives.parses`). What follows the phrase
must not be able to continue it.
-/

namespace ChatSieve.Grammar
open ChatSieve.Token

/-- The outcome is the expected one, or with too few levels an error. -/
def Outcome (n need : Nat) (actual expected : Expr × State) : Prop :=
  (need ≤ n → actual = expected) ∧ (n < need → actual.2.error = some .tooDeep)

namespace Outcome

variable {n need n₁ n₂ : Nat} {actual between expected : Expr × State}

theorem of_eq (equal : actual = expected) : Outcome n 0 actual expected :=
  ⟨fun _ => equal, fun impossible => absurd impossible (Nat.not_lt_zero n)⟩

private theorem of_tooDeep (few : n < need) (failed : actual.2.error = some .tooDeep) :
    Outcome n need actual expected :=
  ⟨fun enough => absurd few (Nat.not_lt.2 enough), fun _ => failed⟩

theorem need_le (outcome : Outcome n need actual expected) (clean : actual.2.error = none) :
    need ≤ n := by
  refine Nat.not_lt.1 fun few => ?_
  rw [outcome.2 few] at clean
  cases clean

/-- The same outcome, counted from another level. -/
theorem shift (outcome : Outcome n₁ n₂ actual expected) (same : n₂ ≤ n₁ ↔ need ≤ n) :
    Outcome n need actual expected :=
  ⟨fun enough => outcome.1 (same.2 enough), fun few => outcome.2 (by omega)⟩

/-- One outcome after the other. -/
theorem trans (first : Outcome n n₁ actual between)
    (next : n₁ ≤ n → Outcome n n₂ between expected) :
    Outcome n (max n₁ n₂) actual expected := by
  constructor
  · intro enough
    rw [first.1 (by omega)]
    exact (next (by omega)).1 (by omega)
  · intro few
    by_cases enough : n₁ ≤ n
    · rw [first.1 enough]
      exact (next enough).2 (by omega)
    · exact first.2 (by omega)

/-- What is done with an outcome keeps its error. -/
theorem andThen {f : Expr → State → Expr × State} {e : Expr} {s : State}
    (first : Outcome n need actual (e, s))
    (keeps : ∀ e s, s.error = some .tooDeep → (f e s).2.error = some .tooDeep) :
    Outcome n need (f actual.1 actual.2) (f e s) := by
  constructor
  · intro enough
    rw [first.1 enough]
  · intro few
    exact keeps _ _ (first.2 few)

end Outcome

/-- The tokens that may follow a phrase without continuing it. -/
def Phrase.allows : Phrase → Kind → Bool
  | .value, _ | .items, _ | .chain .arithmetic _, _ => true
  | .condition, k | .negation, k | .chain .and _, k => k == .rightParen || k.isLogical
  | .conjunction, k | .chain .or _, k => k == .rightParen || k == .or
  | .expression, k => k == .rightParen

/-- The tokens may follow the phrase. -/
def Phrase.Before (phrase : Phrase) (rest : List Token) : Prop :=
  ∀ t ∈ rest.head?, phrase.allows t.kind

theorem Phrase.before_nil (phrase : Phrase) : phrase.Before [] := by
  simp [Phrase.Before]

@[simp] theorem Phrase.before_cons (phrase : Phrase) (t : Token) (rest : List Token) :
    phrase.Before (t :: rest) ↔ phrase.allows t.kind := by
  simp [Phrase.Before]

theorem Link.allows_of_joins {l : Link} {k : Nat} {op : Kind} (joins : l.joins op) :
    (Phrase.chain l k).allows op := by
  cases l with
  | arithmetic => rfl
  | and => obtain rfl := eq_of_beq joins; rfl
  | or => obtain rfl := eq_of_beq joins; rfl

/-- What may follow a chain with all its operators ends the chain. -/
theorem Link.stops_of_allows {l : Link} {op : Kind} (allowed : l.phrase.allows op) :
    l.stopsAt op ∧ ∀ k, (Phrase.chain l k).allows op := by
  cases l <;> cases op <;> simp_all [Phrase.allows, Link.stopsAt, Link.phrase, Kind.isLogical]

theorem Link.before_operand {l : Link} {k : Nat} {rest : List Token}
    (follows : (Phrase.chain l k).Before rest) : l.operandPhrase.Before rest := by
  cases l <;> exact follows

/-- What there is below a level. -/
def below : Nat → Option Level
  | 0 => none
  | n + 1 => some (level n)

theorem level_eq (n : Nat) : level n = Level.over (below n) := by
  cases n <;> rfl

theorem value_token {t : Token} {e : Expr} (denotes : Denotes t e) (n : Nat) (rest : List Token)
    (err : Option ParseError) : (level n).value ⟨t :: rest, err⟩ = (e, ⟨rest, err⟩) := by
  rw [level_eq]
  cases denotes with
  | int read => simp [Level.over, valueOver, literalOf, read, State.goOn]
  | string text => rfl
  | identifier text => rfl
  | pattern valid => simp [Level.over, valueOver, literalOf, valid, State.goOn]

/-- A chain ends before what may follow it. -/
theorem tail_ends {l : Link} (n : Nat) (e : Expr) {rest : List Token} (err : Option ParseError)
    (follows : l.phrase.Before rest) : l.tail (level n) e ⟨rest, err⟩ = (e, ⟨rest, err⟩) := by
  rw [level_eq]
  cases rest with
  | nil => cases l <;> rfl
  | cons t rest =>
    rw [Phrase.before_cons] at follows
    exact l.tail_stops _ e rest err (Link.stops_of_allows follows).1

private theorem tail_keeps {l : Link} {n : Nat} {e : Expr} {s : State} {why : ParseError}
    (failed : s.error = some why) : (l.tail (level n) e s).2.error = some why :=
  ((level_follows n).tail l e s).keeps_error failed

private theorem itemsTail_keeps {n bound : Nat} {done : List Expr} {s : State} {why : ParseError}
    (failed : s.error = some why) :
    (itemsTail (level n).value bound done s).2.error = some why := by
  induction bound generalizing done s with
  | zero => exact failed
  | succ bound ih =>
    rw [itemsTail]
    split
    · exact failed
    · exact ih (((level_follows n).value _).keeps_error failed)
    · exact State.fail_error_of_some failed _
    · exact State.fail_error_of_some failed _

/-- What the parser makes of a derived phrase. For the operands of a chain so
far it is what the rest of the chain makes of their tree. -/
def Parses : Phrase → List Token → Expr → Nat → Prop
  | .value, ts, e, need =>
    ∀ n rest, Outcome n need ((level n).value ⟨ts ++ rest, none⟩) (e, ⟨rest, none⟩)
  | .items, ts, e, need =>
    ∀ es, e = .list es → ∀ n rest, ∃ bound, rest.length < bound ∧
      Outcome n need (listTail (level n) ⟨ts ++ rest, none⟩)
        (itemsTail (level n).value bound es.reverse ⟨rest, none⟩)
  | .chain l k, ts, e, need =>
    ∀ n rest, (Phrase.chain l k).Before rest →
      Outcome n need (l.chain (level n) ⟨ts ++ rest, none⟩) (l.tail (level (n - k)) e ⟨rest, none⟩)
  | .condition, ts, e, need =>
    ∀ n rest, Phrase.condition.Before rest →
      Outcome n need ((level n).condition ⟨ts ++ rest, none⟩) (e, ⟨rest, none⟩)
  | .negation, ts, e, need =>
    ∀ n rest, Phrase.negation.Before rest →
      Outcome n need ((level n).negation ⟨ts ++ rest, none⟩) (e, ⟨rest, none⟩)
  | .conjunction, ts, e, need =>
    ∀ n rest, Phrase.conjunction.Before rest →
      Outcome n need ((level n).conjunction ⟨ts ++ rest, none⟩) (e, ⟨rest, none⟩)
  | .expression, ts, e, need =>
    ∀ n rest, Phrase.expression.Before rest →
      Outcome n need ((level n).expression ⟨ts ++ rest, none⟩) (e, ⟨rest, none⟩)

theorem Parses.operand {l : Link} {ts : List Token} {e : Expr} {need : Nat}
    (parses : Parses l.operandPhrase ts e need) (n : Nat) {rest : List Token}
    (follows : l.operandPhrase.Before rest) :
    Outcome n need (l.operand (level n) ⟨ts ++ rest, none⟩) (e, ⟨rest, none⟩) := by
  cases l with
  | arithmetic => exact parses n rest
  | and => exact parses n rest follows
  | or => exact parses n rest follows

/-- A chain with all its operators. -/
theorem Parses.closed {l : Link} {k : Nat} {ts : List Token} {e : Expr} {need : Nat}
    (parses : Parses (.chain l k) ts e need) (n : Nat) {rest : List Token}
    (follows : l.phrase.Before rest) :
    Outcome n need (l.chain (level n) ⟨ts ++ rest, none⟩) (e, ⟨rest, none⟩) := by
  have open_end : (Phrase.chain l k).Before rest := fun t member =>
    (Link.stops_of_allows (follows t member)).2 k
  simpa only [tail_ends (n - k) e none follows] using parses n rest open_end

/-! ## Values -/

/-- A group goes as the expression in it does. -/
theorem groupTail_outcome {l : Level} {n need : Nat} {s : State} {e : Expr} {b : String}
    {rest : List Token}
    (inside : Outcome n need (l.expression s) (e, ⟨⟨.rightParen, b⟩ :: rest, none⟩)) :
    Outcome n need (groupTail l s) (e, ⟨rest, none⟩) := by
  constructor
  · intro enough
    simp [groupTail, inside.1 enough, State.goOn]
  · intro few
    have failed := inside.2 few
    simp only [groupTail]
    split
    · exact failed
    · exact State.fail_error_of_some failed _
    · exact State.fail_error_of_some failed _

theorem Parses.group {ts : List Token} {e : Expr} {need : Nat} (a b : String)
    (inside : Parses .expression ts e need) :
    Parses .value (⟨.leftParen, a⟩ :: (ts ++ [⟨.rightParen, b⟩])) e (need + 1) := by
  intro n rest
  cases n with
  | zero => exact .of_tooDeep (by omega) rfl
  | succ n =>
    have closed := groupTail_outcome
      (inside n (⟨.rightParen, b⟩ :: rest) ((Phrase.before_cons _ _ _).2 rfl))
    have outcome : Outcome (n + 1) (need + 1) _ _ := closed.shift (by omega)
    rw [List.cons_append, List.append_assoc]
    exact outcome

theorem Parses.list {ts : List Token} {es : List Expr} {need : Nat} (a b : String)
    (inside : Parses .items ts (.list es) need) :
    Parses .value (⟨.listStart, a⟩ :: (ts ++ [⟨.listEnd, b⟩])) (.list es) (need + 1) := by
  intro n rest
  cases n with
  | zero => exact .of_tooDeep (by omega) rfl
  | succ n =>
    obtain ⟨bound, enough, items⟩ := inside es rfl n (⟨.listEnd, b⟩ :: rest)
    obtain ⟨bound, rfl⟩ := Nat.exists_eq_add_one_of_ne_zero (Nat.ne_of_gt (Nat.zero_lt_of_lt enough))
    simp only [itemsTail, List.reverse_reverse, State.goOn] at items
    have outcome : Outcome (n + 1) (need + 1) _ _ := items.shift (by omega)
    rw [List.cons_append, List.append_assoc]
    exact outcome

/-- A list that does not end at once goes on with its first item. -/
theorem listTail_of_item (l : Level) {t : Token} (rest : List Token) (err : Option ParseError)
    (item : t.kind ≠ .listEnd) :
    listTail l ⟨t :: rest, err⟩ =
      itemsTail l.value ((l.value ⟨t :: rest, err⟩).2.rest.length + 1)
        [(l.value ⟨t :: rest, err⟩).1] (l.value ⟨t :: rest, err⟩).2 := by
  obtain ⟨kind, text⟩ := t
  cases kind <;> first | rfl | exact absurd rfl item

theorem Parses.firstItem {ts : List Token} {e : Expr} {need : Nat}
    (derives : Derives .value ts e need) (item : Parses .value ts e need) :
    Parses .items ts (.list [e]) need := by
  rintro es same n rest
  cases same
  obtain ⟨t, others, rfl, opens⟩ := derives.head rfl
  refine ⟨rest.length + 1, by omega, ?_⟩
  rw [List.cons_append, listTail_of_item _ _ _ (no_end_of_opensValue opens)]
  exact (item n rest).andThen (f := fun e s => itemsTail (level n).value (s.rest.length + 1) [e] s)
    fun _ _ failed => itemsTail_keeps failed

theorem Parses.nextItem {ts us : List Token} {es : List Expr} {e : Expr} {n m : Nat} (a : String)
    (before : Parses .items ts (.list es) n) (item : Parses .value us e m) :
    Parses .items (ts ++ ⟨.comma, a⟩ :: us) (.list (es ++ [e])) (max n m) := by
  rintro all same levels rest
  cases same
  obtain ⟨bound, enough, first⟩ := before es rfl levels (⟨.comma, a⟩ :: (us ++ rest))
  obtain ⟨bound, rfl⟩ := Nat.exists_eq_add_one_of_ne_zero (Nat.ne_of_gt (Nat.zero_lt_of_lt enough))
  simp only [List.length_cons, List.length_append] at enough
  refine ⟨bound, by omega, ?_⟩
  rw [List.append_assoc, List.cons_append]
  refine first.trans fun _ => ?_
  simp only [itemsTail, List.reverse_append, List.reverse_singleton, List.singleton_append]
  exact (item levels rest).andThen
    (f := fun f s => itemsTail (level levels).value bound (f :: es.reverse) s)
    fun _ _ failed => itemsTail_keeps failed

theorem Parses.firstOperand {l : Link} {ts : List Token} {e : Expr} {need : Nat}
    (operand : Parses l.operandPhrase ts e need) : Parses (.chain l 0) ts e need := by
  intro n rest follows
  rw [l.chain_eq]
  exact (operand.operand n (Link.before_operand follows)).andThen (f := l.tail (level n))
    fun _ _ failed => tail_keeps failed

/-- One more operand takes a level more than the ones before it. -/
theorem Parses.nextOperand {l : Link} {k : Nat} {ts us : List Token} {e f : Expr} {n m : Nat}
    (t : Token) (before : Parses (.chain l k) ts e n) (enough : k ≤ n) (joins : l.joins t.kind)
    (operand : Parses l.operandPhrase us f m) :
    Parses (.chain l (k + 1)) (ts ++ t :: us) (.binary t.kind e f) (max n (k + 1 + m)) := by
  intro levels rest follows
  rw [List.append_assoc, List.cons_append]
  refine (before levels (t :: (us ++ rest))
    ((Phrase.before_cons _ _ _).2 (Link.allows_of_joins joins))).trans fun _ => ?_
  obtain left | ⟨left, rfl⟩ : levels = k ∨ ∃ left, levels = k + left + 1 := by
    by_cases last : levels = k
    · exact .inl last
    · exact .inr ⟨levels - k - 1, by omega⟩
  · rw [left, Nat.sub_self, level_eq, l.tail_joins _ _ _ _ joins]
    exact .of_tooDeep (by omega) rfl
  · have one_down : k + left + 1 - k = left + 1 := by omega
    have same : k + left + 1 - (k + 1) = left := by omega
    rw [one_down, level_eq, l.tail_joins _ _ _ _ joins, same]
    have outcome := (operand.operand left (Link.before_operand follows)).andThen
      (f := fun f s => l.tail (level left) (.binary t.kind e f) s)
      fun _ _ failed => tail_keeps failed
    exact outcome.shift (by omega)

/-- What may follow a condition is not another comparison. -/
theorem comparisonTail_outcome {value : Parser} {op : Kind} {n need : Nat} {left right : Expr}
    {s : State} {rest : List Token} (operand : Outcome n need (value s) (right, ⟨rest, none⟩))
    (follows : Phrase.condition.Before rest) :
    Outcome n need (comparisonTail value op left s) (.binary op left right, ⟨rest, none⟩) := by
  constructor
  · intro enough
    cases rest with
    | nil => simp [comparisonTail, operand.1 enough]
    | cons t rest =>
      have once : t.kind.isComparison = false := by
        have allowed := (Phrase.before_cons _ _ _).1 follows
        obtain ⟨kind, text⟩ := t
        cases kind <;> first | rfl | cases allowed
      simp [comparisonTail, operand.1 enough, once]
  · intro few
    have failed := operand.2 few
    simp only [comparisonTail]
    split
    · split
      · exact State.fail_error_of_some failed _
      · exact failed
    · exact failed

theorem Parses.comparison {k : Nat} {ts us : List Token} {e f : Expr} {n m : Nat} (t : Token)
    (left : Parses (.chain .arithmetic k) ts e n) (enough : k ≤ n) (compares : t.kind.isComparison)
    (right : Parses .value us f m) :
    Parses .condition (ts ++ t :: us) (.binary t.kind e f) (max n (k + m)) := by
  intro levels rest follows
  rw [List.append_assoc, List.cons_append]
  refine (left levels (t :: (us ++ rest)) ((Phrase.before_cons _ _ _).2 rfl)).trans fun _ => ?_
  have reached : Link.arithmetic.tail (level (levels - k)) e ⟨t :: (us ++ rest), none⟩ =
      comparisonTail (level (levels - k)).value t.kind e ⟨us ++ rest, none⟩ := by
    obtain ⟨kind, text⟩ := t
    rw [level_eq]
    cases kind <;> first | rfl | cases compares
  rw [reached]
  exact (comparisonTail_outcome (right (levels - k) rest) follows).shift (by omega)

/-- A negation that does not begin with its sign is a condition. -/
theorem Parses.assertion {ts : List Token} {e : Expr} {need : Nat}
    (derives : Derives .condition ts e need) (condition : Parses .condition ts e need) :
    Parses .negation ts e need := by
  intro n rest follows
  obtain ⟨t, others, rfl, opens⟩ := derives.head rfl
  rw [List.cons_append, (level n).negation_of_positive (positive_of_opensValue opens)]
  exact condition n rest follows

/-- The parser takes the tokens of a phrase and makes their tree. -/
theorem Derives.parses {phrase : Phrase} {ts : List Token} {e : Expr} {need : Nat}
    (derives : Derives phrase ts e need) : Parses phrase ts e need := by
  induction derives with
  | token denotes => exact fun n rest => .of_eq (value_token denotes n rest none)
  | group a b inside ih => exact ih.group a b
  | emptyList a b =>
    intro n rest
    cases n with
    | zero => exact .of_tooDeep (by omega) rfl
    | succ n => exact ⟨fun _ => rfl, fun few => by omega⟩
  | list a b inside ih => exact ih.list a b
  | firstItem item ih => exact ih.firstItem item
  | nextItem a before item before_ih item_ih => exact before_ih.nextItem a item_ih
  | firstOperand operand ih => exact ih.firstOperand
  | nextOperand t before joins operand before_ih operand_ih =>
    exact before_ih.nextOperand t before.operators_le joins operand_ih
  | plain sum ih => exact fun n rest follows => ih.closed n follows
  | comparison t left compares right left_ih right_ih =>
    exact left_ih.comparison t left.operators_le compares right_ih
  | assertion condition ih => exact ih.assertion condition
  | denial a condition ih =>
    intro n rest follows
    exact (ih n rest follows).andThen (f := fun e s => (.unary .not e, s)) fun _ _ failed => failed
  | conjunction chain ih => exact fun n rest follows => ih.closed n follows
  | expression chain ih => exact fun n rest follows => ih.closed n follows

end ChatSieve.Grammar
