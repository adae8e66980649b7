import ChatSieve.Proofs.Grammar.Derivation

/-!
# Runs of the parser

Everything the parser can do, as rules: which steps lead from the tokens and
the error at hand to a tree, the tokens left and the error then. The parsers
follow the rules (`level_follows`), so what every rule preserves holds of every
parse.
-/

namespace ChatSieve.Grammar
open ChatSieve.Token

/-- What there is to do for the parser. -/
inductive Task where
  | value
  /-- the rest of a group, after its opening parenthesis -/
  | group
  /-- the rest of a list, after its opening brace -/
  | list
  /-- the rest of a list, after some items, of which the last one comes first -/
  | items (done : List Expr)
  | negation
  /-- a chain, and the comparison after an arithmetic one -/
  | chain (l : Link)
  /-- the rest of a chain, after its first operands -/
  | tail (l : Link) (left : Expr)

/-- What the parser does for an operand of a chain. -/
def Link.operandTask : Link → Task
  | .arithmetic => .value
  | .and => .negation
  | .or => .chain .and

/-- The tokens that end a chain at this place without an error. -/
def Link.stopsAt : Link → Kind → Bool
  | .arithmetic, k => k == .rightParen || k.isNegation || k.isLogical
  | .and, k => k != .and
  | .or, k => k != .or

/-- There is a next token and its kind has the property. -/
def State.sees (s : State) (property : Kind → Bool) : Bool := s.rest.head?.any (property ·.kind)

/-- The text of the next token, if there is one. -/
def State.nextText? (s : State) : Option String := s.rest.head?.map (·.text)

/-- `Runs n task s e s'`: with `n` levels left the task leads from `s` to the
tree `e` and to `s'`. -/
inductive Runs : Nat → Task → State → Expr → State → Prop
  | valueMissing : Runs n .value ⟨[], err⟩ (.int 0) (State.fail ⟨[], err⟩ .unexpectedEnd)
  | openGroup (a : String) (inside : Runs n .group ⟨rest, err⟩ e s) :
      Runs (n + 1) .value ⟨⟨.leftParen, a⟩ :: rest, err⟩ e s
  | groupTooDeep :
      Runs 0 .value ⟨⟨.leftParen, a⟩ :: rest, err⟩ (.int 0) (State.fail ⟨rest, err⟩ .tooDeep)
  | openList (a : String) (inside : Runs n .list ⟨rest, err⟩ e s) :
      Runs (n + 1) .value ⟨⟨.listStart, a⟩ :: rest, err⟩ e s
  | listTooDeep :
      Runs 0 .value ⟨⟨.listStart, a⟩ :: rest, err⟩ (.list []) (State.fail ⟨rest, err⟩ .tooDeep)
  | token (t : Token) (denotes : Denotes t e) : Runs n .value ⟨t :: rest, err⟩ e ⟨rest, err⟩
  | noValue (t : Token) (denotes_none : literalOf t = .error why)
      (single : t.kind ≠ .leftParen ∧ t.kind ≠ .listStart) :
      Runs n .value ⟨t :: rest, err⟩ (.int 0) (State.fail ⟨rest, err⟩ why)
  | groupClosed (a : String) (inside : Runs n (.chain .or) s e ⟨⟨.rightParen, a⟩ :: rest, err⟩) :
      Runs n .group s e ⟨rest, err⟩
  | groupUnclosed (inside : Runs n (.chain .or) s e s') (unclosed : ¬ s'.sees (· == .rightParen)) :
      Runs n .group s e (s'.fail (.missingParenthesis s'.nextText?))
  | listUnclosed : Runs n .list ⟨[], err⟩ (.list []) (State.fail ⟨[], err⟩ (.missingBrace none))
  | listClosed (a : String) : Runs n .list ⟨⟨.listEnd, a⟩ :: rest, err⟩ (.list []) ⟨rest, err⟩
  | firstItem (present : s.sees (· != .listEnd)) (item : Runs n .value s e s')
      (others : Runs n (.items [e]) s' f s'') : Runs n .list s f s''
  | itemsClosed (a : String) :
      Runs n (.items done) ⟨⟨.listEnd, a⟩ :: rest, err⟩ (.list done.reverse) ⟨rest, err⟩
  | nextItem (a : String) (item : Runs n .value ⟨rest, err⟩ e s)
      (others : Runs n (.items (e :: done)) s f s') :
      Runs n (.items done) ⟨⟨.comma, a⟩ :: rest, err⟩ f s'
  | itemsUnclosed (unclosed : ¬ s.sees fun k => k == .listEnd || k == .comma) :
      Runs n (.items done) s (.list []) (s.fail (.missingBrace s.nextText?))
  | assertion (positive : ¬ s.sees (· == .not)) (condition : Runs n (.chain .arithmetic) s e s') :
      Runs n .negation s e s'
  | denial (a : String) (condition : Runs n (.chain .arithmetic) ⟨rest, err⟩ e s) :
      Runs n .negation ⟨⟨.not, a⟩ :: rest, err⟩ (.unary .not e) s
  | chain (first : Runs n l.operandTask s e s') (others : Runs n (.tail l e) s' f s'') :
      Runs n (.chain l) s f s''
  | chainEnds : Runs n (.tail l left) ⟨[], err⟩ left ⟨[], err⟩
  | chainStops (t : Token) (stops : l.stopsAt t.kind) :
      Runs n (.tail l left) ⟨t :: rest, err⟩ left ⟨t :: rest, err⟩
  | join (t : Token) (joins : l.joins t.kind) (operand : Runs n l.operandTask ⟨rest, err⟩ right s)
      (others : Runs n (.tail l (.binary t.kind left right)) s e s') :
      Runs (n + 1) (.tail l left) ⟨t :: rest, err⟩ e s'
  | joinTooDeep (t : Token) (joins : l.joins t.kind) :
      Runs 0 (.tail l left) ⟨t :: rest, err⟩ left (State.fail ⟨t :: rest, err⟩ .tooDeep)
  | compare (t : Token) (compares : t.kind.isComparison) (operand : Runs n .value ⟨rest, err⟩ right s)
      (once : ¬ s.sees Kind.isComparison) :
      Runs n (.tail .arithmetic left) ⟨t :: rest, err⟩ (.binary t.kind left right) s
  | compareAgain (t : Token) (compares : t.kind.isComparison)
      (operand : Runs n .value ⟨rest, err⟩ right ⟨u :: us, err'⟩) (again : u.kind.isComparison) :
      Runs n (.tail .arithmetic left) ⟨t :: rest, err⟩ (.binary t.kind left right)
        (State.fail ⟨u :: us, err'⟩ (.expectedOperator u.text u.kind))
  | strayToken (t : Token) (stray : t.kind ≠ .rightParen ∧ ¬ t.kind.isOperator) :
      Runs n (.tail .arithmetic left) ⟨t :: rest, err⟩ left
        (State.fail ⟨t :: rest, err⟩ (.expectedOperator t.text t.kind))

/-- The tokens left are the last ones of those at hand. -/
theorem Runs.suffix {n : Nat} {task : Task} {s s' : State} {e : Expr}
    (run : Runs n task s e s') : s'.rest <:+ s.rest := by
  induction run with
  | valueMissing => exact List.suffix_rfl
  | openGroup a inside ih => exact ih.trans (List.suffix_cons _ _)
  | groupTooDeep => exact List.suffix_cons _ _
  | openList a inside ih => exact ih.trans (List.suffix_cons _ _)
  | listTooDeep => exact List.suffix_cons _ _
  | token => exact List.suffix_cons _ _
  | noValue => exact List.suffix_cons _ _
  | groupClosed a inside ih => exact (List.suffix_cons _ _).trans ih
  | groupUnclosed inside unclosed ih => exact ih
  | listUnclosed => exact List.suffix_rfl
  | listClosed => exact List.suffix_cons _ _
  | firstItem present item others item_ih others_ih => exact others_ih.trans item_ih
  | itemsClosed => exact List.suffix_cons _ _
  | nextItem a item others item_ih others_ih =>
    exact (others_ih.trans item_ih).trans (List.suffix_cons _ _)
  | itemsUnclosed => exact List.suffix_rfl
  | assertion positive condition ih => exact ih
  | denial a condition ih => exact ih.trans (List.suffix_cons _ _)
  | chain first others first_ih others_ih => exact others_ih.trans first_ih
  | chainEnds => exact List.suffix_rfl
  | chainStops => exact List.suffix_rfl
  | join t joins operand others operand_ih others_ih =>
    exact (others_ih.trans operand_ih).trans (List.suffix_cons _ _)
  | joinTooDeep => exact List.suffix_rfl
  | compare t compares operand once ih => exact ih.trans (List.suffix_cons _ _)
  | compareAgain t compares operand again ih => exact ih.trans (List.suffix_cons _ _)
  | strayToken => exact List.suffix_rfl

/-- The parser of a chain's operands. -/
def Link.operand : Link → Level → Parser
  | .arithmetic => Level.value
  | .and => Level.negation
  | .or => Level.conjunction

/-- The parser of a chain. -/
def Link.chain : Link → Level → Parser
  | .arithmetic => Level.condition
  | .and => Level.conjunction
  | .or => Level.expression

/-- The parser of the rest of a chain. -/
def Link.tail : Link → Level → Expr → Parser
  | .arithmetic => Level.conditionTail
  | .and => Level.conjunctionTail
  | .or => Level.expressionTail

/-- A chain is its first operand and the rest. -/
theorem Link.chain_eq (k : Link) (l : Level) (s : State) :
    k.chain l s = k.tail l (k.operand l s).1 (k.operand l s).2 := by
  cases k <;> rfl

/-- A negation without its sign is a condition. -/
theorem Level.negation_of_positive (l : Level) {t : Token} (positive : t.kind ≠ .not)
    (rest : List Token) (err : Option ParseError) :
    l.negation ⟨t :: rest, err⟩ = l.condition ⟨t :: rest, err⟩ := by
  obtain ⟨kind, text⟩ := t
  cases kind <;> first | rfl | exact absurd rfl positive

/-- The values and the chains of a level follow the rules. -/
structure Level.Follows (l : Level) (n : Nat) : Prop where
  value : ∀ s, Runs n .value s (l.value s).1 (l.value s).2
  tail : ∀ (k : Link) left s, Runs n (.tail k left) s (k.tail l left s).1 (k.tail l left s).2

/-- Nothing below and no level left, or a level that follows the rules. -/
inductive FollowsBelow : Option Level → Nat → Prop
  | none : FollowsBelow none 0
  | some {l : Level} {n : Nat} (follows : l.Follows n) : FollowsBelow (some l) (n + 1)

namespace Level.Follows

variable {l : Level} {n : Nat}

private theorem chain_of_operand (follows : l.Follows n) {k : Link}
    (operand : ∀ s, Runs n k.operandTask s (k.operand l s).1 (k.operand l s).2) (s : State) :
    Runs n (.chain k) s (k.chain l s).1 (k.chain l s).2 := by
  rw [k.chain_eq]
  exact .chain (operand s) (follows.tail k _ _)

theorem negation (follows : l.Follows n) (s : State) :
    Runs n .negation s (l.negation s).1 (l.negation s).2 := by
  have condition := follows.chain_of_operand (k := .arithmetic) follows.value
  obtain ⟨ts, err⟩ := s
  rcases ts with _ | ⟨⟨kind, text⟩, rest⟩
  · exact .assertion (by simp [State.sees]) (condition _)
  · by_cases negated : kind = .not
    · subst negated
      exact .denial _ (condition ⟨rest, err⟩)
    · rw [l.negation_of_positive negated]
      exact .assertion (by simpa [State.sees] using negated) (condition _)

theorem operand (follows : l.Follows n) (k : Link) (s : State) :
    Runs n k.operandTask s (k.operand l s).1 (k.operand l s).2 := by
  cases k with
  | arithmetic => exact follows.value s
  | and => exact follows.negation s
  | or => exact follows.chain_of_operand (k := .and) follows.negation s

theorem chain (follows : l.Follows n) (k : Link) (s : State) :
    Runs n (.chain k) s (k.chain l s).1 (k.chain l s).2 :=
  follows.chain_of_operand (follows.operand k) s

end Level.Follows

/-! ## Groups and lists -/

section
variable {l : Level} {n : Nat}

private theorem groupTail_runs (follows : l.Follows n) (s : State) :
    Runs n .group s (groupTail l s).1 (groupTail l s).2 := by
  have inside := follows.chain .or s
  rw [groupTail]
  change Runs n (.chain .or) s (l.expression s).1 (l.expression s).2 at inside
  generalize l.expression s = outcome at inside ⊢
  obtain ⟨e, ts, err⟩ := outcome
  rcases ts with _ | ⟨⟨kind, text⟩, rest⟩
  · exact .groupUnclosed inside (by simp [State.sees])
  · by_cases closes : kind = .rightParen
    · subst closes
      exact .groupClosed _ inside
    · have unclosed := Runs.groupUnclosed inside (by simpa [State.sees] using closes)
      cases kind <;> first | exact unclosed | exact absurd rfl closes

/-- The bound on the number of items is never reached: each one takes a token. -/
theorem itemsTail_runs (value : ∀ s, Runs n .value s (l.value s).1 (l.value s).2) (bound : Nat)
    (done : List Expr) (s : State) (enough : s.rest.length < bound) :
    Runs n (.items done) s (itemsTail l.value bound done s).1
      (itemsTail l.value bound done s).2 := by
  induction bound generalizing done s with
  | zero => omega
  | succ bound ih =>
    obtain ⟨ts, err⟩ := s
    rcases ts with _ | ⟨⟨kind, text⟩, rest⟩
    · exact .itemsUnclosed (by simp [State.sees])
    · by_cases closes : kind = .listEnd
      · subst closes
        exact .itemsClosed _
      · by_cases goes_on : kind = .comma
        · subst goes_on
          have item := value ⟨rest, err⟩
          have shorter := item.suffix.length_le
          simp only [List.length_cons] at enough
          exact .nextItem _ item (ih _ _ (by simp only at shorter; omega))
        · have unclosed : Runs n (.items done) ⟨⟨kind, text⟩ :: rest, err⟩ _ _ :=
            .itemsUnclosed (by simp [State.sees, closes, goes_on])
          cases kind <;>
            first | exact unclosed | exact absurd rfl closes | exact absurd rfl goes_on

private theorem listTail_runs (follows : l.Follows n) (s : State) :
    Runs n .list s (listTail l s).1 (listTail l s).2 := by
  obtain ⟨ts, err⟩ := s
  rcases ts with _ | ⟨⟨kind, text⟩, rest⟩
  · exact .listUnclosed
  · by_cases closes : kind = .listEnd
    · subst closes
      exact .listClosed _
    · have items := itemsTail_runs follows.value
        ((l.value ⟨⟨kind, text⟩ :: rest, err⟩).2.rest.length + 1)
        [(l.value ⟨⟨kind, text⟩ :: rest, err⟩).1] _ (Nat.lt_succ_self _)
      have first_item : Runs n .list ⟨⟨kind, text⟩ :: rest, err⟩ _ _ :=
        .firstItem (by simpa [State.sees] using closes) (follows.value _) items
      cases kind <;> first | exact first_item | exact absurd rfl closes

end

/-! ## From level to level -/

section
variable {below : Option Level} {n : Nat}

private theorem valueOver_runs (follows : FollowsBelow below n) (s : State) :
    Runs n .value s (valueOver below s).1 (valueOver below s).2 := by
  obtain ⟨ts, err⟩ := s
  rcases ts with _ | ⟨⟨kind, text⟩, rest⟩
  · exact .valueMissing
  · by_cases group : kind = .leftParen
    · subst group
      cases follows with
      | none => exact .groupTooDeep
      | some follows => exact .openGroup _ (groupTail_runs follows _)
    · by_cases list : kind = .listStart
      · subst list
        cases follows with
        | none => exact .listTooDeep
        | some follows => exact .openList _ (listTail_runs follows _)
      · cases denoted : literalOf ⟨kind, text⟩ with
        | ok e =>
          have single : valueOver below ⟨⟨kind, text⟩ :: rest, err⟩ = (e, ⟨rest, err⟩) := by
            cases kind <;> first
              | exact absurd rfl group
              | exact absurd rfl list
              | simp [valueOver, denoted, State.goOn]
          rw [single]
          exact .token _ ((literalOf_eq_ok_iff _ _).1 denoted)
        | error why =>
          have single : valueOver below ⟨⟨kind, text⟩ :: rest, err⟩ =
              (.int 0, State.fail ⟨rest, err⟩ why) := by
            cases kind <;> first
              | exact absurd rfl group
              | exact absurd rfl list
              | simp [valueOver, denoted, State.goOn]
          rw [single]
          exact .noValue _ denoted ⟨group, list⟩

/-- A chain goes on one level down where the next token is an operator of it. -/
theorem Link.tail_joins (k : Link) (below : Option Level) (left : Expr) {t : Token}
    (rest : List Token) (err : Option ParseError) (joins : k.joins t.kind) :
    k.tail (Level.over below) left ⟨t :: rest, err⟩ =
      match below with
      | none => (left, State.fail ⟨t :: rest, err⟩ .tooDeep)
      | some l =>
        k.tail l (.binary t.kind left (k.operand l ⟨rest, err⟩).1) (k.operand l ⟨rest, err⟩).2 := by
  obtain ⟨kind, text⟩ := t
  cases k with
  | arithmetic =>
    have no_comparison : kind.isComparison = false := by cases kind <;> first | rfl | cases joins
    change conditionTailOver below left ⟨⟨kind, text⟩ :: rest, err⟩ = _
    cases below with
    | none => simp [conditionTailOver, no_comparison, show kind.isArithmetic from joins]
    | some l =>
      simp [conditionTailOver, no_comparison, show kind.isArithmetic from joins]
      rfl
  | and =>
    obtain rfl : kind = .and := eq_of_beq joins
    cases below <;> rfl
  | or =>
    obtain rfl : kind = .or := eq_of_beq joins
    cases below <;> rfl

/-- A chain ends where the next token stops it. -/
theorem Link.tail_stops (k : Link) (below : Option Level) (left : Expr) {t : Token}
    (rest : List Token) (err : Option ParseError) (stops : k.stopsAt t.kind) :
    k.tail (Level.over below) left ⟨t :: rest, err⟩ = (left, ⟨t :: rest, err⟩) := by
  obtain ⟨kind, text⟩ := t
  cases k with
  | arithmetic =>
    change conditionTailOver below left ⟨⟨kind, text⟩ :: rest, err⟩ = _
    cases kind <;> first | rfl | cases stops
  | and =>
    simp [Link.tail, Level.over, chainTailOver, show kind ≠ .and by simpa [Link.stopsAt] using stops]
  | or =>
    simp [Link.tail, Level.over, chainTailOver, show kind ≠ .or by simpa [Link.stopsAt] using stops]

/-- The comparison after an arithmetic chain, unless another token is there. -/
theorem comparison_runs (follows : FollowsBelow below n) (left : Expr) {t : Token}
    (rest : List Token) (err : Option ParseError) (no_join : ¬ t.kind.isArithmetic)
    (no_stop : ¬ Link.arithmetic.stopsAt t.kind) :
    Runs n (.tail .arithmetic left) ⟨t :: rest, err⟩
      (conditionTailOver below left ⟨t :: rest, err⟩).1
      (conditionTailOver below left ⟨t :: rest, err⟩).2 := by
  by_cases compares : t.kind.isComparison
  · have right := valueOver_runs follows ⟨rest, err⟩
    simp only [conditionTailOver, compares, if_true, comparisonTail, State.goOn]
    generalize valueOver below ⟨rest, err⟩ = outcome at right ⊢
    obtain ⟨f, us, err'⟩ := outcome
    rcases us with _ | ⟨u, us⟩
    · exact .compare _ compares right (by simp [State.sees])
    · by_cases again : u.kind.isComparison
      · simp only [again, if_true]
        exact .compareAgain _ compares right again
      · simp only [again]
        exact .compare _ compares right (by simpa [State.sees] using again)
  · simp only [Link.stopsAt, Bool.or_eq_true, beq_iff_eq, not_or] at no_stop
    have no_operator : t.kind.isOperator = false := by
      simp [Kind.isOperator, compares, no_join, no_stop]
    have no_paren : t.kind ≠ .rightParen := no_stop.1.1
    simp only [conditionTailOver, compares, no_join, no_operator, beq_eq_false_iff_ne.2 no_paren]
    exact .strayToken _ ⟨no_paren, by simp [no_operator]⟩

private theorem tail_over_runs (follows : FollowsBelow below n) (k : Link) (left : Expr)
    (s : State) :
    Runs n (.tail k left) s (k.tail (Level.over below) left s).1
      (k.tail (Level.over below) left s).2 := by
  obtain ⟨ts, err⟩ := s
  rcases ts with _ | ⟨t, rest⟩
  · cases k <;> exact .chainEnds
  · by_cases joins : k.joins t.kind
    · rw [Link.tail_joins k below left rest err joins]
      cases follows with
      | none => exact .joinTooDeep _ joins
      | some follows => exact .join _ joins (follows.operand k _) (follows.tail k _ _)
    · by_cases stops : k.stopsAt t.kind
      · rw [Link.tail_stops k below left rest err stops]
        exact .chainStops _ stops
      · cases k with
        | arithmetic => exact comparison_runs follows left rest err joins stops
        | and => simp_all [Link.joins, Link.stopsAt]
        | or => simp_all [Link.joins, Link.stopsAt]

end

/-- The parsers follow the rules. -/
theorem level_follows (n : Nat) : (level n).Follows n := by
  induction n with
  | zero => exact ⟨valueOver_runs .none, tail_over_runs .none⟩
  | succ n ih => exact ⟨valueOver_runs (.some ih), tail_over_runs (.some ih)⟩

/-- The error of a parse, which must leave no token. -/
def State.finalError (s : State) : Option ParseError :=
  match s.rest with
  | [] => s.error
  | t :: _ => (s.fail (.trailing t.text)).error

theorem parseTokens_eq (ts : List Token) :
    parseTokens ts = ⟨((level maxDepth).expression ⟨ts, none⟩).1,
      ((level maxDepth).expression ⟨ts, none⟩).2.finalError⟩ := by
  rw [parseTokens]
  generalize (level maxDepth).expression ⟨ts, none⟩ = outcome
  obtain ⟨e, us, err⟩ := outcome
  cases us <;> rfl

/-- A parse is a run on all tokens. -/
theorem parseTokens_runs (ts : List Token) :
    ∃ s, Runs maxDepth (.chain .or) ⟨ts, none⟩ (parseTokens ts).expr s ∧
      (parseTokens ts).error = s.finalError := by
  rw [parseTokens_eq]
  exact ⟨_, (level_follows maxDepth).chain .or ⟨ts, none⟩, rfl⟩

end ChatSieve.Grammar
