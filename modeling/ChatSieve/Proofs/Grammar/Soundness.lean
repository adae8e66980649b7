import ChatSieve.Proofs.Grammar.Run

/-!
# What parses is in the grammar

A run that ends without an error began without one, and the tokens that it has
taken derive its tree within the levels that it had. Hence a token list that
parses without an error is an expression (`derives_of_parseTokens`).
-/

namespace ChatSieve.Grammar
open ChatSieve.Token

/-- What a chain is with all its operators. -/
def Link.phrase : Link → Phrase
  | .arithmetic => .condition
  | .and => .conjunction
  | .or => .expression

theorem Derives.closed {l : Link} {k : Nat} {ts : List Token} {e : Expr} {need : Nat}
    (derives : Derives (.chain l k) ts e need) : Derives l.phrase ts e need := by
  cases l with
  | arithmetic => exact .plain derives
  | and => exact .conjunction derives
  | or => exact .expression derives

@[simp] theorem State.fail_error_ne_none (s : State) (why : ParseError) :
    (s.fail why).error ≠ none := by
  cases h : s.error <;> simp [State.fail, h]

@[simp] theorem State.fail_rest (s : State) (why : ParseError) : (s.fail why).rest = s.rest := rfl

/-- The first error stays. -/
theorem State.fail_error_of_some {s : State} {first : ParseError} (failed : s.error = some first)
    (why : ParseError) : (s.fail why).error = some first := by
  simp [State.fail, failed]

/-- A run never drops an error for another one. -/
theorem Runs.keeps_error {n : Nat} {task : Task} {s s' : State} {e : Expr} {first : ParseError}
    (run : Runs n task s e s') (failed : s.error = some first) : s'.error = some first := by
  induction run with
  | valueMissing => exact State.fail_error_of_some failed _
  | openGroup a inside ih => exact ih failed
  | groupTooDeep => exact State.fail_error_of_some failed _
  | openList a inside ih => exact ih failed
  | listTooDeep => exact State.fail_error_of_some failed _
  | token => exact failed
  | noValue => exact State.fail_error_of_some failed _
  | groupClosed a inside ih => exact ih failed
  | groupUnclosed inside unclosed ih => exact State.fail_error_of_some (ih failed) _
  | listUnclosed => exact State.fail_error_of_some failed _
  | listClosed => exact failed
  | firstItem present item others item_ih others_ih => exact others_ih (item_ih failed)
  | itemsClosed => exact failed
  | nextItem a item others item_ih others_ih => exact others_ih (item_ih failed)
  | itemsUnclosed => exact State.fail_error_of_some failed _
  | assertion positive condition ih => exact ih failed
  | denial a condition ih => exact ih failed
  | chain first others first_ih others_ih => exact others_ih (first_ih failed)
  | chainEnds => exact failed
  | chainStops => exact failed
  | join t joins operand others operand_ih others_ih => exact others_ih (operand_ih failed)
  | joinTooDeep => exact State.fail_error_of_some failed _
  | compare t compares operand once ih => exact ih failed
  | compareAgain t compares operand again ih => exact State.fail_error_of_some (ih failed) _
  | strayToken => exact State.fail_error_of_some failed _

/-- What the tokens are that a task has taken, with so many levels, when it has
met no error: a task that goes on from some tokens completes them. -/
def Taken (n : Nat) : Task → List Token → Expr → Prop
  | .value, ts, e => ∃ need ≤ n, Derives .value ts e need
  | .group, ts, e =>
    ∃ us a, ts = us ++ [⟨.rightParen, a⟩] ∧ ∃ need ≤ n, Derives .expression us e need
  | .list, ts, e =>
    (∃ a, ts = [⟨.listEnd, a⟩] ∧ e = .list []) ∨
      ∃ us a es, ts = us ++ [⟨.listEnd, a⟩] ∧ e = .list es ∧
        ∃ need ≤ n, Derives .items us (.list es) need
  | .items done, ts, e =>
    ∀ before, (∃ need ≤ n, Derives .items before (.list done.reverse) need) →
      ∃ us a es, ts = us ++ [⟨.listEnd, a⟩] ∧ e = .list es ∧
        ∃ need ≤ n, Derives .items (before ++ us) (.list es) need
  | .negation, ts, e => ∃ need ≤ n, Derives .negation ts e need
  | .chain l, ts, e => ∃ need ≤ n, Derives l.phrase ts e need
  | .tail l left, ts, e =>
    ∀ k before, (∃ need ≤ k + n, Derives (.chain l k) before left need) →
      ∃ need ≤ k + n, Derives l.phrase (before ++ ts) e need

theorem Taken.operand {n : Nat} {l : Link} {ts : List Token} {e : Expr}
    (taken : Taken n l.operandTask ts e) : ∃ need ≤ n, Derives l.operandPhrase ts e need := by
  cases l <;> exact taken

/-- A run without an error takes the first tokens at hand, and these are what
the task is about. -/
theorem Runs.sound {n : Nat} {task : Task} {s s' : State} {e : Expr}
    (run : Runs n task s e s') (clean : s'.error = none) :
    s.error = none ∧ ∃ ts, s.rest = ts ++ s'.rest ∧ Taken n task ts e := by
  induction run with
  | valueMissing => exact absurd clean (State.fail_error_ne_none _ _)
  | openGroup a inside ih =>
    obtain ⟨before, ts, split, us, b, rfl, need, bound, derives⟩ := ih clean
    exact ⟨before, ⟨.leftParen, a⟩ :: (us ++ [⟨.rightParen, b⟩]), by simp_all,
      need + 1, by omega, .group _ _ derives⟩
  | groupTooDeep => exact absurd clean (State.fail_error_ne_none _ _)
  | openList a inside ih =>
    obtain ⟨before, ts, split, ⟨b, rfl, rfl⟩ | ⟨us, b, es, rfl, rfl, need, bound, derives⟩⟩ :=
      ih clean
    · exact ⟨before, [⟨.listStart, a⟩, ⟨.listEnd, b⟩], by simp_all, 1, by omega, .emptyList _ _⟩
    · exact ⟨before, ⟨.listStart, a⟩ :: (us ++ [⟨.listEnd, b⟩]), by simp_all,
        need + 1, by omega, .list _ _ derives⟩
  | listTooDeep => exact absurd clean (State.fail_error_ne_none _ _)
  | token t denotes => exact ⟨clean, [t], rfl, 0, by omega, .token denotes⟩
  | noValue => exact absurd clean (State.fail_error_ne_none _ _)
  | groupClosed a inside ih =>
    obtain ⟨before, ts, split, derives⟩ := ih clean
    exact ⟨before, ts ++ [⟨.rightParen, a⟩], by simp [split], ts, a, rfl, derives⟩
  | groupUnclosed => exact absurd clean (State.fail_error_ne_none _ _)
  | listUnclosed => exact absurd clean (State.fail_error_ne_none _ _)
  | listClosed a => exact ⟨clean, [⟨.listEnd, a⟩], rfl, .inl ⟨a, rfl, rfl⟩⟩
  | firstItem present item others item_ih others_ih =>
    obtain ⟨between, us, others_split, completes⟩ := others_ih clean
    obtain ⟨before, ts, item_split, need, bound, derives⟩ := item_ih between
    obtain ⟨vs, b, es, rfl, rfl, list_derives⟩ := completes ts ⟨need, bound, .firstItem derives⟩
    refine ⟨before, ts ++ (vs ++ [⟨.listEnd, b⟩]), by simp [item_split, others_split], .inr ?_⟩
    exact ⟨ts ++ vs, b, es, by simp, rfl, list_derives⟩
  | itemsClosed a =>
    refine ⟨clean, [⟨.listEnd, a⟩], rfl, fun before derives => ?_⟩
    exact ⟨[], a, _, rfl, rfl, by simpa using derives⟩
  | nextItem a item others item_ih others_ih =>
    obtain ⟨between, us, others_split, completes⟩ := others_ih clean
    obtain ⟨before_error, ts, item_split, need, bound, derives⟩ := item_ih between
    refine ⟨before_error, ⟨.comma, a⟩ :: (ts ++ us), by simp_all, ?_⟩
    rintro before ⟨need', bound', before_derives⟩
    have longer := Derives.nextItem a before_derives derives
    rw [← List.reverse_cons] at longer
    obtain ⟨vs, b, es, rfl, rfl, list_derives⟩ := completes _ ⟨_, by omega, longer⟩
    exact ⟨⟨.comma, a⟩ :: (ts ++ vs), b, es, by simp, rfl, by simpa using list_derives⟩
  | itemsUnclosed => exact absurd clean (State.fail_error_ne_none _ _)
  | assertion positive condition ih =>
    obtain ⟨before, ts, split, need, bound, derives⟩ := ih clean
    exact ⟨before, ts, split, need, bound, .assertion derives⟩
  | denial a condition ih =>
    obtain ⟨before, ts, split, need, bound, derives⟩ := ih clean
    exact ⟨before, ⟨.not, a⟩ :: ts, by simp_all, need, bound, .denial a derives⟩
  | chain first others first_ih others_ih =>
    obtain ⟨between, us, others_split, completes⟩ := others_ih clean
    obtain ⟨before, ts, first_split, taken⟩ := first_ih between
    obtain ⟨need, bound, derives⟩ := taken.operand
    obtain ⟨whole, whole_bound, whole_derives⟩ :=
      completes 0 ts ⟨need, by omega, .firstOperand derives⟩
    exact ⟨before, ts ++ us, by simp [first_split, others_split], whole, by omega, whole_derives⟩
  | chainEnds =>
    refine ⟨clean, [], rfl, ?_⟩
    rintro k before ⟨need, bound, derives⟩
    exact ⟨need, bound, by simpa using derives.closed⟩
  | chainStops =>
    refine ⟨clean, [], rfl, ?_⟩
    rintro k before ⟨need, bound, derives⟩
    exact ⟨need, bound, by simpa using derives.closed⟩
  | join t joins operand others operand_ih others_ih =>
    obtain ⟨between, us, others_split, completes⟩ := others_ih clean
    obtain ⟨before_error, ts, operand_split, taken⟩ := operand_ih between
    obtain ⟨need, bound, derives⟩ := taken.operand
    refine ⟨before_error, t :: (ts ++ us), by simp_all, ?_⟩
    rintro k before ⟨need', bound', before_derives⟩
    have longer := Derives.nextOperand t before_derives joins derives
    obtain ⟨whole, whole_bound, whole_derives⟩ := completes (k + 1) _ ⟨_, by omega, longer⟩
    exact ⟨whole, by omega, by simpa using whole_derives⟩
  | joinTooDeep => exact absurd clean (State.fail_error_ne_none _ _)
  | compare t compares operand once ih =>
    obtain ⟨before_error, ts, split, need, bound, derives⟩ := ih clean
    refine ⟨before_error, t :: ts, by simp_all, ?_⟩
    rintro k before ⟨need', bound', before_derives⟩
    exact ⟨max need' (k + need), by omega, .comparison t before_derives compares derives⟩
  | compareAgain => exact absurd clean (State.fail_error_ne_none _ _)
  | strayToken => exact absurd clean (State.fail_error_ne_none _ _)

/-- A list of tokens that parses without an error is an expression, and the
levels suffice for it. -/
theorem derives_of_parseTokens {ts : List Token} (clean : (parseTokens ts).error = none) :
    ∃ need ≤ maxDepth, Derives .expression ts (parseTokens ts).expr need := by
  obtain ⟨⟨rest, err⟩, run, final⟩ := parseTokens_runs ts
  rw [clean] at final
  cases rest with
  | nil =>
    obtain ⟨_, us, split, derives⟩ := run.sound final.symm
    obtain rfl : ts = us := by simpa using split
    exact derives
  | cons t rest => exact absurd final.symm (State.fail_error_ne_none _ _)

end ChatSieve.Grammar
