import ChatSieve.Proofs.Grammar.Completeness
import ChatSieve.Proofs.Grammar.Journal

/-!
# Loops of the routines

The loops have an outcome, and it is what the parsers of a level make of the
same tokens, if the routine that they call has one. The levels in use and those
that are left add up to all levels; the turns of a loop suffice since each
operand and each item takes a token.
-/

namespace ChatSieve.Grammar
open ChatSieve.Token

/-- The tasks that begin with a value. -/
def Task.beginsWithValue : Task → Bool
  | .value | .negation | .chain _ => true
  | _ => false

private theorem Link.operandTask_beginsWithValue (l : Link) : l.operandTask.beginsWithValue := by
  cases l <;> rfl

/-- A task that begins with a value takes a token, unless none is left. -/
theorem Runs.takes {n : Nat} {task : Task} {s s' : State} {e : Expr} (run : Runs n task s e s')
    (begins : task.beginsWithValue) (some_left : s.rest ≠ []) : s'.rest.length < s.rest.length := by
  induction run with
  | valueMissing => exact absurd rfl some_left
  | openGroup a inside | openList a inside => exact Nat.lt_succ_of_le inside.suffix.length_le
  | groupTooDeep | listTooDeep | token | noValue => exact Nat.lt_succ_self _
  | assertion positive condition ih => exact ih rfl some_left
  | denial a condition => exact Nat.lt_succ_of_le condition.suffix.length_le
  | chain first others first_ih =>
    exact Nat.lt_of_le_of_lt others.suffix.length_le
      (first_ih (Link.operandTask_beginsWithValue _) some_left)
  | _ => cases begins

/-- A text must leave nothing. -/
def State.refuseRest (s : State) : State :=
  match s.rest with
  | [] => s
  | t :: _ => s.fail (.trailing t.text)

theorem State.error_refuseRest (s : State) : s.refuseRest.error = s.finalError := by
  obtain ⟨ts, err⟩ := s
  cases ts <;> rfl

/-- A comparison must not be followed by another one. -/
def State.compareOnce (s : State) : State :=
  match s.rest with
  | t :: _ => if t.kind.isComparison then s.fail (.expectedOperator t.text t.kind) else s
  | [] => s

/-- A group must be closed after its expression. -/
def State.closeGroup (s : State) : State :=
  match s.rest with
  | ⟨.rightParen, _⟩ :: rest => s.goOn rest
  | t :: _ => s.fail (.missingParenthesis (some t.text))
  | [] => s.fail (.missingParenthesis none)

theorem groupTail_eq (l : Level) (s : State) :
    groupTail l s = ((l.expression s).1, (l.expression s).2.closeGroup) := by
  rw [groupTail]
  generalize l.expression s = outcome
  obtain ⟨e, ts, err⟩ := outcome
  rcases ts with _ | ⟨⟨kind, text⟩, rest⟩
  · rfl
  · cases kind <;> rfl

/-- A token that stands for nothing is passed. -/
theorem value_refused {t : Token} {why : ParseError} (refused : literalOf t = .error why)
    (group : t.kind ≠ .leftParen) (list : t.kind ≠ .listStart) (n : Nat) (rest : List Token)
    (err : Option ParseError) :
    (level n).value ⟨t :: rest, err⟩ = (.int 0, State.fail ⟨rest, err⟩ why) := by
  obtain ⟨kind, a⟩ := t
  rw [level_eq]
  change valueOver (below n) ⟨⟨kind, a⟩ :: rest, err⟩ = _
  cases kind <;> first
    | exact absurd rfl group
    | exact absurd rfl list
    | simp [valueOver, refused, State.goOn]

/-- The value and the memory are the outcome of a parser. -/
structure Yields (ts : List Token) (outcome : Expr × State) (e : Expr) (j : Journal) : Prop where
  outcome_eq : outcome = (e, j.memory.state)
  sound : j.Sound ts

/-- And so many levels are in use. -/
structure Returns (ts : List Token) (outcome : Expr × State) (depth : Nat) (e : Expr) (j : Journal) : Prop
    extends Yields ts outcome e j where
  depth_eq : j.memory.depth = depth

/-- With at most so many levels left, the program does what the parser of the
level does, and gives back the levels that it takes. -/
def Program.Parses (p : Program Expr) (ts : List Token) (parser : Level → Parser) (most : Nat)
    (stack : List Routine) : Prop :=
  ∀ n j, n ≤ most → j.Sound ts → j.memory.depth + n = maxDepth →
    p.Meets stack j (Returns ts (parser (level n) j.memory.state) j.memory.depth)

section
variable {ts : List Token} {stack : List Routine} {j : Journal}

namespace Program

/-! ## Small programs -/

theorem expectedOperator_meets (sound : j.Sound ts) {t : Token} {rest : List Token}
    (coming : j.memory.cursor.coming = t :: rest) :
    expectedOperator.Meets stack j fun _ j' => j'.Sound ts ∧
      j'.memory.state = j.memory.state.fail (.expectedOperator t.text t.kind) := by
  refine .look (.last ⟨sound.note _, ?_⟩)
  simp [Cursor.preview, Cursor.next?, Cursor.nextKind?_eq coming, coming]

private theorem compareOnce_meets (sound : j.Sound ts) :
    compareOnce.Meets stack j fun _ j' => j'.Sound ts ∧
      j'.memory.state = j.memory.state.compareOnce := by
  refine .look ?_
  cases coming : j.memory.cursor.coming with
  | nil =>
    rw [if_neg (by simp [Cursor.nextHas_iff, coming])]
    refine .pure ⟨sound, ?_⟩
    simp [State.compareOnce, Memory.state, coming]
  | cons t rest =>
    by_cases again : t.kind.isComparison
    · rw [if_pos (Cursor.nextHas_iff.2 ⟨t, rest, coming, again⟩)]
      refine (expectedOperator_meets sound coming).mono ?_
      rintro _ j' ⟨sound', state⟩
      refine ⟨sound', ?_⟩
      rw [state]
      simp [State.compareOnce, Memory.state, coming, again]
    · rw [if_neg (by simp [Cursor.nextHas_iff, coming, again])]
      refine .pure ⟨sound, ?_⟩
      simp [State.compareOnce, Memory.state, coming, again]

theorem refuseRest_meets (sound : j.Sound ts) (top : Bool) :
    (refuseRest top).Meets stack j fun _ j' => j'.Sound ts ∧
      j'.memory.depth = j.memory.depth ∧
      j'.memory.state = if top then j.memory.state.refuseRest else j.memory.state := by
  refine .look ?_
  cases coming : j.memory.cursor.coming with
  | nil =>
    rw [if_neg (by simp [Cursor.hasNext, coming])]
    refine .pure ⟨sound, rfl, ?_⟩
    simp [State.refuseRest, Memory.state, coming]
  | cons t rest =>
    cases top with
    | false =>
      rw [if_neg (by simp)]
      exact .pure ⟨sound, rfl, rfl⟩
    | true =>
      rw [if_pos (by simp [Cursor.hasNext, coming])]
      refine .last ⟨sound.note _, rfl, ?_⟩
      rw [Journal.memory_write, Memory.state_note, Memory.state_eq coming]
      simp [State.refuseRest, Cursor.preview, Cursor.next?, coming]

theorem closeGroup_meets (sound : j.Sound ts) :
    closeGroup.Meets stack j fun _ j' => j'.Sound ts ∧ j'.memory.depth = j.memory.depth ∧
      j'.memory.state = j.memory.state.closeGroup := by
  refine .look ?_
  cases coming : j.memory.cursor.coming with
  | nil =>
    rw [if_neg (by simp [Cursor.nextIs_iff, coming]), if_neg (by simp [Cursor.hasNext, coming])]
    refine .last ⟨sound.note _, rfl, ?_⟩
    rw [Journal.memory_write, Memory.state_note, Memory.state_eq coming]
    rfl
  | cons t rest =>
    obtain ⟨kind, a⟩ := t
    by_cases closes : kind = .rightParen
    · subst closes
      rw [id, if_pos (Cursor.nextIs_iff.2 ⟨a, rest, coming⟩)]
      refine .last ⟨sound.next, rfl, ?_⟩
      rw [Journal.memory_write, Memory.state_next coming, Memory.state_eq coming]
      rfl
    · rw [if_neg (by simp [Cursor.nextIs_iff, coming, closes]), if_pos (by simp [Cursor.hasNext, coming])]
      refine .last ⟨sound.note _, rfl, ?_⟩
      have preview : j.memory.cursor.preview = a := by simp [Cursor.preview, Cursor.next?, coming]
      rw [Journal.memory_write, Memory.state_note, id, preview, Memory.state_eq coming]
      cases kind <;> first | rfl | exact absurd rfl closes

private theorem missingBrace_meets (sound : j.Sound ts) :
    missingBrace.Meets stack j fun _ j' => j'.Sound ts ∧
      j'.memory.state = j.memory.state.fail (.missingBrace j.memory.state.nextText?) := by
  refine .look (.last ⟨sound.note _, ?_⟩)
  have got : (if j.memory.cursor.hasNext then some j.memory.cursor.preview else none) =
      j.memory.state.nextText? := by
    cases coming : j.memory.cursor.coming <;>
      simp [Cursor.hasNext, Cursor.preview, Cursor.next?, Memory.state, State.nextText?, coming]
  rw [Journal.memory_write, Memory.state_note, id, got]

/-! ## Chains -/

/-- One more operand of a chain: if there is a level for it, the chain goes on
with one level less. -/
theorem join_meets {n most : Nat} {l : Link} {operand : Program Expr} {goOn : Expr → Program Expr}
    {left : Expr} {t : Token} {rest : List Token} (joins : l.joins t.kind) (few : n ≤ most)
    (sound : j.Sound ts) (levels : j.memory.depth + n = maxDepth)
    (coming : j.memory.cursor.coming = t :: rest) (parses : operand.Parses ts l.operand most stack)
    (goes_on : ∀ m e j', m ≤ most → j'.Sound ts → j'.memory.depth + m = maxDepth →
      j'.memory.cursor.coming.length ≤ rest.length →
        (goOn e).Meets stack j' (Yields ts (l.tail (level m) e j'.memory.state))) :
    (join operand t.kind left goOn).Meets stack j
      (Yields ts (l.tail (level n) left j.memory.state)) := by
  cases n with
  | zero =>
    refine .descend_full (by omega) ?_
    rw [if_neg (by simp)]
    refine .pure ⟨?_, sound.note _⟩
    rw [Journal.memory_write, Memory.state_note, Memory.state_eq coming]
    exact l.tail_joins none left rest _ joins
  | succ n =>
    refine .descend_free (by omega) ?_
    rw [if_pos rfl]
    refine .write ?_
    have next := (sound.setDepth (j.memory.depth + 1) (by omega)).next
    refine .bind (parses n _ (by omega) next (by simp; omega)) ?_
    rintro right j' ⟨⟨outcome, sound'⟩, same⟩
    have next_state : ((j.write (.setDepth (j.memory.depth + 1))).write .next).memory.state =
        ⟨rest, j.memory.errors.head?⟩ := Memory.state_next (m := j.memory.setDepth _) coming
    rw [next_state] at outcome
    have shorter : j'.memory.cursor.coming.length ≤ rest.length := by
      have taken := ((level_follows n).operand l ⟨rest, j.memory.errors.head?⟩).suffix.length_le
      rwa [outcome] at taken
    refine (goes_on n _ j' (by omega) sound' (by rw [same]; simp; omega) shorter).mono ?_
    rintro e j'' ⟨outcome', sound''⟩
    refine ⟨?_, sound''⟩
    rw [Memory.state_eq coming]
    refine (l.tail_joins (some (level n)) left rest _ joins).trans ?_
    simp only [outcome]
    exact outcome'

/-- The two loops over logical operators. -/
theorem chainLoop_meets {l : Link} {op : Kind} (joins : ∀ k, l.joins k = (k == op))
    (stops : ∀ k, l.stopsAt k = (k != op)) {operand : Program Expr} {most : Nat}
    (parses : operand.Parses ts l.operand most stack)
    (turns n : Nat) (left : Expr) (j : Journal) (few : n ≤ most) (sound : j.Sound ts)
    (levels : j.memory.depth + n = maxDepth) (enough : j.memory.cursor.coming.length < turns) :
    (chainLoop op operand turns left).Meets stack j
      (Yields ts (l.tail (level n) left j.memory.state)) := by
  induction turns generalizing n left j with
  | zero => exact absurd enough (Nat.not_lt_zero _)
  | succ turns ih =>
    refine .look ?_
    cases coming : j.memory.cursor.coming with
    | nil =>
      rw [if_neg (by simp [Cursor.nextIs_iff, coming])]
      refine .pure ⟨?_, sound⟩
      rw [Memory.state_eq coming, level_eq]
      cases l <;> rfl
    | cons t rest =>
      by_cases goes_on : t.kind = op
      · rw [if_pos (by simp [Cursor.nextIs, Cursor.nextKind?_eq coming, goes_on]), ← goes_on]
        refine join_meets (by simp [joins, goes_on]) few sound levels coming parses
          fun m e j' few' sound' levels' shorter => ?_
        rw [goes_on]
        rw [coming, List.length_cons] at enough
        exact ih m e j' few' sound' levels' (by omega)
      · rw [if_neg (by simpa [Cursor.nextIs, Cursor.nextKind?_eq coming] using goes_on)]
        refine .pure ⟨?_, sound⟩
        rw [Memory.state_eq coming, level_eq]
        exact l.tail_stops _ left rest _ (by simp [stops, goes_on])

theorem chain_meets (l : Link) (op : Kind) (joins : ∀ k, l.joins k = (k == op))
    (stops : ∀ k, l.stopsAt k = (k != op)) {operand : Program Expr} {n : Nat}
    (parses : operand.Parses ts l.operand n stack)
    (sound : j.Sound ts) (levels : j.memory.depth + n = maxDepth) :
    (chain op operand).Meets stack j (Yields ts (l.chain (level n) j.memory.state)) := by
  refine .bind (parses n j (Nat.le_refl n) sound levels) ?_
  rintro first j' ⟨⟨outcome, sound'⟩, same⟩
  rw [l.chain_eq, outcome]
  exact .look (chainLoop_meets joins stops parses _ n first j' (Nat.le_refl n) sound'
    (by rw [same]; exact levels) (Nat.lt_succ_self _))

/-- A comparison in the parser of the level. -/
theorem tail_compares {n : Nat} {left : Expr} {t : Token} {rest : List Token} {err : Option ParseError}
    (compares : t.kind.isComparison) {right : Expr} {s : State}
    (operand : (level n).value ⟨rest, err⟩ = (right, s)) :
    (level n).conditionTail left ⟨t :: rest, err⟩ = (.binary t.kind left right, s.compareOnce) := by
  rw [level_eq] at operand ⊢
  change conditionTailOver (below n) left ⟨t :: rest, err⟩ = _
  change valueOver (below n) ⟨rest, err⟩ = _ at operand
  simp only [conditionTailOver, compares, if_true, comparisonTail, State.goOn, operand]
  obtain ⟨us, err'⟩ := s
  rcases us with _ | ⟨u, us⟩
  · rfl
  · by_cases again : u.kind.isComparison <;> simp [State.compareOnce, again]

theorem conditionLoop_meets {value : Program Expr} {most : Nat}
    (parses : value.Parses ts Level.value most stack)
    (turns n : Nat) (left : Expr) (j : Journal) (few : n ≤ most) (sound : j.Sound ts)
    (levels : j.memory.depth + n = maxDepth) (enough : j.memory.cursor.coming.length < turns) :
    (conditionLoop value turns left).Meets stack j
      (Yields ts ((level n).conditionTail left j.memory.state)) := by
  induction turns generalizing n left j with
  | zero => exact absurd enough (Nat.not_lt_zero _)
  | succ turns ih =>
    refine .look ?_
    cases coming : j.memory.cursor.coming with
    | nil =>
      simp only [Cursor.nextKind?_eq coming, List.head?_nil, Option.map_none]
      refine .pure ⟨?_, sound⟩
      rw [Memory.state_eq coming, level_eq]
      rfl
    | cons t rest =>
      simp only [Cursor.nextKind?_eq coming, List.head?_cons, Option.map_some]
      by_cases compares : t.kind.isComparison
      · rw [if_pos compares]
        refine .write (.bind (parses n _ few sound.next levels) ?_)
        rintro right j' ⟨⟨outcome, sound'⟩, -⟩
        rw [Journal.memory_write, Memory.state_next coming] at outcome
        refine .bind (compareOnce_meets sound') ?_
        rintro _ j'' ⟨sound'', state⟩
        refine .pure ⟨?_, sound''⟩
        rw [Memory.state_eq coming, tail_compares compares outcome, state]
      · rw [if_neg compares]
        by_cases joins : t.kind.isArithmetic
        · rw [if_pos joins]
          refine join_meets (l := .arithmetic) joins few sound levels coming parses
            fun m e j' few' sound' levels' shorter => ?_
          rw [coming, List.length_cons] at enough
          exact ih m e j' few' sound' levels' (by omega)
        · rw [if_neg joins]
          by_cases stops : (t.kind == .rightParen || t.kind.isOperator) = true
          · rw [if_pos stops]
            refine .pure ⟨?_, sound⟩
            rw [Memory.state_eq coming, level_eq]
            simp [Level.over, conditionTailOver, compares, joins, stops]
          · rw [if_neg stops]
            refine .bind (expectedOperator_meets sound coming) ?_
            rintro _ j' ⟨sound', state⟩
            refine .pure ⟨?_, sound'⟩
            rw [state, Memory.state_eq coming, level_eq]
            simp [Level.over, conditionTailOver, compares, joins, stops]

/-! ## Lists -/

/-- What else may come is no item and no end of a list. -/
theorem itemsTail_unclosed (value : Parser) (bound : Nat) (done : List Expr) (s : State)
    (unclosed : ¬ s.sees fun k => k == .listEnd || k == .comma) :
    itemsTail value (bound + 1) done s = (.list [], s.fail (.missingBrace s.nextText?)) := by
  obtain ⟨ts, err⟩ := s
  rcases ts with _ | ⟨⟨kind, text⟩, rest⟩
  · rfl
  · cases kind <;> first | rfl | simp [State.sees] at unclosed

/-- The rest of a list, after its first item. -/
theorem itemsLoop_meets {value : Program Expr} {outside n : Nat} (le : outside ≤ maxDepth)
    (parses : value.Parses ts Level.value n stack)
    (turns bound : Nat) (items : List Expr) (j : Journal) (sound : j.Sound ts)
    (levels : j.memory.depth + n = maxDepth) (enough : j.memory.cursor.coming.length < turns)
    (bounds : j.memory.cursor.coming.length < bound) :
    (itemsLoop value outside turns false items).Meets stack j
      (Returns ts (itemsTail (level n).value bound items.reverse j.memory.state) outside) := by
  induction turns generalizing bound items j with
  | zero => exact absurd enough (Nat.not_lt_zero _)
  | succ turns ih =>
    obtain ⟨bound, rfl⟩ : ∃ b, bound = b + 1 := ⟨bound - 1, by omega⟩
    refine .look ?_
    by_cases unclosed : j.memory.state.sees fun k => k == .listEnd || k == .comma
    · obtain ⟨⟨kind, a⟩, rest, coming, goes_on⟩ : ∃ t rest, j.memory.cursor.coming = t :: rest ∧
          (t.kind = .listEnd ∨ t.kind = .comma) := by
        cases coming : j.memory.cursor.coming with
        | nil => simp [State.sees, Memory.state, coming] at unclosed
        | cons t rest => exact ⟨t, rest, rfl, by simpa [State.sees, Memory.state, coming] using unclosed⟩
      rw [Cursor.nextKind?_eq coming, List.head?_cons, Option.map_some, Memory.state_eq coming]
      obtain rfl | rfl := goes_on
      · rw [if_pos rfl]
        refine .write (.write (.pure ⟨⟨?_, sound.next.setDepth _ le⟩, rfl⟩))
        rw [Journal.memory_write, Memory.state_setDepth, Journal.memory_write, Memory.state_next coming]
        simp [itemsTail, State.goOn]
      · rw [if_neg (by simp), if_pos ⟨rfl, rfl⟩]
        refine .write (.bind (parses n _ (Nat.le_refl n) sound.next levels) ?_)
        rintro item j' ⟨⟨outcome, sound'⟩, same⟩
        rw [Journal.memory_write, Memory.state_next coming] at outcome
        rw [coming, List.length_cons] at enough bounds
        have shorter : j'.memory.cursor.coming.length ≤ rest.length := by
          have taken := ((level_follows n).value ⟨rest, j.memory.errors.head?⟩).suffix.length_le
          rwa [outcome] at taken
        have others := ih bound (items ++ [item]) j' sound' (by rw [same]; exact levels) (by omega) (by omega)
        rw [List.reverse_concat] at others
        simpa only [itemsTail, State.goOn, outcome] using others
    · have others : ¬ j.memory.cursor.nextKind? = some .listEnd ∧
          ¬ (j.memory.cursor.nextKind? = some .comma ∧ false = false) := by
        cases coming : j.memory.cursor.coming <;>
          simp_all [State.sees, Memory.state, Cursor.nextKind?_eq coming]
      rw [if_neg others.1, if_neg others.2, if_neg (by simp)]
      refine .bind (missingBrace_meets sound) ?_
      rintro _ j' ⟨sound', state⟩
      refine .write (.pure ⟨⟨?_, sound'.setDepth _ le⟩, rfl⟩)
      rw [itemsTail_unclosed _ _ _ _ unclosed, Journal.memory_write, Memory.state_setDepth, state]

/-- The rest of a list, after its opening brace. -/
theorem itemsLoop_first_meets {value : Program Expr} {outside n : Nat} (le : outside ≤ maxDepth)
    (parses : value.Parses ts Level.value n stack)
    (turns : Nat) (sound : j.Sound ts) (levels : j.memory.depth + n = maxDepth)
    (enough : j.memory.cursor.coming.length < turns) :
    (itemsLoop value outside turns true []).Meets stack j
      (Returns ts (listTail (level n) j.memory.state) outside) := by
  obtain ⟨turns, rfl⟩ : ∃ k, turns = k + 1 := ⟨turns - 1, by omega⟩
  refine .look ?_
  cases coming : j.memory.cursor.coming with
  | nil =>
    rw [Cursor.nextKind?_eq coming, if_neg (by simp), if_neg (by simp), if_neg (by simp)]
    refine .bind (missingBrace_meets sound) ?_
    rintro _ j' ⟨sound', state⟩
    refine .write (.pure ⟨⟨?_, sound'.setDepth _ le⟩, rfl⟩)
    rw [Journal.memory_write, Memory.state_setDepth, state, Memory.state_eq coming]
    rfl
  | cons t rest =>
    obtain ⟨kind, a⟩ := t
    rw [Cursor.nextKind?_eq coming, List.head?_cons, Option.map_some]
    by_cases closes : kind = .listEnd
    · subst closes
      rw [if_pos rfl]
      refine .write (.write (.pure ⟨⟨?_, sound.next.setDepth _ le⟩, rfl⟩))
      rw [Journal.memory_write, Memory.state_setDepth, Journal.memory_write, Memory.state_next coming,
        Memory.state_eq coming]
      rfl
    · rw [if_neg (by simpa using closes), if_neg (by simp), if_pos ⟨rfl, rfl⟩]
      refine .bind (parses n j (Nat.le_refl n) sound levels) ?_
      rintro item j' ⟨⟨outcome, sound'⟩, same⟩
      have shorter : j'.memory.cursor.coming.length < j.memory.cursor.coming.length := by
        have taken := ((level_follows n).value j.memory.state).takes rfl (by simp [Memory.state, coming])
        rwa [outcome] at taken
      have others := itemsLoop_meets le parses turns (j'.memory.cursor.coming.length + 1) [item] j' sound'
        (by rw [same]; exact levels) (by omega) (Nat.lt_succ_self _)
      rw [Memory.state_eq coming] at outcome ⊢
      rw [listTail_of_item _ _ _ closes, outcome]
      exact others

end Program
end

end ChatSieve.Grammar
