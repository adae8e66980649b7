import ChatSieve.Proofs.Grammar.Calls
import ChatSieve.Proofs.Grammar.Loops

/-!
# The discipline of the routines

The parser at work has an outcome on every text, and it is the outcome of the
parsers that are built level by level (`parse_disciplined`). So it finds a
frame for each call and a level for each one that it gives back. On the way
every call keeps the levels in use as they were and takes a token, if there is
one.

The induction is on the frames. A routine that can be called with so many
levels left (`Routine.Fits`) has frames enough for all that it calls, and what
it calls does what the parser of the level does (`Answers`).
-/

namespace ChatSieve.Grammar
open ChatSieve.Token

/-- The parser of a level that does what the routine does. -/
def Routine.parser : Routine → Level → Parser
  | .expression top, l => fun s =>
    let (e, s) := l.expression s
    (e, if top then s.refuseRest else s)
  | .conjunction, l => l.conjunction
  | .negation, l => l.negation
  | .condition, l => l.condition
  | .value, l | .group, l | .list, l => l.value

/-- What must come next for the routine to be called. -/
def Routine.Expects : Routine → Memory → Prop
  | .group, m => ∃ a rest, m.cursor.coming = ⟨.leftParen, a⟩ :: rest
  | .list, m => ∃ a rest, m.cursor.coming = ⟨.listStart, a⟩ :: rest
  | _, _ => True

/-- Without a level in between, a routine calls those of a lower rank only. -/
def Routine.rank : Routine → Nat
  | .expression _ => 6
  | .conjunction => 5
  | .negation => 4
  | .condition => 3
  | .value => 2
  | .group | .list => 1

/-- The frames that a routine can need with so many levels left. -/
def Routine.frames (r : Routine) (n : Nat) : Nat := 6 * n + r.rank

/-- A level is taken between an expression and the next one, and after a list
is open. -/
def Routine.unpaid : Routine → Nat
  | .list => 2
  | _ => 1

/-- The routine can be called with so many levels and frames left. -/
structure Routine.Fits (r : Routine) (n frames : Nat) (stack : List Routine) (m : Memory) : Prop where
  levels_eq : m.depth + n = maxDepth
  enough : r.frames n ≤ frames
  stack_le : stack.length + frames ≤ maxFrames
  opened_le : opened (r :: stack) ≤ m.depth + r.unpaid
  expects : r.Expects m

theorem Routine.Fits.callee {r c : Routine} {n k frames : Nat} {stack : List Routine} {m m' : Memory}
    (fits : r.Fits n (frames + 1) stack m) (cheaper : c.frames k < r.frames n)
    (paid : r.unpaid + c.takesLevel.toNat + k ≤ n + c.unpaid) (levels : m'.depth + k = maxDepth)
    (expects : c.Expects m') : c.Fits k frames (r :: stack) m' where
  levels_eq := levels
  enough := by
    have enough := fits.enough
    omega
  stack_le := by
    have stack_le := fits.stack_le
    rw [List.length_cons]
    omega
  opened_le := by
    have opened_le := fits.opened_le
    have levels_eq := fits.levels_eq
    have opened_eq : opened (c :: r :: stack) = opened (r :: stack) + c.takesLevel.toNat := by
      rw [opened, List.countP_cons]
      cases c.takesLevel <;> rfl
    omega
  expects := expects

/-- Each routine takes the first tokens that come, at least one if there is any. -/
theorem Routine.parser_takes (r : Routine) (n : Nat) (s : State) :
    (r.parser (level n) s).2.rest.length ≤ s.rest.length ∧
      (s.rest ≠ [] → (r.parser (level n) s).2.rest.length < s.rest.length) := by
  have of_run {task : Task} {e : Expr} {s' : State} (run : Runs n task s e s')
      (begins : task.beginsWithValue) :
      s'.rest.length ≤ s.rest.length ∧ (s.rest ≠ [] → s'.rest.length < s.rest.length) :=
    ⟨run.suffix.length_le, run.takes begins⟩
  have follows := level_follows n
  cases r with
  | expression top =>
    have taken := of_run (follows.chain .or s) rfl
    have rest_eq : (parser (.expression top) (level n) s).2.rest = ((level n).expression s).2.rest := by
      simp only [parser]
      split
      · rw [State.refuseRest]
        split <;> rfl
      · rfl
    rw [rest_eq]
    exact taken
  | conjunction => exact of_run (follows.chain .and s) rfl
  | negation => exact of_run (follows.negation s) rfl
  | condition => exact of_run (follows.chain .arithmetic s) rfl
  | value | group | list => exact of_run (follows.value s) rfl

/-- What the parser of the level makes of the memory, with as many levels in
use as before. -/
abbrev Routine.Returns (ts : List Token) (r : Routine) (n : Nat) (m : Memory) : Expr → Journal → Prop :=
  Grammar.Returns ts (r.parser (level n) m.state) m.depth

/-- All calls with so many frames left do what the routines are for. -/
def Answers (ts : List Token) (frames : Nat) (rec : Routine → Program Expr) : Prop :=
  ∀ r n stack j, r.Fits n frames stack j.memory → j.Sound ts →
    (rec r).Meets stack j (r.Returns ts n j.memory)

section
variable {ts : List Token} {frames : Nat} {rec : Routine → Program Expr} {stack : List Routine}
  {j : Journal} {n : Nat}

namespace Answers

variable {r c : Routine} {m : Memory}

/-- A routine of a lower rank can be called with no more levels. -/
theorem lower (answers : Answers ts frames rec) (fits : r.Fits n (frames + 1) stack m)
    (lower : c.rank < r.rank) {k : Nat} (few : k ≤ n) (levels : j.memory.depth + k = maxDepth)
    (expects : c.Expects j.memory) (sound : j.Sound ts) :
    (rec c).Meets (r :: stack) j (c.Returns ts k j.memory) := by
  have paid : r.unpaid + c.takesLevel.toNat ≤ c.unpaid := by
    cases r <;> cases c <;> first | exact Nat.le_refl _ | exact absurd lower (by simp [Routine.rank])
  refine answers c k _ j (fits.callee ?_ (by omega) levels expects) sound
  simp only [Routine.frames]
  omega

theorem parses (answers : Answers ts frames rec) (fits : r.Fits n (frames + 1) stack m)
    (lower : c.rank < r.rank) (expects : ∀ m, c.Expects m) : (rec c).Parses ts c.parser n (r :: stack) :=
  fun _ _ few sound levels => answers.lower fits lower few levels (expects _) sound

end Answers

namespace Program

/-! ## Bodies -/

theorem expression_meets (answers : Answers ts frames rec) {top : Bool}
    (fits : (Routine.expression top).Fits n (frames + 1) stack j.memory) (sound : j.Sound ts) :
    (body rec (.expression top)).Meets (.expression top :: stack) j
      ((Routine.expression top).Returns ts n j.memory) := by
  have operands := answers.parses (c := .conjunction) fits (Nat.lt_succ_self 5) fun _ => trivial
  have whole := chain_meets .or .or (fun _ => rfl) (fun _ => rfl) operands sound
    fits.levels_eq
  refine .look (.bind whole ?_)
  rintro e j' ⟨outcome, sound'⟩
  refine .write (.bind (refuseRest_meets (sound'.setDepth _ sound.memory.depth_le) top) ?_)
  rintro _ j'' ⟨sound'', depth, state⟩
  refine .pure ⟨⟨?_, sound''⟩, depth⟩
  change (level n).expression j.memory.state = _ at outcome
  simp only [Routine.parser, outcome, state]
  rfl

private theorem conjunction_meets (answers : Answers ts frames rec)
    (fits : Routine.conjunction.Fits n (frames + 1) stack j.memory) (sound : j.Sound ts) :
    (body rec .conjunction).Meets (.conjunction :: stack) j
      (Routine.conjunction.Returns ts n j.memory) := by
  have operands := answers.parses (c := .negation) fits (by decide) fun _ => trivial
  have whole := chain_meets .and .and (fun _ => rfl) (fun _ => rfl) operands sound
    fits.levels_eq
  refine .look (.bind whole ?_)
  rintro e j' ⟨outcome, sound'⟩
  exact .write (.pure ⟨⟨outcome, sound'.setDepth _ sound.memory.depth_le⟩, rfl⟩)

private theorem negation_meets (answers : Answers ts frames rec)
    (fits : Routine.negation.Fits n (frames + 1) stack j.memory) (sound : j.Sound ts) :
    (body rec .negation).Meets (.negation :: stack) j (Routine.negation.Returns ts n j.memory) := by
  have condition := answers.parses (c := .condition) fits (by decide) fun _ => trivial
  refine .look ?_
  by_cases negated : j.memory.cursor.nextHas Kind.isNegation
  · obtain ⟨⟨kind, a⟩, rest, coming, is_not⟩ := Cursor.nextHas_iff.1 negated
    obtain rfl : kind = .not := by cases kind <;> first | rfl | cases is_not
    rw [if_pos negated]
    refine .write (.look (.bind (condition n _ (Nat.le_refl n) sound.next fits.levels_eq) ?_))
    rintro e j' ⟨⟨outcome, sound'⟩, same⟩
    refine .pure ⟨⟨?_, sound'⟩, same⟩
    rw [Journal.memory_write, Memory.state_next coming] at outcome
    have op : j.memory.next.cursor.currentKind? = some .not := by
      simp [Memory.next, Cursor.advance, coming, Cursor.currentKind?, Cursor.current?]
    change (level n).condition ⟨rest, _⟩ = _ at outcome
    rw [Journal.memory_write, op, Memory.state_eq coming]
    simp [Routine.parser, Level.negation, State.goOn, outcome]
  · rw [if_neg negated]
    refine (condition n j (Nat.le_refl n) sound fits.levels_eq).mono ?_
    rintro e j' ⟨⟨outcome, sound'⟩, same⟩
    refine ⟨⟨?_, sound'⟩, same⟩
    rw [← outcome]
    cases coming : j.memory.cursor.coming with
    | nil =>
      rw [Memory.state_eq coming]
      rfl
    | cons t rest =>
      rw [Memory.state_eq coming]
      refine (level n).negation_of_positive (fun is_not => negated ?_) rest _
      exact Cursor.nextHas_iff.2 ⟨t, rest, coming, by rw [is_not]; rfl⟩

private theorem condition_meets (answers : Answers ts frames rec)
    (fits : Routine.condition.Fits n (frames + 1) stack j.memory) (sound : j.Sound ts) :
    (body rec .condition).Meets (.condition :: stack) j (Routine.condition.Returns ts n j.memory) := by
  have value := answers.parses (c := .value) fits (by decide) fun _ => trivial
  -- where a group comes a call of it does what one for a value does
  have first : (rec (if j.memory.cursor.nextIs .leftParen then .group else .value)).Meets
      (.condition :: stack) j (Routine.value.Returns ts n j.memory) := by
    by_cases group : j.memory.cursor.nextIs .leftParen
    · rw [if_pos group]
      exact answers.lower (c := .group) fits (by decide) (Nat.le_refl n) fits.levels_eq
        (Cursor.nextIs_iff.1 group) sound
    · rw [if_neg group]
      exact value n j (Nat.le_refl n) sound fits.levels_eq
  refine .look (.look (.bind first ?_))
  rintro e j' ⟨⟨outcome, sound'⟩, same⟩
  have others := conditionLoop_meets value (j'.memory.cursor.coming.length + 1) n e j' (Nat.le_refl n)
    sound' (by rw [same]; exact fits.levels_eq) (Nat.lt_succ_self _)
  refine .look (.bind others ?_)
  rintro f j'' ⟨outcome', sound''⟩
  refine .write (.pure ⟨⟨?_, sound''.setDepth _ sound.memory.depth_le⟩, rfl⟩)
  change (level n).value j.memory.state = _ at outcome
  simp only [Routine.parser, Level.condition, outcome, outcome']
  rfl

private theorem value_meets (answers : Answers ts frames rec)
    (fits : Routine.value.Fits n (frames + 1) stack j.memory) (sound : j.Sound ts) :
    (body rec .value).Meets (.value :: stack) j (Routine.value.Returns ts n j.memory) := by
  refine .look ?_
  cases coming : j.memory.cursor.coming with
  | nil =>
    simp only [Cursor.next?, coming, List.head?_nil]
    refine .write (.pure ⟨⟨?_, sound.note _⟩, rfl⟩)
    rw [Journal.memory_write, Memory.state_note, Memory.state_eq coming, Routine.parser, level_eq]
    rfl
  | cons t rest =>
    obtain ⟨kind, a⟩ := t
    simp only [Cursor.next?, coming, List.head?_cons]
    by_cases group : kind = .leftParen
    · subst group
      rw [if_pos rfl]
      exact answers.lower (c := .group) fits (by decide) (Nat.le_refl n) fits.levels_eq
        ⟨a, rest, coming⟩ sound
    · rw [if_neg group]
      by_cases list : kind = .listStart
      · subst list
        rw [if_pos rfl]
        exact answers.lower (c := .list) fits (by decide) (Nat.le_refl n) fits.levels_eq
          ⟨a, rest, coming⟩ sound
      · rw [if_neg list]
        refine .write ?_
        cases denoted : literalOf ⟨kind, a⟩ with
        | ok e =>
          refine .pure ⟨⟨?_, sound.next⟩, rfl⟩
          rw [Journal.memory_write, Memory.state_next coming, Memory.state_eq coming]
          exact value_token ((literalOf_eq_ok_iff _ _).1 denoted) n rest _
        | error why =>
          refine .write (.pure ⟨⟨?_, sound.next.note _⟩, rfl⟩)
          rw [Journal.memory_write, Memory.state_note, Journal.memory_write, Memory.state_next coming,
            Memory.state_eq coming]
          exact value_refused denoted group list n rest _

private theorem group_meets (answers : Answers ts frames rec)
    (fits : Routine.group.Fits n (frames + 1) stack j.memory) (sound : j.Sound ts) :
    (body rec .group).Meets (.group :: stack) j (Routine.group.Returns ts n j.memory) := by
  obtain ⟨a, rest, coming⟩ := fits.expects
  have levels := fits.levels_eq
  refine .write ?_
  cases n with
  | zero =>
    refine .descend_full (by simp; omega) ?_
    rw [if_neg (by simp)]
    refine .pure ⟨⟨?_, sound.next.note _⟩, rfl⟩
    rw [Journal.memory_write, Memory.state_note, Journal.memory_write, Memory.state_next coming,
      Memory.state_eq coming]
    rfl
  | succ n =>
    refine .descend_free (by simp; omega) ?_
    rw [if_pos rfl]
    have entered := sound.next.setDepth (j.memory.depth + 1) (by omega)
    have inner : (Routine.expression false).Fits n frames (.group :: stack)
        ((j.write .next).write (.setDepth (j.memory.depth + 1))).memory :=
      fits.callee (by simp only [Routine.frames, Routine.rank]; omega)
        (by simp only [Routine.unpaid, Routine.takesLevel, Bool.toNat_true]; omega) (by simp; omega) trivial
    refine .bind (answers _ _ _ _ inner entered) ?_
    rintro e j' ⟨⟨outcome, sound'⟩, same⟩
    refine .depthAbove j.memory.depth same (.write ?_)
    have outside := sound'.setDepth j.memory.depth (by omega)
    refine .bind (closeGroup_meets outside) ?_
    rintro _ j'' ⟨sound'', depth, closed⟩
    refine .pure ⟨⟨?_, sound''⟩, depth⟩
    rw [closed, Memory.state_eq coming, Journal.memory_write, Memory.state_setDepth]
    change (level n).expression _ = _ at outcome
    rw [Journal.memory_write, Memory.state_setDepth, Journal.memory_write, Memory.state_next coming]
      at outcome
    change groupTail (level n) ⟨rest, j.memory.errors.head?⟩ = _
    rw [groupTail_eq, outcome]

private theorem list_meets (answers : Answers ts frames rec)
    (fits : Routine.list.Fits n (frames + 1) stack j.memory) (sound : j.Sound ts) :
    (body rec .list).Meets (.list :: stack) j (Routine.list.Returns ts n j.memory) := by
  obtain ⟨a, rest, coming⟩ := fits.expects
  have levels := fits.levels_eq
  refine .write ?_
  cases n with
  | zero =>
    refine .descend_full (by simp; omega) ?_
    rw [if_neg (by simp)]
    refine .pure ⟨⟨?_, sound.next.note _⟩, rfl⟩
    rw [Journal.memory_write, Memory.state_note, Journal.memory_write, Memory.state_next coming,
      Memory.state_eq coming]
    rfl
  | succ n =>
    refine .descend_free (by simp; omega) ?_
    rw [if_pos rfl]
    have entered := sound.next.setDepth (j.memory.depth + 1) (by omega)
    refine .depthAbove j.memory.depth rfl (.look ?_)
    have value : (rec .value).Parses ts Level.value n (.list :: stack) :=
      fun m j' few sound' levels' => answers .value m _ j' (fits.callee
        (by simp only [Routine.frames, Routine.rank]; omega)
        (by simp only [Routine.unpaid, Routine.takesLevel, Bool.toNat_false]; omega) levels' trivial) sound'
    have items := itemsLoop_first_meets (show j.memory.depth ≤ maxDepth by omega) value _ entered
      (by simp; omega) (Nat.lt_succ_self _)
    refine items.mono ?_
    rintro e j' ⟨⟨outcome, sound'⟩, same⟩
    refine ⟨⟨?_, sound'⟩, same⟩
    rw [← outcome, Memory.state_eq coming, Journal.memory_write, Memory.state_setDepth,
      Journal.memory_write, Memory.state_next coming]
    rfl

/-! ## Calls -/

theorem body_meets (answers : Answers ts frames rec) {r : Routine}
    (fits : r.Fits n (frames + 1) stack j.memory) (sound : j.Sound ts) :
    (body rec r).Meets (r :: stack) j (r.Returns ts n j.memory) := by
  cases r with
  | expression top => exact expression_meets answers fits sound
  | conjunction => exact conjunction_meets answers fits sound
  | negation => exact negation_meets answers fits sound
  | condition => exact condition_meets answers fits sound
  | value => exact value_meets answers fits sound
  | group => exact group_meets answers fits sound
  | list => exact list_meets answers fits sound

/-- A call that does what the routine is for is a disciplined one. -/
theorem call_disciplined {r : Routine} {e : Expr} {j' : Journal}
    (fits : r.Fits n (frames + 1) stack j.memory) (sound : j.Sound ts)
    (returns : r.Returns ts n j.memory e j') :
    Call.Disciplined ⟨r, r :: stack, j.memory, j'.memory⟩ := by
  have entry := sound.memory.position_add
  have exit := returns.sound.memory.position_add
  have taken := r.parser_takes n j.memory.state
  rw [returns.outcome_eq] at taken
  simp only [Memory.state] at taken
  exact {
    depth_eq := returns.depth_eq
    position_le := by
      have fewer := taken.1
      simp only
      omega
    takes := fun some_left => by
      have fewer := taken.2 (by simpa [Cursor.hasNext] using some_left)
      simp only
      omega
    opened_le := by
      have opened_le := fits.opened_le
      have depth_le := sound.memory.depth_le
      have unpaid_le : r.unpaid ≤ 2 := by cases r <;> simp [Routine.unpaid]
      simp only
      omega
    stack_le := by
      have stack_le := fits.stack_le
      rw [List.length_cons]
      omega }

/-- Each routine, on as many frames as it may need, does what it is for. -/
theorem perform_answers (ts : List Token) (frames : Nat) : Answers ts frames (perform frames) := by
  induction frames with
  | zero =>
    intro r n stack j fits sound
    have enough := fits.enough
    have rank_pos : 0 < r.rank := by cases r <;> exact Nat.succ_pos _
    rw [Routine.frames] at enough
    omega
  | succ frames ih =>
    intro r n stack j fits sound
    obtain ⟨e, j', run, returns⟩ := body_meets ih fits sound
    refine ⟨e, j'.record ⟨r, r :: stack, j.memory, j'.memory⟩, ?_, ?_⟩
    · change Option.map _ (body (perform frames) r (r :: stack) j) = _
      rw [run]
      rfl
    · have recorded := returns.sound.record (call_disciplined fits sound returns)
      exact ⟨⟨returns.outcome_eq, recorded⟩, returns.depth_eq⟩

end Program
end

/-- The routines end on all tokens. -/
theorem performTokens_returns (ts : List Token) :
    ∃ e j, performTokens ts = some (e, j) ∧
      (Routine.expression true).Returns ts maxDepth (.start ts) e j := by
  have sound : Journal.Sound ts ⟨.start ts, [], []⟩ := {
    moments := fun m moment => by
      obtain rfl := List.mem_singleton.1 moment
      exact ⟨rfl, Nat.zero_le _, Nat.zero_le _⟩
    ordered := List.pairwise_singleton _ _
    calls := fun _ called => nomatch called }
  refine Program.perform_answers ts maxFrames _ maxDepth [] ⟨.start ts, [], []⟩ ?_ sound
  exact {
    levels_eq := Nat.zero_add _
    enough := Nat.le_refl _
    stack_le := Nat.le_of_eq (Nat.zero_add _)
    opened_le := Nat.le_refl _
    expects := trivial }

theorem parseTokens_eq_of_returns {ts : List Token} {e : Expr} {j : Journal}
    (returns : (Routine.expression true).Returns ts maxDepth (.start ts) e j) :
    parseTokens ts = ⟨e, j.memory.errors.head?⟩ := by
  have outcome := returns.outcome_eq
  simp only [Routine.parser, if_true, Prod.mk.injEq] at outcome
  obtain ⟨rfl, final⟩ := outcome
  rw [parseTokens_eq, ← State.error_refuseRest]
  exact congrArg (fun s => Parsed.mk _ (State.error s)) final

/-- Every text is parsed by the routines, with the outcome that it has. The whole
parse is among the calls, and none is left out: if calls had to pass some check to
have an outcome, the parse would be the same as long as all that are recorded pass.
Each call gives back the levels that it takes, and takes a token where there is
one; no more expressions and lists are open than there are levels, but for two, and
no more routines than have a frame. At all times the cursor stands among the
tokens of the text, further on than before, and the levels in use are some of
those there are. -/
theorem parse_disciplined (decls : Declarations) (text : String) :
    ∃ e j, performTokens (tokens decls text) = some (e, j) ∧
      parse decls text = ⟨e, j.memory.errors.head?⟩ ∧
      ⟨.expression true, [.expression true], .start (tokens decls text), j.memory⟩ ∈ j.calls ∧
      (∀ passes : Call → Bool, (∀ c ∈ j.calls, passes c) →
        Program.performWhere passes maxFrames (.expression true) []
          ⟨.start (tokens decls text), [], []⟩ = some (e, j)) ∧
      (∀ c ∈ j.calls, c.exit.depth = c.entry.depth ∧
        c.entry.position ≤ c.exit.position ∧
        (c.entry.cursor.hasNext → c.entry.position < c.exit.position) ∧
        opened c.stack ≤ maxDepth + 2 ∧ c.stack.length ≤ maxFrames) ∧
      (∀ m ∈ j.memory :: j.past, m.depth ≤ maxDepth ∧
        m.cursor.all = tokens decls text ∧ m.position ≤ (tokens decls text).length) ∧
      (j.memory :: j.past).Pairwise fun later earlier => earlier.position ≤ later.position := by
  obtain ⟨e, j, run, returns⟩ := performTokens_returns (tokens decls text)
  have sound := returns.sound
  refine ⟨e, j, run, ?_, Program.mem_calls_of_perform run, fun passes passed => ?_,
    fun c called => ?_, fun m moment => ?_, sound.ordered⟩
  · exact parseTokens_eq_of_returns returns
  · exact Program.performWhere_eq run passed
  · have disciplined := sound.calls c called
    exact ⟨disciplined.depth_eq, disciplined.position_le, disciplined.takes, disciplined.opened_le,
      disciplined.stack_le⟩
  · have holds := sound.moments m moment
    have position := holds.position_add
    exact ⟨holds.depth_le, holds.all_eq, by omega⟩

/-- A group gives its level back also where it is not closed. -/
example : (performTokens [⟨.leftParen, "("⟩, ⟨.int, "1"⟩]).map
    (fun outcome => outcome.2.past.map (·.depth)) = some [0, 0, 0, 0, 1, 1, 1, 1, 1, 0, 0] := by decide

end ChatSieve.Grammar
