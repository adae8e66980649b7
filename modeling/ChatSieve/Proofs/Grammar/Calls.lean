import ChatSieve.Proofs.Grammar.Routine

/-!
# The calls of a run

No call is left out of the journal. If a call had no outcome unless it passes
some check (`performWhere`), a run would be the same as long as the calls of its
journal pass (`performWhere_eq`). So what holds of the recorded calls holds of all
that are made.

The routines are compared with these stricter ones program by program
(`SameWhere`), with a rule for each way to put programs together.
-/

namespace ChatSieve.Grammar.Program

/-- A routine as a call of it, where every call has to pass a check. -/
def performWhere (passes : Call → Bool) : Nat → Routine → Program Expr
  | 0, _ => stuck
  | frames + 1, r => fun stack j =>
    (call r (body (performWhere passes frames) r) stack j).filter fun out =>
      passes ⟨r, r :: stack, j.memory, out.2.memory⟩

variable {passes : Call → Bool} {α β : Type}

/-- Where the first program has an outcome, the calls recorded before are still
there, and the second one has the same outcome if all that are recorded pass. -/
def SameWhere (passes : Call → Bool) (p p' : Program α) : Prop :=
  ∀ stack j a j', p stack j = some (a, j') →
    j.calls ⊆ j'.calls ∧ ((∀ c ∈ j'.calls, passes c) → p' stack j = some (a, j'))

namespace SameWhere

theorem stuck : SameWhere passes (Program.stuck : Program α) Program.stuck := nofun

theorem pure (a : α) : SameWhere passes (Pure.pure a) (Pure.pure a) := by
  intro stack j b j' run
  cases run
  exact ⟨List.Subset.refl _, fun _ => rfl⟩

theorem look (f : Memory → α) : SameWhere passes (Program.look f) (Program.look f) := by
  intro stack j b j' run
  cases run
  exact ⟨List.Subset.refl _, fun _ => rfl⟩

theorem write (f : Memory → Memory) : SameWhere passes (Program.write f) (Program.write f) := by
  intro stack j b j' run
  cases run
  exact ⟨List.Subset.refl _, fun _ => rfl⟩

theorem bind {p p' : Program α} {f f' : α → Program β} (first : SameWhere passes p p')
    (next : ∀ a, SameWhere passes (f a) (f' a)) : SameWhere passes (p >>= f) (p' >>= f') := by
  intro stack j b j'' run
  obtain ⟨⟨a, j'⟩, run, later⟩ := Option.bind_eq_some_iff.1 run
  obtain ⟨kept, same⟩ := first stack j a j' run
  obtain ⟨later_kept, later_same⟩ := next a stack j' b j'' later
  refine ⟨List.Subset.trans kept later_kept, fun passed => ?_⟩
  have begun := same fun c recorded => passed c (later_kept recorded)
  change (p' stack j).bind _ = _
  rw [begun]
  exact later_same passed

private theorem ite {condition : Prop} [Decidable condition] {p p' q q' : Program α}
    (holds : SameWhere passes p p') (fails : SameWhere passes q q') :
    SameWhere passes (if condition then p else q) (if condition then p' else q') := by
  split
  · exact holds
  · exact fails

end SameWhere

private theorem sameWhere_descend : SameWhere passes descend descend :=
  .bind (.look _) fun _ => .ite (.bind (.write _) fun _ => .pure _) (.bind (.write _) fun _ => .pure _)

private theorem sameWhere_depthAbove : SameWhere passes depthAbove depthAbove :=
  .bind (.look _) fun _ => .ite .stuck (.pure _)

private theorem sameWhere_expectedOperator : SameWhere passes expectedOperator expectedOperator :=
  .bind (.look _) fun _ => .write _

private theorem sameWhere_compareOnce : SameWhere passes compareOnce compareOnce :=
  .bind (.look _) fun _ => .ite sameWhere_expectedOperator (.pure _)

private theorem sameWhere_refuseRest (top : Bool) :
    SameWhere passes (refuseRest top) (refuseRest top) :=
  .bind (.look _) fun _ => .ite (.write _) (.pure _)

private theorem sameWhere_closeGroup : SameWhere passes closeGroup closeGroup :=
  .bind (.look _) fun _ => .ite (.write _) (.ite (.write _) (.write _))

private theorem sameWhere_missingBrace : SameWhere passes missingBrace missingBrace :=
  .bind (.look _) fun _ => .write _

section
variable {p p' : Program Expr}

private theorem sameWhere_join (operand : SameWhere passes p p') (op : Token.Kind) (left : Expr)
    {goOn goOn' : Expr → Program Expr} (later : ∀ e, SameWhere passes (goOn e) (goOn' e)) :
    SameWhere passes (join p op left goOn) (join p' op left goOn') :=
  .bind sameWhere_descend fun _ =>
    .ite (.bind (.write _) fun _ => .bind operand fun _ => later _) (.pure _)

private theorem sameWhere_chainLoop (operand : SameWhere passes p p') (op : Token.Kind)
    (turns : Nat)
    (left : Expr) : SameWhere passes (chainLoop op p turns left) (chainLoop op p' turns left) := by
  induction turns generalizing left with
  | zero => exact .stuck
  | succ turns ih => exact .bind (.look _) fun _ => .ite (sameWhere_join operand op left ih) (.pure _)

private theorem sameWhere_chain (operand : SameWhere passes p p') (op : Token.Kind) :
    SameWhere passes (chain op p) (chain op p') :=
  .bind operand fun _ => .bind (.look _) fun _ => sameWhere_chainLoop operand op _ _

private theorem sameWhere_conditionLoop (value : SameWhere passes p p') (turns : Nat)
    (left : Expr) :
    SameWhere passes (conditionLoop p turns left) (conditionLoop p' turns left) := by
  induction turns generalizing left with
  | zero => exact .stuck
  | succ turns ih =>
    refine .bind (.look _) fun kind => ?_
    cases kind with
    | none => exact .pure _
    | some kind =>
      refine .ite ?_ (.ite (sameWhere_join value kind left ih) (.ite (.pure _) ?_))
      · exact .bind (.write _) fun _ => .bind value fun _ => .bind sameWhere_compareOnce fun _ => .pure _
      · exact .bind sameWhere_expectedOperator fun _ => .pure _

private theorem sameWhere_itemsLoop (value : SameWhere passes p p') (outside turns : Nat)
    (first : Bool)
    (items : List Expr) :
    SameWhere passes (itemsLoop p outside turns first items) (itemsLoop p' outside turns first items) := by
  induction turns generalizing first items with
  | zero => exact .stuck
  | succ turns ih =>
    refine .bind (.look _) fun kind => .ite ?_ (.ite ?_ (.ite ?_ ?_))
    · exact .bind (.write _) fun _ => .bind (.write _) fun _ => .pure _
    · exact .bind (.write _) fun _ => .bind value fun _ => ih _ _
    · exact .bind value fun _ => ih _ _
    · exact .bind sameWhere_missingBrace fun _ => .bind (.write _) fun _ => .pure _

end

private theorem sameWhere_body {rec rec' : Routine → Program Expr}
    (callee : ∀ r, SameWhere passes (rec r) (rec' r)) (r : Routine) :
    SameWhere passes (body rec r) (body rec' r) := by
  cases r with
  | expression top =>
    exact .bind (.look _) fun _ => .bind (sameWhere_chain (callee _) _) fun _ =>
      .bind (.write _) fun _ => .bind (sameWhere_refuseRest top) fun _ => .pure _
  | conjunction =>
    exact .bind (.look _) fun _ => .bind (sameWhere_chain (callee _) _) fun _ =>
      .bind (.write _) fun _ => .pure _
  | negation =>
    exact .bind (.look _) fun _ => .ite
      (.bind (.write _) fun _ => .bind (.look _) fun _ => .bind (callee _) fun _ => .pure _) (callee _)
  | condition =>
    exact .bind (.look _) fun _ => .bind (.look _) fun _ => .bind (callee _) fun _ =>
      .bind (.look _) fun _ => .bind (sameWhere_conditionLoop (callee _) _ _) fun _ =>
        .bind (.write _) fun _ => .pure _
  | value =>
    refine .bind (.look _) fun t => ?_
    cases t with
    | none => exact .bind (.write _) fun _ => .pure _
    | some t =>
      refine .ite (callee _) (.ite (callee _) (.bind (.write _) fun _ => ?_))
      cases literalOf t with
      | ok e => exact .pure e
      | error why => exact .bind (.write _) fun _ => .pure _
  | group =>
    exact .bind (.write _) fun _ => .bind sameWhere_descend fun _ => .ite
      (.bind (callee _) fun _ => .bind sameWhere_depthAbove fun _ => .bind (.write _) fun _ =>
        .bind sameWhere_closeGroup fun _ => .pure _)
      (.pure _)
  | list =>
    exact .bind (.write _) fun _ => .bind sameWhere_descend fun _ => .ite
      (.bind sameWhere_depthAbove fun _ => .bind (.look _) fun _ =>
        sameWhere_itemsLoop (callee _) _ _ _ _)
      (.pure _)

/-- A call that returns is recorded. -/
theorem mem_calls_of_perform {frames : Nat} {r : Routine} {stack : List Routine} {j j' : Journal}
    {e : Expr} (run : perform frames r stack j = some (e, j')) :
    ⟨r, r :: stack, j.memory, j'.memory⟩ ∈ j'.calls := by
  cases frames with
  | zero => cases run
  | succ frames =>
    obtain ⟨⟨e, inside⟩, -, same⟩ := Option.map_eq_some_iff.1 run
    cases same
    exact List.mem_cons_self

private theorem sameWhere_perform (passes : Call → Bool) (frames : Nat) (r : Routine) :
    SameWhere passes (perform frames r) (performWhere passes frames r) := by
  induction frames generalizing r with
  | zero => exact .stuck
  | succ frames ih =>
    intro stack j e j' run
    have recorded := mem_calls_of_perform run
    obtain ⟨⟨e, inside⟩, ended, same⟩ := Option.map_eq_some_iff.1 run
    cases same
    obtain ⟨kept, stricter⟩ := sameWhere_body ih r _ _ _ _ ended
    refine ⟨List.subset_cons_of_subset _ kept, fun passed => ?_⟩
    have stricter := stricter fun c called => passed c (List.mem_cons_of_mem _ called)
    change (Option.map _ (body (performWhere passes frames) r (r :: stack) j)).filter _ = _
    rw [stricter]
    exact Option.filter_some_pos (passed _ recorded)

/-- A run in which all calls have to pass is the same if those of the journal do. -/
theorem performWhere_eq {frames : Nat} {r : Routine} {stack : List Routine} {j j' : Journal} {e : Expr}
    (run : perform frames r stack j = some (e, j')) (passed : ∀ c ∈ j'.calls, passes c) :
    performWhere passes frames r stack j = some (e, j') :=
  (sameWhere_perform passes frames r stack j e j' run).2 passed

/-- Where the call for a value does not pass, a text of one value is not parsed. -/
example : (performWhere (fun c => c.routine != .value) maxFrames (.expression true) []
    ⟨.start [⟨.int, "1"⟩], [], []⟩).isNone := by decide

end ChatSieve.Grammar.Program
