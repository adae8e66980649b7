import ChatSieve.Proofs.Grammar.Readable
import ChatSieve.Proofs.Grammar.Soundness

/-!
# Trees of texts with errors

The parser builds a tree in any case, and whatever the errors are the tree is
one of a text (`Runs.readable`): also where a part is missing, what is put in
its place is such a tree. No error says of an integer that it cannot be read.
-/

namespace ChatSieve
open Token

namespace Expr

/-- What a node of a tree is like because it comes from a text: integers are
from 0 to 2⁶³ - 1, names are declared, patterns can be read, and there are no
other operators than those of the language. -/
def IsOfText (decls : Declarations) : Expr → Prop
  | .int n => 0 ≤ n.toInt ∧ n.toInt ≤ 9223372036854775807
  | .identifier name => decls.declares name
  | .pattern p => Pattern.ofSource? p.source p.caseless = some p
  | .unary op _ => op = .not
  | .binary op _ _ => op = .and ∨ op = .or ∨ op.isComparison ∨ op.isArithmetic
  | .string _ | .list _ => True

theorem Readable.isOfText {decls : Declarations} {e : Expr} (readable : e.Readable decls) : e.IsOfText decls := by
  cases readable with
  | @int n nonneg =>
    have small := n.toInt_lt
    exact ⟨nonneg, by omega⟩
  | string s => trivial
  | identifier declared => exact declares_of_classify declared
  | pattern p => exact (Pattern.ofSource?_eq_some_iff _ _ _).2 ⟨rfl, rfl⟩
  | list items => trivial
  | denial operand => rfl
  | @operation op l r operator left right =>
    rcases operator with arithmetic | logical | comparison
    · exact .inr (.inr (.inr arithmetic))
    · cases op <;> first | exact .inl rfl | exact .inr (.inl rfl) | cases logical
    · exact .inr (.inr (.inl comparison))

end Expr

namespace Grammar

variable {decls : Declarations}

/-- The trees that a task goes on from are trees of a text. -/
def Task.Readable (decls : Declarations) : Task → Prop
  | .items done => ∀ e ∈ done, e.Readable decls
  | .tail _ left => left.Readable decls
  | _ => True

private theorem Link.operandTask_readable (l : Link) : l.operandTask.Readable decls := by
  cases l <;> trivial

/-- Whatever the parser meets, it builds trees of texts. -/
theorem Runs.readable {n : Nat} {task : Task} {s s' : State} {e : Expr} (run : Runs n task s e s')
    (lexed : ∀ t ∈ s.rest, Lexed decls t) (before : task.Readable decls) : e.Readable decls := by
  have zero : (Expr.int 0).Readable decls := .int (by decide)
  have empty : (Expr.list []).Readable decls := .list (List.forall_mem_nil _)
  induction run with
  | valueMissing | groupTooDeep | noValue => exact zero
  | listTooDeep | listUnclosed | listClosed | itemsUnclosed => exact empty
  | openGroup a inside ih | openList a inside ih =>
    exact ih (List.forall_mem_cons.1 lexed).2 trivial
  | token t denotes => exact denotes.readable (lexed t List.mem_cons_self)
  | groupClosed a inside ih | groupUnclosed inside unclosed ih => exact ih lexed trivial
  | firstItem present item others item_ih others_ih =>
    have first := item_ih lexed trivial
    exact others_ih (fun t member => lexed t (item.suffix.subset member))
      (List.forall_mem_singleton.2 first)
  | itemsClosed a => exact .list fun e member => before e (List.mem_reverse.1 member)
  | nextItem a item others item_ih others_ih =>
    obtain ⟨-, lexed⟩ := List.forall_mem_cons.1 lexed
    exact others_ih (fun t member => lexed t (item.suffix.subset member))
      (List.forall_mem_cons.2 ⟨item_ih lexed trivial, before⟩)
  | assertion positive condition ih => exact ih lexed trivial
  | denial a condition ih => exact .denial (ih (List.forall_mem_cons.1 lexed).2 trivial)
  | chain first others first_ih others_ih =>
    exact others_ih (fun t member => lexed t (first.suffix.subset member))
      (first_ih lexed (Link.operandTask_readable _))
  | chainEnds | chainStops | joinTooDeep | strayToken => exact before
  | join t joins operand others operand_ih others_ih =>
    obtain ⟨-, lexed⟩ := List.forall_mem_cons.1 lexed
    have right := operand_ih lexed (Link.operandTask_readable _)
    exact others_ih (fun u member => lexed u (operand.suffix.subset member))
      (.operation (Link.joins_infix joins) before right)
  | compare t compares operand once ih | compareAgain t compares operand again ih =>
    exact .operation (.inr (.inr compares)) before (ih (List.forall_mem_cons.1 lexed).2 trivial)

private theorem State.fail_error_eq_some {s : State} {why e : ParseError}
    (failed : (s.fail why).error = some e) :
    s.error = some e ∨ why = e := by
  cases first : s.error with
  | none =>
    simp only [State.fail, first, Option.orElse_eq_orElse, Option.orElse_none, Option.some.injEq] at failed
    exact .inr failed
  | some earlier =>
    rw [State.fail_error_of_some first] at failed
    exact .inl failed

/-- The integers of a text can be read. -/
theorem literalOf_ne_invalidInteger {t : Token} (lexed : Lexed decls t) (a : String) :
    literalOf t ≠ .error (.invalidInteger a) := by
  intro failed
  have fits := lexed.fits
  rw [literalOf] at failed
  split at failed
  · rename_i kind
    rw [kind] at fits
    split at failed
    · cases failed
    · rename_i unread
      simp [Kind.Fits, unread] at fits
  · cases failed
  · cases failed
  · split at failed <;> cases failed
  · cases failed

private theorem Runs.error_ne_invalidInteger {n : Nat} {task : Task} {s s' : State} {e : Expr}
    (a : String)
    (run : Runs n task s e s') (lexed : ∀ t ∈ s.rest, Lexed decls t)
    (before : s.error ≠ some (.invalidInteger a)) : s'.error ≠ some (.invalidInteger a) := by
  have kept {s : State} {why : ParseError} (other : why ≠ .invalidInteger a)
      (before : s.error ≠ some (.invalidInteger a)) :
      (s.fail why).error ≠ some (.invalidInteger a) :=
    fun failed => (State.fail_error_eq_some failed).elim before other
  induction run with
  | valueMissing | groupTooDeep | listTooDeep | listUnclosed | itemsUnclosed | joinTooDeep | strayToken =>
    exact kept (by simp) before
  | noValue t denotes_none =>
    refine kept ?_ before
    rintro rfl
    exact literalOf_ne_invalidInteger (lexed t List.mem_cons_self) a denotes_none
  | openGroup b inside ih | openList b inside ih => exact ih (List.forall_mem_cons.1 lexed).2 before
  | token | listClosed | itemsClosed | chainEnds | chainStops => exact before
  | groupClosed b inside ih => exact ih lexed before
  | groupUnclosed inside unclosed ih => exact kept (by simp) (ih lexed before)
  | firstItem present item others item_ih others_ih =>
    exact others_ih (fun t member => lexed t (item.suffix.subset member)) (item_ih lexed before)
  | nextItem b item others item_ih others_ih =>
    obtain ⟨-, lexed⟩ := List.forall_mem_cons.1 lexed
    exact others_ih (fun t member => lexed t (item.suffix.subset member)) (item_ih lexed before)
  | assertion positive condition ih => exact ih lexed before
  | denial b condition ih => exact ih (List.forall_mem_cons.1 lexed).2 before
  | chain first others first_ih others_ih =>
    exact others_ih (fun t member => lexed t (first.suffix.subset member)) (first_ih lexed before)
  | join t joins operand others operand_ih others_ih =>
    obtain ⟨-, lexed⟩ := List.forall_mem_cons.1 lexed
    exact others_ih (fun u member => lexed u (operand.suffix.subset member)) (operand_ih lexed before)
  | compare t compares operand once ih => exact ih (List.forall_mem_cons.1 lexed).2 before
  | compareAgain t compares operand again ih =>
    exact kept (by simp) (ih (List.forall_mem_cons.1 lexed).2 before)

/-- The tree of every text, and that no integer of it is to blame. -/
theorem parse_readable (decls : Declarations) (text : String) :
    (parse decls text).expr.Readable decls ∧
      ∀ a, (parse decls text).error ≠ some (.invalidInteger a) := by
  obtain ⟨s, run, error_eq⟩ := parseTokens_runs (tokens decls text)
  have lexed : ∀ t ∈ tokens decls text, Lexed decls t := fun t => lexed_of_mem_tokens
  refine ⟨run.readable lexed trivial, fun a failed => ?_⟩
  have before := run.error_ne_invalidInteger a lexed (by simp)
  have final : s.finalError = some (.invalidInteger a) := by
    rw [← error_eq]
    exact failed
  rw [State.finalError] at final
  split at final
  · exact before final
  · rcases State.fail_error_eq_some final with earlier | trailing
    · exact before earlier
    · cases trailing

end Grammar

end ChatSieve
