import ChatSieve.Proofs.Expr.Blame
import ChatSieve.Proofs.Grammar.Discipline
import ChatSieve.Proofs.Grammar.Partial

/-!
# Texts that have been read

The outcome for a text, filter or not: the tree, the errors and the type. The
parser and the typing are written for all trees, also for those that are put
together by hand. Since the tree of a text has known operators and declared
identifiers only, some of their errors do not arise (`FilterError.Arises`).
-/

namespace ChatSieve
open Token

/-- The error lies in the types of the operands, not in the operation or in a
name. -/
def TypeError.liesInOperands : TypeError → Bool
  | .unknownIdentifier _ | .noSuchOperation => false
  | _ => true

namespace Expr

variable {decls : Declarations} {e : Expr}

private theorem reason_of_blame {typed : Except TypeError Ty} {ill : IllTyped}
    (failed : blame e typed = .error ill) : typed = .error ill.reason := by
  cases typed with
  | ok ty => cases failed
  | error reason =>
    cases failed
    rfl

private theorem unaryType_not_error {ty : Ty} {reason : TypeError}
    (failed : unaryType .not ty = .error reason) :
    reason.liesInOperands := by
  cases ty <;> cases failed <;> rfl

private theorem reason_of_ite {c : Prop} [Decidable c] {ty : Ty} {why reason : TypeError}
    (failed : (if c then Except.ok ty else .error why) = .error reason) : why = reason := by
  split at failed
  · cases failed
  · exact Except.error.inj failed

private theorem binaryType_error {op : Kind} {left right : Ty} {reason : TypeError}
    (operator : op.isArithmetic ∨ op.isLogical ∨ op.isComparison)
    (failed : binaryType op left right = .error reason) : reason.liesInOperands := by
  cases op with
  | plus =>
    simp only [binaryType] at failed
    split at failed
    · cases failed
    · exact reason_of_ite failed ▸ rfl
  | minus | multiply | divide | mod | and | or | lt | gt | lte | gte | startsWith | endsWith | contains =>
    exact reason_of_ite failed ▸ rfl
  | eq | neq => cases failed
  | «matches» =>
    simp only [binaryType] at failed
    split at failed
    · exact Except.error.inj failed ▸ rfl
    · split at failed
      · cases failed
      · cases failed
      · exact Except.error.inj failed ▸ rfl
  | _ => simp [Kind.isArithmetic, Kind.isLogical, Kind.isComparison] at operator

/-- A tree of a text that has no type has an operand of a wrong type. -/
theorem Readable.liesInOperands (readable : e.Readable decls) {ill : IllTyped}
    (failed : e.typeIn decls = .error ill) : ill.reason.liesInOperands := by
  induction readable generalizing ill with
  | int nonneg => cases failed
  | string s => cases failed
  | pattern p => cases failed
  | @identifier name declared =>
    obtain ⟨ty, typed⟩ := Option.isSome_iff_exists.1 (declares_of_classify declared)
    rw [typeIn, typed] at failed
    cases failed
  | list items ih =>
    rw [typeIn] at failed
    split at failed
    · cases failed
    · rename_i wrong
      cases failed
      obtain ⟨item, member, wrong⟩ := exists_mem_of_typesIn_error wrong
      exact ih item member wrong
  | denial operand ih =>
    rw [typeIn] at failed
    split at failed
    · exact unaryType_not_error (reason_of_blame failed)
    · rename_i wrong
      cases failed
      exact ih wrong
  | operation operator left right left_ih right_ih =>
    rw [typeIn] at failed
    split at failed
    · rename_i wrong
      cases failed
      exact left_ih wrong
    · split at failed
      · rename_i wrong
        cases failed
        exact right_ih wrong
      · exact binaryType_error operator (reason_of_blame failed)

end Expr

/-- The text begins like this. -/
def Begins (opening text : String) : Prop := ∃ rest, text = opening ++ rest

namespace Begins

variable {opening text : String}

theorem refl (opening : String) : Begins opening opening := ⟨"", String.append_empty.symm⟩

private theorem append (begins : Begins opening text) (rest : String) :
    Begins opening (text ++ rest) := by
  obtain ⟨middle, rfl⟩ := begins
  exact ⟨middle ++ rest, String.append_assoc⟩

theorem toList (begins : Begins opening text) : opening.toList <+: text.toList := by
  obtain ⟨rest, rfl⟩ := begins
  rw [String.toList_append]
  exact List.prefix_append _ _

end Begins

namespace FilterError

/-- The error can be that of a text. -/
def Arises : FilterError → Prop
  | .malformed (.invalidInteger _) => False
  | .malformed _ => True
  | .illTyped ill => ill.reason.liesInOperands

/-- How the messages of these errors begin. -/
def openings : List String :=
  ["Unexpected end of statement", "Expected value but got ", "Expected an operator but got ",
   "Invalid regular expression ", "Missing closing parentheses: got ",
   "Missing closing parentheses at end of statement", "Missing closing list braces: got ",
   "Missing closing list braces at end of statement", "Expression is nested too deeply",
   "Unexpected token at end: ", "Can only negate boolean values",
   "Can only add Ints or concatenate a String", "Can only perform ",
   "Left argument of Match must be a String",
   "Can only match on a RegularExpression or a MatchingSpecifier"]

theorem Arises.begins {e : FilterError} (arises : e.Arises) :
    ∃ opening ∈ openings, Begins opening e.message := by
  have found {opening : String} (begins : Begins opening e.message) (member : opening ∈ openings) :
      ∃ opening ∈ openings, Begins opening e.message := ⟨opening, member, begins⟩
  cases e with
  | malformed why =>
    cases why with
    | expectedValue text kind | expectedOperator text kind =>
      exact found ((((Begins.refl _).append text).append " ").append kind.info) (by decide)
    | invalidInteger text => exact arises.elim
    | invalidPattern text | trailing text => exact found ((Begins.refl _).append text) (by decide)
    | missingParenthesis got | missingBrace got =>
      cases got with
      | none => exact found (.refl _) (by decide)
      | some text => exact found ((Begins.refl _).append text) (by decide)
    | unexpectedEnd | tooDeep => exact found (.refl _) (by decide)
  | illTyped ill =>
    obtain ⟨node, reason⟩ := ill
    have explained {opening : String} (begins : Begins opening reason.message) :
        Begins opening (FilterError.illTyped ⟨node, reason⟩).message :=
      (begins.append _).append _
    cases reason with
    | unknownIdentifier | noSuchOperation => cases arises
    | needsInts op | needsBools op | needsListOrStrings op | needsListMapOrStrings op =>
      exact found (explained (((Begins.refl _).append op.info).append _)) (by decide)
    | negatedNonBool | addition | matchOnNonString | matchWithNonPattern =>
      exact found (explained (.refl _)) (by decide)

end FilterError

/-- What is known of a text when it has been read. -/
structure Reading where
  expr : Expr
  errors : List FilterError
  ty : Option Ty

/-- Why a reading gives no filter. -/
inductive Refusal where
  | invalid (e : FilterError)
  /-- neither an error nor a type -/
  | unchecked

def Refusal.message : Refusal → String
  | .invalid e => e.message
  | .unchecked => "Filter was not type checked"

namespace Reading

/-- The tree and the errors of the parser. -/
def ofJournal (e : Expr) (j : Grammar.Journal) : Reading := ⟨e, j.memory.errors.map .malformed, none⟩

/-- Notes an error; only the first one is kept. -/
def note (e : FilterError) (r : Reading) : Reading :=
  { r with errors := if r.errors.isEmpty then r.errors ++ [e] else r.errors }

/-- Types a tree without errors. -/
def typed (decls : Declarations) (r : Reading) : Reading :=
  if r.errors.isEmpty then
    match r.expr.typeIn decls with
    | .ok ty => { r with ty := some ty }
    | .error ill => r.note (.illTyped ill)
  else r

/-- Reads a text, as far as there is an outcome. -/
def ofText? (decls : Declarations) (text : String) : Option Reading :=
  (Grammar.performTokens (tokens decls text)).map fun (e, j) => (ofJournal e j).typed decls

/-- The filter that has been read, or the first error. -/
def finish (r : Reading) : Except Refusal Filter :=
  match r.errors.head?, r.ty with
  | none, some ty => .ok ⟨r.expr, ty⟩
  | some e, _ => .error (.invalid e)
  | none, none => .error .unchecked

/-- The errors that only trees put together by hand have, or that no reading
ends with. -/
def absentOpenings : List String :=
  ["Invalid integer ", "Unknown identifier ", "Not implemented", "Filter was not type checked"]

example : absentOpenings = [(Grammar.ParseError.invalidInteger "").message,
    (TypeError.unknownIdentifier "").message, TypeError.noSuchOperation.message,
    Refusal.unchecked.message] := by decide

private theorem openings_apart : ∀ opening ∈ FilterError.openings, ∀ absent ∈ absentOpenings,
    ¬ opening.toList <+: absent.toList ∧ ¬ absent.toList <+: opening.toList := by
  decide +kernel

/-- A message that begins in one of the ways there are begins in no other. -/
theorem not_begins_of_arises {e : FilterError} (arises : e.Arises) {absent : String}
    (member : absent ∈ absentOpenings) : ¬ Begins absent e.message := by
  intro begins
  obtain ⟨opening, known, begins'⟩ := arises.begins
  obtain ⟨not_shorter, not_longer⟩ := openings_apart opening known absent member
  exact (List.prefix_or_prefix_of_prefix begins'.toList begins.toList).elim not_shorter not_longer

/-- The reading of a text says what checking the text does. -/
theorem exists_ofText? (decls : Declarations) (text : String) :
    ∃ r, ofText? decls text = some r ∧ r.expr = (Filter.check decls text).1 ∧
      match (Filter.check decls text).2 with
      | .ok ty => r.errors = [] ∧ r.ty = some ty
      | .error e => r.errors = [e] ∧ r.ty = none := by
  obtain ⟨e, j, run, returns⟩ := Grammar.performTokens_returns (tokens decls text)
  have parsed : Grammar.parse decls text = ⟨e, j.memory.errors.head?⟩ :=
    Grammar.parseTokens_eq_of_returns returns
  have errors_le := returns.sound.memory.errors_le
  refine ⟨(ofJournal e j).typed decls, by rw [ofText?, run]; rfl, ?_⟩
  rw [Filter.check, parsed]
  cases errors : j.memory.errors with
  | nil =>
    cases typed : e.typeIn decls with
    | ok ty => simp [ofJournal, Reading.typed, errors, typed]
    | error ill => simp [ofJournal, Reading.typed, Reading.note, errors, typed]
  | cons why others =>
    obtain rfl : others = [] := by
      rw [errors, List.length_cons] at errors_le
      exact List.length_eq_zero_iff.1 (by omega)
    simp [ofJournal, Reading.typed, errors]

/-- The errors that a text can have. -/
theorem arises_of_check {decls : Declarations} {text : String} {e : FilterError}
    (failed : (Filter.check decls text).2 = .error e) : e.Arises := by
  obtain ⟨readable, no_integer⟩ := Grammar.parse_readable decls text
  rw [Filter.check] at failed
  split at failed
  · rename_i why found
    cases failed
    cases why with
    | invalidInteger a => exact absurd found (no_integer a)
    | _ => trivial
  · split at failed
    · cases failed
    · rename_i wrong
      cases failed
      exact readable.liesInOperands wrong

private theorem check_expr (decls : Declarations) (text : String) :
    (Filter.check decls text).1 = (Grammar.parse decls text).expr := by
  rw [Filter.check]
  split
  · rfl
  · split <;> rfl

private theorem compile_eq (decls : Declarations) (text : String) :
    Filter.compile decls text = (Filter.check decls text).2.map (⟨(Filter.check decls text).1, ·⟩) := by
  rw [Filter.compile]
  generalize Filter.check decls text = checked
  obtain ⟨e, ty | err⟩ := checked <;> rfl

/-- Every text has a reading, filter or not, and it is what compiling the text
says. All nodes of its tree are of a text; there is a type if there is no error
and otherwise one error; and no message is one of those that only trees put
together by hand have, or that say that the reading was not finished. -/
theorem reading_of_text (decls : Declarations) (text : String) :
    ∃ r, ofText? decls text = some r ∧
      r.expr = (Filter.check decls text).1 ∧
      r.finish = (Filter.compile decls text).mapError .invalid ∧
      (∀ part : Expr, part.IsPartOf r.expr → part.IsOfText decls) ∧
      r.errors.length ≤ 1 ∧ (r.ty.isSome ↔ r.errors = []) ∧
      (∀ e ∈ r.errors, ∀ absent ∈ absentOpenings, ¬ Begins absent e.message) ∧
      ∀ why, r.finish = .error why → ∀ absent ∈ absentOpenings, ¬ Begins absent why.message := by
  obtain ⟨r, read, expr_eq, outcome⟩ := exists_ofText? decls text
  have readable : r.expr.Readable decls := by
    rw [expr_eq, check_expr]
    exact (Grammar.parse_readable decls text).1
  have parts (part : Expr) (within : part.IsPartOf r.expr) : part.IsOfText decls :=
    (within.readable readable).isOfText
  refine ⟨r, read, expr_eq, ?_⟩
  rw [compile_eq, ← expr_eq]
  cases checked : (Filter.check decls text).2 with
  | ok ty =>
    obtain ⟨errors, typed⟩ : r.errors = [] ∧ r.ty = some ty := by rwa [checked] at outcome
    have finished : r.finish = .ok ⟨r.expr, ty⟩ := by rw [finish, errors, typed, List.head?_nil]
    rw [finished]
    exact ⟨rfl, parts, by simp [errors], by simp [errors, typed], by simp [errors], nofun⟩
  | error e =>
    obtain ⟨errors, typed⟩ : r.errors = [e] ∧ r.ty = none := by rwa [checked] at outcome
    have finished : r.finish = .error (.invalid e) := by rw [finish, errors, typed, List.head?_cons]
    have absent : ∀ absent ∈ absentOpenings, ¬ Begins absent e.message :=
      fun _ member => not_begins_of_arises (arises_of_check checked) member
    rw [finished]
    refine ⟨rfl, parts, by simp [errors], by simp [errors, typed], by simpa [errors] using absent, ?_⟩
    rintro why ⟨⟩
    exact absent

end Reading

end ChatSieve
