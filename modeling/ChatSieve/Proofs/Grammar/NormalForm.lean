import ChatSieve.Evaluation
import ChatSieve.Proofs.Grammar.Composed
import ChatSieve.Proofs.Grammar.Operands
import ChatSieve.Proofs.Message.Context

/-!
# Logic without brackets

Identifiers that are true or false, some of them behind a `!`, with `&&` between
those of a clause and with `||` between the clauses. The text is a filter that
holds of a message just if all of some clause does. The place of a clause and
the operators in it add up, and what they come to must not be more than the
levels that there are (`Filter.ofText_normalForm`).
-/

namespace ChatSieve
open Text Token Grammar

/-- An identifier of the catalogue that is true or false, or its negation. -/
structure NormalForm.Literal where
  name : String
  negated : Bool
  declared : Catalogue.declarations.typeOf? name = some .bool

/-- All of the literals have to be true. -/
abbrev NormalForm.Clause := Operands NormalForm.Literal

/-- One of the clauses has to be true. -/
abbrev NormalForm := Operands NormalForm.Clause

namespace NormalForm

namespace Literal

variable (l : Literal)

def text : String := (if l.negated then "!" else "") ++ l.name

def lexemes : List (List Char) := (if l.negated then [['!']] else []) ++ [l.name.toList]

def expr : Expr := if l.negated then .unary .not (.identifier l.name) else .identifier l.name

/-- The identifier has the value that the literal asks for. -/
def IsTrue (vars : Bindings) : Prop := vars.valueOf l.name = .bool (!l.negated)

theorem declares : Catalogue.declarations.declares l.name := by
  rw [Declarations.declares, l.declared]
  rfl

theorem lexesAs : Operands.LexesAs l.text l.lexemes := by
  intro rest ends
  have name := Catalogue.wellNamed.isName l.declares
  have apart := apart_of_blank ends
  have word := lexemes_word name.some name.names fun c next => ⟨(apart c next).1, (apart c next).2.1⟩
  obtain ⟨first, others, split⟩ := List.exists_cons_of_ne_nil name.some
  cases negated : l.negated with
  | false => simpa [text, lexemes, negated] using word
  | true =>
    have not_sign : Token.lexemes (['!'] ++ (l.name.toList ++ rest)) =
        ['!'] :: Token.lexemes (l.name.toList ++ rest) := by
      refine lexemes_operator (by decide) ?_
      intro c next
      obtain rfl : first = c := by simpa [split] using next
      exact not_isOperatorChar_of_isNameChar (name.names first (by simp [split]))
    simpa [text, lexemes, negated, word] using not_sign

theorem derives :
    Derives .negation (l.lexemes.map (ofLexeme Catalogue.declarations)) l.expr 0 := by
  have word : ofLexeme Catalogue.declarations l.name.toList = ⟨.identifier, l.name⟩ := by
    rw [ofLexeme, String.ofList_toList, Catalogue.classify_of_declares l.declares]
  have not_sign : ofLexeme Catalogue.declarations ['!'] = ⟨.not, "!"⟩ :=
    ofLexeme_of_fixed _ (by decide)
  have condition : Derives .condition [⟨.identifier, l.name⟩] (.identifier l.name) 0 :=
    .plain (.firstOperand (.token (.identifier l.name)))
  cases negated : l.negated with
  | false => simpa [lexemes, expr, negated, word] using condition.assertion
  | true => simpa [lexemes, expr, negated, word, not_sign] using condition.denial "!"

theorem typeIn_expr : l.expr.typeIn Catalogue.declarations = .ok .bool := by
  have identifier : (Expr.identifier l.name).typeIn Catalogue.declarations = .ok .bool := by
    rw [Expr.typeIn, l.declared]
  cases negated : l.negated with
  | false => simpa [expr, negated] using identifier
  | true => simpa [expr, negated] using Expr.typeIn_unary.2 ⟨_, identifier, rfl⟩

/-- Where the identifier has a value of its type, the literal is true or false. -/
theorem eval_expr {vars : Bindings} (fit : vars.Fit Catalogue.declarations) :
    (l.expr.eval vars).Decides (l.IsTrue vars) := by
  obtain ⟨b, value⟩ := (fit l.name .bool l.declared).exists_bool
  have identifier : ((Expr.identifier l.name).eval vars).Decides (vars.valueOf l.name = .bool true) :=
    ⟨b, value, by simp [value]⟩
  cases negated : l.negated with
  | false => simpa [expr, IsTrue, negated] using identifier
  | true =>
    have opposite : (¬ vars.valueOf l.name = .bool true) ↔ l.IsTrue vars := by
      simp [IsTrue, negated, value]
    have denial := identifier.not
    rw [opposite] at denial
    simpa [expr, negated, Expr.eval] using denial

end Literal

namespace Clause

variable (c : Clause)

def text : String := " && ".intercalate (c.toList.map Literal.text)

def lexemes : List (List Char) := Operands.lexemes ['&', '&'] Literal.lexemes c

def expr : Expr := Operands.tree .and Literal.expr c

theorem lexesAs : Operands.LexesAs c.text c.lexemes :=
  Operands.lexesAs_intercalate (by decide) (by decide) Literal.lexesAs c

/-- A clause takes a level for each of its operators. -/
theorem derives :
    Derives .conjunction (c.lexemes.map (ofLexeme Catalogue.declarations)) c.expr c.others.length := by
  have ampersands : (ofLexeme Catalogue.declarations ['&', '&']).kind = .and :=
    kind_of_fixed _ (by decide)
  have chain := Derives.operands (l := .and) ampersands rfl Literal.derives c
  rw [Operands.toList, Operands.need_of_free fun _ => rfl, Nat.zero_add] at chain
  exact .conjunction chain

end Clause

variable (d : NormalForm)

def text : String := " || ".intercalate (d.toList.map Clause.text)

def lexemes : List (List Char) := Operands.lexemes ['|', '|'] Clause.lexemes d

def expr : Expr := Operands.tree .or Clause.expr d

/-- The clauses before a clause and the operators in it are no more than the
levels that there are. -/
def Fits : Prop := ∀ i c, d.toList[i]? = some c → i + c.toList.length - 1 ≤ maxDepth

/-- The levels that the text takes. -/
def need : Nat := Operands.need (fun c : Clause => c.others.length) 0 d.toList

theorem need_le_iff : d.need ≤ maxDepth ↔ d.Fits := by
  rw [need, Operands.need_le_iff, Fits]
  simp [Operands.length_toList, ← Nat.add_assoc]

private theorem tokens_text :
    tokens Catalogue.declarations d.text = d.lexemes.map (ofLexeme Catalogue.declarations) := by
  have found := Operands.lexesAs_intercalate (by decide : ['|', '|'] ∈ operatorTexts)
    (show " || ".toList = _ by decide) Clause.lexesAs d [] (by simp)
  rw [List.append_nil, Token.lexemes, List.append_nil] at found
  rw [tokens, text, found, lexemes]

theorem derives : Derives .expression (tokens Catalogue.declarations d.text) d.expr d.need := by
  have bars : (ofLexeme Catalogue.declarations ['|', '|']).kind = .or := kind_of_fixed _ (by decide)
  rw [tokens_text]
  exact .expression (Derives.operands (l := .or) bars rfl Clause.derives d)

theorem typeIn_expr : d.expr.typeIn Catalogue.declarations = .ok .bool :=
  Operands.typeIn_tree rfl (fun c => Operands.typeIn_tree rfl Literal.typeIn_expr c) d

theorem eval_expr {vars : Bindings} (fit : vars.Fit Catalogue.declarations) :
    (d.expr.eval vars).Decides (∃ c ∈ d.toList, ∀ l ∈ c.toList, l.IsTrue vars) :=
  Operands.eval_tree_or (fun c => Operands.eval_tree_and (fun l => l.eval_expr fit) c) d

end NormalForm

namespace Filter

/-- A text without brackets is a filter, and a truth value, just if no clause
comes too late or is too long for the levels that there are. Then the filter is
true for a message if all literals of a clause are, and otherwise false. A text
that does not fit is nested too deeply. -/
theorem ofText_normalForm (d : NormalForm) :
    (d.Fits ↔ ∃ f, ofText d.text = .ok f ∧ f.ty = .bool) ∧
    (∀ f, ofText d.text = .ok f → ∀ channels log,
      List.Forall₂ (fun (r : Message.Recorded) (e : Evaluation) =>
          e.result.Decides
            (∃ c ∈ d.toList, ∀ l ∈ c.toList, l.IsTrue (r.message.bindings channels)))
        log (f.evaluate channels log)) ∧
    (¬ d.Fits → ∃ why, ofText d.text = .error why ∧ why.message = "Expression is nested too deeply") := by
  obtain ⟨within, beyond⟩ := parseTokens_of_derives d.derives
  have fitting (fits : d.Fits) : ofText d.text = .ok ⟨d.expr, .bool⟩ :=
    (compile_eq_ok_iff _ _ _).2 ⟨within (d.need_le_iff.2 fits), d.typeIn_expr⟩
  have failing (more : ¬ d.Fits) : ofText d.text = .error (.malformed .tooDeep) :=
    compile_of_error (beyond (Nat.lt_of_not_le fun enough => more (d.need_le_iff.1 enough)))
  have fits {f : Filter} (compiled : ofText d.text = .ok f) : d.Fits := by
    by_contra more
    rw [failing more] at compiled
    cases compiled
  refine ⟨⟨fun fits => ⟨_, fitting fits, rfl⟩, fun ⟨f, compiled, _⟩ => fits compiled⟩, ?_,
    fun more => ⟨_, failing more, rfl⟩⟩
  intro f compiled channels log
  obtain rfl := Except.ok.inj ((fitting (fits compiled)).symm.trans compiled)
  rw [evaluate, List.forall₂_map_right_iff, List.forall₂_same]
  exact fun r _ => d.eval_expr (r.message.bindings_fit channels)

end Filter

end ChatSieve
