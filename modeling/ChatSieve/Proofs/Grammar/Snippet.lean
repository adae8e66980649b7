import ChatSieve.Proofs.Expr.Blame
import ChatSieve.Proofs.Grammar.Composed

/-!
# The source shown with a type error

A text whose tree has no type is rejected with the reason and the source of the
part to blame. That source shows the error by itself: it is rejected with the
same message as the whole text, unless its brackets take too many levels
(`ofText_snippet`).
-/

namespace ChatSieve
open Token Grammar

namespace Expr

private theorem literals_infix_allLiterals {e : Expr} {es : List Expr} (member : e ∈ es) :
    e.literals <:+: allLiterals es := by
  induction es with
  | nil => cases member
  | cons f fs ih =>
    rw [allLiterals]
    rcases List.mem_cons.1 member with rfl | later
    · exact (List.prefix_append _ _).isInfix
    · exact (ih later).trans (List.suffix_append _ _).isInfix

/-- The literals of a part stand together among those of the whole. -/
theorem IsPartOf.literals_infix {x e : Expr} (part : x.IsPartOf e) : x.literals <:+: e.literals := by
  induction part with
  | self => exact List.infix_rfl
  | item member part ih => exact ih.trans (literals_infix_allLiterals member)
  | operand op part ih => exact ih
  | left op r part ih => exact ih.trans (List.prefix_append _ _).isInfix
  | right op l part ih => exact ih.trans (List.suffix_append _ _).isInfix

end Expr

/-- The source of a part of the tree of a text parses to this part, unless its
brackets take too many levels. -/
theorem Grammar.parse_source_part {decls : Declarations} (named : decls.WellNamed) {text : String}
    {x e : Expr} (parsed : parse decls text = ⟨e, none⟩) (part : x.IsPartOf e) :
    (x.renderDepth ≤ maxDepth → parse decls x.source = ⟨x, none⟩) ∧
      (maxDepth < x.renderDepth → (parse decls x.source).error = some .tooDeep) := by
  obtain ⟨readable, closed⟩ := readable_of_parse parsed
  have part_closed : Closed x.literals := closed.sublist part.literals_infix.sublist
  exact parseTokens_of_derives (derives_source named (part.readable readable) part_closed)

namespace Filter

/-- A text with a tree is a filter or rejected for its types. -/
theorem compile_of_parse {decls : Declarations} {text : String} {e : Expr}
    (parsed : parse decls text = ⟨e, none⟩) :
    compile decls text =
      match e.typeIn decls with
      | .ok ty => .ok ⟨e, ty⟩
      | .error ill => .error (.illTyped ill) := by
  rw [compile, check, parsed]
  cases e.typeIn decls <;> rfl

/-- A text that parses and is rejected all the same is rejected with a reason
and the source of a part. By itself this source is rejected with the same
error, or it is nested too deeply. -/
theorem ofText_snippet {text : String} {why : FilterError}
    (parsed : (parse Catalogue.declarations text).error = none) (rejected : ofText text = .error why) :
    ∃ node reason, why = .illTyped ⟨node, reason⟩ ∧
      why.message = reason.message ++ "\n\nProblem occurred here:\n" ++ node.source ∧
      (node.renderDepth ≤ maxDepth → ofText node.source = .error why) ∧
      (maxDepth < node.renderDepth →
        ∃ deep, ofText node.source = .error deep ∧ deep.message = "Expression is nested too deeply") := by
  have tree : parse Catalogue.declarations text = ⟨(parse Catalogue.declarations text).expr, none⟩ := by
    rw [← parsed]
  rw [ofText, compile_of_parse tree] at rejected
  split at rejected
  · cases rejected
  · rename_i ill failed
    cases rejected
    obtain ⟨p, -, blames⟩ := Expr.exists_blamesAt failed
    obtain ⟨within, beyond⟩ := parse_source_part Catalogue.wellNamed tree blames.isPartOf
    refine ⟨ill.node, ill.reason, rfl, rfl, ?_, ?_⟩
    · intro enough
      rw [ofText, compile_of_parse (within enough), blames.typeIn_node]
    · intro few
      exact ⟨_, compile_of_error (beyond few), rfl⟩

/-- The part shown may end with an open literal. -/
theorem ofText_snippet_open_literal :
    ∃ why, ofText "flags.reply && !\"a\\\"" = .error why ∧
      why.message = "Can only negate boolean values\n\nProblem occurred here:\n(!\"a\\\")" ∧
      ofText "(!\"a\\\")" = .error why := by
  have found : tokens Catalogue.declarations "flags.reply && !\"a\\\"" =
      [⟨.identifier, "flags.reply"⟩, ⟨.and, "&&"⟩, ⟨.not, "!"⟩, ⟨.string, "\"a\\\""⟩] := by
    decide +kernel
  have parsed : parse Catalogue.declarations "flags.reply && !\"a\\\"" =
      ⟨.binary .and (.identifier "flags.reply") (.unary .not (.string "a\\")), none⟩ := by
    rw [parse, found]
    rfl
  have rejected : ofText "flags.reply && !\"a\\\"" =
      .error (.illTyped ⟨.unary .not (.string "a\\"), .negatedNonBool⟩) := by
    rw [ofText, compile_of_parse parsed]
    rfl
  obtain ⟨node, reason, same, -, within, -⟩ := ofText_snippet (by rw [parsed]) rejected
  cases same
  exact ⟨_, rejected, by decide, within (by decide)⟩

end Filter

end ChatSieve
