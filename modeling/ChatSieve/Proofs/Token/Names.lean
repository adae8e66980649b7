import ChatSieve.Catalogue
import ChatSieve.Proofs.Token.Classification

/-!
# Declared names

Declarations under names that a filter text can hold, and the kinds of names
and integers under them. Those of the catalogue are such ones.
-/

namespace ChatSieve

open Text Token

/-- A word that is not an integer. -/
structure IsName (name : String) : Prop where
  some : name.toList ≠ []
  names : ∀ c ∈ name.toList, isNameChar c
  no_int : readInt64 name.toList = none

/-- All declarations are of names. -/
def Declarations.WellNamed (decls : Declarations) : Prop := ∀ entry ∈ decls, IsName entry.1

/-- All declarations are under texts without other characters than those of
words. They may also be integers. -/
def Declarations.AreWords (decls : Declarations) : Prop :=
  ∀ entry ∈ decls, ∀ c ∈ entry.1.toList, isNameChar c

theorem Declarations.AreWords.names {decls : Declarations} (words : decls.AreWords) {name : String}
    (declared : decls.declares name) : ∀ c ∈ name.toList, isNameChar c := by
  obtain ⟨entry, member, same⟩ := List.lookup_isSome_iff.1 declared
  rw [eq_of_beq same]
  exact words entry member

namespace Declarations.WellNamed

variable {decls : Declarations} (named : decls.WellNamed)

include named

theorem areWords : decls.AreWords := fun entry member => (named entry member).names

theorem isName {name : String} (declared : decls.declares name) : IsName name := by
  obtain ⟨entry, member, same⟩ := List.lookup_isSome_iff.1 declared
  rw [eq_of_beq same]
  exact named entry member

theorem isName_of_classify {name : String} (kind : classify decls name = .identifier) :
    IsName name :=
  named.isName (declares_of_classify kind)

/-- What can be read as an integer is one, however it is written. -/
theorem classify_of_readInt64 {text : String} {n : Int64} (read : readInt64 text.toList = some n) :
    classify decls text = .int := by
  have undeclared : decls.declares text = false := by
    refine Bool.eq_false_iff.2 fun declared => ?_
    rw [(named.isName declared).no_int] at read
    cases read
  have head : ∃ c rest, text.toList = c :: rest ∧ c ≠ '"' ∧ c ≠ 'r' := by
    obtain ⟨c, rest, same, digit, -⟩ | ⟨sign, digit, rest, same, signs, -⟩ := head_of_readInt64 read
    · refine ⟨c, rest, same, ?_, ?_⟩ <;> rintro rfl <;> cases digit
    · exact ⟨sign, _, same, by rcases signs with rfl | rfl <;> decide⟩
  obtain ⟨c, rest, same, no_quote, no_pattern⟩ := head
  have no_body : patternBody? text.toList = none := by
    rw [same, patternBody?.eq_def]
    split
    · rename_i equal
      exact absurd (List.cons.inj equal).1 no_pattern
    · rename_i equal
      exact absurd (List.cons.inj equal).1 no_pattern
    · rfl
  have no_string : isQuoted text.toList = false := by simp [same, isQuoted, no_quote]
  rw [classify_of_free (.inr (by simp [read])), classifyLiteral, no_body, no_string, undeclared, read]
  rfl

end Declarations.WellNamed

theorem Catalogue.wellNamed : declarations.WellNamed := by
  have all : declarations.all fun entry => !entry.1.toList.isEmpty &&
      entry.1.toList.all isNameChar && (readInt64 entry.1.toList).isNone := by
    decide +kernel
  intro entry member
  have named := List.all_eq_true.1 all entry member
  simp only [Bool.and_eq_true, Bool.not_eq_true', List.isEmpty_eq_false_iff, List.all_eq_true,
    Option.isNone_iff_eq_none] at named
  exact ⟨named.1.1, named.1.2, named.2⟩

end ChatSieve
