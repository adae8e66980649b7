import ChatSieve.Proofs.Expr.Typing
import ChatSieve.Proofs.Text.Lowercase

/-!
# Parts of strings

The tests on strings disregard case by comparing lowercase texts, and these do
not always have the lowercase of a part as a part. So the tests miss some parts
that are there letter by letter, as `ΟΔΟΣ` at the beginning of `ΟΔΟΣΑ`, where
its `Σ` does not end the word. Which parts are missed is told exactly
(`substring_tests`): only those whose first or last word hangs on a `Σ` and is
one with the text beside it.
-/

namespace ChatSieve.Text

theorem occursIn_iff_infix (part s : List Char) : occursIn part s ↔ part <:+: s := by
  induction s with
  | nil => simp [occursIn]
  | cons c rest ih => simp [occursIn, ih, List.infix_cons_iff]

section
variable {α : Type} {p q : List α}

private theorem prefix_append_iff (length_eq : p.length = q.length) (r : List α) :
    p <+: q ++ r ↔ p = q := by
  constructor
  · rintro ⟨rest, same⟩
    exact (List.append_inj same length_eq).1
  · rintro rfl
    exact List.prefix_append p r

private theorem suffix_append_iff (length_eq : p.length = q.length) (r : List α) :
    p <:+ r ++ q ↔ p = q := by
  constructor
  · rintro ⟨rest, same⟩
    exact (List.append_inj' same length_eq).2
  · rintro rfl
    exact List.suffix_append r p

/-- A part that leaves out one of the outermost items. -/
theorem eq_or_getLast?_of_infix (length_eq : p.length = q.length) {x : α} (inside : p <:+: q ++ [x]) :
    p = q ∨ p.getLast? = some x := by
  rcases List.infix_concat_iff.1 inside with at_end | before_end
  · rcases List.suffix_concat_iff.1 at_end with rfl | ⟨rest, rfl, -⟩
    · exact .inl (List.length_eq_zero_iff.1 length_eq.symm).symm
    · exact .inr List.getLast?_concat
  · exact .inl (before_end.eq_of_length length_eq)

private theorem eq_or_head?_of_infix (length_eq : p.length = q.length) {x : α}
    (inside : p <:+: x :: q) :
    p = q ∨ p.head? = some x := by
  rcases List.infix_cons_iff.1 inside with at_start | after_start
  · rcases List.prefix_cons_iff.1 at_start with rfl | ⟨rest, rfl, -⟩
    · exact .inl (List.length_eq_zero_iff.1 length_eq.symm).symm
    · exact .inr rfl
  · exact .inl (after_start.eq_of_length length_eq)

end

private theorem lowercase_append (s t : List Char) :
    lowercase (s ++ t) = lowercaseBetween [] s t ++ lowercaseBetween s.reverse t [] := by
  rw [lowercase, lowercaseAfter_append, List.append_nil, lowercaseBetween_nil]

private theorem lowercase_middle (before t after : List Char) :
    lowercase (before ++ t ++ after) =
      lowercaseBetween [] before (t ++ after) ++
        (lowercaseBetween before.reverse t after ++
          lowercaseBetween (t.reverse ++ before.reverse) after []) := by
  rw [List.append_assoc, lowercase, lowercaseAfter_append, lowercaseAfter_append, List.append_nil,
    lowercaseBetween_nil]

private theorem length_lowercaseBetween_eq (before t after : List Char) :
    (lowercase t).length = (lowercaseBetween before t after).length := by
  rw [lowercase, ← lowercaseBetween_nil, length_lowercaseBetween]

/-- A string starts with its beginning, unless this ends with a `Σ` in the
middle of a word. -/
theorem startsIgnoringCase_append_iff (t after : String) :
    startsIgnoringCase (t ++ after) t ↔ ¬ (endsInSigma t.toList ∧ casedNext after.toList) := by
  have kept := lowercaseBetween_eq_lowercase_iff [] t.toList after.toList
  have nothing_before : casedNext [] = false := rfl
  rw [startsIgnoringCase, List.isPrefixOf_iff_prefix, String.toList_append, lowercase_append,
    prefix_append_iff (length_lowercaseBetween_eq _ _ _), eq_comm, kept]
  simp [nothing_before]

/-- A string ends with its end, unless this is a `Σ` that ends a word only. -/
theorem endsIgnoringCase_append_iff (before t : String) :
    endsIgnoringCase (before ++ t) t ↔
      ¬ (beginsWithSigma t.toList [] ∧ casedNext before.toList.reverse) := by
  have kept := lowercaseBetween_eq_lowercase_iff before.toList.reverse t.toList []
  have nothing_after : casedNext [] = false := rfl
  rw [endsIgnoringCase, List.isSuffixOf_iff_suffix, String.toList_append, lowercase_append,
    suffix_append_iff (length_lowercaseBetween_eq _ _ _), eq_comm, kept]
  simp [nothing_after]

/-- A part is found where it has its own lowercase. -/
theorem containsIgnoringCase_append {before t after : String}
    (no_end : ¬ (endsInSigma t.toList ∧ casedNext after.toList))
    (no_begin : ¬ (beginsWithSigma t.toList after.toList ∧ casedNext before.toList.reverse)) :
    containsIgnoringCase (before ++ t ++ after) t := by
  have kept := (lowercaseBetween_eq_lowercase_iff before.toList.reverse t.toList after.toList).2
    ⟨no_end, no_begin⟩
  rw [containsIgnoringCase, occursIn_iff_infix, String.toList_append, String.toList_append,
    lowercase_middle, kept]
  exact ⟨_, _, List.append_assoc _ _ _⟩

/-- A letter of which a word can be made longer, and which differs from a given
one. -/
theorem exists_letter (other : Option Char) :
    ∃ x : Char, other ≠ some x ∧ casedNext [x] ∧
      (∀ before, lowercaseBetween before [x] [] = [x]) ∧ ∀ after, lowercaseBetween [] [x] after = [x] := by
  have cased : casedNext ['a'] ∧ casedNext ['b'] := by decide +kernel
  by_cases differs : other = some 'a'
  · refine ⟨'b', by simp [differs], cased.2, ?_, ?_⟩
    · intro before
      rfl
    · intro after
      rfl
  · refine ⟨'a', differs, cased.1, ?_, ?_⟩
    · intro before
      rfl
    · intro after
      rfl

/-- Behind a part that ends with a `Σ` a letter hides it. -/
theorem exists_hidden_before {t : List Char} (ends : endsInSigma t) :
    ∃ x, ¬ lowercase t <:+: lowercase (t ++ [x]) := by
  obtain ⟨x, differs, cased, same, -⟩ := exists_letter (lowercase t).getLast?
  refine ⟨x, ?_⟩
  intro inside
  rw [lowercase_append, same] at inside
  rcases eq_or_getLast?_of_infix (length_lowercaseBetween_eq _ _ _) inside with kept | last
  · exact ((lowercaseBetween_eq_lowercase_iff _ _ _).1 kept.symm).1 ⟨ends, cased⟩
  · exact differs last

/-- Before a part that is a `Σ` only a letter hides it. -/
theorem exists_hidden_behind {t : List Char} (begins : beginsWithSigma t []) :
    ∃ x, ¬ lowercase t <:+: lowercase ([x] ++ t) := by
  obtain ⟨x, differs, cased, -, same⟩ := exists_letter (lowercase t).head?
  refine ⟨x, ?_⟩
  intro inside
  rw [lowercase_append, same] at inside
  rcases eq_or_head?_of_infix (length_lowercaseBetween_eq _ _ _) inside with kept | first
  · exact ((lowercaseBetween_eq_lowercase_iff _ _ _).1 kept.symm).2 ⟨begins, cased⟩
  · exact differs first

/-- The parts that are found in whatever text they are. -/
theorem forall_containsIgnoringCase_iff (t : String) :
    (∀ before after, containsIgnoringCase (before ++ t ++ after) t) ↔
      ¬ endsInSigma t.toList ∧ ¬ beginsWithSigma t.toList [] := by
  constructor
  · intro found
    constructor
    · intro ends
      obtain ⟨x, hidden⟩ := exists_hidden_before ends
      have inside := found "" (String.ofList [x])
      rw [containsIgnoringCase, occursIn_iff_infix] at inside
      apply hidden
      simpa using inside
    · intro begins
      obtain ⟨x, hidden⟩ := exists_hidden_behind begins
      have inside := found (String.ofList [x]) ""
      rw [containsIgnoringCase, occursIn_iff_infix] at inside
      apply hidden
      simpa using inside
  · rintro ⟨no_end, no_begin⟩ before after
    apply containsIgnoringCase_append
    · rintro ⟨ends, -⟩
      exact no_end ends
    · rintro ⟨begins, -⟩
      exact no_begin (beginsWithSigma_nil begins)

end ChatSieve.Text

namespace ChatSieve
open Text

/-- Which parts of a string its tests find. The beginning of a string is found
unless it ends with a `Σ` and the word goes on behind it. The end of a string
is found unless its first word is a `Σ` that belongs to a word before it. What
is neither of these where it stands is found as a part of the string, and the
parts that are found in every string are those that begin and end otherwise. -/
theorem substring_tests (t : String) :
    (∀ after, binaryValue .startsWith (.string (t ++ after)) (.string t) = .bool true ↔
      ¬ (endsInSigma t.toList ∧ casedNext after.toList)) ∧
    (∀ before, binaryValue .endsWith (.string (before ++ t)) (.string t) = .bool true ↔
      ¬ (beginsWithSigma t.toList [] ∧ casedNext before.toList.reverse)) ∧
    (∀ before after, ¬ (endsInSigma t.toList ∧ casedNext after.toList) →
      ¬ (beginsWithSigma t.toList after.toList ∧ casedNext before.toList.reverse) →
      binaryValue .contains (.string (before ++ t ++ after)) (.string t) = .bool true) ∧
    ((∀ before after,
        binaryValue .contains (.string (before ++ t ++ after)) (.string t) = .bool true) ↔
      ¬ endsInSigma t.toList ∧ ¬ beginsWithSigma t.toList []) := by
  have starts (s : String) : binaryValue .startsWith (.string s) (.string t) =
      .bool (startsIgnoringCase s t) := rfl
  have ends (s : String) : binaryValue .endsWith (.string s) (.string t) =
      .bool (endsIgnoringCase s t) := rfl
  have contains (s : String) : binaryValue .contains (.string s) (.string t) =
      .bool (containsIgnoringCase s t) := rfl
  simp only [starts, ends, contains, Value.bool.injEq]
  refine ⟨?_, ?_, ?_, ?_⟩
  · exact startsIgnoringCase_append_iff t
  · intro before
    exact endsIgnoringCase_append_iff before t
  · intro before after
    exact containsIgnoringCase_append
  · exact forall_containsIgnoringCase_iff t

/-- A word that ends with a `Σ` is found between blanks. -/
theorem substring_tests_word :
    ¬ (endsInSigma "ΟΔΟΣ".toList ∧ casedNext " ΜΟΥ".toList) ∧
      ¬ (beginsWithSigma "ΟΔΟΣ".toList " ΜΟΥ".toList ∧ casedNext "Η ".toList.reverse) ∧
      binaryValue .contains (.string "Η ΟΔΟΣ ΜΟΥ") (.string "ΟΔΟΣ") = .bool true := by
  have no_end : ¬ (endsInSigma "ΟΔΟΣ".toList ∧ casedNext " ΜΟΥ".toList) := by decide +kernel
  have no_begin :
      ¬ (beginsWithSigma "ΟΔΟΣ".toList " ΜΟΥ".toList ∧ casedNext "Η ".toList.reverse) := by
    decide +kernel
  exact ⟨no_end, no_begin, (substring_tests "ΟΔΟΣ").2.2.1 "Η " " ΜΟΥ" no_end no_begin⟩

/-- A string with letters behind a part that ends with a `Σ` neither contains
this part nor starts with it, and one that ends with a `Σ` does not end with
that letter. -/
theorem substring_missed :
    "ΟΔΟΣΑ" = "ΟΔΟΣ" ++ "Α" ∧
      binaryValue .contains (.string "ΟΔΟΣΑ") (.string "ΟΔΟΣ") = .bool false ∧
      binaryValue .startsWith (.string "ΟΔΟΣΑ") (.string "ΟΔΟΣ") = .bool false ∧
      "ΟΔΟΣ" = "ΟΔΟ" ++ "Σ" ∧
      binaryValue .endsWith (.string "ΟΔΟΣ") (.string "Σ") = .bool false ∧
      ∃ f, Filter.ofText "\"ΟΔΟΣΑ\" contains \"ΟΔΟΣ\"" = .ok f ∧ f.eval [] = .bool false := by
  have no_part : containsIgnoringCase "ΟΔΟΣΑ" "ΟΔΟΣ" = false := by decide +kernel
  have no_start : startsIgnoringCase "ΟΔΟΣΑ" "ΟΔΟΣ" = false := by decide +kernel
  have no_end : endsIgnoringCase "ΟΔΟΣ" "Σ" = false := by decide +kernel
  have found : Token.tokens Catalogue.declarations "\"ΟΔΟΣΑ\" contains \"ΟΔΟΣ\"" =
      [⟨.string, "\"ΟΔΟΣΑ\""⟩, ⟨.contains, "contains"⟩, ⟨.string, "\"ΟΔΟΣ\""⟩] := by
    decide +kernel
  have compiled : Filter.ofText "\"ΟΔΟΣΑ\" contains \"ΟΔΟΣ\"" =
      .ok ⟨.binary .contains (.string "ΟΔΟΣΑ") (.string "ΟΔΟΣ"), .bool⟩ := by
    refine (Filter.compile_eq_ok_iff _ _ _).2 ⟨?_, rfl⟩
    rw [Grammar.parse, found]
    rfl
  exact ⟨rfl, congrArg Value.bool no_part, congrArg Value.bool no_start, rfl,
    congrArg Value.bool no_end, _, compiled, congrArg Value.bool no_part⟩

end ChatSieve
