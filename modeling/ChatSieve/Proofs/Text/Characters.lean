import ChatSieve.Text.Blank
import ChatSieve.Token.Lexeme

/-!
# Classes of characters

Names have digits, but neither blanks nor quotes nor the characters of
operators. A text without blanks stays as it is where the blanks around it are
dropped, and with small letters in place of capitals it has the same blanks.
-/

namespace ChatSieve

namespace CodePoints

private theorem has_iff (s : CodePoints) (n : Nat) : s.has n ↔ ∃ iv ∈ s, iv.1 ≤ n ∧ n ≤ iv.2 := by
  induction s with
  | nil => simp [has]
  | cons iv s ih => simp [has, ih]

/-- No interval of the one set meets one of the other. -/
def apart (s t : CodePoints) : Bool :=
  s.all fun iv => t.all fun iv' => iv.2 < iv'.1 || iv'.2 < iv.1

private theorem not_has_of_apart {s t : CodePoints} (disjoint : apart s t) {n : Nat}
    (one : s.has n) :
    t.has n = false := by
  refine Bool.eq_false_iff.2 fun other => ?_
  obtain ⟨iv, member, above, below⟩ := (has_iff s n).1 one
  obtain ⟨iv', member', above', below'⟩ := (has_iff t n).1 other
  have ordered := List.all_eq_true.1 (List.all_eq_true.1 disjoint iv member) iv' member'
  simp only [Bool.or_eq_true, decide_eq_true_eq] at ordered
  omega

end CodePoints

namespace Text

private theorem dropWhile_isBlank {s : List Char} (shown : ∀ c ∈ s, isBlank c = false) :
    s.dropWhile isBlank = s := by
  cases s with
  | nil => rfl
  | cons c rest => simp [shown c List.mem_cons_self]

theorem trim_eq_self {s : List Char} (shown : ∀ c ∈ s, isBlank c = false) : trim s = s := by
  have backwards : ∀ c ∈ s.reverse, isBlank c = false := by
    intro c member
    exact shown c (List.mem_reverse.1 member)
  rw [trim, dropWhile_isBlank shown, dropWhile_isBlank backwards, List.reverse_reverse]

/-- The characters between two others, by their numbers. -/
theorem exists_of_between {first last c : Char} (above : first ≤ c) (below : c ≤ last) :
    ∃ n < last.toNat + 1 - first.toNat, c = Char.ofNat (first.toNat + n) := by
  have lower : first.toNat ≤ c.toNat := UInt32.le_iff_toNat_le.1 above
  have upper : c.toNat ≤ last.toNat := UInt32.le_iff_toNat_le.1 below
  refine ⟨c.toNat - first.toNat, by omega, ?_⟩
  rw [Nat.add_sub_cancel' lower, Char.ofNat_toNat]

/-- Small letters, and what are no letters, stay as they are. -/
theorem toLower_eq_self_or (c : Char) : c.toLower = c ∨ ∃ n < 26, c = Char.ofNat (65 + n) := by
  by_cases capital : 'A' ≤ c ∧ c ≤ 'Z'
  · exact .inr (exists_of_between capital.1 capital.2)
  · exact .inl (dif_neg capital)

private theorem isBlank_toLower (c : Char) : isBlank c.toLower = isBlank c := by
  have capitals : ∀ n < 26, isBlank (Char.ofNat (65 + n)).toLower = isBlank (Char.ofNat (65 + n)) := by
    decide
  obtain same | ⟨n, small, rfl⟩ := toLower_eq_self_or c
  · rw [same]
  · exact capitals n small

theorem trim_map_toLower (s : List Char) : trim (s.map Char.toLower) = (trim s).map Char.toLower := by
  have same : isBlank ∘ Char.toLower = isBlank := funext isBlank_toLower
  rw [trim, trim, List.dropWhile_map, same, ← List.map_reverse, List.dropWhile_map, same, List.map_reverse]

end Text

namespace Token
open Text

/-- The characters of the operators that are no words. -/
def isOperatorChar (c : Char) : Bool :=
  c ∈ ['<', '>', '!', '=', '|', '&', '+', '-', '*', '/', '%']

theorem isNameChar_of_isDigit {c : Char} (digit : c.isDigit) : isNameChar c := by
  have narrow : c.toNat < 128 :=
    Nat.lt_of_le_of_lt (Char.isDigit_iff_toNat.1 digit).2 (by decide)
  simp [isNameChar, isWord, narrow, Char.isAlphanum, digit]

/-- Neither blanks nor names nor literals begin with an operator. -/
theorem of_isOperatorChar {c : Char} (operator : isOperatorChar c) :
    isBlank c = false ∧ isNameChar c = false ∧ c ≠ '"' := by
  simp only [isOperatorChar, List.mem_cons, List.not_mem_nil, or_false, decide_eq_true_eq]
    at operator
  rcases operator with rfl | rfl | rfl | rfl | rfl | rfl | rfl | rfl | rfl | rfl | rfl <;> decide

theorem not_isOperatorChar_of_isNameChar {c : Char} (name : isNameChar c) :
    isOperatorChar c = false := by
  refine Bool.eq_false_iff.2 fun operator => ?_
  rw [(of_isOperatorChar operator).2.1] at name
  cases name

theorem not_isBlank_of_isNameChar {c : Char} (name : isNameChar c) : isBlank c = false := by
  have narrow_words : ∀ n < 128, isNameChar (Char.ofNat n) → blankPoints.has n = false := by
    decide +kernel
  have wide_words : CodePoints.apart wideWordPoints blankPoints := by decide +kernel
  by_cases narrow : c.toNat < 128
  · have found := narrow_words c.toNat narrow
    rw [Char.ofNat_toNat] at found
    exact found name
  · have no_dot : c ≠ '.' := by
      rintro rfl
      exact narrow (by decide)
    simp only [isNameChar, isWord, narrow, if_false, Bool.or_eq_true, beq_iff_eq, no_dot,
      or_false] at name
    exact CodePoints.not_has_of_apart wide_words name

end Token

end ChatSieve
