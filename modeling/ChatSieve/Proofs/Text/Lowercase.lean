import ChatSieve.Text.Lowercase

/-!
# Lowercase of a part of a text

The lowercase of a text is that of its parts one after the other, where each
part is seen between its neighbours (`lowercaseAfter_append`). Only the form of
a `Σ` depends on them. A part has the lowercase that it has by itself unless
one of two things happens to it: its last word ends with a `Σ` and goes on
behind it, or its first word is a `Σ` only and has begun before it
(`lowercaseBetween_eq_lowercase_iff`).
-/

namespace ChatSieve.Text

private theorem not_isCaseIgnorable_sigma : isCaseIgnorable 'Σ' = false := by decide +kernel

/-- All characters are skipped over when the end of a word is looked for. -/
def IsSkipped (s : List Char) : Prop := ∀ c ∈ s, isCaseIgnorable c

instance (s : List Char) : Decidable (IsSkipped s) := inferInstanceAs (Decidable (∀ c ∈ s, _))

private theorem isSkipped_reverse {s : List Char} : IsSkipped s.reverse ↔ IsSkipped s := by
  simp [IsSkipped]

private theorem casedNext_append_of_skipped {s : List Char} (skipped : IsSkipped s)
    (t : List Char) :
    casedNext (s ++ t) = casedNext t := by
  rw [casedNext, casedNext, List.dropWhile_append_of_pos skipped]

private theorem casedNext_of_skipped {s : List Char} (skipped : IsSkipped s) :
    casedNext s = false := by
  have same := casedNext_append_of_skipped skipped []
  rw [List.append_nil] at same
  rw [same]
  rfl

/-- Only the first character that is not skipped over counts. -/
theorem casedNext_append_of_not_skipped {s : List Char} (counts : ¬ IsSkipped s) (t : List Char) :
    casedNext (s ++ t) = casedNext s := by
  have some_left : s.dropWhile isCaseIgnorable ≠ [] := by
    intro none_left
    have whole := List.takeWhile_append_dropWhile (p := isCaseIgnorable) (l := s)
    rw [none_left, List.append_nil] at whole
    rw [← whole] at counts
    exact counts (List.all_eq_true.1 List.all_takeWhile)
  obtain ⟨c, rest, left⟩ := List.exists_cons_of_ne_nil some_left
  simp [casedNext, List.dropWhile_append, left]

/-- The first character that is not skipped over. -/
theorem dropWhile_eq_sigma_iff {s rest : List Char} :
    s.dropWhile isCaseIgnorable = 'Σ' :: rest ↔ ∃ skipped, s = skipped ++ 'Σ' :: rest ∧ IsSkipped skipped := by
  constructor
  · intro left
    refine ⟨s.takeWhile isCaseIgnorable, ?_, ?_⟩
    · rw [← left, List.takeWhile_append_dropWhile]
    · exact List.all_eq_true.1 List.all_takeWhile
  · rintro ⟨skipped, rfl, all⟩
    rw [List.dropWhile_append_of_pos all, List.dropWhile_cons_of_neg]
    simp [not_isCaseIgnorable_sigma]

/-- The lowercase of a text between two others, of which the one before it is
kept backwards. -/
def lowercaseBetween (before : List Char) : List Char → List Char → List Char
  | [], _ => []
  | c :: rest, after =>
    (if c = 'Σ' then [if endsWord before (rest ++ after) then 'ς' else 'σ'] else lowerChar c)
      ++ lowercaseBetween (c :: before) rest after

theorem lowercaseBetween_nil (before s : List Char) :
    lowercaseBetween before s [] = lowercaseAfter before s := by
  induction s generalizing before with
  | nil => rfl
  | cons c rest ih => rw [lowercaseBetween, lowercaseAfter, ih, List.append_nil]

/-- The lowercase of two texts together is that of each of them beside the
other. -/
theorem lowercaseAfter_append (before s t : List Char) :
    lowercaseAfter before (s ++ t) =
      lowercaseBetween before s t ++ lowercaseAfter (s.reverse ++ before) t := by
  induction s generalizing before with
  | nil => rfl
  | cons c rest ih =>
    rw [List.cons_append, lowercaseAfter, lowercaseBetween, ih, List.append_assoc,
      List.reverse_cons, List.append_assoc, List.singleton_append]

/-- The neighbours of a text do not change the length of its lowercase. -/
theorem length_lowercaseBetween (before before' s after after' : List Char) :
    (lowercaseBetween before s after).length = (lowercaseBetween before' s after').length := by
  induction s generalizing before before' with
  | nil => rfl
  | cons c rest ih =>
    rw [lowercaseBetween, lowercaseBetween, List.length_append, List.length_append,
      ih (c :: before) (c :: before')]
    by_cases sigma : c = 'Σ' <;> simp [sigma]

/-- Beside different neighbours a text has one lowercase just if every `Σ` has
one form. -/
theorem lowercaseBetween_eq_iff (before before' s after after' : List Char) :
    lowercaseBetween before s after = lowercaseBetween before' s after' ↔
      ∀ front back, s = front ++ 'Σ' :: back →
        endsWord (front.reverse ++ before) (back ++ after) =
          endsWord (front.reverse ++ before') (back ++ after') := by
  induction s generalizing before before' with
  | nil => simp [lowercaseBetween]
  | cons c rest ih =>
    have length_eq := length_lowercaseBetween (c :: before) (c :: before') rest after after'
    have later := ih (c :: before) (c :: before')
    have first : ((if c = 'Σ' then [if endsWord before (rest ++ after) then 'ς' else 'σ']
          else lowerChar c) =
        if c = 'Σ' then [if endsWord before' (rest ++ after') then 'ς' else 'σ'] else lowerChar c) ↔
        (c = 'Σ' → endsWord before (rest ++ after) = endsWord before' (rest ++ after')) := by
      by_cases sigma : c = 'Σ'
      · cases endsWord before (rest ++ after) <;> cases endsWord before' (rest ++ after') <;>
          simp [sigma]
      · simp [sigma]
    rw [lowercaseBetween, lowercaseBetween]
    constructor
    · intro same front back split
      obtain ⟨here, there⟩ := List.append_inj' same length_eq
      cases front with
      | nil =>
        obtain ⟨rfl, rfl⟩ := List.cons.inj split
        exact first.1 here rfl
      | cons d front =>
        obtain ⟨rfl, others⟩ := List.cons.inj split
        simpa using later.1 there front back others
    · intro forms
      rw [first.2, later.2]
      · intro front back split
        simpa using forms (c :: front) back (by rw [split]; rfl)
      · rintro rfl
        simpa using forms [] rest rfl

/-- The last word of the text ends with a `Σ`, and with more than that. -/
def endsInSigma (s : List Char) : Bool :=
  match s.reverse.dropWhile isCaseIgnorable with
  | 'Σ' :: before => casedNext before
  | _ => false

/-- The first word of the text is a `Σ` only, if this follows. -/
def beginsWithSigma (s after : List Char) : Bool :=
  match s.dropWhile isCaseIgnorable with
  | 'Σ' :: rest => !casedNext (rest ++ after)
  | _ => false

private theorem endsInSigma_iff (s : List Char) :
    endsInSigma s ↔
      ∃ front back, s = front ++ 'Σ' :: back ∧ casedNext front.reverse ∧ IsSkipped back := by
  constructor
  · intro ends
    rw [endsInSigma] at ends
    split at ends
    · rename_i before left
      obtain ⟨skipped, same, all⟩ := dropWhile_eq_sigma_iff.1 left
      refine ⟨before.reverse, skipped.reverse, ?_, ?_, ?_⟩
      · rw [← List.reverse_reverse s, same]
        simp
      · rw [List.reverse_reverse]
        exact ends
      · exact isSkipped_reverse.2 all
    · cases ends
  · rintro ⟨front, back, rfl, cased, all⟩
    have left : (front ++ 'Σ' :: back).reverse.dropWhile isCaseIgnorable = 'Σ' :: front.reverse := by
      apply dropWhile_eq_sigma_iff.2
      exact ⟨back.reverse, by simp, isSkipped_reverse.2 all⟩
    rw [endsInSigma, left]
    exact cased

private theorem beginsWithSigma_iff (s after : List Char) :
    beginsWithSigma s after ↔
      ∃ front back, s = front ++ 'Σ' :: back ∧ IsSkipped front ∧ casedNext (back ++ after) = false := by
  constructor
  · intro begins
    rw [beginsWithSigma] at begins
    split at begins
    · rename_i rest left
      obtain ⟨skipped, same, all⟩ := dropWhile_eq_sigma_iff.1 left
      exact ⟨skipped, rest, same, all, by simpa using begins⟩
    · cases begins
  · rintro ⟨front, back, rfl, all, none_after⟩
    rw [beginsWithSigma, dropWhile_eq_sigma_iff.2 ⟨front, rfl, all⟩]
    simpa using none_after

/-- What follows can only keep a first `Σ` from being a word. -/
theorem beginsWithSigma_nil {s after : List Char} (begins : beginsWithSigma s after) :
    beginsWithSigma s [] := by
  obtain ⟨front, back, split, all, none_after⟩ := (beginsWithSigma_iff s after).1 begins
  refine (beginsWithSigma_iff s []).2 ⟨front, back, split, all, ?_⟩
  rw [List.append_nil]
  by_cases skipped : IsSkipped back
  · exact casedNext_of_skipped skipped
  · rw [← casedNext_append_of_not_skipped skipped after, none_after]

/-- A `Σ` has the form that it has without the neighbours, unless it is the end
of a word that goes on, or a word by itself that has begun before. -/
theorem endsWord_between_iff (before front back after : List Char) :
    endsWord (front.reverse ++ before) (back ++ after) = endsWord front.reverse back ↔
      ¬ (casedNext front.reverse ∧ IsSkipped back ∧ casedNext after) ∧
      ¬ (IsSkipped front ∧ casedNext (back ++ after) = false ∧ casedNext before) := by
  by_cases front_skipped : IsSkipped front
  · have reversed := isSkipped_reverse.2 front_skipped
    rw [endsWord, endsWord, casedNext_append_of_skipped reversed, casedNext_of_skipped reversed]
    simp [front_skipped, and_comm]
  · have reversed : ¬ IsSkipped front.reverse := mt isSkipped_reverse.1 front_skipped
    rw [endsWord, endsWord, casedNext_append_of_not_skipped reversed]
    by_cases back_skipped : IsSkipped back
    · rw [casedNext_append_of_skipped back_skipped, casedNext_of_skipped back_skipped]
      simp [front_skipped, back_skipped]
    · rw [casedNext_append_of_not_skipped back_skipped]
      simp [front_skipped, back_skipped]

/-- Between two other texts a text has its own lowercase just if neither its
last word goes on from a `Σ` nor its first word, a `Σ`, has begun before. -/
theorem lowercaseBetween_eq_lowercase_iff (before s after : List Char) :
    lowercaseBetween before s after = lowercase s ↔
      ¬ (endsInSigma s ∧ casedNext after) ∧ ¬ (beginsWithSigma s after ∧ casedNext before) := by
  rw [lowercase, ← lowercaseBetween_nil, lowercaseBetween_eq_iff, endsInSigma_iff, beginsWithSigma_iff]
  simp only [List.append_nil]
  constructor
  · intro forms
    constructor
    · rintro ⟨⟨front, back, split, cased, all⟩, goes_on⟩
      exact ((endsWord_between_iff _ _ _ _).1 (forms front back split)).1 ⟨cased, all, goes_on⟩
    · rintro ⟨⟨front, back, split, all, none_after⟩, begun⟩
      exact ((endsWord_between_iff _ _ _ _).1 (forms front back split)).2 ⟨all, none_after, begun⟩
  · rintro ⟨no_end, no_begin⟩ front back split
    apply (endsWord_between_iff _ _ _ _).2
    constructor
    · rintro ⟨cased, all, goes_on⟩
      exact no_end ⟨⟨front, back, split, cased, all⟩, goes_on⟩
    · rintro ⟨all, none_after, begun⟩
      exact no_begin ⟨⟨front, back, split, all, none_after⟩, begun⟩

end ChatSieve.Text
