import ChatSieve.Text.Lines
import Mathlib.Algebra.GroupWithZero.Nat

/-!
# Lines of composed texts

A line is cut off at its line feed, and what comes after it does not matter.
So the lines of a text behind whole lines are the same as without them
(`byteLines_append`), and whole lines are as many as their line feeds
(`length_byteLines`). Texts with a line feed behind each are its lines just if
there is no other line feed (`splitOn_ended_eq_iff`).
-/

namespace ChatSieve.Text

variable {α : Type} [DecidableEq α] {feed ret : α}

/-- Lines that are all ended: nothing, or a line feed comes last. -/
def AreWhole (feed : α) (s : List α) : Prop := s = [] ∨ s.getLast? = some feed

/-- A line that is ended comes first, whatever follows. -/
theorem linesAfter_line (current : List α) {line : List α} (no_feed : feed ∉ line) (rest : List α) :
    linesAfter feed ret current (line ++ feed :: rest) =
      dropReturn ret (current.reverse ++ line) :: linesAfter feed ret [] rest := by
  induction line generalizing current with
  | nil =>
    rw [List.nil_append, linesAfter, if_pos rfl, List.append_nil]
  | cons x line ih =>
    have not_here : x ≠ feed := (List.ne_of_not_mem_cons no_feed).symm
    have not_later : feed ∉ line := List.not_mem_of_not_mem_cons no_feed
    rw [List.cons_append, linesAfter, if_neg not_here, ih (x :: current) not_later]
    simp

/-- The last line need not be ended. -/
theorem linesAfter_last (current : List α) {line : List α} (no_feed : feed ∉ line)
    (nonempty : current.reverse ++ line ≠ []) :
    linesAfter feed ret current line = [current.reverse ++ line] := by
  induction line generalizing current with
  | nil => simp_all [linesAfter]
  | cons x line ih =>
    have not_here : x ≠ feed := (List.ne_of_not_mem_cons no_feed).symm
    have not_later : feed ∉ line := List.not_mem_of_not_mem_cons no_feed
    rw [linesAfter, if_neg not_here, ih (x :: current) not_later (by simp)]
    simp

/-- At its line feed a text falls apart into its lines. -/
theorem linesAfter_append (current : List α) {s : List α} (ended : s.getLast? = some feed)
    (t : List α) :
    linesAfter feed ret current (s ++ t) =
      linesAfter feed ret current s ++ linesAfter feed ret [] t := by
  induction s generalizing current with
  | nil => cases ended
  | cons x s ih =>
    have rest_ended (current : List α) (some_left : s ≠ []) :
        linesAfter feed ret current (s ++ t) =
          linesAfter feed ret current s ++ linesAfter feed ret [] t := by
      apply ih
      rw [List.getLast?_cons_of_ne_nil some_left] at ended
      exact ended
    by_cases none_left : s = []
    · subst none_left
      obtain rfl : x = feed := Option.some.inj ended
      rw [List.singleton_append, linesAfter, linesAfter, if_pos rfl, if_pos rfl]
      rfl
    · rw [List.cons_append, linesAfter, linesAfter]
      split
      · rw [rest_ended [] none_left, List.cons_append]
      · exact rest_ended (x :: current) none_left

private theorem length_linesAfter (current : List α) {s : List α} (ended : s.getLast? = some feed) :
    (linesAfter feed ret current s).length = s.count feed := by
  induction s generalizing current with
  | nil => cases ended
  | cons x s ih =>
    by_cases none_left : s = []
    · subst none_left
      obtain rfl : x = feed := Option.some.inj ended
      simp [linesAfter]
    · rw [List.getLast?_cons_of_ne_nil none_left] at ended
      rw [linesAfter, List.count_cons]
      by_cases is_feed : x = feed
      · rw [if_pos is_feed, List.length_cons, ih [] ended]
        simp [is_feed]
      · rw [if_neg is_feed, ih (x :: current) ended]
        simp [is_feed]

/-- Texts, each with a line feed behind it. -/
def ended (feed : α) (texts : List (List α)) : List α := texts.flatMap (· ++ [feed])

theorem count_ended (texts : List (List α)) :
    (ended feed texts).count feed = texts.length + (texts.map (List.count feed)).sum := by
  induction texts with
  | nil => rfl
  | cons t texts ih =>
    rw [ended] at ih ⊢
    simp only [List.flatMap_cons, List.count_append, List.count_singleton_self, List.length_cons,
      List.map_cons, List.sum_cons, ih]
    omega

/-- A text has as many parts as line feeds, and one more. -/
theorem length_splitOn (s : List α) : (s.splitOn feed).length = s.count feed + 1 := by
  induction s with
  | nil => rfl
  | cons x s ih =>
    rw [List.splitOn_cons_eq_if_modifyHead, List.count_cons]
    by_cases is_feed : x = feed
    · simp [is_feed, ih]
    · simp [is_feed, ih]

private theorem splitOn_ended {texts : List (List α)} (no_feed : ∀ t ∈ texts, feed ∉ t) :
    (ended feed texts).splitOn feed = texts ++ [[]] := by
  induction texts with
  | nil => rfl
  | cons t texts ih =>
    obtain ⟨here, later⟩ := List.forall_mem_cons.1 no_feed
    rw [ended] at ih ⊢
    rw [List.flatMap_cons, List.append_assoc, List.singleton_append,
      List.splitOn_append_cons_self_of_not_mem here, ih later, List.cons_append]

/-- Only the line feeds behind the texts are there. -/
theorem count_ended_eq_iff (texts : List (List α)) :
    (ended feed texts).count feed = texts.length ↔ ∀ t ∈ texts, feed ∉ t := by
  rw [count_ended]
  induction texts with
  | nil => simp
  | cons t texts ih =>
    rw [List.forall_mem_cons, ← ih, ← List.count_eq_zero]
    simp only [List.length_cons, List.map_cons, List.sum_cons]
    omega

/-- Texts that are the lines have no line feeds, since a line has none. -/
theorem splitOn_ended_eq_iff (texts : List (List α)) :
    (ended feed texts).splitOn feed = texts ++ [[]] ↔ ∀ t ∈ texts, feed ∉ t := by
  constructor
  · intro split
    have parts : ((ended feed texts).splitOn feed).length = (ended feed texts).count feed + 1 :=
      length_splitOn _
    rw [split, List.length_append, List.length_singleton] at parts
    exact (count_ended_eq_iff texts).1 (by omega)
  · exact splitOn_ended

/-- Whole lines and what follows them are read apart. -/
theorem byteLines_append {a : List UInt8} (whole : AreWhole 10 a) (b : List UInt8) :
    byteLines (a ++ b) = byteLines a ++ byteLines b := by
  rcases whole with rfl | ended
  · rfl
  · exact linesAfter_append [] ended b

/-- Each line feed ends a line. -/
theorem length_byteLines {a : List UInt8} (whole : AreWhole 10 a) :
    (byteLines a).length = a.count 10 := by
  rcases whole with rfl | ended
  · rfl
  · exact length_linesAfter [] ended

/-- A line without a line feed in it and a carriage return at its end is itself. -/
theorem byteLines_line {line : List UInt8} (no_feed : 10 ∉ line)
    (no_return : line.getLast? ≠ some 13) (rest : List UInt8) :
    byteLines (line ++ 10 :: rest) = line :: byteLines rest := by
  rw [byteLines, linesAfter_line [] no_feed rest, List.reverse_nil, List.nil_append, dropReturn,
    if_neg no_return]
  rfl

theorem byteLines_last {line : List UInt8} (no_feed : 10 ∉ line) (nonempty : line ≠ []) :
    byteLines line = [line] :=
  linesAfter_last [] no_feed nonempty

end ChatSieve.Text
