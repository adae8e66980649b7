import ChatSieve.Token

/-!
# Nothing is lost between tokens

A text consists of its tokens in their order, with gaps before, between and
after them that are blank (`tokens_lossless`). Every lexeme is cut off where
the text is not blank and takes at least that character, whichever of its
forms it has, so that no other character is left for the gaps.
-/

namespace ChatSieve.Token
open ChatSieve.Text

/-- Words with a gap before each of them and one after the last. -/
def weave : List (List Char) → List (List Char) → List Char
  | gap :: gaps, word :: words => gap ++ (word ++ weave gaps words)
  | gaps, _ => gaps.flatten

theorem weave_nil (gaps : List (List Char)) : weave gaps [] = gaps.flatten := by
  cases gaps <;> rfl

/-- Gaps for some words, all of them blank. -/
structure AreGaps (gaps words : List (List Char)) : Prop where
  length_eq : gaps.length = words.length + 1
  blank : ∀ gap ∈ gaps, ∀ c ∈ gap, isBlank c

namespace AreGaps

variable {gaps words : List (List Char)}

/-- There is always a first gap, and a blank in front goes to it. -/
theorem widen (are : AreGaps gaps words) {c : Char} (blank : isBlank c) :
    ∃ wider, AreGaps wider words ∧ weave wider words = c :: weave gaps words := by
  obtain ⟨length_eq, all_blank⟩ := are
  cases gaps with
  | nil => cases length_eq
  | cons gap gaps =>
    obtain ⟨first, others⟩ := List.forall_mem_cons.1 all_blank
    refine ⟨(c :: gap) :: gaps, ⟨length_eq, ?_⟩, ?_⟩
    · exact List.forall_mem_cons.2 ⟨List.forall_mem_cons.2 ⟨blank, first⟩, others⟩
    · cases words <;> rfl

/-- A word in front comes after a gap without a blank. -/
theorem prepend (are : AreGaps gaps words) (word : List Char) :
    AreGaps ([] :: gaps) (word :: words) where
  length_eq := by rw [List.length_cons, List.length_cons, are.length_eq]
  blank := List.forall_mem_cons.2 ⟨List.forall_mem_nil _, are.blank⟩

/-- The characters that are not blank are those of the words. -/
theorem filter_weave (are : AreGaps gaps words) :
    (weave gaps words).filter (!isBlank ·) = words.flatten.filter (!isBlank ·) := by
  have no_other {gap : List Char} (blank : ∀ c ∈ gap, isBlank c) : gap.filter (!isBlank ·) = [] := by
    refine List.filter_eq_nil_iff.2 fun c member => ?_
    simp [blank c member]
  obtain ⟨length_eq, all_blank⟩ := are
  induction words generalizing gaps with
  | nil =>
    refine (no_other fun c member => ?_).trans rfl
    rw [weave_nil, List.mem_flatten] at member
    obtain ⟨gap, among, inside⟩ := member
    exact all_blank gap among c inside
  | cons word words ih =>
    cases gaps with
    | nil => cases length_eq
    | cons gap gaps =>
      obtain ⟨first, others⟩ := List.forall_mem_cons.1 all_blank
      rw [weave, List.filter_append, List.filter_append, no_other first,
        ih (Nat.succ.inj length_eq) others, List.flatten_cons, List.filter_append, List.nil_append]

end AreGaps

/-- A text is its lexemes with blank gaps. -/
theorem exists_gaps (s : List Char) : ∃ gaps, AreGaps gaps (lexemes s) ∧ s = weave gaps (lexemes s) := by
  fun_induction lexemes s with
  | case1 => exact ⟨[[]], ⟨rfl, by simp⟩, rfl⟩
  | case2 c rest blank ih =>
    obtain ⟨gaps, are, same⟩ := ih
    obtain ⟨wider, still, woven⟩ := are.widen blank
    exact ⟨wider, still, by rw [woven, ← same]⟩
  | case3 c rest no_blank ih =>
    obtain ⟨gaps, are, same⟩ := ih
    refine ⟨[] :: gaps, are.prepend _, ?_⟩
    rw [weave, List.nil_append, ← same]
    exact (nextLexeme_isCut c rest).1.symm

/-- No lexeme is empty or begins with a blank. -/
theorem head_of_mem_lexemes {s lexeme : List Char} (member : lexeme ∈ lexemes s) :
    ∃ c rest, lexeme = c :: rest ∧ isBlank c = false := by
  fun_induction lexemes s with
  | case1 => cases member
  | case2 c rest blank ih => exact ih member
  | case3 c rest no_blank ih =>
    rcases List.mem_cons.1 member with rfl | later
    · obtain ⟨whole, some⟩ := nextLexeme_isCut c rest
      obtain ⟨d, taken, split⟩ := List.exists_cons_of_ne_nil some
      rw [split, List.cons_append] at whole
      exact ⟨d, taken, split, (List.cons.inj whole).1 ▸ Bool.eq_false_iff.2 no_blank⟩
    · exact ih later

theorem map_toList_tokens (decls : Declarations) (text : String) :
    (tokens decls text).map (·.text.toList) = lexemes text.toList := by
  simp [tokens, ofLexeme, Function.comp_def]

/-- A text is its tokens with blank gaps before, between and after them. No
token is empty or begins with a blank, and the characters of the text that are
not blank are those of the tokens, each as often and in the same order. -/
theorem tokens_lossless (decls : Declarations) (text : String) :
    (∃ gaps : List (List Char), gaps.length = (tokens decls text).length + 1 ∧
      (∀ gap ∈ gaps, ∀ c ∈ gap, isBlank c) ∧
      text.toList = weave gaps ((tokens decls text).map (·.text.toList))) ∧
    (∀ t ∈ tokens decls text, ∃ c rest, t.text.toList = c :: rest ∧ isBlank c = false) ∧
    ((tokens decls text).flatMap (·.text.toList)).filter (!isBlank ·) =
      text.toList.filter (!isBlank ·) := by
  obtain ⟨gaps, are, same⟩ := exists_gaps text.toList
  rw [List.flatMap_def, map_toList_tokens]
  refine ⟨⟨gaps, ?_, are.blank, same⟩, fun t member => ?_, ?_⟩
  · rw [are.length_eq, ← map_toList_tokens decls, List.length_map]
  · have lexeme := List.mem_map_of_mem (f := (·.text.toList)) member
    rw [map_toList_tokens] at lexeme
    exact head_of_mem_lexemes lexeme
  · rw [← are.filter_weave, ← same]

/-- A quote that only closes as the last one, operators that run together, a
wide blank as a gap, a character that belongs to nothing, and a word. -/
example : lexemes "\"a\\\" <=!\u2003\\ é".toList =
    [['"', 'a', '\\', '"'], ['<', '=', '!'], ['\\'], ['é']] := by
  decide +kernel

end ChatSieve.Token
