import ChatSieve.Text.Blank
import ChatSieve.Text.Word

/-!
# Lexemes

How a filter text falls apart. At each position that is not blank the first of
these that fits is cut off: a quoted literal, a word, a run of operators, or a
single character. Blanks only separate.
-/

namespace ChatSieve.Token

open ChatSieve.Text

/-- The rest of a literal after its opening quote, up to and with the closing
quote, and what follows. The first quote without a backslash before it closes;
where there is none, the last quote does. -/
def literalTail? : List Char → Option (List Char × List Char)
  | [] => none
  | '"' :: rest => some (['"'], rest)
  | '\\' :: '"' :: rest =>
    match literalTail? rest with
    | some (tail, after) => some ('\\' :: '"' :: tail, after)
    | none => some (['\\', '"'], rest)
  | c :: rest => (literalTail? rest).map fun (tail, after) => (c :: tail, after)

/-- A literal at the head of a text: quoted, with `r` or `ri` before the quote
for a pattern. -/
def literal? : List Char → Option (List Char × List Char)
  | '"' :: rest => (literalTail? rest).map fun (tail, after) => ('"' :: tail, after)
  | 'r' :: '"' :: rest => (literalTail? rest).map fun (tail, after) => ('r' :: '"' :: tail, after)
  | 'r' :: 'i' :: '"' :: rest =>
    (literalTail? rest).map fun (tail, after) => ('r' :: 'i' :: '"' :: tail, after)
  | _ => none

/-- A character of a word: names have dots inside. -/
def isNameChar (c : Char) : Bool := isWord c || c == '.'

/-- The longest word at the head of a text. -/
def word? (s : List Char) : Option (List Char × List Char) :=
  match s.takeWhile isNameChar with
  | [] => none
  | w => some (w, s.dropWhile isNameChar)

/-- The operators at the head of a text, as many as follow each other. -/
def operatorRun : List Char → List Char × List Char
  | '<' :: '=' :: rest => let (run, after) := operatorRun rest; ('<' :: '=' :: run, after)
  | '>' :: '=' :: rest => let (run, after) := operatorRun rest; ('>' :: '=' :: run, after)
  | '!' :: '=' :: rest => let (run, after) := operatorRun rest; ('!' :: '=' :: run, after)
  | '=' :: '=' :: rest => let (run, after) := operatorRun rest; ('=' :: '=' :: run, after)
  | '|' :: '|' :: rest => let (run, after) := operatorRun rest; ('|' :: '|' :: run, after)
  | '&' :: '&' :: rest => let (run, after) := operatorRun rest; ('&' :: '&' :: run, after)
  | c :: rest =>
    if c ∈ ['<', '>', '!', '+', '-', '*', '/', '%'] then
      let (run, after) := operatorRun rest
      (c :: run, after)
    else ([], c :: rest)
  | [] => ([], [])

def operators? (s : List Char) : Option (List Char × List Char) :=
  if (operatorRun s).1.isEmpty then none else some (operatorRun s)

/-- The lexeme that begins with `c`, and what follows it. -/
def nextLexeme (c : Char) (rest : List Char) : List Char × List Char :=
  match literal? (c :: rest) with
  | some cut => cut
  | none =>
    match word? (c :: rest) with
    | some cut => cut
    | none =>
      match operators? (c :: rest) with
      | some cut => cut
      | none => ([c], rest)

/-- A text in two parts, of which the first one holds something. -/
def IsCut (s : List Char) (cut : List Char × List Char) : Prop := cut.1 ++ cut.2 = s ∧ cut.1 ≠ []

theorem IsCut.length_lt {s : List Char} {cut : List Char × List Char} (h : IsCut s cut) :
    cut.2.length < s.length := by
  have some_taken := List.length_pos_iff.2 h.2
  rw [← h.1, List.length_append]
  omega

/-- Characters before a text go to the first part. -/
theorem IsCut.prepend {s : List Char} {cut : List Char × List Char} (h : IsCut s cut)
    (front : List Char) : IsCut (front ++ s) (front ++ cut.1, cut.2) :=
  ⟨by rw [List.append_assoc, h.1], fun none_taken => h.2 (List.append_eq_nil_iff.1 none_taken).2⟩

theorem literalTail?_isCut {s : List Char} {cut : List Char × List Char}
    (h : literalTail? s = some cut) : IsCut s cut := by
  fun_induction literalTail? s generalizing cut with
  | case1 => cases h
  | case2 rest =>
    cases h
    exact ⟨rfl, List.cons_ne_nil _ _⟩
  | case3 rest tail after found ih =>
    cases h
    exact (ih found).prepend ['\\', '"']
  | case4 rest =>
    cases h
    exact ⟨rfl, List.cons_ne_nil _ _⟩
  | case5 c rest _ _ ih =>
    obtain ⟨tail, found, rfl⟩ := Option.map_eq_some_iff.1 h
    exact (ih found).prepend [c]

theorem literal?_isCut {s : List Char} {cut : List Char × List Char} (h : literal? s = some cut) :
    IsCut s cut := by
  rw [literal?.eq_def] at h
  split at h
  · obtain ⟨tail, found, rfl⟩ := Option.map_eq_some_iff.1 h
    exact (literalTail?_isCut found).prepend ['"']
  · obtain ⟨tail, found, rfl⟩ := Option.map_eq_some_iff.1 h
    exact (literalTail?_isCut found).prepend ['r', '"']
  · obtain ⟨tail, found, rfl⟩ := Option.map_eq_some_iff.1 h
    exact (literalTail?_isCut found).prepend ['r', 'i', '"']
  · cases h

theorem word?_isCut {s : List Char} {cut : List Char × List Char} (h : word? s = some cut) :
    IsCut s cut := by
  rw [word?] at h
  split at h
  · cases h
  · rename_i word none_else
    cases h
    exact ⟨List.takeWhile_append_dropWhile, none_else⟩

theorem operatorRun_append (s : List Char) : (operatorRun s).1 ++ (operatorRun s).2 = s := by
  fun_induction operatorRun s <;> simp_all

theorem operators?_isCut {s : List Char} {cut : List Char × List Char}
    (h : operators? s = some cut) : IsCut s cut := by
  rw [operators?] at h
  split at h
  · cases h
  · rename_i some_taken
    cases h
    exact ⟨operatorRun_append s, fun none_taken => some_taken (List.isEmpty_iff.2 none_taken)⟩

/-- A lexeme takes at least one character, and nothing is lost. -/
theorem nextLexeme_isCut (c : Char) (rest : List Char) :
    IsCut (c :: rest) (nextLexeme c rest) := by
  rw [nextLexeme]
  split
  · rename_i cut found
    exact literal?_isCut found
  · split
    · rename_i cut found
      exact word?_isCut found
    · split
      · rename_i cut found
        exact operators?_isCut found
      · exact ⟨rfl, List.cons_ne_nil _ _⟩

/-- The lexemes of a text, in order. -/
def lexemes : List Char → List (List Char)
  | [] => []
  | c :: rest =>
    if isBlank c then lexemes rest
    else (nextLexeme c rest).1 :: lexemes (nextLexeme c rest).2
termination_by s => s.length
decreasing_by
  · simp
  · exact (nextLexeme_isCut c rest).length_lt

end ChatSieve.Token
