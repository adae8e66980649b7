import ChatSieve.Json.Reader
import ChatSieve.Json.Writer
import ChatSieve.Proofs.Text.Decimal

/-!
# Reading back strings and integers

The text of a string is read up to its closing quote as that string
(`readString_stringText`), whatever characters it has: the ones that have to be
escaped come back from their escapes, the other ones stand for themselves. The
text of an integer is read up to a character that no number goes on with
(`readNumber_intText`).
-/

namespace ChatSieve.Json

open ChatSieve.Text

/-- What the reader makes of a character that was written: a control character
without an escape of its own comes back as a code unit. -/
def unitOf (c : Char) : Unit16 :=
  if c.toNat < 0x20 ∧ c ∉ ['\n', '\r', '\t', '\x08', '\x0C'] then .escape c.toNat else .char c

private theorem hexValue4?_digits : ∀ n < 0x20,
    hexValue4? '0' '0' (hexDigitOf (n / 16)) (hexDigitOf (n % 16)) = some n := by
  decide

/-- An escape of a letter stands for its character. -/
theorem readUnits_letter {letter c : Char} (escaped : escaped? letter = some c)
    (rest : List Char) :
    readUnits ('\\' :: letter :: rest) =
      (readUnits rest).map fun (units, after) => (.char c :: units, after) := by
  have no_code : letter ≠ 'u' := by
    rintro rfl
    cases escaped
  rw [readUnits]
  · rw [escaped]
    cases readUnits rest <;> rfl
  · intro _ _ _ _ _ same
    exact absurd same no_code

/-- An escape of a code stands for a code unit. -/
theorem readUnits_code {a b c d : Char} {n : Nat} (value : hexValue4? a b c d = some n)
    (rest : List Char) :
    readUnits ('\\' :: 'u' :: a :: b :: c :: d :: rest) =
      (readUnits rest).map fun (units, after) => (.escape n :: units, after) := by
  rw [readUnits, value]
  cases readUnits rest <;> rfl

/-- A character that need not be escaped stands for itself. -/
theorem readUnits_plain {c : Char} (no_quote : c ≠ '"') (no_backslash : c ≠ '\\')
    (wide : ¬ c.toNat < 0x20) (rest : List Char) :
    readUnits (c :: rest) =
      (readUnits rest).map fun (units, after) => (.char c :: units, after) := by
  rw [readUnits.eq_def]
  split
  · rename_i same
    cases same
  · rename_i same
    cases same
    exact absurd rfl no_quote
  · rename_i same
    cases same
    exact absurd rfl no_backslash
  · rename_i same
    cases same
    exact absurd rfl no_backslash
  · rename_i same
    cases same
    rw [if_neg wide]
    cases readUnits rest <;> rfl

private theorem readUnits_escape (c : Char) (rest : List Char) :
    readUnits (escape c ++ rest) =
      (readUnits rest).map fun (units, after) => (unitOf c :: units, after) := by
  rw [escape.eq_def]
  split
  · exact readUnits_letter rfl rest
  · exact readUnits_letter rfl rest
  · exact readUnits_letter rfl rest
  · exact readUnits_letter rfl rest
  · exact readUnits_letter rfl rest
  · rename_i no_quote no_backslash no_feed no_return no_tab
    split
    · rename_i is
      obtain rfl : c = '\x08' := Char.toNat_inj.1 is
      exact readUnits_letter rfl rest
    · rename_i no_backspace
      split
      · rename_i is
        obtain rfl : c = '\x0C' := Char.toNat_inj.1 is
        exact readUnits_letter rfl rest
      · rename_i no_form_feed
        split
        · rename_i narrow
          have coded : unitOf c = .escape c.toNat := by
            refine if_pos ⟨narrow, ?_⟩
            rintro member
            simp only [List.mem_cons, List.not_mem_nil, or_false] at member
            rcases member with rfl | rfl | rfl | rfl | rfl <;> contradiction
          rw [coded]
          exact readUnits_code (hexValue4?_digits c.toNat narrow) rest
        · rename_i wide
          rw [unitOf, if_neg fun both => wide both.1]
          exact readUnits_plain no_quote no_backslash wide rest

private theorem readUnits_flatMap_escape (s rest : List Char) :
    readUnits (s.flatMap escape ++ '"' :: rest) = some (s.map unitOf, rest) := by
  induction s with
  | nil => rfl
  | cons c s ih =>
    rw [List.flatMap_cons, List.append_assoc, readUnits_escape, ih]
    rfl

/-- A code unit that is no half of a character is one. -/
theorem textOfUnits?_code {n : Nat} (no_high : isHigh n = false) (no_low : isLow n = false)
    (units : List Unit16) :
    textOfUnits? (.escape n :: units) = (textOfUnits? units).map (Char.ofNat n :: ·) := by
  cases units with
  | nil => simp [textOfUnits?, no_high, no_low]
  | cons unit units => cases unit <;> simp [textOfUnits?, no_high, no_low]

private theorem textOfUnits?_unitOf (s : List Char) : textOfUnits? (s.map unitOf) = some s := by
  induction s with
  | nil => rfl
  | cons c s ih =>
    rw [List.map_cons, unitOf]
    split
    · rename_i coded
      have no_high : isHigh c.toNat = false := by simp [isHigh]; omega
      have no_low : isLow c.toNat = false := by simp [isLow]; omega
      rw [textOfUnits?_code no_high no_low, ih, Char.ofNat_toNat]
      rfl
    · rw [textOfUnits?, ih]
      rfl

/-- A string is read up to its closing quote. -/
theorem readString_stringText (s : String) (rest : List Char) :
    readString (s.toList.flatMap escape ++ '"' :: rest) = some (some s, rest) := by
  rw [readString, readUnits_flatMap_escape]
  simp [textOfUnits?_unitOf]

/-- A number does not go on with what follows. -/
def EndsNumber (rest : List Char) : Prop :=
  ∀ c ∈ rest.head?, c.isDigit = false ∧ c ≠ '.' ∧ c ≠ 'e' ∧ c ≠ 'E'

private theorem readFraction_of_endsNumber {rest : List Char} (ends : EndsNumber rest) :
    readFraction rest = some ([], rest) := by
  rw [readFraction.eq_def]
  split
  · exact absurd rfl (ends '.' rfl).2.1
  · rfl

private theorem readExponent_of_endsNumber {rest : List Char} (ends : EndsNumber rest) :
    readExponent rest = some ([], rest) := by
  cases rest with
  | nil => rfl
  | cons c rest =>
    obtain ⟨-, -, no_small, no_large⟩ := ends c rfl
    simp [readExponent, no_small, no_large]

private theorem readDigits_append {ds rest : List Char} (nonempty : ds ≠ [])
    (digits : ∀ c ∈ ds, c.isDigit) (ends : EndsNumber rest) :
    readDigits (ds ++ rest) = some (ds, rest) := by
  have ends_digits : EndsDigits rest := fun c head => (ends c head).1
  rw [readDigits, takeWhile_isDigit digits ends_digits, dropWhile_isDigit digits ends_digits]
  cases ds with
  | nil => exact absurd rfl nonempty
  | cons d ds => rfl

private theorem readWhole_toDigits (n : Nat) {rest : List Char} (ends : EndsNumber rest) :
    readWhole (Nat.toDigits 10 n ++ rest) = some (Nat.toDigits 10 n, rest) := by
  rw [readWhole.eq_def]
  split
  · rename_i leading
    obtain ⟨none, -⟩ | ⟨front, digits, follows⟩ := List.append_eq_cons_iff.1 leading
    · exact absurd none Nat.toDigits_ne_nil
    · obtain rfl := eq_zero_of_toDigits digits
      obtain rfl : [] = front := (List.cons.inj digits).2
      rw [follows, List.nil_append]
      rfl
  · have digits : ∀ c ∈ Nat.toDigits 10 n, c.isDigit := fun c =>
      Nat.isDigit_of_mem_toDigits (by decide) (by decide)
    exact readDigits_append Nat.toDigits_ne_nil digits ends

private theorem readUnsigned_toDigits (n : Nat) {rest : List Char} (ends : EndsNumber rest) :
    readUnsigned (Nat.toDigits 10 n ++ rest) = some (Nat.toDigits 10 n, rest) := by
  simp [readUnsigned, readWhole_toDigits n ends, readFraction_of_endsNumber ends,
    readExponent_of_endsNumber ends]

/-- An integer is read up to what follows it. -/
theorem readNumber_intText (i : Int) {rest : List Char} (ends : EndsNumber rest) :
    readNumber (intText i ++ rest) = some (intText i, rest) := by
  cases i with
  | ofNat n =>
    rw [intText, readNumber.eq_def]
    split
    · rename_i leading
      obtain ⟨none, -⟩ | ⟨front, digits, -⟩ := List.append_eq_cons_iff.1 leading
      · exact absurd none Nat.toDigits_ne_nil
      · have minus : '-' ∈ Nat.toDigits 10 n := by simp [digits]
        cases Nat.isDigit_of_mem_toDigits (by decide) (by decide) minus
    · exact readUnsigned_toDigits n ends
  | negSucc n =>
    rw [intText, List.cons_append, readNumber, readUnsigned_toDigits _ ends]
    rfl

end ChatSieve.Json
