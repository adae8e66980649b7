import ChatSieve.Text.Decimal
import Mathlib.Algebra.Group.Nat.Defs

/-!
# Reading and writing integers

The decimal text of a 64-bit integer is read as that integer
(`readInt64_int64Text`). What is read as an integer is not empty, and it is
negative only after a minus sign. A number filled up to a width that it fits in
has that width (`length_padded`) and keeps its value (`ofDigitChars_padded`).
-/

namespace ChatSieve.Text

theorem digitsValue?_toDigits (n : Nat) : digitsValue? (Nat.toDigits 10 n) = some n := by
  have digits : (Nat.toDigits 10 n).all Char.isDigit :=
    List.all_eq_true.2 fun _ => Nat.isDigit_of_mem_toDigits (by decide) (by decide)
  simp [digitsValue?, digits, Nat.toDigits_ne_nil, Nat.ofDigitChars_ten_toDigits]

/-- Only zero begins with the digit zero. -/
theorem eq_zero_of_toDigits {n : Nat} :
    ∀ {rest : List Char}, Nat.toDigits 10 n = '0' :: rest → n = 0 := by
  induction n using Nat.strongRecOn with
  | ind n ih =>
    intro rest digits
    rcases Nat.lt_or_ge n 10 with small | large
    · rw [Nat.toDigits_of_lt_base small] at digits
      obtain ⟨digit, rfl⟩ := List.cons.inj digits
      have value := Nat.ofDigitChars_ten_toDigits (n := n)
      rw [Nat.toDigits_of_lt_base small, digit] at value
      exact value.symm
    · rw [Nat.toDigits_of_base_le (by decide) large] at digits
      obtain ⟨front, -⟩ | ⟨front, leading, -⟩ := List.append_eq_cons_iff.1 digits
      · exact absurd front Nat.toDigits_ne_nil
      · have := ih (n / 10) (by omega) leading
        omega

/-- What has a value begins with a digit. -/
theorem digit_of_digitsValue? {s : List Char} {n : Nat} (value : digitsValue? s = some n) :
    ∃ c rest, s = c :: rest ∧ c.isDigit := by
  cases s with
  | nil => cases value
  | cons c rest =>
    rw [digitsValue?] at value
    split at value
    · cases value
    · rename_i digits
      exact ⟨c, rest, rfl, by simp_all⟩

/-- Digits without a sign are a number. -/
theorem signedValue?_of_digit {c : Char} {rest : List Char} (digit : c.isDigit) :
    signedValue? (c :: rest) = (digitsValue? (c :: rest)).map Int.ofNat := by
  rw [signedValue?.eq_def]
  split
  · rename_i same
    cases same
    cases digit
  · rename_i same
    cases same
    cases digit
  · rfl

private theorem signedValue?_intText (i : Int) : signedValue? (intText i) = some i := by
  cases i with
  | ofNat n =>
    obtain ⟨c, rest, digits, digit⟩ := digit_of_digitsValue? (digitsValue?_toDigits n)
    rw [intText, digits, signedValue?_of_digit digit, ← digits, digitsValue?_toDigits]
    rfl
  | negSucc n =>
    simp only [intText, signedValue?, digitsValue?_toDigits]
    rfl

/-- The text of an integer has no characters but a minus sign and digits. -/
theorem of_mem_intText {i : Int} {c : Char} (member : c ∈ intText i) : c = '-' ∨ c.isDigit := by
  cases i with
  | ofNat n => exact .inr (Nat.isDigit_of_mem_toDigits (by decide) (by decide) member)
  | negSucc n =>
    rcases List.mem_cons.1 member with minus | digit
    · exact .inl minus
    · exact .inr (Nat.isDigit_of_mem_toDigits (by decide) (by decide) digit)

theorem int64?_toInt (n : Int64) : int64? n.toInt = some n := by
  rw [int64?, if_pos ⟨n.minValue_le_toInt, n.toInt_le⟩, Int64.ofInt_toInt]

/-- An integer is read back from its decimal text. -/
theorem readInt64_int64Text (n : Int64) : readInt64 (int64Text n) = some n := by
  rw [readInt64, int64Text, signedValue?_intText]
  exact int64?_toInt n

/-- The digits of a number end here. -/
def EndsDigits (rest : List Char) : Prop := ∀ c ∈ rest.head?, c.isDigit = false

theorem endsDigits_cons {c : Char} (no_digit : c.isDigit = false) (rest : List Char) :
    EndsDigits (c :: rest) := by
  rintro d ⟨⟩
  exact no_digit

theorem EndsDigits.take {rest : List Char} (ends : EndsDigits rest) (n : Nat) :
    EndsDigits (rest.take n) := by
  cases n with
  | zero => exact fun c head => nomatch head
  | succ n =>
    cases rest with
    | nil => exact fun c head => nomatch head
    | cons c rest => exact ends

theorem takeWhile_isDigit {ds rest : List Char} (digits : ∀ c ∈ ds, c.isDigit)
    (ends : EndsDigits rest) : (ds ++ rest).takeWhile Char.isDigit = ds := by
  rw [List.takeWhile_append_of_pos digits]
  cases rest with
  | nil => simp
  | cons c rest => simp [ends c rfl]

theorem dropWhile_isDigit {ds rest : List Char} (digits : ∀ c ∈ ds, c.isDigit)
    (ends : EndsDigits rest) : (ds ++ rest).dropWhile Char.isDigit = rest := by
  rw [List.dropWhile_append_of_pos digits]
  cases rest with
  | nil => rfl
  | cons c rest => simp [ends c rfl]

/-- Digits stand for less than the power of ten that they are too few for. -/
theorem ofDigitChars_lt {ds : List Char} (digits : ∀ c ∈ ds, c.isDigit) :
    Nat.ofDigitChars 10 ds 0 < 10 ^ ds.length := by
  have carried : ∀ high, Nat.ofDigitChars 10 ds high < (high + 1) * 10 ^ ds.length := by
    induction ds with
    | nil => simp
    | cons c ds ih =>
      intro high
      obtain ⟨first, later⟩ := List.forall_mem_cons.1 digits
      have one : c.toNat - '0'.toNat + 1 ≤ 10 := by
        have most := (Char.isDigit_iff_toNat.1 first).2
        have zero : '0'.toNat = 48 := rfl
        have nine : '9'.toNat = 57 := rfl
        omega
      calc Nat.ofDigitChars 10 (c :: ds) high
        _ = Nat.ofDigitChars 10 ds (10 * high + (c.toNat - '0'.toNat)) := Nat.ofDigitChars_cons
        _ < (10 * high + (c.toNat - '0'.toNat) + 1) * 10 ^ ds.length := ih later _
        _ ≤ ((high + 1) * 10) * 10 ^ ds.length := Nat.mul_le_mul_right _ (by omega)
        _ = (high + 1) * 10 ^ (c :: ds).length := by
          rw [List.length_cons, Nat.pow_succ', Nat.mul_assoc]
  simpa using carried 0

theorem isDigit_of_mem_padded {width n : Nat} {c : Char} (member : c ∈ padded width n) :
    c.isDigit := by
  rcases List.mem_append.1 member with zero | digit
  · obtain rfl := List.eq_of_mem_replicate zero
    rfl
  · exact Nat.isDigit_of_mem_toDigits (by decide) (by decide) digit

theorem padded_ne_nil (width n : Nat) : padded width n ≠ [] :=
  List.append_ne_nil_of_right_ne_nil _ Nat.toDigits_ne_nil

theorem ofDigitChars_padded (width n : Nat) : Nat.ofDigitChars 10 (padded width n) 0 = n := by
  rw [padded, Nat.ofDigitChars_append, Nat.ofDigitChars_replicate_zero, Nat.mul_zero,
    Nat.ofDigitChars_ten_toDigits]

theorem length_padded {width n : Nat} (positive : 0 < width) (fits : n < 10 ^ width) :
    (padded width n).length = width := by
  have short := (Nat.length_toDigits_le_iff (b := 10) (by decide) positive).2 fits
  rw [padded, List.length_append, List.length_replicate]
  omega

private theorem toInt_of_int64? {i : Int} {n : Int64} (fits : int64? i = some n) : n.toInt = i := by
  rw [int64?] at fits
  split at fits
  · rename_i range
    cases fits
    have least : Int64.minValue.toInt = -2 ^ 63 := rfl
    have greatest : Int64.maxValue.toInt = 2 ^ 63 - 1 := rfl
    exact Int64.toInt_ofInt_of_le (by omega) (by omega)
  · cases fits

/-- What has a value as an integer is a digit, or a sign and a digit, and what
follows. Only after a minus the integer can be negative. -/
theorem head_of_readInt64 {s : List Char} {n : Int64} (read : readInt64 s = some n) :
    (∃ c rest, s = c :: rest ∧ c.isDigit ∧ 0 ≤ n.toInt) ∨
      ∃ sign c rest, s = sign :: c :: rest ∧ (sign = '+' ∨ sign = '-') ∧ c.isDigit := by
  obtain ⟨i, signed, fits⟩ := Option.bind_eq_some_iff.1 read
  have same := toInt_of_int64? fits
  rw [signedValue?.eq_def] at signed
  split at signed
  · obtain ⟨k, value, rfl⟩ := Option.map_eq_some_iff.1 signed
    obtain ⟨c, rest, rfl, digit⟩ := digit_of_digitsValue? value
    exact .inr ⟨'+', c, rest, rfl, .inl rfl, digit⟩
  · obtain ⟨k, value, rfl⟩ := Option.map_eq_some_iff.1 signed
    obtain ⟨c, rest, rfl, digit⟩ := digit_of_digitsValue? value
    exact .inr ⟨'-', c, rest, rfl, .inr rfl, digit⟩
  · obtain ⟨k, value, rfl⟩ := Option.map_eq_some_iff.1 signed
    obtain ⟨c, rest, rfl, digit⟩ := digit_of_digitsValue? value
    exact .inl ⟨c, rest, rfl, digit, by rw [same]; exact Int.natCast_nonneg k⟩

/-- The text of a natural number has digits only. -/
theorem int64Text_of_nonneg {n : Int64} (nonneg : 0 ≤ n.toInt) :
    int64Text n ≠ [] ∧ ∀ c ∈ int64Text n, c.isDigit := by
  obtain ⟨k, same⟩ := Int.eq_ofNat_of_zero_le nonneg
  rw [int64Text, same]
  exact ⟨Nat.toDigits_ne_nil, fun c => Nat.isDigit_of_mem_toDigits (by decide) (by decide)⟩

end ChatSieve.Text
