import ChatSieve.Message.Timestamp
import ChatSieve.Proofs.Text.Characters
import ChatSieve.Proofs.Text.Decimal

/-!
# Reading back timestamps

A moment that was read is a moment of the calendar (`isValid_of_ofText?`), and
the exact text of such a moment is read as that moment (`ofText?_exactText`):
years with a sign, leap seconds and parts of a second of every precision come
back.
-/

namespace ChatSieve.Message.Timestamp

open ChatSieve.Text ChatSieve.Token

/-- A moment of the calendar. -/
structure IsValid (t : Timestamp) : Prop where
  date : t.date.isValid
  hour : t.hour < 24
  minute : t.minute < 60
  second : t.second ≤ 60
  nanosecond : t.nanosecond < 10 ^ 9

private theorem readNumber_append {width : Nat} {ds rest : List Char} (nonempty : ds ≠ [])
    (digits : ∀ c ∈ ds, c.isDigit) (fits : ds.length ≤ width) (ends : EndsDigits rest) :
    readNumber width (ds ++ rest) = some (Nat.ofDigitChars 10 ds 0, rest) := by
  have cut : (ds ++ rest).take width = ds ++ rest.take (width - ds.length) := by
    rw [List.take_append, List.take_of_length_le fits]
  rw [readNumber, cut, takeWhile_isDigit digits (ends.take _)]
  cases ds with
  | nil => exact absurd rfl nonempty
  | cons d ds => simp

private theorem readNumber_padded {width most n : Nat} {rest : List Char}
    (fits : (padded width n).length ≤ most) (ends : EndsDigits rest) :
    readNumber most (padded width n ++ rest) = some (n, rest) := by
  rw [readNumber_append (padded_ne_nil width n) (fun _ => isDigit_of_mem_padded) fits ends,
    ofDigitChars_padded]

private theorem trimStart_cons {c : Char} (shown : isBlank c = false) (s : List Char) :
    trimStart (c :: s) = c :: s :=
  List.dropWhile_cons_of_neg (by simp [shown])

private theorem head_of_padded (width n : Nat) : ∃ c ds, padded width n = c :: ds ∧ c.isDigit := by
  obtain ⟨c, ds, digits⟩ := List.exists_cons_of_ne_nil (padded_ne_nil width n)
  have member : c ∈ padded width n := by
    rw [digits]
    exact List.mem_cons_self
  exact ⟨c, ds, digits, isDigit_of_mem_padded member⟩

private theorem trimStart_padded (width n : Nat) (rest : List Char) :
    trimStart (padded width n ++ rest) = padded width n ++ rest := by
  obtain ⟨c, ds, digits, digit⟩ := head_of_padded width n
  rw [digits]
  exact trimStart_cons (not_isBlank_of_isNameChar (isNameChar_of_isDigit digit)) _

private theorem readField_padded {least most n : Nat} {rest : List Char} (above : least ≤ n)
    (below : n ≤ most) (short : n < 10 ^ 2) (ends : EndsDigits rest) :
    readField least most (padded 2 n ++ rest) = some (n, rest) := by
  have width : (padded 2 n).length = 2 := length_padded (by decide) short
  rw [readField, trimStart_padded, readNumber_padded (Nat.le_of_eq width) ends]
  simp [above, below]

private theorem readMark_cons (mark : Char) (shown : isBlank mark = false) (rest : List Char) :
    readMark mark (mark :: rest) = some rest := by
  simp [readMark, trimStart_cons shown]

/-- Digits without a sign are a year of the common era. -/
theorem readYear_of_digit {c : Char} (digit : c.isDigit) (s : List Char) :
    readYear (c :: s) = (readNumber 4 (c :: s)).map fun (n, s) => (Int.ofNat n, s) := by
  rw [readYear, trimStart_cons (not_isBlank_of_isNameChar (isNameChar_of_isDigit digit))]
  split
  · rename_i same
    cases same
    cases digit
  · rename_i same
    cases same
    cases digit
  · rfl

private theorem readYear_minus (s : List Char) :
    readYear ('-' :: s) = (readNumber s.length s).map fun (n, s) => (-Int.ofNat n, s) := by
  rw [readYear, trimStart_cons (by decide)]
  rfl

private theorem readYear_plus (s : List Char) :
    readYear ('+' :: s) = (readNumber s.length s).map fun (n, s) => (Int.ofNat n, s) := by
  rw [readYear, trimStart_cons (by decide)]
  rfl

private theorem readYear_yearText (year : Int) {rest : List Char} (ends : EndsDigits rest) :
    readYear (yearText year ++ rest) = some (year, rest) := by
  by_cases plain : 0 ≤ year ∧ year ≤ 9999
  · obtain ⟨n, rfl⟩ := Int.eq_ofNat_of_zero_le plain.1
    have width : (padded 4 n).length = 4 := length_padded (by decide) (by omega)
    have read := readNumber_padded (Nat.le_of_eq width) ends
    obtain ⟨c, ds, digits, digit⟩ := head_of_padded 4 n
    rw [yearText, if_pos plain, Int.toNat_natCast, digits, List.cons_append,
      readYear_of_digit digit, ← List.cons_append, ← digits, read]
    rfl
  · have fits : (padded 4 year.natAbs).length ≤ (padded 4 year.natAbs ++ rest).length := by
      simp
    have read := readNumber_padded fits ends
    rw [yearText, if_neg plain]
    by_cases negative : year < 0
    · have same : -(year.natAbs : Int) = year := by omega
      rw [if_pos negative, List.cons_append, readYear_minus, read]
      exact congrArg (fun year => some (year, rest)) same
    · have same : (year.natAbs : Int) = year := by omega
      rw [if_neg negative, List.cons_append, readYear_plus, read]
      exact congrArg (fun year => some (year, rest)) same

private theorem readFraction_padded (width : Nat) {n : Nat} (positive : 0 < width)
    (most : width ≤ 9)
    (short : n < 10 ^ width) {rest : List Char} (ends : EndsDigits rest) :
    readFraction ('.' :: (padded width n ++ rest)) = some (n * 10 ^ (9 - width), rest) := by
  have length := length_padded positive short
  have filled : (padded width n ++ List.replicate 9 '0').take 9 =
      padded width n ++ List.replicate (9 - width) '0' := by
    rw [List.take_append, length, List.take_of_length_le (by omega), List.take_replicate,
      Nat.min_eq_left (by omega)]
  have value : Nat.ofDigitChars 10 (padded width n ++ List.replicate (9 - width) '0') 0 = 
      n * 10 ^ (9 - width) := by
    rw [Nat.ofDigitChars_append, ofDigitChars_padded, Nat.ofDigitChars_replicate_zero,
      Nat.mul_comm]
  rw [readFraction, takeWhile_isDigit (fun _ => isDigit_of_mem_padded) ends]
  split
  · rename_i none
    exact absurd none (padded_ne_nil width n)
  · rw [filled, value, List.drop_left]

private theorem readFraction_fractionText {nano : Nat} (below : nano < 10 ^ 9) (rest : List Char) :
    readFraction (fractionText nano ++ 'Z' :: rest) = some (nano, 'Z' :: rest) := by
  have ends : EndsDigits ('Z' :: rest) := endsDigits_cons rfl rest
  unfold fractionText
  by_cases whole : nano = 0
  · simp [whole, readFraction]
  · by_cases milli : nano % 1000000 = 0
    · have short : nano / 1000000 < 10 ^ 3 := by omega
      have same : nano / 1000000 * 1000000 = nano := by omega
      simpa [whole, milli, same] using readFraction_padded 3 (by decide) (by decide) short ends
    · by_cases micro : nano % 1000 = 0
      · have short : nano / 1000 < 10 ^ 6 := by omega
        have same : nano / 1000 * 1000 = nano := by omega
        simpa [whole, milli, micro, same] using
          readFraction_padded 6 (by decide) (by decide) short ends
      · simpa [whole, milli, micro] using readFraction_padded 9 (by decide) (by decide) below ends

private theorem endsDigits_fractionText (nano : Nat) (rest : List Char) :
    EndsDigits (fractionText nano ++ 'Z' :: rest) := by
  unfold fractionText
  by_cases whole : nano = 0
  · simpa [whole] using endsDigits_cons rfl rest
  · by_cases milli : nano % 1000000 = 0
    · simpa [whole, milli] using endsDigits_cons rfl _
    · by_cases micro : nano % 1000 = 0
      · simpa [whole, milli, micro] using endsDigits_cons rfl _
      · simpa [whole, milli, micro] using endsDigits_cons rfl _

private theorem daysInMonth_le (year : Int) (month : Nat) : Date.daysInMonth year month ≤ 31 := by
  unfold Date.daysInMonth
  split
  · split <;> omega
  all_goals omega

private theorem atOffset?_zero {t : Timestamp} (valid : t.IsValid) :
    atOffset? t.date t.hour t.minute t.second t.nanosecond 0 = some t := by
  have hour := valid.hour
  have minute := valid.minute
  have minutes : (Int.ofNat (60 * t.hour + t.minute) - 0) / 1440 = 0 := by
    simp only [Int.ofNat_eq_natCast]
    omega
  have rest : ((Int.ofNat (60 * t.hour + t.minute) - 0) % 1440).toNat = 60 * t.hour + t.minute := by
    simp only [Int.ofNat_eq_natCast]
    omega
  have same_day : t.date.addDays 0 = t.date := rfl
  have same_hour : (60 * t.hour + t.minute) / 60 = t.hour := by omega
  have same_minute : (60 * t.hour + t.minute) % 60 = t.minute := by omega
  simp only [atOffset?, minutes, rest, same_day, same_hour, same_minute, valid.date]
  rfl

/-- The exact text of a moment is read as that moment. -/
theorem ofText?_exactText {t : Timestamp} (valid : t.IsValid) :
    ofText? t.exactText = some t := by
  have most_hour := valid.hour
  have most_minute := valid.minute
  have most_second := valid.second
  obtain ⟨⟨⟨⟨-, least_month⟩, most_month⟩, least_day⟩, most_day⟩ := by
    simpa only [Date.isValid, Bool.and_eq_true, decide_eq_true_eq] using valid.date
  have days := daysInMonth_le t.date.year t.date.month
  -- each number is read up to the mark that follows it in the text
  have dash (rest : List Char) : EndsDigits ('-' :: rest) := endsDigits_cons rfl rest
  have letter (rest : List Char) : EndsDigits ('T' :: rest) := endsDigits_cons rfl rest
  have colon (rest : List Char) : EndsDigits (':' :: rest) := endsDigits_cons rfl rest
  have year (rest : List Char) := readYear_yearText t.date.year (dash rest)
  have month (rest : List Char) :=
    readField_padded least_month most_month (by omega) (dash rest)
  have day (rest : List Char) :=
    readField_padded least_day (by omega : t.date.day ≤ 31) (by omega) (letter rest)
  have hour (rest : List Char) :=
    readField_padded (Nat.zero_le _) (by omega : t.hour ≤ 23) (by omega) (colon rest)
  have minute (rest : List Char) :=
    readField_padded (Nat.zero_le _) (by omega : t.minute ≤ 59) (by omega) (colon rest)
  have second :=
    readField_padded (Nat.zero_le _) most_second (by omega)
      (endsDigits_fractionText t.nanosecond [])
  have fraction := readFraction_fractionText valid.nanosecond []
  have offset : readOffset (trimStart ['Z']) = some (0, []) := by decide
  have dashed (rest : List Char) := readMark_cons '-' (by decide) rest
  have coloned (rest : List Char) := readMark_cons ':' (by decide) rest
  -- the steps of the reader in their order
  refine Option.bind_eq_some_iff.2 ⟨_, year _, ?_⟩
  refine Option.bind_eq_some_iff.2 ⟨_, dashed _, ?_⟩
  refine Option.bind_eq_some_iff.2 ⟨_, month _, ?_⟩
  refine Option.bind_eq_some_iff.2 ⟨_, dashed _, ?_⟩
  refine Option.bind_eq_some_iff.2 ⟨_, day _, ?_⟩
  refine Option.bind_eq_some_iff.2 ⟨_, rfl, ?_⟩
  refine Option.bind_eq_some_iff.2 ⟨_, hour _, ?_⟩
  refine Option.bind_eq_some_iff.2 ⟨_, coloned _, ?_⟩
  refine Option.bind_eq_some_iff.2 ⟨_, minute _, ?_⟩
  refine Option.bind_eq_some_iff.2 ⟨_, coloned _, ?_⟩
  refine Option.bind_eq_some_iff.2 ⟨_, second, ?_⟩
  refine Option.bind_eq_some_iff.2 ⟨_, fraction, ?_⟩
  refine Option.bind_eq_some_iff.2 ⟨_, offset, ?_⟩
  exact (if_pos rfl).trans (atOffset?_zero valid)

/-- Only a second between bounds is read. -/
theorem le_of_readField {least most n : Nat} {s rest : List Char}
    (read : readField least most s = some (n, rest)) : n ≤ most := by
  obtain ⟨⟨m, after⟩, -, bounded⟩ := Option.bind_eq_some_iff.1 read
  dsimp only at bounded
  split at bounded
  · rename_i within
    cases bounded
    exact within.2
  · cases bounded

private theorem lt_of_readFraction {s rest : List Char} {nano : Nat}
    (read : readFraction s = some (nano, rest)) : nano < 10 ^ 9 := by
  rw [readFraction.eq_def] at read
  split at read
  · split at read
    · cases read
    · rename_i s ds _
      cases read
      have digits : ∀ c ∈ (s.takeWhile Char.isDigit ++ List.replicate 9 '0').take 9, c.isDigit := by
        intro c member
        rcases List.mem_append.1 (List.mem_of_mem_take member) with digit | zero
        · exact List.all_eq_true.1 List.all_takeWhile c digit
        · obtain rfl := List.eq_of_mem_replicate zero
          rfl
      refine Nat.lt_of_lt_of_le (ofDigitChars_lt digits) (Nat.pow_le_pow_right (by decide) ?_)
      exact List.length_take_le 9 _
  · cases read
    decide

private theorem isValid_of_atOffset? {date : Date} {hour minute second nano : Nat} {offset : Int}
    {t : Timestamp} (is_second : second ≤ 60) (is_nano : nano < 10 ^ 9)
    (moment : atOffset? date hour minute second nano offset = some t) : t.IsValid := by
  simp only [atOffset?] at moment
  split at moment
  · cases moment
  · split at moment
    · rename_i valid
      cases moment
      refine ⟨valid, ?_, ?_, is_second, is_nano⟩
      · dsimp only
        omega
      · exact Nat.mod_lt _ (by decide)
    · cases moment

/-- What is read as a moment is one of the calendar. -/
theorem isValid_of_ofText? {s : List Char} {t : Timestamp} (read : ofText? s = some t) :
    t.IsValid := by
  obtain ⟨⟨year, _⟩, -, read⟩ := Option.bind_eq_some_iff.1 read
  obtain ⟨_, -, read⟩ := Option.bind_eq_some_iff.1 read
  obtain ⟨⟨month, _⟩, -, read⟩ := Option.bind_eq_some_iff.1 read
  obtain ⟨_, -, read⟩ := Option.bind_eq_some_iff.1 read
  obtain ⟨⟨day, _⟩, -, read⟩ := Option.bind_eq_some_iff.1 read
  -- the three letters between date and time go on alike
  dsimp only at read
  split at read
  case h_4 => cases read
  all_goals
    obtain ⟨_, -, read⟩ := Option.bind_eq_some_iff.1 read
    obtain ⟨⟨hour, _⟩, -, read⟩ := Option.bind_eq_some_iff.1 read
    obtain ⟨_, -, read⟩ := Option.bind_eq_some_iff.1 read
    obtain ⟨⟨minute, _⟩, -, read⟩ := Option.bind_eq_some_iff.1 read
    obtain ⟨_, -, read⟩ := Option.bind_eq_some_iff.1 read
    obtain ⟨⟨second, _⟩, is_second, read⟩ := Option.bind_eq_some_iff.1 read
    obtain ⟨⟨nano, _⟩, is_nano, read⟩ := Option.bind_eq_some_iff.1 read
    obtain ⟨⟨offset, _⟩, -, moment⟩ := Option.bind_eq_some_iff.1 read
    dsimp only at moment
    split at moment
    · exact isValid_of_atOffset? (le_of_readField is_second) (lt_of_readFraction is_nano) moment
    · cases moment

end ChatSieve.Message.Timestamp
