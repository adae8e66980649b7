import ChatSieve.Proofs.Text.Characters
import ChatSieve.Proofs.Text.Slice
import ChatSieve.Value.Coercion

/-!
# Reading and writing colors

Reading a color takes its digits apart by their places in bytes. That they are
hexadecimal digits has been seen before, so each of these places is one, and no
part has a sign: reading is the same as taking digit by digit (`read_eq`). The
text of a color is read as that color, but solid (`ofText?_text`), since it
does not tell the opacity. Which texts are colors, and which color they are, is
put together in `color_texts`.
-/

namespace ChatSieve.Color

open ChatSieve.Text

/-- The hexadecimal digits of either case. -/
def hexDigits : List Char := "0123456789abcdefABCDEF".toList

/-- The value of a hexadecimal digit, zero for other characters. -/
def digitValue (c : Char) : UInt8 := (hexValue? c).getD 0

/-- Two digits make a byte. -/
def byteOf (high low : Char) : UInt8 := 16 * digitValue high + digitValue low

private theorem isHexDigit_iff {c : Char} : isHexDigit c ↔ c ∈ hexDigits := by
  have between {first last : Char} (digits : ∀ n < last.toNat + 1 - first.toNat,
      Char.ofNat (first.toNat + n) ∈ hexDigits) (inside : first ≤ c ∧ c ≤ last) : c ∈ hexDigits := by
    obtain ⟨n, small, rfl⟩ := exists_of_between inside.1 inside.2
    exact digits n small
  constructor
  · intro digit
    rw [isHexDigit, hexValue?] at digit
    split at digit
    · rename_i inside
      exact between (by decide) inside
    · split at digit
      · rename_i inside
        exact between (by decide) inside
      · split at digit
        · rename_i inside
          exact between (by decide) inside
        · cases digit
  · intro member
    have all : hexDigits.all isHexDigit := by decide
    exact List.all_eq_true.1 all c member

/-- A hexadecimal digit: one byte long, no sign, and the same in either case. -/
structure IsDigit (c : Char) : Prop where
  narrow : c.utf8Size = 1
  no_sign : c ≠ '+'
  value : hexValue? c = some (digitValue c)
  small : (digitValue c).toNat < 16
  lower : hexDigit (digitValue c) = c.toLower

private theorem isDigit_of_isHexDigit {c : Char} (digit : isHexDigit c) : IsDigit c := by
  have all : hexDigits.all fun c => c.utf8Size = 1 ∧ c ≠ '+' ∧ hexValue? c = some (digitValue c) ∧
      (digitValue c).toNat < 16 ∧ hexDigit (digitValue c) = c.toLower := by
    decide
  obtain ⟨narrow, no_sign, value, small, lower⟩ :=
    of_decide_eq_true (List.all_eq_true.1 all c (isHexDigit_iff.1 digit))
  exact ⟨narrow, no_sign, value, small, lower⟩

private theorem hexValue?_toLower (c : Char) : hexValue? c.toLower = hexValue? c := by
  have capitals : ∀ n < 26, hexValue? (Char.ofNat (65 + n)).toLower = hexValue? (Char.ofNat (65 + n)) := by
    decide
  obtain same | ⟨n, small, rfl⟩ := toLower_eq_self_or c
  · rw [same]
  · exact capitals n small

private theorem toNat_byteOf {high low : Char} (first : IsDigit high) (second : IsDigit low) :
    (byteOf high low).toNat = 16 * (digitValue high).toNat + (digitValue low).toNat := by
  have sixteen : (16 : UInt8).toNat = 16 := rfl
  have := first.small
  have := second.small
  rw [byteOf, UInt8.toNat_add, UInt8.toNat_mul, sixteen]
  omega

private theorem readByte?_pair {high low : Char} (first : IsDigit high) (second : IsDigit low) :
    readByte? [high, low] = some (byteOf high low) := by
  have byte := toNat_byteOf first second
  have small := (byteOf high low).toNat_lt
  have value : UInt8.ofNat (16 * (digitValue high).toNat + (digitValue low).toNat) = byteOf high low := by
    rw [← byte, UInt8.ofNat_toNat]
  have fits : 16 * (digitValue high).toNat + (digitValue low).toNat < 256 := by omega
  simp [readByte?, first.no_sign, first.value, second.value, value, fits]

private theorem readByte?_single {c : Char} (digit : IsDigit c) :
    readByte? [c] = some (digitValue c) := by
  have fits := (digitValue c).toNat_lt
  simp [readByte?, digit.no_sign, digit.value, fits]

/-- A digit times seventeen is the digit doubled. -/
theorem seventeen_mul (c : Char) : 17 * digitValue c = byteOf c c := by
  rw [byteOf, show (17 : UInt8) = 16 + 1 from rfl, UInt8.add_mul, UInt8.one_mul]

/-- What stands among digits is cut out by its place. -/
theorem byteAt_of_digits (before part after : List Char)
    (all : ∀ c ∈ before ++ (part ++ after), IsDigit c) :
    byteAt (before ++ (part ++ after)) before.length part.length =
      (readByte? part).elim (.error .noColor) .ok := by
  have narrow {s : List Char} (among : ∀ c ∈ s, c ∈ before ++ (part ++ after)) :
      byteLength s = s.length :=
    byteLength_of_narrow fun c member => (all c (among c member)).narrow
  have cut : slice? (before ++ (part ++ after)) before.length part.length = some part :=
    slice?_eq_some_iff.2 ⟨before, after, rfl, narrow fun _ => List.mem_append_left _,
      narrow fun _ member => List.mem_append_right _ (List.mem_append_left _ member)⟩
  rw [byteAt, cut]

private theorem byteAt_single (before : List Char) {c : Char} {after : List Char}
    (all : ∀ d ∈ before ++ c :: after, IsDigit d) :
    byteAt (before ++ c :: after) before.length 1 = .ok (digitValue c) := by
  have cut := byteAt_of_digits before [c] after all
  rw [readByte?_single (all c (by simp))] at cut
  exact cut

private theorem byteAt_pair (before : List Char) {high low : Char} {after : List Char}
    (all : ∀ d ∈ before ++ high :: low :: after, IsDigit d) :
    byteAt (before ++ high :: low :: after) before.length 2 = .ok (byteOf high low) := by
  have cut := byteAt_of_digits before [high, low] after all
  rw [readByte?_pair (all high (by simp)) (all low (by simp))] at cut
  exact cut

/-! ## Reading -/

/-- The color of three, six or eight digits: `rgb` with every digit doubled,
`rrggbb`, or `aarrggbb`. -/
def ofDigits? : List Char → Option Color
  | [r, g, b] => some (solid (byteOf r r) (byteOf g g) (byteOf b b))
  | [r₁, r₀, g₁, g₀, b₁, b₀] => some (solid (byteOf r₁ r₀) (byteOf g₁ g₀) (byteOf b₁ b₀))
  | [a₁, a₀, r₁, r₀, g₁, g₀, b₁, b₀] =>
    some ⟨byteOf r₁ r₀, byteOf g₁ g₀, byteOf b₁ b₀, byteOf a₁ a₀⟩
  | _ => none

private theorem isSome_ofDigits?_iff (digits : List Char) :
    (ofDigits? digits).isSome ↔ digits.length ∈ [3, 6, 8] := by
  rcases digits with _ | ⟨_, _ | ⟨_, _ | ⟨_, _ | ⟨_, _ | ⟨_, _ | ⟨_, _ | ⟨_, _ | ⟨_, _ | ⟨_, _⟩⟩⟩⟩⟩⟩⟩⟩⟩ <;>
    simp [ofDigits?]

private theorem ofDigits?_eq_none_iff {digits : List Char} :
    ofDigits? digits = none ↔ digits.length ∉ [3, 6, 8] := by
  rw [← isSome_ofDigits?_iff, Option.not_isSome_iff_eq_none]

private theorem readDigits_eq {digits : List Char} (all : ∀ c ∈ digits, IsDigit c) :
    readDigits digits = (ofDigits? digits).elim (.error .noColor) .ok := by
  rw [readDigits, byteLength_of_narrow fun c member => (all c member).narrow]
  fun_cases ofDigits? digits with
  | case1 r g b =>
    have red : byteAt [r, g, b] 0 1 = .ok (digitValue r) := byteAt_single [] all
    have green : byteAt [r, g, b] 1 1 = .ok (digitValue g) := byteAt_single [r] all
    have blue : byteAt [r, g, b] 2 1 = .ok (digitValue b) := byteAt_single [r, g] all
    simp only [List.length_cons, List.length_nil, red, green, blue, ← seventeen_mul]
    rfl
  | case2 r₁ r₀ g₁ g₀ b₁ b₀ =>
    have red : byteAt [r₁, r₀, g₁, g₀, b₁, b₀] 0 2 = .ok (byteOf r₁ r₀) := byteAt_pair [] all
    have green : byteAt [r₁, r₀, g₁, g₀, b₁, b₀] 2 2 = .ok (byteOf g₁ g₀) := byteAt_pair [r₁, r₀] all
    have blue : byteAt [r₁, r₀, g₁, g₀, b₁, b₀] 4 2 = .ok (byteOf b₁ b₀) :=
      byteAt_pair [r₁, r₀, g₁, g₀] all
    simp only [List.length_cons, List.length_nil, red, green, blue]
    rfl
  | case3 a₁ a₀ r₁ r₀ g₁ g₀ b₁ b₀ =>
    have alpha : byteAt [a₁, a₀, r₁, r₀, g₁, g₀, b₁, b₀] 0 2 = .ok (byteOf a₁ a₀) := byteAt_pair [] all
    have red : byteAt [a₁, a₀, r₁, r₀, g₁, g₀, b₁, b₀] 2 2 = .ok (byteOf r₁ r₀) :=
      byteAt_pair [a₁, a₀] all
    have green : byteAt [a₁, a₀, r₁, r₀, g₁, g₀, b₁, b₀] 4 2 = .ok (byteOf g₁ g₀) :=
      byteAt_pair [a₁, a₀, r₁, r₀] all
    have blue : byteAt [a₁, a₀, r₁, r₀, g₁, g₀, b₁, b₀] 6 2 = .ok (byteOf b₁ b₀) :=
      byteAt_pair [a₁, a₀, r₁, r₀, g₁, g₀] all
    simp only [List.length_cons, List.length_nil, alpha, red, green, blue]
    rfl
  | case4 digits no_three no_six no_eight =>
    have length := ofDigits?_eq_none_iff.1 (ofDigits?.eq_4 digits no_three no_six no_eight)
    split <;> simp_all

/-- The color of a text without blanks around it. -/
def ofTrimmed? : List Char → Option Color
  | '#' :: digits => if digits.all isHexDigit then ofDigits? digits else none
  | _ => none

/-- Reading a color never asks for a part that is not there. -/
theorem read_eq (s : String) : read s = (ofTrimmed? (trim s.toList)).elim (.error .noColor) .ok := by
  rw [read]
  generalize trim s.toList = t
  fun_cases ofTrimmed? t with
  | case1 digits all =>
    refine (if_pos all).trans ?_
    exact readDigits_eq fun c member => isDigit_of_isHexDigit (List.all_eq_true.1 all c member)
  | case2 digits some_other => exact if_neg some_other
  | case3 t no_sign =>
    split
    · exact (no_sign _ rfl).elim
    · rfl

/-- Three bytes that are no three digits: taking them apart would cut the first
character in two, and a sign would pass for a digit. -/
example : readDigits ['é', '1'] = .error .badSlice ∧ read "#é1" = .error .noColor ∧
    readDigits "+1+2+3".toList = .ok (solid 1 2 3) ∧ read "#+1+2+3" = .error .noColor :=
  ⟨rfl, rfl, rfl, rfl⟩

private theorem ofText?_eq (s : String) : ofText? s = ofTrimmed? (trim s.toList) := by
  rw [ofText?, read_eq]
  cases ofTrimmed? (trim s.toList) <;> rfl

private theorem digitValue_toLower (c : Char) : digitValue c.toLower = digitValue c := by
  rw [digitValue, hexValue?_toLower, digitValue]

private theorem ofDigits?_map_toLower (digits : List Char) :
    ofDigits? (digits.map Char.toLower) = ofDigits? digits := by
  fun_cases ofDigits? digits with
  | case4 digits no_three no_six no_eight =>
    rw [ofDigits?_eq_none_iff, List.length_map]
    exact ofDigits?_eq_none_iff.1 (ofDigits?.eq_4 digits no_three no_six no_eight)
  | _ => simp only [List.map_cons, List.map_nil, ofDigits?, byteOf, digitValue_toLower]

private theorem toLower_eq_numberSign_iff (c : Char) : c.toLower = '#' ↔ c = '#' := by
  have capitals : ∀ n < 26, (Char.ofNat (65 + n)).toLower = '#' ↔ Char.ofNat (65 + n) = '#' := by
    decide
  obtain same | ⟨n, small, rfl⟩ := toLower_eq_self_or c
  · rw [same]
  · exact capitals n small

/-- The case of the letters makes no difference. -/
theorem ofTrimmed?_map_toLower (t : List Char) : ofTrimmed? (t.map Char.toLower) = ofTrimmed? t := by
  cases t with
  | nil => rfl
  | cons c digits =>
    by_cases sign : c = '#'
    · subst sign
      have same : isHexDigit ∘ Char.toLower = isHexDigit := by
        funext c
        rw [Function.comp_apply, isHexDigit, hexValue?_toLower, isHexDigit]
      have still : Char.toLower '#' = '#' := rfl
      rw [List.map_cons, still, ofTrimmed?, ofTrimmed?, List.all_map, same, ofDigits?_map_toLower]
    · have no_sign := mt (toLower_eq_numberSign_iff c).1 sign
      simp [ofTrimmed?, sign, no_sign]

/-- Each digit of the short format stands for two. -/
theorem ofTrimmed?_doubled (r g b : Char) :
    ofTrimmed? ['#', r, g, b] = ofTrimmed? ['#', r, r, g, g, b, b] := by
  have all : [r, r, g, g, b, b].all isHexDigit = [r, g, b].all isHexDigit := by
    simp
  rw [ofTrimmed?, ofTrimmed?, all]
  rfl

/-- Without an opacity a color is solid. -/
theorem ofTrimmed?_solid {digits : List Char} (six : digits.length = 6) :
    ofTrimmed? ('#' :: digits) = ofTrimmed? ('#' :: 'f' :: 'f' :: digits) := by
  have all : ('f' :: 'f' :: digits).all isHexDigit = digits.all isHexDigit := by
    simp [show isHexDigit 'f' by decide]
  have full : byteOf 'f' 'f' = 255 := by decide
  rw [ofTrimmed?, ofTrimmed?, all]
  match digits, six with
  | [r₁, r₀, g₁, g₀, b₁, b₀], _ => simp only [ofDigits?, full, solid]

private theorem isSome_ofTrimmed?_iff (t : List Char) :
    (ofTrimmed? t).isSome ↔
      ∃ digits, t = '#' :: digits ∧ digits.length ∈ [3, 6, 8] ∧ ∀ c ∈ digits, c ∈ hexDigits := by
  constructor
  · intro found
    rw [ofTrimmed?.eq_def] at found
    split at found
    · rename_i digits
      split at found
      · rename_i all
        exact ⟨digits, rfl, (isSome_ofDigits?_iff digits).1 found,
          fun c member => isHexDigit_iff.1 (List.all_eq_true.1 all c member)⟩
      · cases found
    · cases found
  · rintro ⟨digits, rfl, length, digit⟩
    have all : digits.all isHexDigit :=
      List.all_eq_true.2 fun c member => isHexDigit_iff.2 (digit c member)
    rw [ofTrimmed?, if_pos all]
    exact (isSome_ofDigits?_iff digits).2 length

/-! ## The text of a color -/

theorem toNat_high (v : UInt8) : (v / 16).toNat < 16 := by
  have byte := v.toNat_lt
  rw [UInt8.toNat_div]
  change v.toNat / 16 < 16
  omega

private theorem toNat_low (v : UInt8) : (v % 16).toNat < 16 := by
  rw [UInt8.toNat_mod]
  exact Nat.mod_lt _ (by decide)

/-- A value below sixteen is written as a digit with this value. -/
theorem hexDigit_of_small {v : UInt8} (small : v.toNat < 16) :
    isHexDigit (hexDigit v) ∧ digitValue (hexDigit v) = v ∧ isBlank (hexDigit v) = false := by
  have digits : ∀ n < 16, isHexDigit (hexDigit (UInt8.ofNat n)) ∧
      digitValue (hexDigit (UInt8.ofNat n)) = UInt8.ofNat n ∧
      isBlank (hexDigit (UInt8.ofNat n)) = false := by
    decide
  simpa using digits v.toNat small

/-- The two digits of a byte make this byte. -/
theorem byteOf_hexDigit (v : UInt8) : byteOf (hexDigit (v / 16)) (hexDigit (v % 16)) = v := by
  have byte := v.toNat_lt
  have sixteen : (16 : UInt8).toNat = 16 := rfl
  rw [byteOf, (hexDigit_of_small (toNat_high v)).2.1, (hexDigit_of_small (toNat_low v)).2.1]
  apply UInt8.toNat_inj.1
  simp only [UInt8.toNat_add, UInt8.toNat_mul, UInt8.toNat_div, UInt8.toNat_mod, sixteen]
  omega

/-- Two digits are the small letters of those of their byte. -/
theorem byteText_byteOf {high low : Char} (first : IsDigit high) (second : IsDigit low) :
    byteText (byteOf high low) = [high.toLower, low.toLower] := by
  have byte := toNat_byteOf first second
  have small := second.small
  have sixteen : (16 : UInt8).toNat = 16 := rfl
  have high_digit : byteOf high low / 16 = digitValue high := by
    apply UInt8.toNat_inj.1
    rw [UInt8.toNat_div, byte, sixteen]
    omega
  have low_digit : byteOf high low % 16 = digitValue low := by
    apply UInt8.toNat_inj.1
    rw [UInt8.toNat_mod, byte, sixteen]
    omega
  rw [byteText, high_digit, low_digit, first.lower, second.lower]

private theorem of_mem_byteText {v : UInt8} {c : Char} (member : c ∈ byteText v) :
    isHexDigit c ∧ isBlank c = false := by
  simp only [byteText, List.mem_cons, List.not_mem_nil, or_false] at member
  rcases member with rfl | rfl
  · exact ⟨(hexDigit_of_small (toNat_high v)).1, (hexDigit_of_small (toNat_high v)).2.2⟩
  · exact ⟨(hexDigit_of_small (toNat_low v)).1, (hexDigit_of_small (toNat_low v)).2.2⟩

/-- A text of a number sign and some bytes is read digit by digit. -/
theorem ofText?_bytes (bytes : List UInt8) :
    ofText? (String.ofList ('#' :: bytes.flatMap byteText)) = ofDigits? (bytes.flatMap byteText) := by
  have digits : ∀ c ∈ bytes.flatMap byteText, isHexDigit c ∧ isBlank c = false := by
    intro c member
    obtain ⟨v, -, digit⟩ := List.mem_flatMap.1 member
    exact of_mem_byteText digit
  have shown : ∀ c ∈ '#' :: bytes.flatMap byteText, isBlank c = false :=
    List.forall_mem_cons.2 ⟨by decide, fun c member => (digits c member).2⟩
  rw [ofText?_eq, String.toList_ofList, trim_eq_self shown, ofTrimmed?,
    if_pos (List.all_eq_true.2 fun c member => (digits c member).1)]

theorem not_isBlank_of_mem_text {c : Color} {d : Char} (member : d ∈ c.text.toList) :
    isBlank d = false := by
  rw [text, String.toList_ofList] at member
  rcases List.mem_cons.1 member with rfl | digits
  · decide
  · simp only [List.mem_append] at digits
    rcases digits with (red | green) | blue
    · exact (of_mem_byteText red).2
    · exact (of_mem_byteText green).2
    · exact (of_mem_byteText blue).2

/-- The text of a color tells it up to the opacity. -/
theorem ofText?_text (c : Color) : ofText? c.text = some (solid c.red c.green c.blue) := by
  have read := ofText?_bytes [c.red, c.green, c.blue]
  simp only [List.flatMap_cons, List.flatMap_nil, List.append_nil] at read
  rw [text, List.append_assoc, read]
  simp only [byteText, List.cons_append, List.nil_append, ofDigits?, byteOf_hexDigit]

/-- The text of a color of six digits is the text that was read, in small letters. -/
theorem text_of_six {digits : List Char} {c : Color} (six : digits.length = 6)
    (found : ofTrimmed? ('#' :: digits) = some c) :
    c.text = String.ofList ('#' :: digits.map Char.toLower) := by
  rw [ofTrimmed?] at found
  split at found
  · rename_i all
    have digit : ∀ c ∈ digits, IsDigit c := fun c member =>
      isDigit_of_isHexDigit (List.all_eq_true.1 all c member)
    match digits, six with
    | [r₁, r₀, g₁, g₀, b₁, b₀], _ =>
      cases found
      simp only [List.forall_mem_cons] at digit
      obtain ⟨red, red', green, green', blue, blue', -⟩ := digit
      simp [text, solid, byteText_byteOf, red, red', green, green', blue, blue']
  · cases found

/-- Reading a text as a color never asks for a part that is not there. A text
is a color just if without the blanks around it it is a number sign and three,
six or eight hexadecimal digits. The case of letters makes no difference, three
digits stand for six, each of them doubled, and six for eight with full
opacity. The text of a color is read as this color with full opacity, that of
six digits read is shown in small letters, and with the opacity in front every
color is read back. -/
theorem color_texts :
    (∀ s, read s ≠ .error .badSlice) ∧
    (∀ s, (ofText? s).isSome ↔ ∃ digits, trim s.toList = '#' :: digits ∧
      digits.length ∈ [3, 6, 8] ∧ ∀ c ∈ digits, c ∈ "0123456789abcdefABCDEF".toList) ∧
    (∀ s t, sameIgnoringAsciiCase s t → ofText? s = ofText? t) ∧
    (∀ s t r g b, trim s.toList = ['#', r, g, b] → trim t.toList = ['#', r, r, g, g, b, b] →
      ofText? s = ofText? t) ∧
    (∀ s t digits, digits.length = 6 → trim s.toList = '#' :: digits →
      trim t.toList = '#' :: 'f' :: 'f' :: digits → ofText? s = ofText? t) ∧
    (∀ c : Color, ofText? c.text = some { c with alpha := 255 }) ∧
    (∀ s c, (trim s.toList).length = 7 → ofText? s = some c →
      c.text = String.ofList ((trim s.toList).map Char.toLower)) ∧
    ∀ c : Color, ofText? (String.ofList ('#' ::
      (byteText c.alpha ++ (byteText c.red ++ (byteText c.green ++ byteText c.blue))))) = some c := by
  refine ⟨fun s => ?_, fun s => ?_, fun s t same => ?_, fun s t r g b short long => ?_,
    fun s t digits six bare full => ?_, ofText?_text, fun s c seven found => ?_, fun c => ?_⟩
  · rw [read_eq]
    cases ofTrimmed? (trim s.toList) <;> exact nofun
  · rw [ofText?_eq]
    exact isSome_ofTrimmed?_iff _
  · have lowered := eq_of_beq same
    rw [ofText?_eq, ofText?_eq, ← ofTrimmed?_map_toLower, ← trim_map_toLower, lowered, trim_map_toLower,
      ofTrimmed?_map_toLower]
  · rw [ofText?_eq, ofText?_eq, short, long, ofTrimmed?_doubled]
  · rw [ofText?_eq, ofText?_eq, bare, full, ofTrimmed?_solid six]
  · rw [ofText?_eq] at found
    obtain ⟨digits, trimmed, -, -⟩ := (isSome_ofTrimmed?_iff _).1 (Option.isSome_of_eq_some found)
    rw [trimmed] at seven found ⊢
    rw [text_of_six (Nat.succ.inj seven) found]
    rfl
  · have read := ofText?_bytes [c.alpha, c.red, c.green, c.blue]
    simp only [List.flatMap_cons, List.flatMap_nil, List.append_nil] at read
    rw [read]
    simp only [byteText, List.cons_append, List.nil_append, ofDigits?, byteOf_hexDigit]

end ChatSieve.Color
