import ChatSieve.Proofs.Json.Spelling

/-!
# Compact texts have no control characters

The writer escapes the control characters of strings, so there is none in the
compact text of a value (`isPrinted_compact`). With that the text stands on one
line.
-/

namespace ChatSieve.Json

open ChatSieve.Text

/-- A text without control characters, and with that on one line. -/
def IsPrinted (s : List Char) : Prop := ∀ c ∈ s, 0x20 ≤ c.toNat

@[simp]
theorem isPrinted_nil : IsPrinted [] := by
  intro c member
  cases member

@[simp]
theorem isPrinted_cons {c : Char} {s : List Char} :
    IsPrinted (c :: s) ↔ 0x20 ≤ c.toNat ∧ IsPrinted s := List.forall_mem_cons

@[simp]
theorem isPrinted_append {s t : List Char} : IsPrinted (s ++ t) ↔ IsPrinted s ∧ IsPrinted t :=
  List.forall_mem_append

private theorem isPrinted_hexDigit :
    ∀ n < 0x20, IsPrinted [hexDigitOf (n / 16), hexDigitOf (n % 16)] := by
  simp only [isPrinted_cons, isPrinted_nil, and_true]
  decide

private theorem isPrinted_escape (c : Char) : IsPrinted (escape c) := by
  unfold escape
  split
  · simp
  · simp
  · simp
  · simp
  · simp
  · by_cases backspace : c.toNat = 8
    · simp [backspace]
    · by_cases form_feed : c.toNat = 12
      · simp [form_feed]
      · by_cases narrow : c.toNat < 0x20
        · simpa [backspace, form_feed, narrow] using isPrinted_hexDigit c.toNat narrow
        · simp [backspace, form_feed, narrow, Nat.le_of_not_lt narrow]

private theorem isPrinted_stringText (t : Option String) : IsPrinted (stringText t) := by
  have inner : IsPrinted ((t.getD "").toList.flatMap escape) := by
    intro c member
    obtain ⟨d, -, part⟩ := List.mem_flatMap.1 member
    exact isPrinted_escape d c part
  simp [stringText, inner]

theorem isPrinted_of_digits {s : List Char} (digits : ∀ c ∈ s, c.isDigit) : IsPrinted s := by
  intro c member
  exact Nat.le_trans (by decide : 0x20 ≤ '0'.toNat) (Char.isDigit_iff_toNat.1 (digits c member)).1

theorem isPrinted_toDigits (n : Nat) : IsPrinted (Nat.toDigits 10 n) :=
  isPrinted_of_digits fun _ => Nat.isDigit_of_mem_toDigits (by decide) (by decide)

theorem isPrinted_intText (i : Int) : IsPrinted (intText i) := by
  cases i with
  | ofNat n => exact isPrinted_toDigits n
  | negSucc n => simp [intText, isPrinted_toDigits]

private theorem isPrinted_compactItems {items : List Json}
    (printed : ∀ v ∈ items, IsPrinted (compact v)) : IsPrinted (compactItems items) := by
  induction items with
  | nil => simp [compactItems]
  | cons v rest ih =>
    obtain ⟨first, later⟩ := List.forall_mem_cons.1 printed
    cases rest with
    | nil => exact first
    | cons w rest => simp [compactItems, first, ih later]

private theorem isPrinted_compactMembers {members : List (Option String × Json)}
    (printed : ∀ m ∈ members, IsPrinted (compact m.2)) : IsPrinted (compactMembers members) := by
  induction members with
  | nil => simp [compactMembers]
  | cons m rest ih =>
    obtain ⟨first, later⟩ := List.forall_mem_cons.1 printed
    cases rest with
    | nil => simp [compactMembers, isPrinted_stringText, first]
    | cons n rest => simp [compactMembers, isPrinted_stringText, first, ih later]

/-- The compact text of a value has no control characters, whatever its strings
are. -/
theorem isPrinted_compact {v : Json} (plain : v.IsPlain) : IsPrinted (compact v) := by
  induction plain with
  | null => simp [compact]
  | bool b => cases b <;> simp [compact]
  | integer i => exact isPrinted_intText i
  | string s => exact isPrinted_stringText (some s)
  | array _ printed => simp [compact, isPrinted_compactItems printed]
  | object _ printed =>
    rw [ofMembers, compact]
    simp only [isPrinted_cons, isPrinted_append, isPrinted_nil, and_true]
    refine ⟨by decide, isPrinted_compactMembers ?_, by decide⟩
    exact List.forall_mem_map.2 printed

end ChatSieve.Json
