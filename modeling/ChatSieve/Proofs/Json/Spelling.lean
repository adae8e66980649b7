import ChatSieve.Proofs.Json.Scalars

/-!
# What a JSON text spells

`Spells` relates the values that the writer makes to their texts, with any gaps
between the parts of a text. The reader takes what spells a value for that value
(`ofText?_of_spells`). Both texts that are written of a value spell it
(`spells_compact`, `spells_pretty`), so either of them is read as the value
(`ofText?_compact`, `ofText?_pretty`).
-/

namespace ChatSieve.Json

open ChatSieve.Text

def IsGap (s : List Char) : Prop := ∀ c ∈ s, isSpace c

private theorem isGap_nil : IsGap [] := by
  intro c member
  cases member

theorem isGap_singleton {c : Char} (blank : isSpace c) : IsGap [c] :=
  List.forall_mem_singleton.2 blank

private theorem skipSpace_gap {gap : List Char} (is : IsGap gap) (s : List Char) :
    skipSpace (gap ++ s) = skipSpace s :=
  List.dropWhile_append_of_pos is

private theorem endsNumber_cons {c : Char} (ends : c.isDigit = false ∧ c ≠ '.' ∧ c ≠ 'e' ∧ c ≠ 'E')
    (rest : List Char) : EndsNumber (c :: rest) := by
  rintro d ⟨⟩
  exact ends

/-- No number goes on with a blank. -/
theorem endsNumber_of_gap {gap rest : List Char} (is : IsGap gap) (ends : EndsNumber rest) :
    EndsNumber (gap ++ rest) := by
  cases gap with
  | nil => exact ends
  | cons blank gap =>
    have space := is blank List.mem_cons_self
    simp only [isSpace, Bool.or_eq_true, beq_iff_eq] at space
    rcases space with ((rfl | rfl) | rfl) | rfl <;> exact endsNumber_cons (by decide) _

/-- What a part of a text stands for. -/
inductive Piece where
  | value (v : Json)
  /-- the items of an array, one at least -/
  | items (vs : List Json)
  /-- the members of an object, one at least -/
  | members (ms : List (Option String × Json))

/-- The texts of a piece. -/
inductive Spells : Piece → List Char → Prop where
  | null : Spells (.value .null) ['n', 'u', 'l', 'l']
  | true : Spells (.value (.bool true)) ['t', 'r', 'u', 'e']
  | false : Spells (.value (.bool false)) ['f', 'a', 'l', 's', 'e']
  | integer (i : Int) : Spells (.value (.ofInt i)) (intText i)
  | string (s : String) : Spells (.value (.ofString s)) (stringText (some s))
  | emptyArray : Spells (.value (.array [])) ['[', ']']
  | array {vs : List Json} {s gap : List Char} : Spells (.items vs) s → IsGap gap →
      Spells (.value (.array vs)) ('[' :: (s ++ (gap ++ [']'])))
  | emptyObject : Spells (.value (.object [])) ['{', '}']
  | object {ms : List (Option String × Json)} {s gap : List Char} : Spells (.members ms) s →
      IsGap gap → Spells (.value (.object ms)) ('{' :: (s ++ (gap ++ ['}'])))
  | spaced {v : Json} {gap s : List Char} : IsGap gap → Spells (.value v) s →
      Spells (.value v) (gap ++ s)
  | lastItem {v : Json} {s : List Char} : Spells (.value v) s → Spells (.items [v]) s
  | nextItem {v : Json} {vs : List Json} {s t : List Char} : Spells (.value v) s →
      Spells (.items vs) t → Spells (.items (v :: vs)) (s ++ ',' :: t)
  | lastMember {v : Json} {gap s : List Char} (key : String) : IsGap gap → Spells (.value v) s →
      Spells (.members [(some key, v)]) (gap ++ (stringText (some key) ++ ':' :: s))
  | nextMember {v : Json} {ms : List (Option String × Json)} {gap s t : List Char} (key : String) :
      IsGap gap → Spells (.value v) s → Spells (.members ms) t →
      Spells (.members ((some key, v) :: ms))
        (gap ++ (stringText (some key) ++ ':' :: (s ++ ',' :: t)))

/-! ## Reading -/

theorem skipSpace_skipSpace (s : List Char) : skipSpace (skipSpace s) = skipSpace s := by
  unfold skipSpace
  induction s with
  | nil => rfl
  | cons c s ih =>
    by_cases blank : isSpace c
    · rwa [List.dropWhile_cons_of_pos blank]
    · rw [List.dropWhile_cons_of_neg blank, List.dropWhile_cons_of_neg blank]

private theorem readValue_skipSpace (bound : Nat) (s : List Char) :
    readValue bound (skipSpace s) = readValue bound s := by
  cases bound with
  | zero => rfl
  | succ bound => rw [readValue, readValue, skipSpace_skipSpace]

private theorem readItems_skipSpace (bound : Nat) (s : List Char) :
    readItems bound (skipSpace s) = readItems bound s := by
  cases bound with
  | zero => rfl
  | succ bound => rw [readItems, readItems, readValue_skipSpace]

private theorem readMembers_skipSpace (bound : Nat) (s : List Char) :
    readMembers bound (skipSpace s) = readMembers bound s := by
  cases bound with
  | zero => rfl
  | succ bound => rw [readMembers, readMembers, skipSpace_skipSpace]

private theorem readValue_gap {gap : List Char} (is : IsGap gap) (bound : Nat) (s : List Char) :
    readValue bound (gap ++ s) = readValue bound s := by
  rw [← readValue_skipSpace, skipSpace_gap is, readValue_skipSpace]

private theorem readMembers_gap {gap : List Char} (is : IsGap gap) (bound : Nat) (s : List Char) :
    readMembers bound (gap ++ s) = readMembers bound s := by
  rw [← readMembers_skipSpace, skipSpace_gap is, readMembers_skipSpace]

/-- No item begins with a closing bracket. -/
theorem readItems_bracket (bound : Nat) (rest : List Char) :
    readItems bound (']' :: rest) = none := by
  rcases bound with - | - | bound
  · rfl
  · rfl
  · rfl

/-- No member begins with a closing brace. -/
theorem readMembers_brace (bound : Nat) (rest : List Char) :
    readMembers bound ('}' :: rest) = none := by
  cases bound with
  | zero => rfl
  | succ bound => rfl

private theorem readValue_string (bound : Nat) (s : String) (rest : List Char) :
    readValue (bound + 1) (stringText (some s) ++ rest) = some (.ofString s, rest) := by
  have text : stringText (some s) ++ rest = '"' :: (s.toList.flatMap escape ++ '"' :: rest) := by
    simp [stringText]
  have quote : skipSpace ('"' :: (s.toList.flatMap escape ++ '"' :: rest)) = 
    '"' :: (s.toList.flatMap escape ++ '"' :: rest) := rfl
  simp [text, readValue, quote, readString_stringText, ofString]

/-- What begins like a number is read as one. -/
theorem readValue_number {c : Char} (start : c.isDigit ∨ c = '-') (bound : Nat)
    (rest : List Char) :
    readValue (bound + 1) (c :: rest) =
      (readNumber (c :: rest)).map fun (n, after) => (.number n, after) := by
  have other : ∀ d : Char, d.isDigit = false → d ≠ '-' → c ≠ d := by
    rintro d no_digit no_minus rfl
    rcases start with digit | minus
    · rw [digit] at no_digit
      cases no_digit
    · exact no_minus minus
  have no_blank : skipSpace (c :: rest) = c :: rest := by
    refine List.dropWhile_cons_of_neg ?_
    simp [isSpace, other]
  rw [readValue, no_blank]
  split
  · contradiction
  · rename_i same
    exact absurd (List.cons.inj same).1 (other _ rfl (by decide))
  · rename_i same
    exact absurd (List.cons.inj same).1 (other _ rfl (by decide))
  · rename_i same
    exact absurd (List.cons.inj same).1 (other _ rfl (by decide))
  · rename_i same
    cases same
    simp [other]

private theorem readValue_integer (bound : Nat) (i : Int) {rest : List Char}
    (ends : EndsNumber rest) :
    readValue (bound + 1) (intText i ++ rest) = some (.ofInt i, rest) := by
  obtain ⟨c, digits, text, start⟩ :
      ∃ c digits, intText i = c :: digits ∧ (c.isDigit ∨ c = '-') := by
    cases i with
    | ofNat n =>
      obtain ⟨c, digits, text, digit⟩ := digit_of_digitsValue? (digitsValue?_toDigits n)
      exact ⟨c, digits, text, .inl digit⟩
    | negSucc n => exact ⟨'-', _, rfl, .inr rfl⟩
  have read := readNumber_intText i ends
  rw [text, List.cons_append] at read ⊢
  rw [readValue_number start, read, ← text]
  rfl

private theorem readValue_array {bound : Nat} {vs : List Json} {s after : List Char}
    (items : readItems bound s = some (vs, after)) :
    readValue (bound + 1) ('[' :: s) = some (.array vs, after) := by
  have bracket : skipSpace ('[' :: s) = '[' :: s := rfl
  simp only [readValue, bracket]
  split
  · rename_i rest closed
    rw [← readItems_skipSpace, closed, readItems_bracket] at items
    cases items
  · rw [readItems_skipSpace, items]
    rfl

private theorem readValue_object {bound : Nat} {ms : List (Option String × Json)}
    {s after : List Char}
    (members : readMembers bound s = some (ms, after)) :
    readValue (bound + 1) ('{' :: s) = some (.object ms, after) := by
  have brace : skipSpace ('{' :: s) = '{' :: s := rfl
  simp only [readValue, brace]
  split
  · rename_i rest closed
    rw [← readMembers_skipSpace, closed, readMembers_brace] at members
    cases members
  · rw [readMembers_skipSpace, members]
    rfl

/-- A piece is read off the head of what goes on with its end. -/
def Piece.IsRead : Piece → List Char → Prop
  | .value v, s => ∀ bound rest, s.length < bound → EndsNumber rest →
      readValue bound (s ++ rest) = some (v, rest)
  | .items vs, s => ∀ bound gap rest, s.length + 1 < bound → IsGap gap →
      readItems bound (s ++ (gap ++ ']' :: rest)) = some (vs, rest)
  | .members ms, s => ∀ bound gap rest, s.length + 1 < bound → IsGap gap →
      readMembers bound (s ++ (gap ++ '}' :: rest)) = some (ms, rest)

private theorem skipSpace_comma (s : List Char) : skipSpace (',' :: s) = ',' :: s := rfl

private theorem isRead_lastItem {v : Json} {s : List Char} (value : (Piece.value v).IsRead s) :
    (Piece.items [v]).IsRead s := by
  rintro (- | bound) gap rest long is
  · contradiction
  · have read := value bound _ (by omega) (endsNumber_of_gap is (endsNumber_cons (c := ']') (by decide) rest))
    have close : skipSpace (gap ++ ']' :: rest) = ']' :: rest := skipSpace_gap is _
    simp [readItems, read, close]

private theorem isRead_nextItem {v : Json} {vs : List Json} {s t : List Char}
    (value : (Piece.value v).IsRead s) (items : (Piece.items vs).IsRead t) :
    (Piece.items (v :: vs)).IsRead (s ++ ',' :: t) := by
  rintro (- | bound) gap rest long is
  · contradiction
  · rw [List.length_append, List.length_cons] at long
    have read := value bound _ (by omega) (endsNumber_cons (c := ',') (by decide) (t ++ (gap ++ ']' :: rest)))
    have later := items bound gap rest (by omega) is
    simp [readItems, read, skipSpace_comma, later]

/-- A member begins with its key and a colon. -/
theorem member_append (lead : List Char) (key : String) (s rest : List Char) :
    lead ++ (stringText (some key) ++ ':' :: s) ++ rest =
      lead ++ '"' :: (key.toList.flatMap escape ++ '"' :: ':' :: (s ++ rest)) := by
  simp [stringText]

private theorem skipSpace_quote (s : List Char) : skipSpace ('"' :: s) = '"' :: s := rfl

private theorem after?_colon (s : List Char) : after? [':'] (skipSpace (':' :: s)) = some s := rfl

private theorem isRead_lastMember {v : Json} {lead s : List Char} (key : String)
    (leads : IsGap lead)
    (value : (Piece.value v).IsRead s) :
    (Piece.members [(some key, v)]).IsRead (lead ++ (stringText (some key) ++ ':' :: s)) := by
  rintro (- | bound) gap rest long is
  · contradiction
  · simp only [List.length_append, List.length_cons] at long
    have read := value bound _ (by omega) (endsNumber_of_gap is (endsNumber_cons (c := '}') (by decide) rest))
    have close : skipSpace (gap ++ '}' :: rest) = '}' :: rest := skipSpace_gap is _
    rw [member_append, readMembers_gap leads]
    simp [readMembers, skipSpace_quote, readString_stringText, after?_colon, read, close]

private theorem isRead_nextMember {v : Json} {ms : List (Option String × Json)}
    {lead s t : List Char}
    (key : String) (leads : IsGap lead) (value : (Piece.value v).IsRead s)
    (members : (Piece.members ms).IsRead t) :
    (Piece.members ((some key, v) :: ms)).IsRead
      (lead ++ (stringText (some key) ++ ':' :: (s ++ ',' :: t))) := by
  rintro (- | bound) gap rest long is
  · contradiction
  · simp only [List.length_append, List.length_cons] at long
    have read := value bound _ (by omega) (endsNumber_cons (c := ',') (by decide) (t ++ (gap ++ '}' :: rest)))
    have later := members bound gap rest (by omega) is
    rw [member_append, List.append_assoc, List.cons_append, readMembers_gap leads]
    simp [readMembers, skipSpace_quote, readString_stringText, after?_colon, read, skipSpace_comma,
      later]

/-- What spells a piece is read as that piece. -/
theorem Spells.isRead {piece : Piece} {s : List Char} (spells : Spells piece s) :
    piece.IsRead s := by
  induction spells with
  | null | true | false | emptyArray | emptyObject =>
    rintro (- | bound) rest long ends
    · contradiction
    · rfl
  | integer i =>
    rintro (- | bound) rest long ends
    · contradiction
    · exact readValue_integer bound i ends
  | string s =>
    rintro (- | bound) rest long ends
    · contradiction
    · exact readValue_string bound s rest
  | @array vs s gap _ is items =>
    rintro (- | bound) rest long ends
    · contradiction
    · simp only [List.length_cons, List.length_append] at long
      have read := readValue_array (items bound gap rest (by omega) is)
      simpa using read
  | @object ms s gap _ is members =>
    rintro (- | bound) rest long ends
    · contradiction
    · simp only [List.length_cons, List.length_append] at long
      have read := readValue_object (members bound gap rest (by omega) is)
      simpa using read
  | spaced is _ value =>
    intro bound rest long ends
    rw [List.length_append] at long
    rw [List.append_assoc, readValue_gap is]
    exact value bound rest (by omega) ends
  | lastItem _ value => exact isRead_lastItem value
  | nextItem _ _ value items => exact isRead_nextItem value items
  | lastMember key leads _ value => exact isRead_lastMember key leads value
  | nextMember key leads _ _ value members => exact isRead_nextMember key leads value members

/-- A text that spells a value is read as that value, whatever blanks follow. -/
theorem ofText?_of_spells {v : Json} {s gap : List Char} (spells : Spells (.value v) s)
    (is : IsGap gap) : ofText? (s ++ gap) = some v := by
  have ends : EndsNumber gap := by
    rw [← List.append_nil gap]
    exact endsNumber_of_gap is nofun
  have long : s.length < (s ++ gap).length + 1 := by
    rw [List.length_append]
    omega
  have nothing : skipSpace gap = [] := by
    rw [← List.append_nil gap, skipSpace_gap is]
    rfl
  rw [ofText?, spells.isRead _ gap long ends]
  simp [nothing]

/-! ## Writing -/

/-- A value of the kind that is written: its numbers are integers, and its
strings and keys have texts. -/
inductive IsPlain : Json → Prop where
  | null : IsPlain .null
  | bool (b : Bool) : IsPlain (.bool b)
  | integer (i : Int) : IsPlain (.ofInt i)
  | string (s : String) : IsPlain (.ofString s)
  | array {items : List Json} : (∀ v ∈ items, IsPlain v) → IsPlain (.array items)
  | object {members : List (String × Json)} : (∀ m ∈ members, IsPlain m.2) →
      IsPlain (.ofMembers members)

/-- Items with commas between them, each behind its own text. -/
theorem spells_items (write : Json → List Char) (writeItems : List Json → List Char)
    (last : ∀ v, writeItems [v] = write v)
    (next : ∀ v w rest, writeItems (v :: w :: rest) = write v ++ ',' :: writeItems (w :: rest))
    {items : List Json} (nonempty : items ≠ [])
    (spell : ∀ v ∈ items, Spells (.value v) (write v)) :
    Spells (.items items) (writeItems items) := by
  induction items with
  | nil => exact absurd rfl nonempty
  | cons v rest ih =>
    obtain ⟨first, later⟩ := List.forall_mem_cons.1 spell
    cases rest with
    | nil =>
      rw [last]
      exact .lastItem first
    | cons w rest =>
      rw [next]
      exact .nextItem first (ih (List.cons_ne_nil w rest) later)

/-- Members with commas between them, each with its key in front. -/
theorem spells_members (write : Json → List Char)
    (writeMembers : List (Option String × Json) → List Char) {gap : List Char} (is : IsGap gap)
    (last : ∀ k v, writeMembers [(k, v)] = gap ++ (stringText k ++ ':' :: write v))
    (next : ∀ k v m rest, writeMembers ((k, v) :: m :: rest) =
      gap ++ (stringText k ++ ':' :: (write v ++ ',' :: writeMembers (m :: rest))))
    {members : List (String × Json)} (nonempty : members ≠ [])
    (spell : ∀ m ∈ members, Spells (.value m.2) (write m.2)) :
    Spells (.members (members.map fun (k, v) => (some k, v)))
      (writeMembers (members.map fun (k, v) => (some k, v))) := by
  induction members with
  | nil => exact absurd rfl nonempty
  | cons m rest ih =>
    obtain ⟨first, later⟩ := List.forall_mem_cons.1 spell
    cases rest with
    | nil =>
      rw [List.map_singleton, last]
      exact .lastMember m.1 is first
    | cons n rest =>
      rw [List.map_cons, List.map_cons, next]
      exact .nextMember m.1 is first (ih (List.cons_ne_nil n rest) later)

/-- The compact text of a value spells it. -/
theorem spells_compact {v : Json} (plain : v.IsPlain) : Spells (.value v) (compact v) := by
  induction plain with
  | null => exact .null
  | bool b =>
    cases b with
    | false => exact .false
    | true => exact .true
  | integer i => exact .integer i
  | string s => exact .string s
  | @array items _ spell =>
    cases items with
    | nil => exact .emptyArray
    | cons v rest =>
      have inner := spells_items compact compactItems (fun _ => rfl) (fun _ _ _ => rfl)
        (List.cons_ne_nil v rest) spell
      exact .array inner isGap_nil
  | @object members _ spell =>
    cases members with
    | nil => exact .emptyObject
    | cons m rest =>
      have inner := spells_members compact compactMembers isGap_nil (fun _ _ => rfl)
        (fun _ _ _ _ => rfl) (List.cons_ne_nil m rest) spell
      exact .object inner isGap_nil

private theorem isGap_lineAt (level : Nat) : IsGap (lineAt level) := by
  intro c member
  rcases List.mem_cons.1 member with rfl | blank
  · rfl
  · obtain rfl := List.eq_of_mem_replicate blank
    rfl

/-- The text of a value in lines spells it, at every level. -/
theorem spells_pretty {v : Json} (plain : v.IsPlain) :
    ∀ level, Spells (.value v) (pretty level v) := by
  induction plain with
  | null => exact fun _ => .null
  | bool b =>
    intro level
    cases b with
    | false => exact .false
    | true => exact .true
  | integer i => exact fun _ => .integer i
  | string s => exact fun _ => .string s
  | @array items _ spell =>
    intro level
    have line := isGap_lineAt (level + 1)
    cases items with
    | nil => exact .emptyArray
    | cons v rest =>
      have inner := spells_items (fun v => lineAt (level + 1) ++ pretty (level + 1) v)
        (prettyItems (level + 1)) (fun _ => rfl) (fun _ _ _ => rfl) (List.cons_ne_nil v rest)
        fun v member => .spaced line (spell v member (level + 1))
      simpa [pretty] using Spells.array inner (isGap_lineAt level)
  | @object members _ spell =>
    intro level
    have line := isGap_lineAt (level + 1)
    have blank : IsGap [' '] := isGap_singleton rfl
    cases members with
    | nil => exact .emptyObject
    | cons m rest =>
      have inner := spells_members (fun v => [' '] ++ pretty (level + 1) v)
        (prettyMembers (level + 1)) line (fun k v => by simp [prettyMembers])
        (fun k v m rest => by simp [prettyMembers]) (List.cons_ne_nil m rest)
        fun m member => .spaced blank (spell m member (level + 1))
      simpa [pretty, ofMembers] using Spells.object inner (isGap_lineAt level)

/-- The compact text of a value is read as that value. -/
theorem ofText?_compact {v : Json} (plain : v.IsPlain) : ofText? (compact v) = some v := by
  simpa using ofText?_of_spells (spells_compact plain) isGap_nil

/-- The text of a value in lines is read as that value, and so it is with a line
feed at its end. -/
theorem ofText?_pretty {v : Json} (plain : v.IsPlain) {gap : List Char} (is : IsGap gap) :
    ofText? (pretty 0 v ++ gap) = some v :=
  ofText?_of_spells (spells_pretty plain 0) is

end ChatSieve.Json
