import ChatSieve.Proofs.Text.Decimal
import ChatSieve.Proofs.Value.Color
import ChatSieve.Value.Equality

/-!
# Loose equality

Which values of different kinds agree is told by a table (`Agrees`), and loose
equality goes by it (`looselyEquals_iff`). A number, a truth value or a color on
the left reads a string on the right; a string on the left is compared with what
they are written as. So the sides matter for these pairs, and for numbers beside
truth values, and for no others (`looselyEquals_rules`).
-/

namespace ChatSieve.Value

open ChatSieve.Text

mutual

private theorem strictlyEquals_refl : ∀ v : Value, v.strictlyEquals v
  | .null => rfl
  | .int n => by simp [strictlyEquals]
  | .bool b => by simp [strictlyEquals]
  | .string s => by simp [strictlyEquals]
  | .strings items => by simp [strictlyEquals]
  | .list items => listsEqual_refl items
  | .map entries => entriesEqual_refl entries
  | .color c => by simp [strictlyEquals]
  | .pattern p => by simp [strictlyEquals]

private theorem listsEqual_refl : ∀ vs : List Value, listsEqual vs vs
  | [] => rfl
  | v :: vs => by simp [listsEqual, strictlyEquals_refl v, listsEqual_refl vs]

private theorem entriesEqual_refl : ∀ entries : List (String × Value), entriesEqual entries entries
  | [] => rfl
  | (k, v) :: entries => by simp [entriesEqual, strictlyEquals_refl v, entriesEqual_refl entries]

end

mutual

private theorem strictlyEquals_comm : ∀ a b : Value, a.strictlyEquals b = b.strictlyEquals a := by
  intro a b
  cases a with
  | list as =>
    cases b with
    | list bs => exact listsEqual_comm as bs
    | _ => rfl
  | map as =>
    cases b with
    | map bs => exact entriesEqual_comm as bs
    | _ => rfl
  | _ =>
    cases b <;> first | rfl | exact BEq.comm

private theorem listsEqual_comm : ∀ as bs : List Value, listsEqual as bs = listsEqual bs as
  | [], [] => rfl
  | [], _ :: _ => rfl
  | _ :: _, [] => rfl
  | a :: as, b :: bs => by
    rw [listsEqual, listsEqual, strictlyEquals_comm a b, listsEqual_comm as bs]

private theorem entriesEqual_comm : ∀ as bs :
    List (String × Value), entriesEqual as bs = entriesEqual bs as
  | [], [] => rfl
  | [], _ :: _ => rfl
  | _ :: _, [] => rfl
  | (j, a) :: as, (k, b) :: bs => by
    rw [entriesEqual, entriesEqual, strictlyEquals_comm a b, entriesEqual_comm as bs,
      BEq.comm (a := j)]

end

/-- A list equals one of strings just if it has these strings and nothing else. -/
theorem listsEqual_map_string (items : List String) (vs : List Value) :
    listsEqual (items.map Value.string) vs ↔ vs = items.map Value.string := by
  induction items generalizing vs with
  | nil => cases vs <;> simp [listsEqual]
  | cons s items ih =>
    cases vs with
    | nil => simp [listsEqual]
    | cons v vs =>
      rw [List.map_cons, listsEqual, Bool.and_eq_true, ih, List.cons.injEq]
      refine and_congr_left fun _ => ?_
      cases v with
      | string t => rw [strictlyEquals, beq_iff_eq, string.injEq, eq_comm]
      | _ => simp [strictlyEquals]

private theorem mapM_asString?_eq_some_iff (vs : List Value) (items : List String) :
    vs.mapM asString? = some items ↔ vs = items.map Value.string := by
  induction vs generalizing items with
  | nil => cases items <;> simp
  | cons v vs ih =>
    cases v with
    | string t =>
      cases items with
      | nil => cases rest : vs.mapM asString? <;> simp [asString?, rest]
      | cons s items =>
        rw [List.map_cons, List.cons.injEq, ← ih]
        cases rest : vs.mapM asString? <;> simp [asString?, rest]
    | _ => cases items <;> simp [asString?]

/-- What converts to the kind of the left value is compared there. -/
theorem looselyEquals_of_right {a b b' : Value} (kinds : sameKind a b = false)
    (converted : b.convertLike? a = some b') : a.looselyEquals b = a.strictlyEquals b' := by
  simp [looselyEquals, kinds, converted]

/-- What does not is compared as what the left value converts to. -/
theorem looselyEquals_of_left {a a' b : Value} (kinds : sameKind a b = false)
    (fails : b.convertLike? a = none) (converted : a.convertLike? b = some a') :
    a.looselyEquals b = a'.strictlyEquals b := by
  simp [looselyEquals, kinds, fails, converted]

private theorem looselyEquals_of_none {a b : Value} (kinds : sameKind a b = false)
    (right : b.convertLike? a = none) (left : a.convertLike? b = none) : a.looselyEquals b = false := by
  simp [looselyEquals, kinds, right, left]

private theorem readInt64_trim_decimalText (i : Int64) :
    readInt64 (trim (decimalText i).toList) = some i := by
  have shown : ∀ c ∈ int64Text i, isBlank c = false := by
    intro c member
    rcases of_mem_intText member with rfl | digit
    · decide
    · exact Token.not_isBlank_of_isNameChar (Token.isNameChar_of_isDigit digit)
  rw [decimalText, String.toList_ofList, trim_eq_self shown, readInt64_int64Text]

/-- A value whose text can be read reads the strings on its right: what it cannot
read is not its text either. -/
theorem looselyEquals_string {v : Value} {s t : String} (kinds : sameKind v (.string s) = false)
    (shown : v.toText? = some t) (readable : (Value.string t).convertLike? v ≠ none) :
    v.looselyEquals (.string s) = ((Value.string s).convertLike? v).any v.strictlyEquals := by
  cases read : (Value.string s).convertLike? v with
  | some w => rw [looselyEquals_of_right kinds read, Option.any_some]
  | none =>
    have converted : v.convertLike? (.string s) = some (.string t) := by
      simp [convertLike?, shown]
    have other : t ≠ s := by
      rintro rfl
      exact readable read
    rw [looselyEquals_of_left kinds read converted, strictlyEquals, Option.any_none, beq_eq_false_iff_ne]
    exact other

private theorem looselyEquals_int_string (i : Int64) (s : String) :
    (Value.int i).looselyEquals (.string s) ↔ readInt64 (trim s.toList) = some i := by
  have readable : (Value.string (decimalText i)).convertLike? (.int i) ≠ none := by
    simp [convertLike?, toInt?, readInt64_trim_decimalText]
  rw [looselyEquals_string rfl rfl readable, convertLike?, toInt?]
  cases readInt64 (trim s.toList) with
  | none => simp
  | some j => rw [Option.map_some, Option.any_some, strictlyEquals, beq_iff_eq, Option.some.injEq, eq_comm]

private theorem looselyEquals_color_string (c : Color) (s : String) :
    (Value.color c).looselyEquals (.string s) ↔ Color.ofText? s = some c := by
  have readable : (Value.string c.text).convertLike? (.color c) ≠ none := by
    simp [convertLike?, toColor?, Color.ofText?_text]
  rw [looselyEquals_string rfl rfl readable, convertLike?, toColor?]
  cases Color.ofText? s with
  | none => simp
  | some d => rw [Option.map_some, Option.any_some, strictlyEquals, beq_iff_eq, Option.some.injEq, eq_comm]

private theorem looselyEquals_strings_list (items : List String) (vs : List Value) :
    (Value.strings items).looselyEquals (.list vs) ↔ vs = items.map Value.string := by
  cases strings : vs.mapM asString? with
  | some others =>
    have converted : (Value.list vs).convertLike? (.strings items) = some (.strings others) := by
      simp [convertLike?, toStrings?, strings]
    obtain rfl := (mapM_asString?_eq_some_iff vs others).1 strings
    rw [looselyEquals_of_right rfl converted, strictlyEquals, beq_iff_eq, eq_comm,
      List.map_inj_right fun _ _ => string.inj]
  | none =>
    have fails : (Value.list vs).convertLike? (.strings items) = none := by
      simp [convertLike?, toStrings?, strings]
    rw [looselyEquals_of_left rfl fails rfl]
    exact listsEqual_map_string items vs

private theorem looselyEquals_list_strings (vs : List Value) (items : List String) :
    (Value.list vs).looselyEquals (.strings items) ↔ vs = items.map Value.string := by
  rw [looselyEquals_of_right rfl rfl, strictlyEquals_comm]
  exact listsEqual_map_string items vs

/-- Which values agree. Between kinds that are not named here none do. -/
def Agrees : Value → Value → Prop
  | .int i, .string s => readInt64 (trim s.toList) = some i
  | .string s, .int i => s = decimalText i
  | .int i, .bool b => i = if b then 1 else 0
  | .bool b, .int i => b = (i != 0)
  | .bool b, .string s => b = isTrueText s
  | .string s, .bool b => s = boolText b
  | .color c, .string s => Color.ofText? s = some c
  | .string s, .color c => s = c.text
  | .strings items, .list vs => vs = items.map Value.string
  | .list vs, .strings items => vs = items.map Value.string
  | a, b => sameKind a b ∧ a.strictlyEquals b

/-- The pairs of kinds for which the sides matter. -/
def IsOneSided : Value → Value → Prop
  | .int _, .string _ | .string _, .int _ | .int _, .bool _ | .bool _, .int _
  | .bool _, .string _ | .string _, .bool _ | .color _, .string _ | .string _, .color _ => True
  | _, _ => False

/-- Between the other kinds nothing converts. -/
theorem looselyEquals_iff (v w : Value) : v.looselyEquals w ↔ v.Agrees w := by
  have unrelated {v w : Value} (kinds : sameKind v w = false) (right : w.convertLike? v = none)
      (left : v.convertLike? w = none) : v.looselyEquals w ↔ sameKind v w ∧ v.strictlyEquals w := by
    rw [looselyEquals_of_none kinds right left, kinds]
    simp
  have alike {v w : Value} (kinds : sameKind v w) :
      v.looselyEquals w ↔ sameKind v w ∧ v.strictlyEquals w := by
    simp [looselyEquals, kinds]
  cases v with
  | int i =>
    cases w with
    | string s => exact looselyEquals_int_string i s
    | bool b => rw [looselyEquals_of_right rfl rfl, strictlyEquals, beq_iff_eq, Agrees]
    | int j => exact alike rfl
    | _ => exact unrelated rfl rfl rfl
  | bool b =>
    cases w with
    | string s => rw [looselyEquals_of_right rfl rfl, strictlyEquals, beq_iff_eq, Agrees]
    | int i => rw [looselyEquals_of_right rfl rfl, strictlyEquals, beq_iff_eq, Agrees]
    | bool c => exact alike rfl
    | _ => exact unrelated rfl rfl rfl
  | string s =>
    cases w with
    | int i => rw [looselyEquals_of_right rfl rfl, strictlyEquals, beq_iff_eq, Agrees]
    | bool b => rw [looselyEquals_of_right rfl rfl, strictlyEquals, beq_iff_eq, Agrees]
    | color c => rw [looselyEquals_of_right rfl rfl, strictlyEquals, beq_iff_eq, Agrees]
    | string t => exact alike rfl
    | _ => exact unrelated rfl rfl rfl
  | color c =>
    cases w with
    | string s => exact looselyEquals_color_string c s
    | color d => exact alike rfl
    | _ => exact unrelated rfl rfl rfl
  | strings items =>
    cases w with
    | list vs => exact looselyEquals_strings_list items vs
    | strings others => exact alike rfl
    | _ => exact unrelated rfl rfl rfl
  | list vs =>
    cases w with
    | strings items => exact looselyEquals_list_strings vs items
    | list ws => exact alike rfl
    | _ => exact unrelated rfl rfl rfl
  | null | map _ | pattern _ =>
    cases w <;> first | exact alike rfl | exact unrelated rfl rfl rfl

private theorem sameKind_of_strictlyEquals {v w : Value} (same : v.strictlyEquals w) :
    sameKind v w := by
  cases v <;> cases w <;> first | rfl | cases same

private theorem looselyEquals_of_strictlyEquals {v w : Value} (same : v.strictlyEquals w) :
    v.looselyEquals w := by
  rw [looselyEquals, if_pos (sameKind_of_strictlyEquals same)]
  exact same

/-- For the other pairs the table reads the same from both sides. -/
theorem agrees_comm {v w : Value} (both_sided : ¬ IsOneSided v w) : v.Agrees w ↔ w.Agrees v := by
  have comm := strictlyEquals_comm v w
  cases v <;> cases w <;>
    first | exact absurd trivial both_sided | rfl | simp [Agrees, sameKind, comm]

/-- What loose equality is. It holds between values that agree by the table, so
between a value and itself and whatever equals it strictly. It is the same from
both sides but for the four pairs of kinds of which one reads the other, and for
each of these it is not. -/
theorem looselyEquals_rules :
    (∀ v w : Value, v.looselyEquals w ↔ v.Agrees w) ∧
    (∀ v : Value, v.looselyEquals v) ∧
    (∀ v w : Value, v.strictlyEquals w → v.looselyEquals w) ∧
    (∀ v w : Value, ¬ IsOneSided v w → v.looselyEquals w = w.looselyEquals v) ∧
    (∃ i s, (Value.int i).looselyEquals (.string s) ≠ (Value.string s).looselyEquals (.int i)) ∧
    (∃ i b, (Value.int i).looselyEquals (.bool b) ≠ (Value.bool b).looselyEquals (.int i)) ∧
    (∃ b s, (Value.bool b).looselyEquals (.string s) ≠ (Value.string s).looselyEquals (.bool b)) ∧
    ∃ c s, (Value.color c).looselyEquals (.string s) ≠ (Value.string s).looselyEquals (.color c) := by
  refine ⟨looselyEquals_iff, ?_, ?_, ?_, ⟨5, " 5", ?_⟩, ⟨2, true, ?_⟩, ⟨true, "yes", ?_⟩,
    ⟨.solid 255 0 0, "#F00", ?_⟩⟩
  · intro v
    exact looselyEquals_of_strictlyEquals (strictlyEquals_refl v)
  · intro v w
    exact looselyEquals_of_strictlyEquals
  · intro v w both_sided
    rw [Bool.eq_iff_iff, looselyEquals_iff, looselyEquals_iff]
    exact agrees_comm both_sided
  · decide
  · decide
  · decide
  · decide

end ChatSieve.Value
