import ChatSieve.Message.Json
import ChatSieve.Proofs.Json.Spelling
import ChatSieve.Proofs.Message.Timestamp

/-!
# Reading back messages

The JSON of a message is read as that message (`ofJson?_json`) if its timestamp
is a moment of the calendar, and that it is for each message that was read
(`isValid_of_ofJson?`). The fields may be anything else: each of the four records
is written with the fields that it is read from, absent ones are left out and
read as absent, and the flags, which are written in their order, give the same
set.
-/

namespace ChatSieve.Message

open ChatSieve.Text

/-- The fields of an object without double keys are its members. -/
theorem fieldAmong_ofMembers (name : String) {members : List (String × Json)}
    (nodup : (members.map Prod.fst).Nodup) :
    fieldAmong name (members.map fun (k, v) => (some k, v)) = some (members.lookup name) := by
  induction members with
  | nil => rfl
  | cons m rest ih =>
    obtain ⟨key, v⟩ := m
    obtain ⟨fresh, later⟩ := List.nodup_cons.1 nodup
    rw [List.map_cons, fieldAmong, ih later]
    by_cases here : key = name
    · subst here
      have absent : rest.lookup key = none := by
        refine List.lookup_eq_none_iff.2 fun n member => ?_
        simpa using fun same => fresh (List.mem_map.2 ⟨n, member, same.symm⟩)
      simp [absent]
    · have other : (name == key) = false := by simpa using fun same => here same.symm
      simp [here, List.lookup_cons, other]

private theorem fieldsOf_ofMembers (names : List String) {members : List (String × Json)}
    (nodup : (members.map Prod.fst).Nodup) :
    fieldsOf names (.ofMembers members) = some (names.map fun name => members.lookup name) := by
  have each : (fun name => fieldAmong name (members.map fun (k, v) => (some k, v))) =
      fun name => pure (members.lookup name) := funext fun name => fieldAmong_ofMembers name nodup
  rw [Json.ofMembers, fieldsOf, each, List.mapM_pure]
  rfl

@[simp]
theorem lookup_optionalMember {α : Type} (name key : String) (write : α → Json) (v : Option α) :
    (optionalMember key write v).lookup name = if name = key then v.map write else none := by
  cases v with
  | none => simp [optionalMember]
  | some v =>
    by_cases here : name = key
    · simp [optionalMember, here]
    · have other : (name == key) = false := by simpa using here
      simp [optionalMember, List.lookup_cons, here, other]

@[simp]
theorem fieldOr_some {α : Type} (default : α) (read : Json → Option α) (v : Json) :
    fieldOr default read (some v) = read v := rfl

@[simp]
theorem readText_ofString (s : String) : readText (.ofString s) = some s := rfl

/-- A field that may be absent is read as it was written. -/
theorem fieldOr_optional {α : Type} {read : Json → Option α} {write : α → Json} {v : Option α}
    (back : ∀ a ∈ v, read (write a) = some a ∧ write a ≠ .null) :
    fieldOr none (readOptional read) (v.map write) = some v := by
  cases v with
  | none => rfl
  | some a =>
    obtain ⟨same, some_value⟩ := back a rfl
    rw [Option.map_some, fieldOr, readOptional.eq_def]
    split
    · rename_i null
      exact absurd null some_value
    · rw [same]
      rfl

private theorem fieldOr_optionalText (v : Option String) :
    fieldOr none (readOptional readText) (v.map Json.ofString) = some v :=
  fieldOr_optional fun _ _ => ⟨rfl, nofun⟩

private theorem readList_map {α : Type} {read : Json → Option α} {write : α → Json} {as : List α}
    (back : ∀ a ∈ as, read (write a) = some a) :
    readList read (.array (as.map write)) = some as := by
  rw [readList]
  induction as with
  | nil => rfl
  | cons a rest ih =>
    obtain ⟨first, later⟩ := List.forall_mem_cons.1 back
    rw [List.map_cons, List.mapM_cons, first, ih later]
    rfl

private theorem readBadge_json (b : Badge) : readBadge b.json = some b := by
  rw [readBadge, Badge.json, fieldsOf_ofMembers]
  · simp [List.lookup_cons, fieldOr_optionalText]
  · cases b.info <;> simp [optionalMember]

private theorem readAuthor_json (a : Author) : readAuthor a.json = some a := by
  have badges : readList readBadge (.array (a.badges.map Badge.json)) = some a.badges :=
    readList_map fun b _ => readBadge_json b
  rw [readAuthor, Author.json, fieldsOf_ofMembers]
  · simp [List.lookup_cons, List.lookup_append, fieldOr_optionalText, badges]
  · cases a.displayName <;> cases a.color <;> simp [optionalMember]

/-- Digits without a sign are no negative cost. -/
theorem readCost_of_digit {c : Char} (digit : c.isDigit) (ds : List Char) :
    readCost (.number (c :: ds)) =
      (digitsValue? (c :: ds)).bind fun n => int64? (Int.ofNat n) := by
  rw [readCost.eq_def]
  split
  · rename_i same
    cases same
    cases digit
  · rename_i same
    cases same
    cases digit
  · rename_i same
    cases same
    rfl
  · rename_i other
    exact absurd rfl (other _)

private theorem readCost_minus {ds : List Char} (nonzero : ds ≠ ['0']) :
    readCost (.number ('-' :: ds)) =
      (digitsValue? ds).bind fun n => int64? (-Int.ofNat n) := by
  rw [readCost.eq_def]
  split
  · rename_i same
    cases same
    exact absurd rfl nonzero
  · rename_i same
    cases same
    rfl
  · rename_i no_minus same
    cases same
    exact absurd rfl (no_minus ds)
  · rename_i other
    exact absurd rfl (other _)

private theorem readCost_ofInt (n : Int64) : readCost (.ofInt n.toInt) = some n := by
  have range := int64?_toInt n
  rw [Json.ofInt]
  cases value : n.toInt with
  | ofNat k =>
    obtain ⟨c, ds, digits, digit⟩ := digit_of_digitsValue? (digitsValue?_toDigits k)
    rw [value] at range
    rw [intText, digits, readCost_of_digit digit, ← digits, digitsValue?_toDigits,
      Option.bind_some, range]
  | negSucc k =>
    have nonzero : Nat.toDigits 10 (k + 1) ≠ ['0'] := fun zero =>
      absurd (eq_zero_of_toDigits zero) (Nat.succ_ne_zero k)
    rw [value] at range
    have same : -Int.ofNat (k + 1) = Int.negSucc k := rfl
    rw [intText, readCost_minus nonzero, digitsValue?_toDigits, Option.bind_some, same, range]

private theorem readReward_json (r : Reward) : readReward r.json = some r := by
  rw [readReward, Reward.json, fieldsOf_ofMembers]
  · simp [List.lookup_cons, readCost_ofInt]
  · simp

private theorem Flag.ofName?_name (f : Flag) : Flag.ofName? f.name = some f := by
  cases f <;> decide

theorem Flags.ofList_toList (s : Flags) : Flags.ofList s.toList = s := by
  funext f
  simp [ofList, toList, List.contains_eq_mem, Flag.mem_all]

private theorem readList_flags (s : Flags) :
    (readList readFlag s.json).map Flags.ofList = some s := by
  have names : readList readFlag s.json = some s.toList :=
    readList_map fun f _ => Flag.ofName?_name f
  rw [names, Option.map_some, Flags.ofList_toList]

/-- The timestamp is a moment of the calendar. -/
def IsValid (m : Message) : Prop := ∀ t ∈ m.timestamp, t.IsValid

private theorem readTimestamp_json {t : Timestamp} (valid : t.IsValid) :
    readTimestamp t.json = some t := by
  have text : readText t.json = some (String.ofList t.exactText) := rfl
  rw [readTimestamp, text, Option.bind_some, String.toList_ofList]
  exact Timestamp.ofText?_exactText valid

/-- A message is read back from its JSON. -/
theorem ofJson?_json {m : Message} (valid : m.IsValid) : ofJson? m.json = some m := by
  have timestamp : fieldOr none (readOptional readTimestamp) (m.timestamp.map Timestamp.json) =
      some m.timestamp :=
    fieldOr_optional fun t is => ⟨readTimestamp_json (valid t is), nofun⟩
  have reward : fieldOr none (readOptional readReward) (m.reward.map Reward.json) =
      some m.reward :=
    fieldOr_optional fun r _ => ⟨readReward_json r, nofun⟩
  rw [ofJson?, json, fieldsOf_ofMembers]
  · simp [List.lookup_cons, List.lookup_append, timestamp, reward, readAuthor_json, readList_flags]
  · cases m.timestamp <;> cases m.reward <;> simp [optionalMember]

private theorem isValid_of_readTimestamp {field : Option Json} {timestamp : Option Timestamp}
    (read : fieldOr none (readOptional readTimestamp) field = some timestamp) :
    ∀ t ∈ timestamp, t.IsValid := by
  rintro t ⟨⟩
  cases field with
  | none => cases read
  | some v =>
    rw [fieldOr_some, readOptional.eq_def] at read
    split at read
    · cases read
    · obtain ⟨moment, found, same⟩ := Option.map_eq_some_iff.1 read
      obtain rfl : moment = t := Option.some.inj same
      obtain ⟨text, -, parsed⟩ := Option.bind_eq_some_iff.1 found
      exact Timestamp.isValid_of_ofText? parsed

/-- What is read as a message has a moment of the calendar, if any. -/
theorem isValid_of_ofJson? {v : Json} {m : Message} (read : ofJson? v = some m) : m.IsValid := by
  obtain ⟨fields, -, read⟩ := Option.bind_eq_some_iff.1 read
  split at read
  · simp only [Option.bind_eq_bind, Option.bind_eq_some_iff] at read
    obtain ⟨timestamp, moment, channel, -, author, -, content, -, flags, -, reward, -, made⟩ := read
    obtain rfl := Option.some.inj made
    exact isValid_of_readTimestamp moment
  · cases read

private theorem isPlain_optionalMember {α : Type} (name : String) {write : α → Json} {v : Option α}
    (plain : ∀ a ∈ v, (write a).IsPlain) : ∀ m ∈ optionalMember name write v, m.2.IsPlain := by
  cases v with
  | none => exact nofun
  | some a =>
    intro m member
    obtain rfl := List.mem_singleton.1 member
    exact plain a rfl

private theorem isPlain_map {α : Type} {write : α → Json} {as : List α}
    (plain : ∀ a ∈ as, (write a).IsPlain) : (Json.array (as.map write)).IsPlain :=
  .array (List.forall_mem_map.2 plain)

theorem Badge.isPlain_json (b : Badge) : b.json.IsPlain := by
  refine .object (List.forall_mem_cons.2 ⟨.string _, ?_⟩)
  exact isPlain_optionalMember "info" fun info _ => .string info

theorem Author.isPlain_json (a : Author) : a.json.IsPlain := by
  have display_name := isPlain_optionalMember "display_name" (v := a.displayName)
    fun name _ => .string name
  have color := isPlain_optionalMember "color" (v := a.color) fun name _ => .string name
  have badges : (Json.array (a.badges.map Badge.json)).IsPlain :=
    isPlain_map fun b _ => b.isPlain_json
  refine .object ?_
  simp only [List.forall_mem_append, List.forall_mem_singleton]
  exact ⟨⟨⟨⟨.string _, display_name⟩, .string _⟩, color⟩, badges⟩

theorem Reward.isPlain_json (r : Reward) : r.json.IsPlain := by
  refine .object ?_
  simp only [List.forall_mem_cons]
  exact ⟨.string _, .string _, .integer _, nofun⟩

theorem isPlain_json (m : Message) : m.json.IsPlain := by
  have timestamp := isPlain_optionalMember "timestamp" (v := m.timestamp)
    fun (t : Timestamp) _ => .string (String.ofList t.exactText)
  have flags : m.flags.json.IsPlain := isPlain_map fun f _ => .string f.name
  have reward := isPlain_optionalMember "reward" (v := m.reward) fun r _ => r.isPlain_json
  refine .object ?_
  simp only [List.forall_mem_append, List.forall_mem_cons]
  exact ⟨⟨timestamp, .string _, m.author.isPlain_json, .string _, flags, nofun⟩, reward⟩

/-- A message is read back from its text. -/
theorem ofText?_json {m : Message} (valid : m.IsValid) : ofText? m.json.compact = some m := by
  rw [ofText?, Json.ofText?_compact m.isPlain_json, Option.bind_some, ofJson?_json valid]

end ChatSieve.Message
