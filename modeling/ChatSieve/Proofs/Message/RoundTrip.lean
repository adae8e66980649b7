import ChatSieve.Proofs.Json.Printed
import ChatSieve.Proofs.Message.Json
import ChatSieve.Proofs.Message.Log

/-!
# Reading back logs

A log that has the compact JSON of a message on every line is read as these
messages, numbered from one (`readLog_writeLog`). The text of a message is one
line and no blank one: control characters of its strings are escaped, and it is
an object.
-/

namespace ChatSieve.Message

open ChatSieve.Text ChatSieve.Json

/-- The bytes of a text in UTF-8. -/
def encodeText (s : String) : List UInt8 := s.toUTF8.data.toList

private theorem encodeText_append (s t : String) :
    encodeText (s ++ t) = encodeText s ++ encodeText t := by
  simp [encodeText, String.toUTF8]

private theorem encodeText_ofList (s : List Char) :
    encodeText (String.ofList s) = s.flatMap String.utf8EncodeChar := by
  simp [encodeText, String.toUTF8, String.toByteArray_ofList, List.utf8Encode]

private theorem decodeText?_encodeText (s : String) :
    decodeText? (encodeText s) = some s.toList := by
  have valid : s.toByteArray.IsValidUTF8 := s.isValidUTF8
  have same : (⟨s.toUTF8.data.toList.toArray⟩ : ByteArray) = s.toByteArray := by
    rw [Array.toArray_toList]
    rfl
  rw [decodeText?, encodeText, same, String.fromUTF8?, dif_pos valid]
  rfl

private theorem encodeText_ne_nil {s : String} (nonempty : s.toList ≠ []) : encodeText s ≠ [] := by
  intro none
  have decoded := decodeText?_encodeText s
  rw [none] at decoded
  exact nonempty (Option.some.inj decoded).symm

private theorem le_toNat_ofNat {n : Nat} (above : 0x20 ≤ n) (below : n < 256) :
    0x20 ≤ (UInt8.ofNat n).toNat := by
  rw [UInt8.toNat_ofNat']
  omega

/-- A character that is no control character has no such byte either. -/
theorem le_of_mem_utf8EncodeChar {c : Char} (wide : 0x20 ≤ c.toNat) {byte : UInt8}
    (member : byte ∈ String.utf8EncodeChar c) : 0x20 ≤ byte.toNat := by
  have same : c.val.toNat = c.toNat := rfl
  simp only [String.utf8EncodeChar, same] at member
  split at member
  · obtain rfl := List.mem_singleton.1 member
    exact le_toNat_ofNat wide (by omega)
  · split at member
    · simp only [List.mem_cons, List.not_mem_nil, or_false] at member
      rcases member with rfl | rfl <;> exact le_toNat_ofNat (by omega) (by omega)
    · split at member
      · simp only [List.mem_cons, List.not_mem_nil, or_false] at member
        rcases member with rfl | rfl | rfl <;> exact le_toNat_ofNat (by omega) (by omega)
      · simp only [List.mem_cons, List.not_mem_nil, or_false] at member
        rcases member with rfl | rfl | rfl | rfl <;> exact le_toNat_ofNat (by omega) (by omega)

private theorem le_of_mem_encodeText {s : List Char} (printed : IsPrinted s) {byte : UInt8}
    (member : byte ∈ encodeText (String.ofList s)) : 0x20 ≤ byte.toNat := by
  rw [encodeText_ofList] at member
  obtain ⟨c, given, part⟩ := List.mem_flatMap.1 member
  exact le_of_mem_utf8EncodeChar (printed c given) part

private theorem not_mem_encodeText {s : List Char} (printed : IsPrinted s) (byte : UInt8)
    (control : byte.toNat < 0x20) : byte ∉ encodeText (String.ofList s) := fun member =>
  absurd (le_of_mem_encodeText printed member) (Nat.not_le_of_lt control)

/-- A text without control characters is one line. -/
theorem byteLines_printed {s : List Char} (printed : IsPrinted s) (rest : List UInt8) :
    byteLines (encodeText (String.ofList s) ++ 10 :: rest) =
      encodeText (String.ofList s) :: byteLines rest := by
  have no_feed := not_mem_encodeText printed 10 (by decide)
  have no_return := not_mem_encodeText printed 13 (by decide)
  exact byteLines_line no_feed (fun last => no_return (List.mem_of_getLast? last)) rest

/-- The log of some messages, each on a line of its own. -/
def writeLog (ms : List Message) : List UInt8 :=
  ms.flatMap fun m => encodeText (m.json.text ++ "\n")

private theorem writeLog_cons (m : Message) (ms : List Message) :
    writeLog (m :: ms) = encodeText m.json.text ++ 10 :: writeLog ms := by
  have feed : encodeText "\n" = [10] := by decide
  rw [writeLog, List.flatMap_cons, encodeText_append, feed, List.append_assoc]
  rfl

private theorem byteLines_writeLog (ms : List Message) :
    byteLines (writeLog ms) = ms.map fun m => encodeText m.json.text := by
  induction ms with
  | nil => rfl
  | cons m ms ih =>
    rw [writeLog_cons, Json.text, byteLines_printed (isPrinted_compact m.isPlain_json), ih]
    rfl

private theorem compact_json (m : Message) : ∃ s, m.json.compact = '{' :: s := ⟨_, rfl⟩

/-- The line feed at the end can be left out. -/
theorem byteLines_dropLast_writeLog (ms : List Message) :
    byteLines (writeLog ms).dropLast = ms.map fun m => encodeText m.json.text := by
  induction ms with
  | nil => rfl
  | cons m ms ih =>
    have printed := isPrinted_compact m.isPlain_json
    rw [writeLog_cons, List.dropLast_append_cons, Json.text]
    cases ms with
    | nil =>
      obtain ⟨s, object⟩ := m.compact_json
      have nonempty : encodeText (String.ofList m.json.compact) ≠ [] := by
        refine encodeText_ne_nil ?_
        rw [String.toList_ofList, object]
        exact List.cons_ne_nil _ s
      have no_feed := not_mem_encodeText printed 10 (by decide)
      have alone : (10 :: writeLog []).dropLast = [] := rfl
      rw [alone, List.append_nil, byteLines_last no_feed nonempty]
      rfl
    | cons n ms =>
      have more : writeLog (n :: ms) ≠ [] := by
        rw [writeLog_cons]
        simp
      rw [List.dropLast_cons_of_ne_nil more, byteLines_printed printed, ih]
      rfl

/-- A text is not blank if its first character is none. -/
theorem trim_cons_ne_nil {c : Char} (shown : isBlank c = false) (s : List Char) :
    trim (c :: s) ≠ [] := by
  intro blank
  rw [trim, List.dropWhile_cons_of_neg (by simp [shown]), List.reverse_eq_nil_iff] at blank
  have front := List.takeWhile_append_dropWhile (p := isBlank) (l := (c :: s).reverse)
  rw [blank, List.append_nil] at front
  have all_blank : (c :: s).reverse.all isBlank := by
    rw [← front]
    exact List.all_takeWhile
  simp [shown] at all_blank

/-- The line of a message holds it. -/
theorem Line.ofBytes_json {m : Message} (valid : m.IsValid) :
    Line.ofBytes (encodeText m.json.text) = .holds m := by
  have shown : trim m.json.compact ≠ [] := by
    obtain ⟨s, object⟩ := m.compact_json
    rw [object]
    exact trim_cons_ne_nil (by decide) s
  rw [ofBytes, decodeText?_encodeText, Json.text, String.toList_ofList]
  simp [shown, ofText?_json valid]

private theorem readLines_json {ms : List Message} (valid : ∀ m ∈ ms, m.IsValid) (number : Nat) :
    readLines number (ms.map fun m => encodeText m.json.text) =
      .ok (ms.mapIdx fun i m => ⟨number + i, m⟩) := by
  induction ms generalizing number with
  | nil => rfl
  | cons m ms ih =>
    obtain ⟨first, later⟩ := List.forall_mem_cons.1 valid
    have numbers : (fun (i : Nat) (m : Message) => Recorded.mk (number + 1 + i) m) =
        fun i m => ⟨number + (i + 1), m⟩ := by
      funext i m
      rw [Nat.add_assoc, Nat.add_comm 1 i]
    rw [List.map_cons, readLines_cons, Line.ofBytes_json first, ih later, numbers,
      List.mapIdx_cons]
    rfl

/-- The messages that reading produces are read back from their log, in order
and with the numbers of their lines, be the last line ended or not. -/
theorem readLog_writeLog {ms : List Message}
    (produced : ∀ m ∈ ms, ∃ text, ofText? text = some m) :
    readLog (writeLog ms) = .ok (ms.mapIdx fun i m => ⟨i + 1, m⟩) ∧
      readLog (writeLog ms).dropLast = .ok (ms.mapIdx fun i m => ⟨i + 1, m⟩) := by
  have valid : ∀ m ∈ ms, m.IsValid := by
    intro m member
    obtain ⟨text, read⟩ := produced m member
    obtain ⟨v, -, read⟩ := Option.bind_eq_some_iff.1 read
    exact isValid_of_ofJson? read
  have read := readLines_json valid 1
  simp only [Nat.add_comm 1] at read
  constructor
  · rw [readLog, byteLines_writeLog, read]
  · rw [readLog, byteLines_dropLast_writeLog, read]

/-- A message with a leap second, control characters and a negative cost. -/
def oddMessage : Message :=
  { timestamp := some ⟨⟨2016, 12, 31⟩, 23, 59, 60, 500000000⟩
    channel := "forsen"
    author := ⟨"ann", none, "7", some "#fff", [⟨"vip", none⟩]⟩
    content := "\"one\"\n\x01two\\"
    flags := Flags.ofList [.reply, .elevatedMessage]
    reward := some ⟨"", "hat", -5⟩ }

/-- It is read from an array of its fields, with an offset from universal time and
the other name of a flag, and read back from its log behind another message. -/
theorem readLog_writeLog_oddMessage :
    (∀ m ∈ [.blank, oddMessage], ∃ text, ofText? text = some m) ∧
      readLog (writeLog [.blank, oddMessage]) = .ok [⟨1, .blank⟩, ⟨2, oddMessage⟩] := by
  have blank : ofText? "[]".toList = some .blank := by decide +kernel
  have odd : ofText? (r#"["2017-01-01T00:59:60.5+01:00", "forsen","#.toList ++
      r##"["ann", null, "7", "#fff", [["vip"]]], "\"one\"\n\u0001two\\","##.toList ++
      r#"["reply", "hype_chat"], ["", "hat", -5]]"#.toList) = some oddMessage := by
    decide +kernel
  have produced : ∀ m ∈ [.blank, oddMessage], ∃ text, ofText? text = some m :=
    List.forall_mem_cons.2 ⟨⟨_, blank⟩, List.forall_mem_singleton.2 ⟨_, odd⟩⟩
  exact ⟨produced, (readLog_writeLog produced).1⟩

end ChatSieve.Message
