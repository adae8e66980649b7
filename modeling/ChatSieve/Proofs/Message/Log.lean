import ChatSieve.Message.Log
import ChatSieve.Proofs.Text.Lines
import Mathlib.Data.List.Basic

/-!
# Logs of several parts

What is read of a log depends on its lines one by one: a blank line gives
nothing, a line that holds a message gives this message under the number of the
line, and the first line that is neither gives the error
(`readLines_eq_ok_iff`, `readLines_eq_error_iff`). Hence whole lines can be read
before others, and only the numbers of those others change (`readLog_append`).
-/

namespace ChatSieve.Message
open ChatSieve.Text

/-- What a line of a log is. -/
inductive Line where
  /-- its bytes are no text -/
  | unreadable
  | blank
  | malformed
  | holds (m : Message)

namespace Line

def ofBytes (bytes : List UInt8) : Line :=
  match decodeText? bytes with
  | none => .unreadable
  | some text =>
    if (trim text).isEmpty then .blank
    else
      match ofText? text with
      | none => .malformed
      | some m => .holds m

/-- A line that reading gets past. -/
def IsGood (l : Line) : Prop := l = .blank ∨ ∃ m, l = .holds m

/-- What is wrong with a line of a given number. -/
def fault? (number : Nat) : Line → Option LogError
  | .unreadable => some .unreadable
  | .malformed => some (.invalidLine number)
  | .blank | .holds _ => none

/-- What is recorded of a line of a given number. -/
def recorded? (number : Nat) : Line → Option Recorded
  | .holds m => some ⟨number, m⟩
  | .unreadable | .blank | .malformed => none

private theorem isGood_iff (number : Nat) (l : Line) : l.IsGood ↔ l.fault? number = none := by
  cases l <;> simp [IsGood, fault?]

end Line

/-- At a line that is not good reading stops, and a good line adds at most its
message to what is read behind it. -/
theorem readLines_cons (number : Nat) (line : List UInt8) (rest : List (List UInt8)) :
    readLines number (line :: rest) =
      match (Line.ofBytes line).fault? number with
      | some e => .error e
      | none => (readLines (number + 1) rest).map
          (((Line.ofBytes line).recorded? number).toList ++ ·) := by
  rw [readLines, Line.ofBytes]
  cases decodeText? line with
  | none => rfl
  | some text =>
    by_cases blank : (trim text).isEmpty
    · simp only [blank, if_true, Line.fault?, Line.recorded?]
      cases readLines (number + 1) rest <;> rfl
    · simp only [blank]
      cases ofText? text with
      | none => rfl
      | some m => cases readLines (number + 1) rest <;> rfl

private theorem readLines_of_fault {number : Nat} {line : List UInt8} {e : LogError}
    (fault : (Line.ofBytes line).fault? number = some e) (rest : List (List UInt8)) :
    readLines number (line :: rest) = .error e := by
  rw [readLines_cons, fault]

private theorem readLines_of_good {line : List UInt8} (good : (Line.ofBytes line).IsGood)
    (number : Nat)
    (rest : List (List UInt8)) :
    readLines number (line :: rest) = (readLines (number + 1) rest).map
      (((Line.ofBytes line).recorded? number).toList ++ ·) := by
  rw [readLines_cons, (Line.isGood_iff number _).1 good]

/-- The records of some lines, of which the first has the given number. -/
def recordsOf (number : Nat) (lines : List (List UInt8)) : List Recorded :=
  (lines.zipIdx number).filterMap fun line => (Line.ofBytes line.1).recorded? line.2

private theorem recordsOf_cons (number : Nat) (line : List UInt8) (rest : List (List UInt8)) :
    recordsOf number (line :: rest) =
      ((Line.ofBytes line).recorded? number).toList ++ recordsOf (number + 1) rest := by
  rw [recordsOf, List.zipIdx_cons, List.filterMap_cons]
  cases (Line.ofBytes line).recorded? number <;> rfl

private theorem le_of_mem_recordsOf {number : Nat} {lines : List (List UInt8)} {r : Recorded}
    (member : r ∈ recordsOf number lines) : number ≤ r.line := by
  obtain ⟨⟨line, i⟩, among, found⟩ := List.mem_filterMap.1 member
  have later : number ≤ i := List.le_snd_of_mem_zipIdx among
  cases is : Line.ofBytes line with
  | holds m =>
    rw [is] at found
    cases found
    exact later
  | unreadable | blank | malformed =>
    rw [is] at found
    cases found

/-- The numbers of the records ascend. -/
theorem pairwise_recordsOf (number : Nat) (lines : List (List UInt8)) :
    (recordsOf number lines).Pairwise fun r s => r.line < s.line := by
  induction lines generalizing number with
  | nil => exact .nil
  | cons line rest ih =>
    rw [recordsOf_cons]
    cases Line.ofBytes line with
    | holds m =>
      refine List.pairwise_cons.2 ⟨?_, ih (number + 1)⟩
      intro r member
      exact le_of_mem_recordsOf member
    | unreadable | blank | malformed => exact ih (number + 1)

/-- Lines are read if all of them are good, and then each line that holds a
message gives it. -/
theorem readLines_eq_ok_iff {number : Nat} {lines : List (List UInt8)} {rs : List Recorded} :
    readLines number lines = .ok rs ↔
      (∀ line ∈ lines, (Line.ofBytes line).IsGood) ∧ rs = recordsOf number lines := by
  induction lines generalizing number rs with
  | nil => simp [readLines, recordsOf, eq_comm]
  | cons line rest ih =>
    rw [recordsOf_cons, List.forall_mem_cons]
    cases fault : (Line.ofBytes line).fault? number with
    | some e => simp [readLines_of_fault fault, Line.isGood_iff number, fault]
    | none =>
      have good := (Line.isGood_iff number _).2 fault
      rw [readLines_of_good good]
      constructor
      · intro read
        cases later : readLines (number + 1) rest with
        | error e =>
          rw [later] at read
          cases read
        | ok records =>
          rw [later] at read
          cases read
          obtain ⟨all_good, rfl⟩ := ih.1 later
          exact ⟨⟨good, all_good⟩, rfl⟩
      · rintro ⟨⟨-, all_good⟩, rfl⟩
        rw [ih.2 ⟨all_good, rfl⟩]
        rfl

/-- What is read of two parts, of which the second one is not looked at if the
first one fails. -/
def andThen (first later : Except LogError (List Recorded)) : Except LogError (List Recorded) :=
  first.bind fun rs => later.map (rs ++ ·)

/-- Lines behind others. -/
theorem readLines_append (number : Nat) (lines more : List (List UInt8)) :
    readLines number (lines ++ more) =
      andThen (readLines number lines) (readLines (number + lines.length) more) := by
  induction lines generalizing number with
  | nil =>
    rw [List.nil_append, List.length_nil, Nat.add_zero, readLines]
    cases readLines number more <;> rfl
  | cons line rest ih =>
    rw [List.cons_append, List.length_cons, ← Nat.add_assoc, Nat.add_right_comm]
    cases fault : (Line.ofBytes line).fault? number with
    | some e =>
      rw [readLines_of_fault fault, readLines_of_fault fault]
      rfl
    | none =>
      have good := (Line.isGood_iff number _).2 fault
      rw [readLines_of_good good, readLines_of_good good, ih]
      cases readLines (number + 1) rest with
      | error e => rfl
      | ok first =>
        cases readLines (number + 1 + rest.length) more with
        | error e => rfl
        | ok later => simp [andThen, Except.bind, Except.map]

/-- Behind good lines, reading goes on with what they record. -/
theorem readLines_append_of_good {lines : List (List UInt8)}
    (good : ∀ line ∈ lines, (Line.ofBytes line).IsGood) (number : Nat) (more : List (List UInt8)) :
    readLines number (lines ++ more) =
      (readLines (number + lines.length) more).map (recordsOf number lines ++ ·) := by
  rw [readLines_append, readLines_eq_ok_iff.2 ⟨good, rfl⟩]
  rfl

private theorem readLines_blank (number : Nat) {gap : List (List UInt8)}
    (blank : ∀ line ∈ gap, Line.ofBytes line = .blank) (lines : List (List UInt8)) :
    readLines number (gap ++ lines) = readLines (number + gap.length) lines := by
  have nothing : recordsOf number gap = [] := by
    refine List.filterMap_eq_nil_iff.2 ?_
    rintro ⟨line, i⟩ among
    rw [blank line (List.fst_mem_of_mem_zipIdx among)]
    rfl
  rw [readLines_append_of_good fun line member => .inl (blank line member), nothing]
  cases readLines (number + gap.length) lines <;> rfl

/-- Reading fails for the first line that is not good. -/
theorem readLines_eq_error_iff {number : Nat} {lines : List (List UInt8)} {e : LogError} :
    readLines number lines = .error e ↔
      ∃ before line after, lines = before ++ line :: after ∧
        (∀ line ∈ before, (Line.ofBytes line).IsGood) ∧
        (Line.ofBytes line).fault? (number + before.length) = some e := by
  constructor
  · intro failed
    induction lines generalizing number with
    | nil => cases failed
    | cons line rest ih =>
      cases fault : (Line.ofBytes line).fault? number with
      | some e' =>
        rw [readLines_of_fault fault] at failed
        cases failed
        exact ⟨[], line, rest, rfl, List.forall_mem_nil _, fault⟩
      | none =>
        have good := (Line.isGood_iff number _).2 fault
        rw [readLines_of_good good] at failed
        cases later : readLines (number + 1) rest with
        | ok records =>
          rw [later] at failed
          cases failed
        | error e' =>
          rw [later] at failed
          cases failed
          obtain ⟨before, line', after, rfl, all_good, fault'⟩ := ih later
          refine ⟨line :: before, line', after, rfl, List.forall_mem_cons.2 ⟨good, all_good⟩, ?_⟩
          rw [List.length_cons, ← Nat.add_assoc, Nat.add_right_comm]
          exact fault'
  · rintro ⟨before, line, after, rfl, good, fault⟩
    rw [readLines_append_of_good good, readLines_of_fault fault]
    rfl

def Recorded.renumber (f : Nat → Nat) (r : Recorded) : Recorded := { r with line := f r.line }

def LogError.renumber (f : Nat → Nat) : LogError → LogError
  | .unreadable => .unreadable
  | .invalidLine n => .invalidLine (f n)

/-- What is read of a log whose lines have other numbers. -/
def renumber (f : Nat → Nat) : Except LogError (List Recorded) → Except LogError (List Recorded)
  | .error e => .error (e.renumber f)
  | .ok rs => .ok (rs.map (.renumber f))

/-- Only the numbers change with the number of the first line. -/
theorem readLines_renumber {f : Nat → Nat} {n k : Nat} {lines : List (List UInt8)}
    (moves : ∀ i < lines.length, f (n + i) = k + i) :
    readLines k lines = renumber f (readLines n lines) := by
  induction lines generalizing n k with
  | nil => rfl
  | cons line rest ih =>
    obtain rfl : f n = k := moves 0 (Nat.zero_lt_succ _)
    have later : readLines (f n + 1) rest = renumber f (readLines (n + 1) rest) := by
      apply ih
      intro i inside
      rw [Nat.add_right_comm n, Nat.add_right_comm (f n)]
      exact moves (i + 1) (Nat.succ_lt_succ inside)
    rw [readLines_cons, readLines_cons, later]
    cases Line.ofBytes line with
    | unreadable | malformed => rfl
    | blank | holds m => cases readLines (n + 1) rest <;> rfl

private theorem renumber_andThen (f : Nat → Nat) (first later : Except LogError (List Recorded)) :
    renumber f (andThen first later) = andThen (renumber f first) (renumber f later) := by
  cases first with
  | error e => rfl
  | ok rs =>
    cases later with
    | error e => rfl
    | ok more => simp [andThen, renumber, Except.bind, Except.map]

/-- The rest of a log is read as a log of its own, but for the numbers of its
lines. -/
theorem readLog_append_eq {a : List UInt8} (whole : AreWhole 10 a) (b : List UInt8) :
    readLog (a ++ b) = andThen (readLog a) (renumber (a.count 10 + ·) (readLog b)) := by
  have moved : readLines (1 + (byteLines a).length) (byteLines b) =
      renumber (a.count 10 + ·) (readLines 1 (byteLines b)) := by
    apply readLines_renumber
    intro i _
    rw [length_byteLines whole]
    omega
  rw [readLog, byteLines_append whole, readLines_append, moved]
  rfl

/-- Blank lines in between only move the lines behind them. -/
theorem readLog_insert_blank {a gap : List UInt8} (whole : AreWhole 10 a)
    (gap_whole : AreWhole 10 gap) (blank : ∀ line ∈ byteLines gap, Line.ofBytes line = .blank) (b : List UInt8) :
    readLog (a ++ (gap ++ b)) =
      renumber (fun n => if n ≤ a.count 10 then n else n + gap.count 10) (readLog (a ++ b)) := by
  have stays : renumber (fun n => if n ≤ a.count 10 then n else n + gap.count 10)
      (readLines 1 (byteLines a)) = readLines 1 (byteLines a) := by
    refine (readLines_renumber ?_).symm
    intro i inside
    rw [length_byteLines whole] at inside
    exact if_pos (by omega)
  have moves : renumber (fun n => if n ≤ a.count 10 then n else n + gap.count 10)
      (readLines (1 + (byteLines a).length) (byteLines b)) =
      readLines (1 + (byteLines a).length + (byteLines gap).length) (byteLines b) := by
    refine (readLines_renumber ?_).symm
    intro i inside
    rw [length_byteLines whole, length_byteLines gap_whole, if_neg (by omega)]
    omega
  rw [readLog, byteLines_append whole, byteLines_append gap_whole, readLines_append,
    readLines_blank _ blank, readLog, byteLines_append whole, readLines_append, renumber_andThen,
    stays, moves]

/-- A log whose first part has whole lines is read part by part: an error in
the first part is the error of the log, and otherwise the second part is read
as a log of its own, with as many lines before it as the first one has line
feeds. Blank lines may stand anywhere. In every log that is read, the numbers of
the lines ascend and each line that is not blank gives one message; in every
other log, the first line that neither is blank nor holds a message gives the
error. -/
theorem readLog_append {a : List UInt8} (whole : a = [] ∨ a.getLast? = some 10) (b : List UInt8) :
    (byteLines a).length = a.count 10 ∧
    (∀ e, readLog a = .error e → readLog (a ++ b) = .error e) ∧
    (∀ first, readLog a = .ok first →
      (∀ n, readLog b = .error (.invalidLine n) →
        readLog (a ++ b) = .error (.invalidLine (a.count 10 + n))) ∧
      (readLog b = .error .unreadable → readLog (a ++ b) = .error .unreadable) ∧
      ∀ later, readLog b = .ok later →
        readLog (a ++ b) = .ok (first ++ later.map (.renumber (a.count 10 + ·)))) ∧
    (∀ gap, gap = [] ∨ gap.getLast? = some 10 →
      (∀ line ∈ byteLines gap, Line.ofBytes line = .blank) →
      readLog (a ++ (gap ++ b)) =
        renumber (fun n => if n ≤ a.count 10 then n else n + gap.count 10) (readLog (a ++ b))) ∧
    (∀ log rs, readLog log = .ok rs ↔
      (∀ line ∈ byteLines log, (Line.ofBytes line).IsGood) ∧ rs = recordsOf 1 (byteLines log)) ∧
    (∀ log rs, readLog log = .ok rs → rs.Pairwise fun r s => r.line < s.line) ∧
    (∀ log e, readLog log = .error e ↔ ∃ before line after,
      byteLines log = before ++ line :: after ∧ (∀ line ∈ before, (Line.ofBytes line).IsGood) ∧
      (Line.ofBytes line).fault? (1 + before.length) = some e) := by
  refine ⟨length_byteLines whole, ?_, ?_, ?_, fun log rs => readLines_eq_ok_iff, ?_,
    fun log e => readLines_eq_error_iff⟩
  · intro e failed
    rw [readLog_append_eq whole, failed]
    rfl
  · intro first read
    rw [readLog_append_eq whole, read]
    refine ⟨fun n failed => ?_, fun failed => ?_, fun later read_later => ?_⟩
    · rw [failed]
      rfl
    · rw [failed]
      rfl
    · rw [read_later]
      rfl
  · intro gap gap_whole blank
    exact readLog_insert_blank whole gap_whole blank b
  · intro log rs read
    obtain ⟨-, rfl⟩ := readLines_eq_ok_iff.1 read
    exact pairwise_recordsOf 1 (byteLines log)

/-- A message before a carriage return, a line of a wide blank, and then a part
with an empty line and one that goes on behind its message. -/
theorem readLog_append_malformed :
    "\x7b\"content\":\"hi\"\x7d\r\n\u3000\n".toUTF8.data.toList.getLast? = some 10 ∧
      readLog "\x7b\"content\":\"hi\"\x7d\r\n\u3000\n".toUTF8.data.toList =
        .ok [⟨1, { Message.blank with content := "hi" }⟩] ∧
      readLog "\n\x7b\x7dx\n".toUTF8.data.toList = .error (.invalidLine 2) ∧
      readLog ("\x7b\"content\":\"hi\"\x7d\r\n\u3000\n".toUTF8.data.toList ++
        "\n\x7b\x7dx\n".toUTF8.data.toList) = .error (.invalidLine 4) := by
  have ended : "\x7b\"content\":\"hi\"\x7d\r\n\u3000\n".toUTF8.data.toList.getLast? = some 10 := by
    decide +kernel
  have read : readLog "\x7b\"content\":\"hi\"\x7d\r\n\u3000\n".toUTF8.data.toList =
      .ok [⟨1, { Message.blank with content := "hi" }⟩] := by
    decide +kernel
  have failed : readLog "\n\x7b\x7dx\n".toUTF8.data.toList = .error (.invalidLine 2) := by
    decide +kernel
  exact ⟨ended, read, failed, ((readLog_append (.inr ended) _).2.2.1 _ read).1 2 failed⟩

end ChatSieve.Message
