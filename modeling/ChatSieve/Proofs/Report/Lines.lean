import ChatSieve.Proofs.Expr.Addition
import ChatSieve.Proofs.Json.Printed
import ChatSieve.Proofs.Message.Context
import ChatSieve.Proofs.Text.Lines
import ChatSieve.Proofs.Value.Color
import ChatSieve.Report.Listing

/-!
# Entries and lines

An entry tells the content of a message on one line, but the channel, the author
and the result as they are. So a listing has a line for each entry just if there
are no line feeds in these (`listing_lines`), and has more lines otherwise. The
result cannot have one in a filter that gives integers, truth values or colors.
-/

namespace ChatSieve.Report

open ChatSieve.Text ChatSieve.Json

/-- The number of line feeds in a text. -/
def feeds (t : String) : Nat := t.toList.count '\n'

@[simp]
theorem feeds_append (s t : String) : feeds (s ++ t) = feeds s + feeds t := by
  rw [feeds, String.toList_append, List.count_append, feeds, feeds]

private theorem feeds_eq_zero_iff (t : String) : feeds t = 0 ↔ '\n' ∉ t.toList := List.count_eq_zero

private theorem feeds_of_isPrinted {s : List Char} (printed : IsPrinted s) :
    feeds (String.ofList s) = 0 := by
  rw [feeds_eq_zero_iff, String.toList_ofList]
  intro member
  exact absurd (printed '\n' member) (by decide)

private theorem isPrinted_padded (width n : Nat) : IsPrinted (padded width n) :=
  isPrinted_of_digits fun _ => isDigit_of_mem_padded

private theorem feeds_repr (n : Nat) : feeds (Nat.repr n) = 0 :=
  feeds_of_isPrinted (isPrinted_toDigits n)

private theorem isPrinted_yearText (year : Int) : IsPrinted (Message.Timestamp.yearText year) := by
  unfold Message.Timestamp.yearText
  split
  · exact isPrinted_padded _ _
  · split <;> simp [isPrinted_padded]

private theorem isPrinted_shownText (t : Message.Timestamp) : IsPrinted t.shownText := by
  simp [Message.Timestamp.shownText, Message.Timestamp.textWith, isPrinted_yearText, isPrinted_padded]

/-- The texts that stand in an entry as they are. -/
def plainTexts (ty : Ty) (all : Bool) (e : Evaluation) : List String :=
  [e.timestamp.getD "-", e.channel, e.author] ++ if all || ty != .bool then [e.result.text] else []

private theorem feeds_alignRight (width : Nat) (t : String) :
    feeds (alignRight width t) = feeds t := by
  rw [alignRight, feeds_append, feeds_of_isPrinted, Nat.zero_add]
  intro c member
  obtain rfl := List.eq_of_mem_replicate member
  decide

private theorem feeds_oneLine (t : String) : feeds (oneLine t) = 0 := by
  rw [feeds_eq_zero_iff, oneLine, String.toList_ofList]
  intro member
  obtain ⟨c, -, part⟩ := List.mem_flatMap.1 member
  split at part
  · exact absurd part (by decide)
  · rename_i no_feed
    exact no_feed (List.mem_singleton.1 part).symm

/-- An entry has the line feeds of these texts and no others. -/
theorem feeds_entry (ty : Ty) (all : Bool) (e : Evaluation) :
    feeds (entry false ty all e) = ((plainTexts ty all e).map feeds).sum := by
  have mark : feeds (marker ty e) = 0 := by
    unfold marker
    split <;> rfl
  have colon : feeds ": " = 0 := rfl
  have number_sign : feeds " #" = 0 := rfl
  have blank : feeds " " = 0 := rfl
  have arrow : feeds " => " = 0 := rfl
  have nothing : feeds "" = 0 := rfl
  simp only [entry, plainTexts, Style.paint, feeds_append, mark, feeds_alignRight, feeds_repr, colon,
    number_sign, blank, feeds_oneLine, Bool.false_eq_true, if_false]
  split
  · simp [arrow]
    omega
  · simp [nothing]
    omega

private theorem feeds_heading (ty : Ty) (es : List Evaluation) : feeds (heading ty es) = 0 := by
  have count (n : Nat) : feeds (messageCount n) = 0 := by
    rw [messageCount, feeds_append, feeds_repr]
    split <;> rfl
  have name : feeds ty.name = 0 := by cases ty <;> rfl
  have matched : feeds "FILTER matched " = 0 := rfl
  have of : feeds " of " = 0 := rfl
  have evaluated : feeds "FILTER evaluated " = 0 := rfl
  have bracket : feeds " (" = 0 := rfl
  have closing : feeds ")" = 0 := rfl
  unfold heading
  split
  · simp [matched, feeds_repr, of, count]
  · simp [evaluated, count, bracket, name, closing]

/-- The heading and the entries of a listing. -/
def parts (ty : Ty) (all : Bool) (es : List Evaluation) : List (List Char) :=
  (heading ty es).toList :: (shown ty all es).map fun e => (entry false ty all e).toList

private theorem toList_listing (ty : Ty) (all : Bool) (es : List Evaluation) :
    (listing false ty all es).toList = ended '\n' (parts ty all es) := by
  have feed : "\n".toList = ['\n'] := rfl
  simp [listing, parts, ended, String.toList_join, feed, List.flatMap_map]

private theorem forall_mem_parts_iff (ty : Ty) (all : Bool) (es : List Evaluation) :
    (∀ part ∈ parts ty all es, '\n' ∉ part) ↔
      ∀ e ∈ shown ty all es, ∀ t ∈ plainTexts ty all e, '\n' ∉ t.toList := by
  have entry_iff (e : Evaluation) : '\n' ∉ (entry false ty all e).toList ↔
      ∀ t ∈ plainTexts ty all e, '\n' ∉ t.toList := by
    rw [← feeds_eq_zero_iff, feeds_entry, List.sum_eq_zero_iff_forall_eq_nat, List.forall_mem_map]
    simp only [feeds_eq_zero_iff]
  have first : '\n' ∉ (heading ty es).toList := (feeds_eq_zero_iff _).1 (feeds_heading ty es)
  rw [parts, List.forall_mem_cons, List.forall_mem_map]
  simp only [first, not_false_eq_true, true_and, entry_iff]

private theorem feeds_listing (ty : Ty) (all : Bool) (es : List Evaluation) :
    feeds (listing false ty all es) =
      (shown ty all es).length + 1 + (((shown ty all es).flatMap (plainTexts ty all)).map feeds).sum := by
  have inner : ((parts ty all es).map (List.count '\n')).sum =
      (((shown ty all es).flatMap (plainTexts ty all)).map feeds).sum := by
    have first : (heading ty es).toList.count '\n' = 0 := feeds_heading ty es
    have entries : (List.count '\n' ∘ fun e => (entry false ty all e).toList) =
        fun e => ((plainTexts ty all e).map feeds).sum := by
      funext e
      rw [Function.comp_apply, ← feeds_entry, feeds]
    rw [parts, List.map_cons, List.sum_cons, first, Nat.zero_add, List.map_map, entries]
    generalize shown ty all es = listed
    induction listed with
    | nil => rfl
    | cons e rest ih =>
      rw [List.flatMap_cons, List.map_append, List.sum_append, List.map_cons, List.sum_cons, ih]
  rw [feeds, toList_listing, count_ended, inner, parts, List.length_cons, List.length_map]

private theorem feeds_listing_eq_iff (ty : Ty) (all : Bool) (es : List Evaluation) :
    feeds (listing false ty all es) = (shown ty all es).length + 1 ↔
      ∀ e ∈ shown ty all es, ∀ t ∈ plainTexts ty all e, '\n' ∉ t.toList := by
  have number : (shown ty all es).length + 1 = (parts ty all es).length := by
    rw [parts, List.length_cons, List.length_map]
  rw [feeds, toList_listing, number, count_ended_eq_iff, forall_mem_parts_iff]

private theorem splitOn_listing_eq_iff (ty : Ty) (all : Bool) (es : List Evaluation) :
    (listing false ty all es).toList.splitOn '\n' = parts ty all es ++ [[]] ↔
      ∀ e ∈ shown ty all es, ∀ t ∈ plainTexts ty all e, '\n' ∉ t.toList := by
  rw [toList_listing, splitOn_ended_eq_iff]
  exact forall_mem_parts_iff ty all es

/-- The types of the filters whose results have no line feeds. -/
def feedless : List Ty := [.int, .bool, .color]

private theorem feeds_text_of_hasShape {v : Value} {ty : Ty} (shape : v.HasShape ty)
    (member : ty ∈ feedless) :
    feeds v.text = 0 := by
  cases shape with
  | int n => exact feeds_of_isPrinted (isPrinted_intText n.toInt)
  | bool b => cases b <;> rfl
  | color c =>
    refine (feeds_eq_zero_iff _).2 fun feed => ?_
    exact absurd (Color.not_isBlank_of_mem_text feed) (by decide)
  | _ => exact absurd member (by decide)

private theorem feeds_timestamp (f : Filter) (channels : Channels) (r : Message.Recorded) :
    feeds ((Evaluation.ofRecorded f channels r).timestamp.getD "-") = 0 := by
  have dash : feeds "-" = 0 := rfl
  rw [Evaluation.ofRecorded]
  cases r.message.timestamp with
  | none => exact dash
  | some t => exact feeds_of_isPrinted (isPrinted_shownText t)

/-- Of a message the time has no line feed, and the result has none in a filter
of these types. -/
theorem forall_plainTexts_iff {text : String} {f : Filter} (compiled : Filter.ofText text = .ok f)
    (all : Bool) {channels : Channels} {r : Message.Recorded} {e : Evaluation}
    (evaluation : e = .ofRecorded f channels r) :
    (∀ t ∈ plainTexts f.ty all e, '\n' ∉ t.toList) ↔
      '\n' ∉ e.channel.toList ∧ '\n' ∉ e.author.toList ∧
        (f.ty ∉ feedless → '\n' ∉ e.result.text.toList) := by
  have time : '\n' ∉ (e.timestamp.getD "-").toList := by
    rw [← feeds_eq_zero_iff, evaluation]
    exact feeds_timestamp f channels r
  by_cases member : f.ty ∈ feedless
  · have result : '\n' ∉ e.result.text.toList := by
      have typed := ((Filter.compile_eq_ok_iff _ _ _).1 compiled).2
      have shape := (Expr.hasLooseShape_of_typeIn (r.message.bindings_fit channels) typed).hasShape
        (by rintro string; simp [string, feedless] at member)
        (by rintro strings; simp [strings, feedless] at member)
      rw [← feeds_eq_zero_iff, evaluation]
      exact feeds_text_of_hasShape shape member
    unfold plainTexts
    split <;> simp [time, result, member]
  · have told : (all || f.ty != .bool) = true := by
      have other : f.ty ≠ .bool := by
        rintro bool
        simp [bool, feedless] at member
      simp [other]
    simp [plainTexts, told, time, member]

/-- The line feeds of a listing are one behind the heading and behind each
entry, and those of the texts that stand in the entries as they are. Just if
there are none in these texts the lines are the heading and the entries. When
the evaluations are what a filter gives on a log, these texts are the channels
and the authors, and the results unless they are integers, truth values or
colors. -/
theorem listing_lines (ty : Ty) (all : Bool) (es : List Evaluation) :
    feeds (listing false ty all es) =
        (shown ty all es).length + 1 +
          (((shown ty all es).flatMap (plainTexts ty all)).map feeds).sum ∧
      (feeds (listing false ty all es) = (shown ty all es).length + 1 ↔
        ∀ e ∈ shown ty all es, ∀ t ∈ plainTexts ty all e, '\n' ∉ t.toList) ∧
      ((listing false ty all es).toList.splitOn '\n' = parts ty all es ++ [[]] ↔
        ∀ e ∈ shown ty all es, ∀ t ∈ plainTexts ty all e, '\n' ∉ t.toList) ∧
      ∀ (text : String) (f : Filter) (channels : Channels) (log : List Message.Recorded),
        Filter.ofText text = .ok f → f.ty = ty → f.evaluate channels log = es →
        ((listing false ty all es).toList.splitOn '\n' = parts ty all es ++ [[]] ↔
          ∀ e ∈ shown ty all es,
            '\n' ∉ e.channel.toList ∧ '\n' ∉ e.author.toList ∧
              (ty ∉ feedless → '\n' ∉ e.result.text.toList)) := by
  refine ⟨feeds_listing ty all es, feeds_listing_eq_iff ty all es, splitOn_listing_eq_iff ty all es, ?_⟩
  intro text f channels log compiled type evaluated
  subst type
  subst evaluated
  rw [splitOn_listing_eq_iff]
  refine forall₂_congr fun e listed => ?_
  obtain ⟨r, -, evaluation⟩ := List.mem_map.1 (List.mem_of_mem_filter listed)
  exact forall_plainTexts_iff compiled all evaluation.symm

open Token Grammar

/-- A channel, an author and a result of two lines break an entry each. -/
theorem listing_breaks :
    ∃ f, Filter.ofText "message.content" = .ok f ∧
      ∀ m ∈ [{ Message.blank with channel := "one\ntwo" },
          { Message.blank with author := { Message.Author.nobody with name := "one\ntwo" } },
          { Message.blank with content := "one\ntwo" }],
        (shown f.ty false (f.evaluate .none [⟨1, m⟩])).length + 1 = 2 ∧
          feeds (listing false f.ty false (f.evaluate .none [⟨1, m⟩])) = 3 := by
  have found : tokens Catalogue.declarations "message.content" =
      [⟨.identifier, "message.content"⟩] := by
    decide +kernel
  have compiled : Filter.ofText "message.content" =
      .ok ⟨.identifier "message.content", .string⟩ := by
    refine (Filter.compile_eq_ok_iff _ _ _).2 ⟨?_, rfl⟩
    rw [parse, found]
    rfl
  refine ⟨_, compiled, ?_⟩
  simp only [List.forall_mem_cons]
  refine ⟨⟨rfl, ?_⟩, ⟨rfl, ?_⟩, ⟨rfl, ?_⟩, List.forall_mem_nil _⟩
  · decide +kernel
  · decide +kernel
  · decide +kernel

end ChatSieve.Report
