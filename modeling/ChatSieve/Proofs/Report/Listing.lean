import ChatSieve.Cli.Run
import ChatSieve.Proofs.Json.Spelling

/-!
# Listings in two formats

The text and the JSON of a run select the evaluations each by itself, and the
heading of the text counts them without selecting. All go by one choice of
messages (`chosen`): the text has an entry for each of them in their order, the
JSON reads back as an item for each of them in their order, and the heading
counts the messages for which the filter holds (`render_evaluate`).
-/

namespace ChatSieve

namespace Value

mutual

theorem isPlain_json : ∀ v : Value, v.json.IsPlain
  | .null => .null
  | .int n => .integer n.toInt
  | .bool b => .bool b
  | .string s => .string s
  | .strings items => .array (List.forall_mem_map.2 fun s _ => .string s)
  | .list items => .array (isPlain_jsons items)
  | .map entries => by
    obtain ⟨members, same, plain⟩ := isPlain_jsonMembers entries
    rw [json, same]
    exact .object plain
  | .color c => .string c.text
  | .pattern p => .string p.source

private theorem isPlain_jsons : ∀ vs : List Value, ∀ j ∈ jsons vs, j.IsPlain
  | [] => nofun
  | v :: vs => List.forall_mem_cons.2 ⟨isPlain_json v, isPlain_jsons vs⟩

private theorem isPlain_jsonMembers : ∀ entries : List (String × Value),
    ∃ members : List (String × Json),
      jsonMembers entries = members.map (fun (k, v) => (some k, v)) ∧ ∀ m ∈ members, m.2.IsPlain
  | [] => ⟨[], rfl, nofun⟩
  | (k, v) :: rest => by
    obtain ⟨members, same, plain⟩ := isPlain_jsonMembers rest
    refine ⟨(k, json v) :: members, ?_, List.forall_mem_cons.2 ⟨isPlain_json v, plain⟩⟩
    rw [jsonMembers, same]
    rfl

end

end Value

/-- The first member of an object with this key. -/
def Json.member? (key : String) : Json → Option Json
  | .object members => members.lookup (some key)
  | _ => none

namespace Report

private theorem isPlain_evaluationJson (e : Evaluation) : (evaluationJson e).IsPlain := by
  refine .object ?_
  simp only [List.forall_mem_append, List.forall_mem_cons]
  refine ⟨⟨⟨.integer _, nofun⟩, ?_⟩, .string _, .string _, .string _, e.result.isPlain_json, nofun⟩
  cases e.timestamp with
  | none => exact nofun
  | some t => exact List.forall_mem_singleton.2 (.string t)

/-- A listing as JSON reads back as the evaluations, be there a line feed at its
end or not. -/
theorem ofText?_jsonListing (es : List Evaluation) {gap : List Char} (is : Json.IsGap gap) :
    Json.ofText? ((jsonListing es).toList ++ gap) = some (.array (es.map evaluationJson)) := by
  rw [jsonListing, Json.prettyText, String.toList_ofList]
  exact Json.ofText?_pretty (.array (List.forall_mem_map.2 fun e _ => isPlain_evaluationJson e)) is

private theorem member?_evaluationJson_line (e : Evaluation) :
    (evaluationJson e).member? "line" = some (.ofInt e.line) := rfl

private theorem member?_evaluationJson_result (e : Evaluation) :
    (evaluationJson e).member? "result" = some e.result.json := by
  rw [evaluationJson]
  cases e.timestamp <;> rfl

/-- An entry begins with its mark. -/
theorem head_entry (colored : Bool) (ty : Ty) (all : Bool) (e : Evaluation) :
    (entry colored ty all e).toList.head? =
      some (if ty = .bool && e.isMatch then '>' else ' ') := by
  unfold entry marker
  split <;> simp

end Report

namespace Cli

open Report

/-- The messages that a listing is about: all of them on demand or of a filter
that is neither true nor false, else those for which the result counts as true. -/
def chosen (f : Filter) (channels : Channels) (all : Bool) (log : List Message.Recorded) :
    List Message.Recorded :=
  log.filter fun r =>
    all || f.ty != .bool || (f.eval (r.message.bindings channels)).toBool? == some true

private theorem isMatch_ofRecorded (f : Filter) (channels : Channels) (r : Message.Recorded) :
    (Evaluation.ofRecorded f channels r).isMatch =
      ((f.eval (r.message.bindings channels)).toBool? == some true) := by
  rw [Evaluation.isMatch, Evaluation.ofRecorded]
  cases (f.eval (r.message.bindings channels)).toBool? with
  | none => rfl
  | some b => cases b <;> rfl

private theorem isMatch_eq_holds (f : Filter) (channels : Channels) (r : Message.Recorded) :
    (Evaluation.ofRecorded f channels r).isMatch = f.holds (r.message.bindings channels) := rfl

/-- A selection by the rule leaves the evaluations of the chosen messages. -/
theorem filter_evaluate {f : Filter} {all : Bool} {select : Evaluation → Bool}
    (rule : ∀ e, select e = (all || f.ty != .bool || e.isMatch)) (channels : Channels)
    (log : List Message.Recorded) :
    (f.evaluate channels log).filter select =
      (chosen f channels all log).map (Evaluation.ofRecorded f channels) := by
  rw [Filter.evaluate, List.filter_map, chosen]
  congr 1
  refine List.filter_congr fun r _ => ?_
  rw [Function.comp_apply, rule, isMatch_ofRecorded]

/-- Both formats tell of the chosen messages and of no others, in their order; an
item has the number of the line of its message and the value of the filter there.
Of a filter that is true or false the heading counts the messages for which it
holds among all messages, and just their entries are marked. -/
theorem render_evaluate (f : Filter) (channels : Channels) (log : List Message.Recorded)
    (all colored : Bool) :
    render colored .text f.ty all (f.evaluate channels log) =
        heading f.ty (f.evaluate channels log) ++ "\n" ++
          String.join ((chosen f channels all log).map fun r =>
            entry colored f.ty all (.ofRecorded f channels r) ++ "\n") ∧
      Json.ofText? (render colored .json f.ty all (f.evaluate channels log)).toList =
        some (.array ((chosen f channels all log).map fun r =>
          evaluationJson (.ofRecorded f channels r))) ∧
      (∀ r, (evaluationJson (.ofRecorded f channels r)).member? "line" = some (.ofInt r.line) ∧
        (evaluationJson (.ofRecorded f channels r)).member? "result" =
          some (f.eval (r.message.bindings channels)).json) ∧
      (f.ty = .bool →
        heading f.ty (f.evaluate channels log) =
            "FILTER matched " ++
              Nat.repr (log.countP fun r => f.holds (r.message.bindings channels)) ++ " of " ++
              messageCount log.length ∧
          ∀ r, (entry colored f.ty all (.ofRecorded f channels r)).toList.head? =
            some (if f.holds (r.message.bindings channels) then '>' else ' ')) := by
  -- the two formats have the rule in forms of their own
  have listed : shown f.ty all (f.evaluate channels log) =
      (chosen f channels all log).map (.ofRecorded f channels) :=
    filter_evaluate (fun _ => rfl) channels log
  have written : ((f.evaluate channels log).filter fun e => all || f.ty != .bool || e.isMatch) =
      (chosen f channels all log).map (.ofRecorded f channels) :=
    filter_evaluate (fun _ => rfl) channels log
  have feed : Json.IsGap "\n".toList := Json.isGap_singleton rfl
  refine ⟨?_, ?_, ?_, ?_⟩
  · rw [render, listing, listed, List.map_map]
    rfl
  · rw [render, written, String.toList_append, ofText?_jsonListing _ feed, List.map_map]
    rfl
  · intro r
    exact ⟨member?_evaluationJson_line _, member?_evaluationJson_result _⟩
  · intro boolean
    constructor
    · have counted : (f.evaluate channels log).countP Evaluation.isMatch =
          log.countP fun r => f.holds (r.message.bindings channels) := by
        rw [Filter.evaluate, List.countP_map]
        rfl
      rw [heading, if_pos boolean, counted, Filter.evaluate, List.length_map]
    · intro r
      rw [head_entry, isMatch_eq_holds]
      simp [boolean]

/-- Of a short and a long message the long one is listed, in both formats. -/
theorem render_evaluate_length :
    let f : Filter := ⟨.binary .gt (.identifier "message.length") (.int 3), .bool⟩
    let short : Message.Recorded := ⟨1, { Message.blank with content := "no" }⟩
    let long : Message.Recorded := ⟨4, { Message.blank with content := "hello" }⟩
    chosen f .none false [short, long] = [long] ∧
      heading f.ty (f.evaluate .none [short, long]) = "FILTER matched 1 of 2 messages" ∧
      (entry false f.ty false (.ofRecorded f .none short)).toList.head? = some ' ' ∧
      (entry false f.ty false (.ofRecorded f .none long)).toList.head? = some '>' ∧
      render false .json f.ty false (f.evaluate .none [short, long]) =
        "[\n  \x7b\n    \"line\": 4,\n    \"channel\": \"\",\n    \"author\": \"\",\n" ++
          "    \"content\": \"hello\",\n    \"result\": true\n  \x7d\n]\n" ∧
      Json.ofText? (render false .json f.ty false (f.evaluate .none [short, long])).toList =
        some (.array [evaluationJson (.ofRecorded f .none long)]) := by
  intro f short long
  obtain ⟨-, items, -, boolean⟩ := render_evaluate f .none [short, long] false false
  obtain ⟨counted, marked⟩ := boolean rfl
  have selected : chosen f .none false [short, long] = [long] := by decide +kernel
  rw [selected] at items
  refine ⟨selected, counted.trans (by decide +kernel), (marked short).trans ?_, (marked long).trans ?_, by decide +kernel,
    items⟩
  · have misses : f.holds (short.message.bindings .none) = false := by decide +kernel
    rw [misses]
    rfl
  · have holds : f.holds (long.message.bindings .none) = true := by decide +kernel
    rw [holds]
    rfl

end Cli

end ChatSieve
