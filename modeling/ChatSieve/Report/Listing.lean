import ChatSieve.Evaluation
import ChatSieve.Json.Writer
import ChatSieve.Report.Style
import ChatSieve.Value.Json
import ChatSieve.Value.Text

/-!
# Listings

The results of a filter on the messages of a log, as text with an entry for
every message that is listed, or as JSON.
-/

namespace ChatSieve.Report

/-- A number of messages in words. -/
def messageCount (n : Nat) : String :=
  Nat.repr n ++ (if n = 1 then " message" else " messages")

/-- The first line of a listing. -/
def heading (ty : Ty) (es : List Evaluation) : String :=
  if ty = .bool then
    "FILTER matched " ++ Nat.repr (es.countP Evaluation.isMatch) ++ " of " ++ messageCount es.length
  else "FILTER evaluated " ++ messageCount es.length ++ " (" ++ ty.name ++ ")"

/-- A text with blanks on its left up to a width. -/
def alignRight (width : Nat) (text : String) : String :=
  String.ofList (List.replicate (width - text.length) ' ') ++ text

/-- A text on one line; line feeds are written as escapes. -/
def oneLine (text : String) : String :=
  String.ofList (text.toList.flatMap fun c => if c = '\n' then ['\\', 'n'] else [c])

/-- The mark of a message that matches. -/
def marker (ty : Ty) (e : Evaluation) : String := if ty = .bool && e.isMatch then ">" else " "

/-- What is listed of a message. The result is told unless being listed tells
it. -/
def entry (colored : Bool) (ty : Ty) (all : Bool) (e : Evaluation) : String :=
  marker ty e ++ alignRight 6 (Nat.repr e.line) ++ ": " ++ e.timestamp.getD "-"
    ++ " #" ++ e.channel ++ " " ++ Style.bold.paint colored e.author ++ ": " ++ oneLine e.content
    ++ (if all || ty != .bool then " => " ++ Style.yellow.paint colored e.result.text else "")

/-- The evaluations that have an entry. Filters that are true or false are
listed where they match, other filters on every message; on demand all are
listed. -/
def shown (ty : Ty) (all : Bool) (es : List Evaluation) : List Evaluation :=
  let boolean := ty == .bool
  es.filter fun e => all || !boolean || e.isMatch

/-- The listing as text. -/
def listing (colored : Bool) (ty : Ty) (all : Bool) (es : List Evaluation) : String :=
  heading ty es ++ "\n"
    ++ String.join ((shown ty all es).map fun e => entry colored ty all e ++ "\n")

/-- An evaluation as JSON. -/
def evaluationJson (e : Evaluation) : Json :=
  .ofMembers ([("line", .ofInt e.line)]
    ++ (e.timestamp.map fun t => ("timestamp", Json.ofString t)).toList
    ++ [("channel", .ofString e.channel), ("author", .ofString e.author),
      ("content", .ofString e.content), ("result", e.result.json)])

/-- Evaluations as JSON, a line for every item. -/
def jsonListing (es : List Evaluation) : String := (Json.array (es.map evaluationJson)).prettyText

end ChatSieve.Report
