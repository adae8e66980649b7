import ChatSieve.Filter
import ChatSieve.Message.Context
import ChatSieve.Message.Log

/-!
# Evaluations

What a filter makes of the messages of a log.
-/

namespace ChatSieve

/-- The result of a filter on a recorded message, with what a listing tells of
the message. -/
structure Evaluation where
  line : Nat
  timestamp : Option String
  channel : String
  author : String
  content : String
  result : Value

namespace Evaluation

/-- The result counts as true. -/
def isMatch (e : Evaluation) : Bool := e.result.toBool?.getD false

/-- A filter on one message. -/
def ofRecorded (f : Filter) (channels : Channels) (r : Message.Recorded) : Evaluation where
  line := r.line
  timestamp := r.message.timestamp.map fun t => String.ofList t.shownText
  channel := r.message.channel
  author := r.message.author.shownName
  content := r.message.content
  result := f.eval (r.message.bindings channels)

end Evaluation

/-- A filter on every message of a log. -/
def Filter.evaluate (f : Filter) (channels : Channels) (log : List Message.Recorded) :
    List Evaluation :=
  log.map (Evaluation.ofRecorded f channels)

end ChatSieve
