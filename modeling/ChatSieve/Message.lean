import ChatSieve.Message.Flag
import ChatSieve.Message.Timestamp

/-!
# Messages

A recorded chat message: who wrote what where and when, and what came with it.
-/

namespace ChatSieve

namespace Message

/-- A badge of a chatter. The info of a subscriber's badge is the number of
months. -/
structure Badge where
  name : String
  info : Option String
  deriving DecidableEq, Repr

structure Author where
  /-- the login name -/
  name : String
  displayName : Option String
  userId : String
  color : Option String
  badges : List Badge
  deriving DecidableEq, Repr

/-- A reward bought with channel points. -/
structure Reward where
  id : String
  title : String
  cost : Int64
  deriving DecidableEq, Repr

namespace Author

def nobody : Author := ⟨"", none, "", none, []⟩

/-- The display name if there is one that is not empty, else the login name. -/
def shownName (a : Author) : String :=
  match a.displayName with
  | some n => if n.isEmpty then a.name else n
  | none => a.name

end Author

namespace Reward

def nothing : Reward := ⟨"", "", 0⟩

end Reward

end Message

structure Message where
  timestamp : Option Message.Timestamp
  channel : String
  author : Message.Author
  content : String
  flags : Message.Flags
  reward : Option Message.Reward
  deriving DecidableEq

namespace Message

/-- The message without content. -/
def blank : Message := ⟨none, "", .nobody, "", .none, none⟩

end Message

end ChatSieve
