/-!
# Message flags

What can be special about a chat message.
-/

namespace ChatSieve.Message

inductive Flag where
  | action
  | highlighted
  | pointsRedeemed
  | subMessage
  | systemMessage
  | rewardMessage
  | firstMessage
  | elevatedMessage
  | cheerMessage
  | whisper
  | reply
  | automod
  | restricted
  | monitored
  | shared
  | similar
  deriving DecidableEq, Repr

namespace Flag

/-- All flags, in the order in which they are written. -/
def all : List Flag :=
  [.action, .highlighted, .pointsRedeemed, .subMessage, .systemMessage, .rewardMessage,
   .firstMessage, .elevatedMessage, .cheerMessage, .whisper, .reply, .automod, .restricted,
   .monitored, .shared, .similar]

theorem mem_all (f : Flag) : f ∈ all := by
  cases f <;> decide

def name : Flag → String
  | .action => "action"
  | .highlighted => "highlighted"
  | .pointsRedeemed => "points_redeemed"
  | .subMessage => "sub_message"
  | .systemMessage => "system_message"
  | .rewardMessage => "reward_message"
  | .firstMessage => "first_message"
  | .elevatedMessage => "elevated_message"
  | .cheerMessage => "cheer_message"
  | .whisper => "whisper"
  | .reply => "reply"
  | .automod => "automod"
  | .restricted => "restricted"
  | .monitored => "monitored"
  | .shared => "shared"
  | .similar => "similar"

/-- The flag with a name. An elevated message is also known as hype chat. -/
def ofName? (s : String) : Option Flag :=
  if s == "hype_chat" then some .elevatedMessage else all.find? (·.name == s)

end Flag

/-- Which flags are set. -/
abbrev Flags := Flag → Bool

namespace Flags

instance : DecidableEq Flags := fun s t =>
  decidable_of_iff (∀ f ∈ Flag.all, s f = t f)
    ⟨fun same => funext fun f => same f f.mem_all, fun same f _ => congrFun same f⟩

def none : Flags := fun _ => false

/-- The flags of a list. -/
def ofList (fs : List Flag) : Flags := fun f => fs.contains f

/-- The flags that are set, in the order in which they are written. -/
def toList (s : Flags) : List Flag := Flag.all.filter s

end Flags

end ChatSieve.Message
