import ChatSieve.Channels
import ChatSieve.Message

/-!
# The values of a message

What a message gives each identifier of the catalogue.
-/

namespace ChatSieve.Message

open ChatSieve.Text

/-- The first badge with a name. -/
def Author.badge? (a : Author) (name : String) : Option Badge :=
  a.badges.find? (·.name == name)

/-- The badges that make a subscriber; of two numbers of months the later one
counts. -/
def subscriberBadges : List String := ["subscriber", "founder"]

def Author.isSubscribed (a : Author) : Bool :=
  subscriberBadges.any fun name => (a.badge? name).isSome

/-- The months that a badge tells. -/
def Badge.months? (b : Badge) : Option Int64 :=
  b.info.bind fun info => readInt64 (trim info.toList)

/-- The months of subscription, zero where no badge tells them. -/
def Author.subscribedMonths (a : Author) : Int64 :=
  subscriberBadges.foldl (fun months name => ((a.badge? name).bind Badge.months?).getD months) 0

def Author.color? (a : Author) : Option Color := a.color.bind Color.ofText?

/-- The values of a message for all identifiers of the catalogue. -/
def bindings (m : Message) (channels : Channels) : Bindings :=
  let reward := m.reward.getD .nothing
  [("author.badges", .strings (m.author.badges.map (·.name))),
   ("author.color", .color (m.author.color?.getD .black)),
   ("author.name", .string m.author.shownName),
   ("author.user_id", .string m.author.userId),
   ("author.no_color", .bool m.author.color?.isNone),
   ("author.subbed", .bool m.author.isSubscribed),
   ("author.sub_length", .int m.author.subscribedMonths),
   ("channel.name", .string m.channel),
   ("channel.watching", .bool (channels.isWatching m.channel)),
   ("channel.live", .bool (channels.isLive m.channel)),
   ("message.content", .string m.content),
   ("message.length", .int (Int64.ofNat m.content.length)),
   ("reward.title", .string reward.title),
   ("reward.cost", .int reward.cost),
   ("reward.id", .string reward.id)]
    ++ Flag.all.map (fun f => ("flags." ++ f.name, .bool (m.flags f)))
    ++ [("flags.hype_chat", .bool (m.flags .elevatedMessage))]

end ChatSieve.Message
