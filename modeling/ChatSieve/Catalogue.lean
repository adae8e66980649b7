import ChatSieve.Ty

/-!
# The catalogue

The identifiers that filters over chat messages may use: the label shown to
users and the type of the value a message gives them.
-/

namespace ChatSieve

structure CatalogueEntry where
  name : String
  label : String
  ty : Ty
  deriving DecidableEq, Repr

namespace Catalogue

/-- All entries, in the order of their names. -/
def entries : List CatalogueEntry := [
  ⟨"author.badges", "author badges", .stringList⟩,
  ⟨"author.color", "author color", .color⟩,
  ⟨"author.name", "author name", .string⟩,
  ⟨"author.no_color", "author has no color?", .bool⟩,
  ⟨"author.sub_length", "author sub length", .int⟩,
  ⟨"author.subbed", "author subscribed?", .bool⟩,
  ⟨"author.user_id", "author user id", .string⟩,
  ⟨"channel.live", "channel live?", .bool⟩,
  ⟨"channel.name", "channel name", .string⟩,
  ⟨"channel.watching", "/watching channel?", .bool⟩,
  ⟨"flags.action", "action/me message?", .bool⟩,
  ⟨"flags.automod", "automod message?", .bool⟩,
  ⟨"flags.cheer_message", "cheer message?", .bool⟩,
  ⟨"flags.elevated_message", "hype chat message?", .bool⟩,
  ⟨"flags.first_message", "first message?", .bool⟩,
  ⟨"flags.highlighted", "highlighted?", .bool⟩,
  ⟨"flags.hype_chat", "hype chat message?", .bool⟩,
  ⟨"flags.monitored", "monitored message?", .bool⟩,
  ⟨"flags.points_redeemed", "redeemed points?", .bool⟩,
  ⟨"flags.reply", "reply message?", .bool⟩,
  ⟨"flags.restricted", "restricted message?", .bool⟩,
  ⟨"flags.reward_message", "channel point reward message?", .bool⟩,
  ⟨"flags.shared", "shared message?", .bool⟩,
  ⟨"flags.similar", "similar message?", .bool⟩,
  ⟨"flags.sub_message", "sub/resub message?", .bool⟩,
  ⟨"flags.system_message", "system message?", .bool⟩,
  ⟨"flags.whisper", "whisper message?", .bool⟩,
  ⟨"message.content", "message text", .string⟩,
  ⟨"message.length", "message length", .int⟩,
  ⟨"reward.cost", "point reward cost", .int⟩,
  ⟨"reward.id", "point reward id", .string⟩,
  ⟨"reward.title", "point reward title", .string⟩]

def find? (name : String) : Option CatalogueEntry := entries.find? (·.name == name)

/-- The types of the catalogue's identifiers. -/
def declarations : Declarations := entries.map fun e => (e.name, e.ty)

end Catalogue

end ChatSieve
