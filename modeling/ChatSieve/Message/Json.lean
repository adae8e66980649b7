import ChatSieve.Json.Reader
import ChatSieve.Json.Writer
import ChatSieve.Message

/-!
# Messages as JSON

A record is written as an object with its fields in order, without those that
are absent. It is read from such an object, where unknown members are skipped
and no member of the record may occur twice, or from an array of its fields in
order. Fields that are missing have their defaults, but for the name of a badge.
-/

namespace ChatSieve.Message

/-- The value of a field among the members of an object, if it is there. A
field that occurs twice is an error, and so is a key without a text. -/
def fieldAmong (name : String) : List (Option String × Json) → Option (Option Json)
  | [] => some none
  | (none, _) :: _ => none
  | (some key, value) :: rest => do
    let later ← fieldAmong name rest
    if key = name then
      match later with
      | some _ => none
      | none => some (some value)
    else some later

/-- The fields of a record, each where it is given. -/
def fieldsOf (names : List String) : Json → Option (List (Option Json))
  | .object members => names.mapM fun name => fieldAmong name members
  | .array items =>
    if items.length ≤ names.length then
      some (items.map some ++ List.replicate (names.length - items.length) none)
    else none
  | _ => none

/-- A field that is given is read, another one has its default. -/
def fieldOr {α : Type} (default : α) (read : Json → Option α) : Option Json → Option α
  | none => some default
  | some v => read v

/-- `null`, or what is read. -/
def readOptional {α : Type} (read : Json → Option α) : Json → Option (Option α)
  | .null => some none
  | v => (read v).map some

def readText : Json → Option String
  | .string t => t
  | _ => none

def readList {α : Type} (read : Json → Option α) : Json → Option (List α)
  | .array items => items.mapM read
  | _ => none

/-- An integer without fraction, exponent or negative zero, in the 64-bit range. -/
def readCost : Json → Option Int64
  | .number ['-', '0'] => none
  | .number ('-' :: ds) => (Text.digitsValue? ds).bind fun n => Text.int64? (-Int.ofNat n)
  | .number ds => (Text.digitsValue? ds).bind fun n => Text.int64? (Int.ofNat n)
  | _ => none

/-- The name of a flag, by itself or as the only key of an object over `null`. -/
def readFlag : Json → Option Flag
  | .string (some name) => Flag.ofName? name
  | .object [(some name, .null)] => Flag.ofName? name
  | _ => none

def readTimestamp (v : Json) : Option Timestamp :=
  (readText v).bind fun s => Timestamp.ofText? s.toList

def readBadge (v : Json) : Option Badge := do
  match ← fieldsOf ["name", "info"] v with
  | [some name, info] =>
    return ⟨← readText name, ← fieldOr none (readOptional readText) info⟩
  | _ => none

def readAuthor (v : Json) : Option Author := do
  match ← fieldsOf ["name", "display_name", "user_id", "color", "badges"] v with
  | [name, displayName, userId, color, badges] =>
    return ⟨← fieldOr "" readText name, ← fieldOr none (readOptional readText) displayName,
      ← fieldOr "" readText userId, ← fieldOr none (readOptional readText) color,
      ← fieldOr [] (readList readBadge) badges⟩
  | _ => none

def readReward (v : Json) : Option Reward := do
  match ← fieldsOf ["id", "title", "cost"] v with
  | [id, title, cost] =>
    return ⟨← fieldOr "" readText id, ← fieldOr "" readText title, ← fieldOr 0 readCost cost⟩
  | _ => none

/-- The message that a JSON value stands for. -/
def ofJson? (v : Json) : Option Message := do
  match ← fieldsOf ["timestamp", "channel", "author", "content", "flags", "reward"] v with
  | [timestamp, channel, author, content, flags, reward] =>
    return ⟨← fieldOr none (readOptional readTimestamp) timestamp,
      ← fieldOr "" readText channel, ← fieldOr .nobody readAuthor author,
      ← fieldOr "" readText content,
      ← fieldOr .none (fun v => (readList readFlag v).map Flags.ofList) flags,
      ← fieldOr none (readOptional readReward) reward⟩
  | _ => none

/-- The message that a text stands for. -/
def ofText? (s : List Char) : Option Message := (Json.ofText? s).bind ofJson?

/-- A field that is written only where it is present. -/
def optionalMember {α : Type} (name : String) (write : α → Json) : Option α → List (String × Json)
  | none => []
  | some v => [(name, write v)]

def Badge.json (b : Badge) : Json :=
  .ofMembers (("name", .ofString b.name) :: optionalMember "info" Json.ofString b.info)

def Author.json (a : Author) : Json :=
  .ofMembers ([("name", .ofString a.name)]
    ++ optionalMember "display_name" Json.ofString a.displayName
    ++ [("user_id", .ofString a.userId)]
    ++ optionalMember "color" Json.ofString a.color
    ++ [("badges", .array (a.badges.map Badge.json))])

def Reward.json (r : Reward) : Json :=
  .ofMembers [("id", .ofString r.id), ("title", .ofString r.title), ("cost", .ofInt r.cost.toInt)]

def Timestamp.json (t : Timestamp) : Json := .ofString (String.ofList t.exactText)

def Flags.json (s : Flags) : Json := .array (s.toList.map fun f => .ofString f.name)

def json (m : Message) : Json :=
  .ofMembers (optionalMember "timestamp" Timestamp.json m.timestamp
    ++ [("channel", .ofString m.channel), ("author", m.author.json),
      ("content", .ofString m.content), ("flags", m.flags.json)]
    ++ optionalMember "reward" Reward.json m.reward)

end ChatSieve.Message
