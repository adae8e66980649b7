import ChatSieve.Message.Context

/-!
# Subscriptions

Whether an author is subscribed, and for how many months, is told by two of the
badges. The founder's badge has the say if it tells a number, whichever of the
two comes first. What filters are given is put together in `subscription`.
-/

namespace ChatSieve.Message

open ChatSieve.Text

/-- The first one of the badges with this name. -/
def IsFirstNamed (badges : List Badge) (name : String) (b : Badge) : Prop :=
  b.name = name ∧ ∃ before after, badges = before ++ b :: after ∧ ∀ other ∈ before, other.name ≠ name

/-- The info of the first badge with this name is a number, with any blanks
around. -/
def TellsMonths (badges : List Badge) (name : String) (months : Int64) : Prop :=
  ∃ b info, IsFirstNamed badges name b ∧ b.info = some info ∧ readInt64 (trim info.toList) = some months

/-- The number of months that badges stand for. -/
inductive SubscribedFor (badges : List Badge) : Int64 → Prop
  | founder {months : Int64} (told : TellsMonths badges "founder" months) : SubscribedFor badges months
  | subscriber {months : Int64} (no_founder : ∀ n, ¬ TellsMonths badges "founder" n)
      (told : TellsMonths badges "subscriber" months) : SubscribedFor badges months
  | untold (no_founder : ∀ n, ¬ TellsMonths badges "founder" n)
      (no_subscriber : ∀ n, ¬ TellsMonths badges "subscriber" n) : SubscribedFor badges 0

namespace Author

variable (a : Author)

private theorem badge?_eq_some_iff {name : String} {b : Badge} :
    a.badge? name = some b ↔ IsFirstNamed a.badges name b := by
  rw [badge?, List.find?_eq_some_iff_append, IsFirstNamed, beq_iff_eq]
  simp

private theorem badge?_isSome_iff {name : String} :
    (a.badge? name).isSome ↔ ∃ b ∈ a.badges, b.name = name := by
  rw [badge?, List.find?_isSome]
  simp

private theorem tellsMonths_iff {name : String} {months : Int64} :
    TellsMonths a.badges name months ↔ (a.badge? name).bind Badge.months? = some months := by
  simp only [TellsMonths, ← badge?_eq_some_iff, Option.bind_eq_some_iff, Badge.months?]
  constructor
  · rintro ⟨b, info, found, told, read⟩
    exact ⟨b, found, info, told, read⟩
  · rintro ⟨b, found, info, told, read⟩
    exact ⟨b, info, found, told, read⟩

private theorem isSubscribed_iff :
    a.isSubscribed ↔ ∃ b ∈ a.badges, b.name = "subscriber" ∨ b.name = "founder" := by
  simp only [isSubscribed, subscriberBadges, List.any_cons, List.any_nil, Bool.or_false, Bool.or_eq_true,
    badge?_isSome_iff]
  grind

private theorem not_tellsMonths_iff {name : String} :
    (∀ months, ¬ TellsMonths a.badges name months) ↔ (a.badge? name).bind Badge.months? = none := by
  simp only [tellsMonths_iff, Option.eq_none_iff_forall_ne_some, ne_eq]

private theorem subscribedMonths_eq :
    a.subscribedMonths = ((a.badge? "founder").bind Badge.months?).getD
    (((a.badge? "subscriber").bind Badge.months?).getD 0) :=
  rfl

/-- Badges stand for one number of months, and this is the one that is found. -/
theorem subscribedFor_iff {months : Int64} :
    SubscribedFor a.badges months ↔ a.subscribedMonths = months := by
  rw [subscribedMonths_eq]
  constructor
  · intro subscribed
    cases subscribed with
    | founder told => rw [a.tellsMonths_iff.1 told, Option.getD_some]
    | subscriber no_founder told =>
      rw [a.not_tellsMonths_iff.1 no_founder, Option.getD_none, a.tellsMonths_iff.1 told, Option.getD_some]
    | untold no_founder no_subscriber =>
      rw [a.not_tellsMonths_iff.1 no_founder, Option.getD_none, a.not_tellsMonths_iff.1 no_subscriber,
        Option.getD_none]
  · rintro rfl
    cases founder : (a.badge? "founder").bind Badge.months? with
    | some n => exact .founder (a.tellsMonths_iff.2 founder)
    | none =>
      have no_founder := a.not_tellsMonths_iff.2 founder
      cases subscriber : (a.badge? "subscriber").bind Badge.months? with
      | some n => exact .subscriber no_founder (a.tellsMonths_iff.2 subscriber)
      | none => exact .untold no_founder (a.not_tellsMonths_iff.2 subscriber)

/-- Who is not subscribed is so for no months. -/
theorem subscribedMonths_of_not_isSubscribed (none : a.isSubscribed = false) : a.subscribedMonths = 0 := by
  have missing {name : String} (badge : name ∈ subscriberBadges) : a.badge? name = Option.none :=
    Option.not_isSome_iff_eq_none.1 (List.any_eq_false.1 none name badge)
  rw [subscribedMonths_eq, missing (by decide), missing (by decide)]
  rfl

/-- Nothing but the first badges of the two names counts. -/
theorem subscription_congr {a b : Author} (same : ∀ name ∈ subscriberBadges, b.badge? name = a.badge? name) :
    b.isSubscribed = a.isSubscribed ∧ b.subscribedMonths = a.subscribedMonths := by
  have subscriber := same "subscriber" (by decide)
  have founder := same "founder" (by decide)
  constructor
  · simp only [isSubscribed, subscriberBadges, List.any_cons, List.any_nil, subscriber, founder]
  · rw [subscribedMonths_eq, subscribedMonths_eq, subscriber, founder]

/-- Among badges of which only one has this name the order makes no difference. -/
theorem badge?_of_perm {a b : Author} {name : String} (perm : b.badges.Perm a.badges)
    (once : (a.badges.map (·.name)).count name ≤ 1) : b.badge? name = a.badge? name := by
  have few : (a.badges.filter (·.name == name)).length ≤ 1 := by
    rwa [List.count, List.countP_map, List.countP_eq_length_filter] at once
  have filtered := perm.filter (·.name == name)
  rw [badge?, badge?, ← List.head?_filter, ← List.head?_filter]
  generalize a.badges.filter (·.name == name) = named at few filtered
  match named, few with
  | [], _ => rw [filtered.eq_nil]
  | [badge], _ => rw [List.perm_singleton.1 filtered]

end Author

/-- The message with other badges. -/
def withBadges (m : Message) (badges : List Badge) : Message :=
  { m with author := { m.author with badges } }

private theorem valueOf_subbed (m : Message) (channels : Channels) :
    (m.bindings channels).valueOf "author.subbed" = .bool m.author.isSubscribed := by
  rfl

private theorem valueOf_subLength (m : Message) (channels : Channels) :
    (m.bindings channels).valueOf "author.sub_length" = .int m.author.subscribedMonths := by
  rfl

/-- What a message tells of a subscription: there is one if there is a badge of
a subscriber or founder, and the number of months is what the first founder's
badge tells, else what the first subscriber's badge tells, else zero. So it is
zero where there is no subscription. If there is at most one badge of either
name, the order of the badges makes no difference. -/
theorem subscription (m : Message) (channels : Channels) :
    ∃ subscribed months,
      (m.bindings channels).valueOf "author.subbed" = .bool subscribed ∧
      (m.bindings channels).valueOf "author.sub_length" = .int months ∧
      (subscribed = true ↔ ∃ b ∈ m.author.badges, b.name = "subscriber" ∨ b.name = "founder") ∧
      (∀ n, SubscribedFor m.author.badges n ↔ n = months) ∧
      (subscribed = false → months = 0) ∧
      ∀ badges, badges.Perm m.author.badges →
        (∀ name ∈ ["subscriber", "founder"], (m.author.badges.map (·.name)).count name ≤ 1) →
        ((m.withBadges badges).bindings channels).valueOf "author.subbed" = .bool subscribed ∧
        ((m.withBadges badges).bindings channels).valueOf "author.sub_length" = .int months := by
  refine ⟨m.author.isSubscribed, m.author.subscribedMonths, m.valueOf_subbed channels,
    m.valueOf_subLength channels, m.author.isSubscribed_iff, fun n => ?_,
    m.author.subscribedMonths_of_not_isSubscribed, fun badges perm once => ?_⟩
  · rw [m.author.subscribedFor_iff]
    exact eq_comm
  · obtain ⟨subscribed, months⟩ : (m.withBadges badges).author.isSubscribed = m.author.isSubscribed ∧
        (m.withBadges badges).author.subscribedMonths = m.author.subscribedMonths :=
      Author.subscription_congr fun name badge => Author.badge?_of_perm perm (once name badge)
    rw [valueOf_subbed, valueOf_subLength, subscribed, months]
    exact ⟨rfl, rfl⟩

end ChatSieve.Message
