import ChatSieve.Pattern.Program

/-!
# Patterns

A regular expression that has been found valid, with or without regard to case,
and what it finds in a text.
-/

namespace ChatSieve

/-- A valid regular expression. -/
structure Pattern where
  /-- as it is written -/
  source : String
  caseless : Bool
  node : Pattern.Node
  node_eq : Pattern.Node.ofText? caseless source.toList = some node

namespace Pattern

/-- Two patterns with one source and one regard to case are equal. -/
theorem ext_source {p q : Pattern} (hs : p.source = q.source) (hc : p.caseless = q.caseless) :
    p = q := by
  obtain ⟨s, c, n, h⟩ := p
  obtain ⟨s', c', n', h'⟩ := q
  obtain rfl : s = s' := hs
  obtain rfl : c = c' := hc
  obtain rfl : n = n' := Option.some.inj (h.symm.trans h')
  rfl

/-- The pattern that a text is, if it is one. -/
def ofSource? (source : String) (caseless : Bool) : Option Pattern :=
  match h : Node.ofText? caseless source.toList with
  | some node => some ⟨source, caseless, node, h⟩
  | none => none

/-- The pattern occurs in the text. -/
def occursIn (p : Pattern) (text : String) : Bool :=
  (p.node.program.find? text.toList).isSome

/-- What a group holds of the first match; nothing without a match, without
such a group, or if the group took no part. -/
def groupIn? (p : Pattern) (text : String) (group : Nat) : Option String := do
  let slots ← p.node.program.find? text.toList
  let start ← slots.lookup (2 * group)
  let stop ← slots.lookup (2 * group + 1)
  return String.ofList ((text.toList.drop start).take (stop - start))

end Pattern

end ChatSieve
