import ChatSieve.Value.Coercion

/-!
# Equality of values

Strict equality holds between values of one kind only. Loose equality first
converts one side to the kind of the other: the right side to the kind of the
left one if that is possible, else the left side to the kind of the right one.
-/

namespace ChatSieve.Value

mutual

/-- The same kind and the same content; patterns are compared by their source
alone. -/
def strictlyEquals : Value → Value → Bool
  | .null, .null => true
  | .int a, .int b => a == b
  | .bool a, .bool b => a == b
  | .string a, .string b => a == b
  | .strings a, .strings b => a == b
  | .list a, .list b => listsEqual a b
  | .map a, .map b => entriesEqual a b
  | .color a, .color b => a == b
  | .pattern a, .pattern b => a.source == b.source
  | _, _ => false

def listsEqual : List Value → List Value → Bool
  | [], [] => true
  | a :: as, b :: bs => strictlyEquals a b && listsEqual as bs
  | _, _ => false

def entriesEqual : List (String × Value) → List (String × Value) → Bool
  | [], [] => true
  | (j, a) :: as, (k, b) :: bs => j == k && strictlyEquals a b && entriesEqual as bs
  | _, _ => false

end

/-- Values of one kind. -/
def sameKind : Value → Value → Bool
  | .null, .null | .int _, .int _ | .bool _, .bool _ | .string _, .string _
  | .strings _, .strings _ | .list _, .list _ | .map _, .map _ | .color _, .color _
  | .pattern _, .pattern _ => true
  | _, _ => false

/-- Equality up to a conversion of one side. Values that neither side can be
converted to are unequal. -/
def looselyEquals (a b : Value) : Bool :=
  if sameKind a b then strictlyEquals a b
  else
    match b.convertLike? a with
    | some b' => strictlyEquals a b'
    | none =>
      match a.convertLike? b with
      | some a' => strictlyEquals a' b
      | none => false

end ChatSieve.Value
