/-!
# Sets of code points

A set of characters is a list of closed intervals of code points. Membership
asks for no order; the set operations return intervals that ascend, neither
touch nor overlap, so that equal sets have one form.
-/

namespace ChatSieve

/-- A set of code points, as closed intervals. -/
abbrev CodePoints := List (Nat × Nat)

namespace CodePoints

/-- The largest code point. -/
def top : Nat := 0x10FFFF

def full : CodePoints := [(0, top)]

/-- The code point lies in one of the intervals. -/
def has : CodePoints → Nat → Bool
  | [], _ => false
  | (lo, hi) :: rest, n => (lo ≤ n && n ≤ hi) || has rest n

/-- The character lies in the set. -/
def hasChar (s : CodePoints) (c : Char) : Bool := s.has c.toNat

/-- One interval joined to ascending intervals none of which begins before it. -/
def join (lo hi : Nat) : CodePoints → CodePoints
  | [] => [(lo, hi)]
  | (lo', hi') :: rest =>
    if lo' ≤ hi + 1 then join lo (max hi hi') rest else (lo, hi) :: (lo', hi') :: rest

/-- The same set with its intervals in ascending order, apart from each other. -/
def normal (s : CodePoints) : CodePoints :=
  (s.mergeSort fun a b => a.1 ≤ b.1).foldr (fun iv acc => join iv.1 iv.2 acc) []

def union (s t : CodePoints) : CodePoints := normal (s ++ t)

/-- What ascending intervals leave out from a code point on. -/
def gapsFrom (start : Nat) : CodePoints → CodePoints
  | [] => if start ≤ top then [(start, top)] else []
  | (lo, hi) :: rest =>
    if start < lo then (start, lo - 1) :: gapsFrom (hi + 1) rest else gapsFrom (hi + 1) rest

def complement (s : CodePoints) : CodePoints := gapsFrom 0 (normal s)

def inter (s t : CodePoints) : CodePoints :=
  complement (union (complement s) (complement t))

def diff (s t : CodePoints) : CodePoints := inter s (complement t)

def symmDiff (s t : CodePoints) : CodePoints := union (diff s t) (diff t s)

end CodePoints

end ChatSieve
