/-!
# Decimal integers

The decimal text of a 64-bit integer, and the texts that are read as one: an
optional sign, one or more of the ten ASCII digits, and a value in range.
-/

namespace ChatSieve.Text

/-- The number that a text of digits stands for. -/
def digitsValue? (s : List Char) : Option Nat :=
  if s.isEmpty || !s.all Char.isDigit then none else some (Nat.ofDigitChars 10 s 0)

/-- The integer that a signed text of digits stands for. -/
def signedValue? : List Char → Option Int
  | '+' :: s => (digitsValue? s).map Int.ofNat
  | '-' :: s => (digitsValue? s).map fun n => -Int.ofNat n
  | s => (digitsValue? s).map Int.ofNat

/-- An integer in the 64-bit range. -/
def int64? (i : Int) : Option Int64 :=
  if Int64.minValue.toInt ≤ i ∧ i ≤ Int64.maxValue.toInt then some (Int64.ofInt i) else none

/-- The 64-bit integer that a text stands for. -/
def readInt64 (s : List Char) : Option Int64 := (signedValue? s).bind int64?

/-- The decimal text of an integer: digits without leading zeros, after a minus
sign for the negative ones. -/
def intText : Int → List Char
  | .ofNat n => Nat.toDigits 10 n
  | .negSucc n => '-' :: Nat.toDigits 10 (n + 1)

/-- The decimal text of a 64-bit integer. -/
def int64Text (n : Int64) : List Char := intText n.toInt

/-- A number filled up with zeros on the left. -/
def padded (width n : Nat) : List Char :=
  let digits := Nat.toDigits 10 n
  List.replicate (width - digits.length) '0' ++ digits

end ChatSieve.Text
