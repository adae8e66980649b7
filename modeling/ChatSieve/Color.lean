import ChatSieve.Text.Blank
import ChatSieve.Text.Slice

/-!
# Colors

Red, green, blue and opacity, a byte each, with the three texts that are read
as a color and the one that a color is shown as.
-/

namespace ChatSieve

open ChatSieve.Text

structure Color where
  red : UInt8
  green : UInt8
  blue : UInt8
  alpha : UInt8
  deriving DecidableEq, Repr

namespace Color

/-- Fully opaque. -/
def solid (red green blue : UInt8) : Color := ⟨red, green, blue, 255⟩

def black : Color := solid 0 0 0

instance : Inhabited Color := ⟨black⟩

/-- The value of a hexadecimal digit of either case. -/
def hexValue? (c : Char) : Option UInt8 :=
  if '0' ≤ c ∧ c ≤ '9' then some (UInt8.ofNat (c.toNat - 48))
  else if 'a' ≤ c ∧ c ≤ 'f' then some (UInt8.ofNat (c.toNat - 87))
  else if 'A' ≤ c ∧ c ≤ 'F' then some (UInt8.ofNat (c.toNat - 55))
  else none

def isHexDigit (c : Char) : Bool := (hexValue? c).isSome

/-- The byte that a text stands for: hexadecimal digits, perhaps with a plus
sign before them. -/
def readByte? (s : List Char) : Option UInt8 :=
  let digits := match s with
    | '+' :: rest => rest
    | _ => s
  if digits.isEmpty then none
  else do
    let value := (← digits.mapM hexValue?).foldl (fun n v => 16 * n + v.toNat) 0
    if value < 256 then some (UInt8.ofNat value) else none

/-- Why there is no color. -/
inductive Failure where
  /-- the text stands for none -/
  | noColor
  /-- a part of the text was asked for that is none -/
  | badSlice
  deriving DecidableEq, Repr

/-- The byte that so many bytes of a text stand for. -/
def byteAt (s : List Char) (start count : Nat) : Except Failure UInt8 :=
  match slice? s start count with
  | none => .error .badSlice
  | some part => (readByte? part).elim (.error .noColor) .ok

/-- Reads the digits of a color. -/
def readDigits (digits : List Char) : Except Failure Color :=
  match byteLength digits with
  | 3 => do
    let red ← byteAt digits 0 1
    let green ← byteAt digits 1 1
    let blue ← byteAt digits 2 1
    return solid (17 * red) (17 * green) (17 * blue)
  | 6 => do
    let red ← byteAt digits 0 2
    let green ← byteAt digits 2 2
    let blue ← byteAt digits 4 2
    return solid red green blue
  | 8 => do
    let alpha ← byteAt digits 0 2
    let red ← byteAt digits 2 2
    let green ← byteAt digits 4 2
    let blue ← byteAt digits 6 2
    return ⟨red, green, blue, alpha⟩
  | _ => .error .noColor

/-- Reads a color: a number sign and three, six or eight hexadecimal digits,
with any blanks around. Three are `rgb` with every digit doubled, six `rrggbb`,
and eight `aarrggbb`. -/
def read (s : String) : Except Failure Color :=
  match trim s.toList with
  | '#' :: digits => if digits.all isHexDigit then readDigits digits else .error .noColor
  | _ => .error .noColor

/-- The color that a text stands for. -/
def ofText? (s : String) : Option Color := (read s).toOption

/-- The hexadecimal digit of a value below sixteen. -/
def hexDigit (v : UInt8) : Char := Nat.digitChar v.toNat

/-- A byte in two digits. -/
def byteText (v : UInt8) : List Char := [hexDigit (v / 16), hexDigit (v % 16)]

/-- The text of a color: `#rrggbb`, without the opacity. -/
def text (c : Color) : String :=
  String.ofList ('#' :: (byteText c.red ++ byteText c.green ++ byteText c.blue))

end Color

end ChatSieve
