import ChatSieve.Text.Blank
import ChatSieve.Text.Decimal

/-!
# Timestamps

A moment in universal time, by the Gregorian calendar. Texts with an offset
from universal time are read and moved by it; a moment is written without one.
The sixtieth second of a minute is allowed anywhere.
-/

namespace ChatSieve.Message

open ChatSieve.Text

structure Date where
  year : Int
  month : Nat
  day : Nat
  deriving DecidableEq, Repr

namespace Date

def isLeapYear (year : Int) : Bool :=
  year % 4 == 0 && (year % 100 != 0 || year % 400 == 0)

def daysInMonth (year : Int) (month : Nat) : Nat :=
  match month with
  | 2 => if isLeapYear year then 29 else 28
  | 4 | 6 | 9 | 11 => 30
  | _ => 31

/-- The years of the calendar. -/
def firstYear : Int := -262143

def lastYear : Int := 262142

/-- A day of the calendar. -/
def isValid (d : Date) : Bool :=
  firstYear ≤ d.year && d.year ≤ lastYear && 1 ≤ d.month && d.month ≤ 12 && 1 ≤ d.day
    && d.day ≤ daysInMonth d.year d.month

def next (d : Date) : Date :=
  if d.day < daysInMonth d.year d.month then { d with day := d.day + 1 }
  else if d.month < 12 then ⟨d.year, d.month + 1, 1⟩
  else ⟨d.year + 1, 1, 1⟩

def previous (d : Date) : Date :=
  if 1 < d.day then { d with day := d.day - 1 }
  else if 1 < d.month then ⟨d.year, d.month - 1, daysInMonth d.year (d.month - 1)⟩
  else ⟨d.year - 1, 12, 31⟩

/-- Some days later, or earlier where the number is negative. -/
def addDays (d : Date) : Int → Date
  | .ofNat n => n.repeat next d
  | .negSucc n => (n + 1).repeat previous d

end Date

/-- A moment in universal time. -/
structure Timestamp where
  date : Date
  hour : Nat
  minute : Nat
  /-- sixty in a leap second -/
  second : Nat
  nanosecond : Nat
  deriving DecidableEq, Repr

namespace Timestamp

/-- The year in four digits; years outside of those have a sign and may have
more. -/
def yearText (year : Int) : List Char :=
  if 0 ≤ year ∧ year ≤ 9999 then padded 4 year.toNat
  else (if year < 0 then '-' else '+') :: padded 4 year.natAbs

/-- The text of a moment with a given text for the part of a second. -/
def textWith (fraction : List Char) (t : Timestamp) : List Char :=
  yearText t.date.year ++ '-' :: (padded 2 t.date.month ++ '-' :: (padded 2 t.date.day ++
    'T' :: (padded 2 t.hour ++ ':' :: (padded 2 t.minute ++ ':' :: (padded 2 t.second ++
      (fraction ++ ['Z']))))))

/-- The part of a second in three, six or nine digits, as few as it takes. -/
def fractionText (nano : Nat) : List Char :=
  if nano = 0 then []
  else if nano % 1000000 = 0 then '.' :: padded 3 (nano / 1000000)
  else if nano % 1000 = 0 then '.' :: padded 6 (nano / 1000)
  else '.' :: padded 9 nano

/-- The exact text of a moment. -/
def exactText (t : Timestamp) : List Char := textWith (fractionText t.nanosecond) t

/-- The text of a moment to the millisecond. -/
def shownText (t : Timestamp) : List Char :=
  textWith ('.' :: padded 3 (t.nanosecond / 1000000)) t

/-- A number of at most `width` digits, and one at least. -/
def readNumber (width : Nat) (s : List Char) : Option (Nat × List Char) :=
  match (s.take width).takeWhile Char.isDigit with
  | [] => none
  | ds => some (Nat.ofDigitChars 10 ds 0, s.drop ds.length)

/-- A number of two digits at most after blanks, between bounds. -/
def readField (least most : Nat) (s : List Char) : Option (Nat × List Char) := do
  let (n, s) ← readNumber 2 (trimStart s)
  if least ≤ n ∧ n ≤ most then some (n, s) else none

/-- A year after blanks: four digits at most, or a sign and any number of them. -/
def readYear (s : List Char) : Option (Int × List Char) :=
  match trimStart s with
  | '-' :: s => (readNumber s.length s).map fun (n, s) => (-Int.ofNat n, s)
  | '+' :: s => (readNumber s.length s).map fun (n, s) => (Int.ofNat n, s)
  | s => (readNumber 4 s).map fun (n, s) => (Int.ofNat n, s)

/-- A mark after blanks. -/
def readMark (mark : Char) (s : List Char) : Option (List Char) :=
  match trimStart s with
  | c :: s => if c = mark then some s else none
  | [] => none

/-- The nanoseconds after a decimal point; digits after the ninth are dropped. -/
def readFraction : List Char → Option (Nat × List Char)
  | '.' :: s =>
    match s.takeWhile Char.isDigit with
    | [] => none
    | ds => some (Nat.ofDigitChars 10 ((ds ++ List.replicate 9 '0').take 9) 0,
        s.drop ds.length)
  | s => some (0, s)

/-- The hours and minutes of an offset, after its sign: two digits each, with
any colons and blanks between. -/
def readOffsetMinutes : List Char → Option (Nat × List Char)
  | h₁ :: h₀ :: s =>
    if h₁.isDigit && h₀.isDigit then
      match s.dropWhile fun c => c == ':' || isBlank c with
      | m₁ :: m₀ :: s =>
        if '0' ≤ m₁ ∧ m₁ ≤ '5' ∧ m₀.isDigit then
          some (60 * Nat.ofDigitChars 10 [h₁, h₀] 0 + Nat.ofDigitChars 10 [m₁, m₀] 0, s)
        else none
      | _ => none
    else none
  | _ => none

/-- An offset in minutes: `Z`, `UTC` or a sign with hours and minutes. -/
def readOffset (s : List Char) : Option (Int × List Char) :=
  let unmarked := fun s => match s with
    | 'Z' :: s | 'z' :: s => some (0, s)
    | '+' :: s => (readOffsetMinutes s).map fun (m, s) => (Int.ofNat m, s)
    | '-' :: s | '−' :: s => (readOffsetMinutes s).map fun (m, s) => (-Int.ofNat m, s)
    | _ => none
  match s with
  | a :: b :: c :: rest =>
    if [a, b, c].map Char.toUpper = ['U', 'T', 'C'] then some (0, rest) else unmarked s
  | _ => unmarked s

/-- The moment that a local date and time stand for at an offset of less than a
day. -/
def atOffset? (date : Date) (hour minute second nano : Nat) (offset : Int) :
    Option Timestamp :=
  if !date.isValid || offset ≤ -1440 || 1440 ≤ offset then none
  else
    let minutes : Int := Int.ofNat (60 * hour + minute) - offset
    let date := date.addDays (minutes / 1440)
    let rest := (minutes % 1440).toNat
    if date.isValid then some ⟨date, rest / 60, rest % 60, second, nano⟩ else none

/-- The moment that a text stands for. Blanks may stand around the numbers. -/
def ofText? (s : List Char) : Option Timestamp := do
  let (year, s) ← readYear s
  let s ← readMark '-' s
  let (month, s) ← readField 1 12 s
  let s ← readMark '-' s
  let (day, s) ← readField 1 31 s
  let s ← match s with
    | 't' :: s | 'T' :: s | ' ' :: s => some s
    | _ => none
  let (hour, s) ← readField 0 23 s
  let s ← readMark ':' s
  let (minute, s) ← readField 0 59 s
  let s ← readMark ':' s
  let (second, s) ← readField 0 60 s
  let (nano, s) ← readFraction s
  let (offset, s) ← readOffset (trimStart s)
  if (trimStart s).isEmpty then
    atOffset? ⟨year, month, day⟩ hour minute second nano offset
  else none

end Timestamp

end ChatSieve.Message
