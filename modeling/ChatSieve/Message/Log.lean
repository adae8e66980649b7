import ChatSieve.Message.Json
import ChatSieve.Text.Blank
import ChatSieve.Text.Lines

/-!
# Message logs

A log holds a message on every line that is not blank. Reading stops at the
first line that is no text or holds no message.
-/

namespace ChatSieve.Message

open ChatSieve.Text

/-- A message with the number of its line. -/
structure Recorded where
  line : Nat
  message : Message
  deriving DecidableEq

inductive LogError where
  /-- the log cannot be read as text -/
  | unreadable
  | invalidLine (line : Nat)
  deriving DecidableEq, Repr

/-- The text of some bytes. -/
def decodeText? (bytes : List UInt8) : Option (List Char) :=
  (String.fromUTF8? ⟨bytes.toArray⟩).map String.toList

/-- The messages on some lines, of which the first has the given number. -/
def readLines (number : Nat) : List (List UInt8) → Except LogError (List Recorded)
  | [] => .ok []
  | line :: rest =>
    match decodeText? line with
    | none => .error .unreadable
    | some text =>
      if (trim text).isEmpty then readLines (number + 1) rest
      else
        match ofText? text with
        | none => .error (.invalidLine number)
        | some message => do
          let later ← readLines (number + 1) rest
          return ⟨number, message⟩ :: later

/-- The messages of a log. -/
def readLog (bytes : List UInt8) : Except LogError (List Recorded) :=
  readLines 1 (byteLines bytes)

end ChatSieve.Message
