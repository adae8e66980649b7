/-!
# Parts of a text by bytes

A place in a text is told by the bytes of its UTF-8 form that come before it.
Not every number tells a place: some lie inside a character, and some behind
the end of the text.
-/

namespace ChatSieve.Text

/-- The length of a text in bytes. -/
def byteLength : List Char → Nat
  | [] => 0
  | c :: s => c.utf8Size + byteLength s

/-- A text in two parts, of which the first one has so many bytes. -/
def splitBytes? : Nat → List Char → Option (List Char × List Char)
  | 0, s => some ([], s)
  | _ + 1, [] => none
  | n + 1, c :: s =>
    if c.utf8Size ≤ n + 1 then
      (splitBytes? (n + 1 - c.utf8Size) s).map fun (front, back) => (c :: front, back)
    else none

/-- The part of a text that begins after so many bytes and has so many. -/
def slice? (s : List Char) (start count : Nat) : Option (List Char) := do
  let (_, back) ← splitBytes? start s
  let (part, _) ← splitBytes? count back
  return part

end ChatSieve.Text
