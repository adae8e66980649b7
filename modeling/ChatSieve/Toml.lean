/-!
# TOML documents

The values of a document, and how its statements build them up. A table
remembers how it came to be, for that decides what may still be added to it.
-/

namespace ChatSieve

/-- How a table came to be. -/
inductive Toml.Origin where
  /-- in braces; it is closed -/
  | inline
  /-- as a parent of a table with a header -/
  | implied
  /-- as a parent in a dotted key -/
  | dotted
  /-- by a header of its own -/
  | headed
  deriving DecidableEq, Repr

inductive Toml where
  | string (s : String)
  | integer (n : Int)
  /-- whether it is too large for 64 bits; the value does not matter -/
  | float (overflows : Bool)
  | boolean (b : Bool)
  | datetime
  | array (items : List Toml)
  | table (origin : Toml.Origin) (entries : List (String × Toml))
  /-- the tables under one repeated header -/
  | tables (items : List (List (String × Toml)))
  deriving Inhabited

namespace Toml

abbrev Entries := List (String × Toml)

/-- The entries with another value under a key that is there. -/
def replace (key : String) (v : Toml) (entries : Entries) : Entries :=
  entries.map fun e => if e.1 == key then (key, v) else e

/-- Adds a value under a dotted key. The parents may not have a header or be in
braces, and nothing is there yet. -/
def insert : List String → Toml → Entries → Option Entries
  | [], _, _ => none
  | [key], v, entries =>
    match entries.lookup key with
    | none => some (entries ++ [(key, v)])
    | some _ => none
  | key :: path, v, entries =>
    match entries.lookup key with
    | none => (insert path v []).map fun inner => entries ++ [(key, .table .dotted inner)]
    | some (.table origin inner) =>
      if origin == .implied || origin == .dotted then
        (insert path v inner).map fun inner => replace key (.table origin inner) entries
      else none
    | some _ => none

/-- Changes the entries of the table that a header of some path belongs to. The
parents that are not there are implied; of repeated tables the last is meant. -/
def within (change : String → Entries → Option Entries) : List String → Entries → Option Entries
  | [], _ => none
  | [key], entries => change key entries
  | key :: path, entries =>
    match entries.lookup key with
    | none => (within change path []).map fun inner => entries ++ [(key, .table .implied inner)]
    | some (.table origin inner) =>
      if origin == .inline then none
      else (within change path inner).map fun inner => replace key (.table origin inner) entries
    | some (.tables items) => do
      let last ← items.getLast?
      let last ← within change path last
      return replace key (.tables (items.dropLast ++ [last])) entries
    | some _ => none

/-- Begins a table by a header. It may have been implied before. -/
def beginTable : List String → Entries → Option Entries :=
  within fun key entries =>
    match entries.lookup key with
    | none => some (entries ++ [(key, .table .headed [])])
    | some (.table .implied inner) => some (replace key (.table .headed inner) entries)
    | some _ => none

/-- Begins a further table under a repeated header. -/
def beginRepeated : List String → Entries → Option Entries :=
  within fun key entries =>
    match entries.lookup key with
    | none => some (entries ++ [(key, .tables [[]])])
    | some (.tables items) => some (replace key (.tables (items ++ [[]])) entries)
    | some _ => none

/-- Adds a value to the table begun last. -/
def insertUnder (header path : List String) (v : Toml) (entries : Entries) : Option Entries :=
  if header.isEmpty then insert path v entries
  else
    within (fun key entries =>
      match entries.lookup key with
      | some (.table origin inner) =>
        (insert path v inner).map fun inner => replace key (.table origin inner) entries
      | some (.tables items) => do
        let last ← insert path v (← items.getLast?)
        return replace key (.tables (items.dropLast ++ [last])) entries
      | _ => none) header entries

/-- A statement of a document. -/
inductive Statement where
  | pair (path : List String) (v : Toml)
  | header (path : List String)
  | repeatedHeader (path : List String)

/-- What the statements say, under the header of the last table. -/
def build : List String → Entries → List Statement → Option Entries
  | _, entries, [] => some entries
  | header, entries, .pair path v :: rest => do
    build header (← insertUnder header path v entries) rest
  | _, entries, .header path :: rest => do build path (← beginTable path entries) rest
  | _, entries, .repeatedHeader path :: rest => do build path (← beginRepeated path entries) rest

end Toml

end ChatSieve
