import ChatSieve.Channels
import ChatSieve.Toml.Reader

/-!
# Configuration

The channel state in the configuration file, under `channels`. A table of the
configuration may also be an array of its fields in order; further items and
unknown keys are skipped.
-/

namespace ChatSieve.Config

mutual

/-- All numbers are in the range that a reader can hold, that of 128 bits for
integers. -/
def inRange : Toml → Bool
  | .integer n => -2 ^ 127 ≤ n && n < 2 ^ 128
  | .float overflows => !overflows
  | .array items => allInRange items
  | .table _ entries => entriesInRange entries
  | .tables items => tablesInRange items
  | _ => true

def allInRange : List Toml → Bool
  | [] => true
  | v :: vs => inRange v && allInRange vs

def entriesInRange : List (String × Toml) → Bool
  | [] => true
  | (_, v) :: rest => inRange v && entriesInRange rest

def tablesInRange : List (List (String × Toml)) → Bool
  | [] => true
  | t :: ts => entriesInRange t && tablesInRange ts

end

/-- The fields of a table or an array, each where it is given. All else has to
be something that can be skipped. -/
def fieldsOf (names : List String) : Toml → Option (List (Option Toml))
  | .table _ entries =>
    if entriesInRange (entries.filter fun e => !names.contains e.1) then
      some (names.map fun name => entries.lookup name)
    else none
  | .array items =>
    some ((items.take names.length).map some
      ++ List.replicate (names.length - items.length) none)
  | .tables items =>
    some ((items.take names.length).map (fun t => some (.table .headed t))
      ++ List.replicate (names.length - items.length) none)
  | _ => none

def readText : Toml → Option String
  | .string s => some s
  | _ => none

/-- Names without repetition, in ascending order. -/
def sortedNames (names : List String) : List String :=
  names.foldr (fun n acc => insert n acc) []
where
  insert (n : String) : List String → List String
    | [] => [n]
    | m :: ms => if n < m then n :: m :: ms else if n = m then m :: ms else m :: insert n ms

def readNames : Toml → Option (List String)
  | .array items => (items.mapM readText).map sortedNames
  | .tables [] => some []
  | _ => none

/-- The channel state that a value stands for. -/
def readChannels (v : Toml) : Option Channels := do
  match ← fieldsOf ["watching", "live"] v with
  | [watching, live] =>
    let watching ← match watching with
      | none => some none
      | some v => (readText v).map some
    let live ← match live with
      | none => some []
      | some v => readNames v
    return ⟨watching, live⟩
  | _ => none

/-- The channel state of a configuration file. -/
def ofText? (text : String) : Option Channels := do
  let entries ← Toml.ofText? text.toList
  match ← fieldsOf ["channels"] (.table .headed entries) with
  | [some v] => readChannels v
  | _ => return Channels.none

end ChatSieve.Config
