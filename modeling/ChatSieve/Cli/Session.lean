import ChatSieve.Cli.Failure

/-!
# Sessions

The parts of a run write and may fail. What a part has written before it fails
stays written.
-/

namespace ChatSieve.Cli

/-- What has been written so far. -/
structure Console where
  output : String
  errors : String
  deriving DecidableEq, Repr

namespace Console

def empty : Console := ⟨"", ""⟩

def print (c : Console) (text : String) : Console := { c with output := c.output ++ text }

def complain (c : Console) (text : String) : Console := { c with errors := c.errors ++ text }

end Console

/-- A part of a run. -/
abbrev Session := ExceptT Failure (StateM Console)

namespace Session

def print (text : String) : Session Unit := modify fun c => c.print text

/-- Fails, and tells of it what has to be told at once. -/
def fail {α : Type} (colored : Bool) (f : Failure) : Session α := do
  modify fun c => c.complain (f.notice colored)
  throw f

/-- What is to be had without writing, or else a failure. -/
def ofExcept {α : Type} (colored : Bool) : Except Failure α → Session α
  | .ok a => pure a
  | .error f => fail colored f

/-- How a session ends, and what has been written then. -/
def result {α : Type} (x : Session α) (c : Console) : Except Failure α × Console := x.run.run c

variable {α β : Type}

theorem result_pure (a : α) (c : Console) : (pure a : Session α).result c = (.ok a, c) := rfl

theorem result_print (text : String) (c : Console) :
    (print text).result c = (.ok (), c.print text) := rfl

theorem result_fail (colored : Bool) (f : Failure) (c : Console) :
    (fail colored f : Session α).result c = (.error f, c.complain (f.notice colored)) := rfl

theorem result_bind_of_ok {x : Session α} {c c' : Console} {a : α} (ok : x.result c = (.ok a, c'))
    (next : α → Session β) : (x >>= next).result c = (next a).result c' := by
  unfold result at ok ⊢
  simp only [ExceptT.run_bind, StateT.run_bind, ok]
  rfl

theorem result_bind_of_error {x : Session α} {c c' : Console} {f : Failure}
    (failed : x.result c = (.error f, c')) (next : α → Session β) :
    (x >>= next).result c = (.error f, c') := by
  unfold result at failed ⊢
  simp only [ExceptT.run_bind, StateT.run_bind, failed]
  rfl

theorem result_ofExcept_ok {x : Except Failure α} {a : α} (ok : x = .ok a) (colored : Bool)
    (next : α → Session β) (c : Console) :
    (ofExcept colored x >>= next).result c = (next a).result c := by
  subst ok
  exact result_bind_of_ok (result_pure a c) next

theorem result_ofExcept_error {x : Except Failure α} {f : Failure} (failed : x = .error f)
    (colored : Bool) (next : α → Session β) (c : Console) :
    (ofExcept colored x >>= next).result c = (.error f, c.complain (f.notice colored)) := by
  subst failed
  exact result_bind_of_error (result_fail colored f c) next

end Session

end ChatSieve.Cli
