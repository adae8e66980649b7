import ChatSieve.Proofs.Grammar.Routine

/-!
# Journals of a run

What holds of the journal of the routines throughout: at every moment the
cursor stands among the tokens, not before the place where it stood earlier,
with no more levels in use than there are and no more than one error; and the
calls that have returned are disciplined (`Call.Disciplined`).

`Program.Meets` says of a program that it has an outcome, and what is true of
it. There is a rule for each way to put programs together.
-/

namespace ChatSieve.Token.Cursor

theorem nextKind?_eq {c : Cursor} {ts : List Token} (coming : c.coming = ts) :
    c.nextKind? = ts.head?.map (·.kind) := by
  rw [nextKind?, next?, coming]

theorem nextHas_iff {c : Cursor} {property : Kind → Bool} :
    c.nextHas property ↔ ∃ t rest, c.coming = t :: rest ∧ property t.kind := by
  cases coming : c.coming <;> simp [nextHas, nextKind?_eq coming]

theorem nextIs_iff {c : Cursor} {k : Kind} : c.nextIs k ↔ ∃ a rest, c.coming = ⟨k, a⟩ :: rest := by
  cases coming : c.coming with
  | nil => simp [nextIs, nextKind?_eq coming]
  | cons t rest =>
    obtain ⟨kind, a⟩ := t
    simp [nextIs, nextKind?_eq coming]

end ChatSieve.Token.Cursor

namespace ChatSieve.Grammar
open ChatSieve.Token

namespace Memory

/-- What the parsers of a level see of the memory. -/
def state (m : Memory) : State := ⟨m.cursor.coming, m.errors.head?⟩

@[simp] theorem state_setDepth (m : Memory) (depth : Nat) : (m.setDepth depth).state = m.state := rfl

@[simp] theorem state_note (m : Memory) (e : ParseError) : (m.note e).state = m.state.fail e := by
  obtain ⟨c, depth, errors⟩ := m
  cases errors <;> rfl

@[simp] theorem depth_setDepth (m : Memory) (depth : Nat) : (m.setDepth depth).depth = depth := rfl
@[simp] theorem depth_next (m : Memory) : m.next.depth = m.depth := rfl

theorem state_eq {m : Memory} {ts : List Token} (coming : m.cursor.coming = ts) :
    m.state = ⟨ts, m.errors.head?⟩ := by
  rw [state, coming]

theorem state_next {m : Memory} {t : Token} {rest : List Token} (coming : m.cursor.coming = t :: rest) :
    m.next.state = ⟨rest, m.errors.head?⟩ := by
  simp [next, state, Cursor.advance, coming]

private theorem position_next (m : Memory) : m.position ≤ m.next.position := by
  obtain ⟨⟨passed, coming⟩, depth, errors⟩ := m
  cases coming
  · exact Nat.le_refl _
  · exact Nat.le_succ _

/-- What holds of the memory at every moment of the parse of some tokens. -/
structure Sound (ts : List Token) (m : Memory) : Prop where
  all_eq : m.cursor.all = ts
  depth_le : m.depth ≤ maxDepth
  errors_le : m.errors.length ≤ 1

namespace Sound

variable {ts : List Token} {m : Memory}

theorem position_add (sound : m.Sound ts) : m.position + m.cursor.coming.length = ts.length := by
  simp [← sound.all_eq, Cursor.all, position]

theorem next (sound : m.Sound ts) : m.next.Sound ts where
  all_eq := by
    rw [← sound.all_eq]
    obtain ⟨⟨passed, coming⟩, depth, errors⟩ := m
    cases coming <;> simp [Memory.next, Cursor.advance, Cursor.all]
  depth_le := sound.depth_le
  errors_le := sound.errors_le

theorem setDepth (sound : m.Sound ts) (depth : Nat) (le : depth ≤ maxDepth) :
    (m.setDepth depth).Sound ts :=
  ⟨sound.all_eq, le, sound.errors_le⟩

theorem note (sound : m.Sound ts) (e : ParseError) : (m.note e).Sound ts where
  all_eq := sound.all_eq
  depth_le := sound.depth_le
  errors_le := by
    rw [Memory.note]
    split
    · rename_i none
      simp [List.isEmpty_iff.1 none]
    · exact sound.errors_le

end Sound

end Memory

/-- The routines that a level can be taken for. -/
def Routine.takesLevel : Routine → Bool
  | .expression _ | .list => true
  | _ => false

/-- How many expressions and lists are open. -/
def opened (stack : List Routine) : Nat := stack.countP Routine.takesLevel

/-- What is asked of a call. -/
structure Call.Disciplined (c : Call) : Prop where
  /-- all levels that were taken are given back -/
  depth_eq : c.exit.depth = c.entry.depth
  position_le : c.entry.position ≤ c.exit.position
  /-- a token is taken, unless none is left -/
  takes : c.entry.cursor.hasNext → c.entry.position < c.exit.position
  opened_le : opened c.stack ≤ maxDepth + 2
  stack_le : c.stack.length ≤ maxFrames

namespace Journal

/-- What holds of the journal throughout the parse of some tokens. -/
structure Sound (ts : List Token) (j : Journal) : Prop where
  moments : ∀ m ∈ j.memory :: j.past, m.Sound ts
  ordered : (j.memory :: j.past).Pairwise fun later earlier => earlier.position ≤ later.position
  calls : ∀ c ∈ j.calls, c.Disciplined

@[simp] theorem memory_write (j : Journal) (f : Memory → Memory) : (j.write f).memory = f j.memory := rfl

namespace Sound

variable {ts : List Token} {j : Journal}

theorem memory (sound : j.Sound ts) : j.memory.Sound ts := sound.moments _ List.mem_cons_self

theorem write (sound : j.Sound ts) {f : Memory → Memory} (memory : (f j.memory).Sound ts)
    (le : j.memory.position ≤ (f j.memory).position) : (j.write f).Sound ts where
  moments := List.forall_mem_cons.2 ⟨memory, sound.moments⟩
  ordered := by
    refine List.pairwise_cons.2 ⟨List.forall_mem_cons.2 ⟨le, fun m member => ?_⟩, sound.ordered⟩
    exact Nat.le_trans ((List.pairwise_cons.1 sound.ordered).1 m member) le
  calls := sound.calls

theorem next (sound : j.Sound ts) : (j.write .next).Sound ts :=
  sound.write sound.memory.next j.memory.position_next

theorem setDepth (sound : j.Sound ts) (depth : Nat) (le : depth ≤ maxDepth) :
    (j.write (.setDepth depth)).Sound ts :=
  sound.write (sound.memory.setDepth depth le) (Nat.le_refl _)

theorem note (sound : j.Sound ts) (e : ParseError) : (j.write (.note e)).Sound ts :=
  sound.write (sound.memory.note e) (Nat.le_refl _)

theorem record (sound : j.Sound ts) {c : Call} (disciplined : c.Disciplined) : (j.record c).Sound ts :=
  ⟨sound.moments, sound.ordered, List.forall_mem_cons.2 ⟨disciplined, sound.calls⟩⟩

end Sound

end Journal

namespace Program

variable {α β : Type} {stack : List Routine} {j : Journal}

/-- The program has an outcome, of which this is true. -/
def Meets (p : Program α) (stack : List Routine) (j : Journal) (post : α → Journal → Prop) : Prop :=
  ∃ a j', p stack j = some (a, j') ∧ post a j'

namespace Meets

theorem pure {a : α} {post : α → Journal → Prop} (holds : post a j) :
    Meets (Pure.pure a) stack j post :=
  ⟨a, j, rfl, holds⟩

theorem bind {p : Program α} {f : α → Program β} {mid : α → Journal → Prop}
    {post : β → Journal → Prop} (first : Meets p stack j mid)
    (next : ∀ a j', mid a j' → Meets (f a) stack j' post) : Meets (p >>= f) stack j post := by
  obtain ⟨a, j', run, holds⟩ := first
  obtain ⟨b, j'', run', holds'⟩ := next a j' holds
  refine ⟨b, j'', ?_, holds'⟩
  change (p stack j).bind _ = _
  rw [run]
  exact run'

theorem mono {p : Program α} {mid post : α → Journal → Prop} (meets : Meets p stack j mid)
    (imp : ∀ a j', mid a j' → post a j') : Meets p stack j post := by
  obtain ⟨a, j', run, holds⟩ := meets
  exact ⟨a, j', run, imp a j' holds⟩

theorem look {f : Memory → α} {g : α → Program β} {post : β → Journal → Prop}
    (rest : Meets (g (f j.memory)) stack j post) : Meets (Program.look f >>= g) stack j post := rest

theorem write {f : Memory → Memory} {g : Unit → Program β} {post : β → Journal → Prop}
    (rest : Meets (g ()) stack (j.write f) post) : Meets (Program.write f >>= g) stack j post := rest

theorem last {f : Memory → Memory} {post : Unit → Journal → Prop} (holds : post () (j.write f)) :
    Meets (Program.write f) stack j post :=
  ⟨(), _, rfl, holds⟩

/-- After a program with a known outcome. -/
theorem after {p : Program α} {f : α → Program β} {a : α} {j' : Journal} {post : β → Journal → Prop}
    (run : p stack j = some (a, j')) (rest : Meets (f a) stack j' post) :
    Meets (p >>= f) stack j post := by
  have first : Meets p stack j fun b k => b = a ∧ k = j' := ⟨a, j', run, rfl, rfl⟩
  refine first.bind ?_
  rintro _ _ ⟨rfl, rfl⟩
  exact rest

theorem descend_full {g : Bool → Program β} {post : β → Journal → Prop}
    (full : maxDepth ≤ j.memory.depth)
    (rest : Meets (g false) stack (j.write (.note .tooDeep)) post) :
    Meets (Program.descend >>= g) stack j post := by
  refine after ?_ rest
  change (if maxDepth ≤ j.memory.depth then _ else _ : Program Bool) stack j = _
  rw [if_pos full]
  rfl

theorem descend_free {g : Bool → Program β} {post : β → Journal → Prop}
    (free : j.memory.depth < maxDepth)
    (rest : Meets (g true) stack (j.write (.setDepth (j.memory.depth + 1))) post) :
    Meets (Program.descend >>= g) stack j post := by
  refine after ?_ rest
  change (if maxDepth ≤ j.memory.depth then _ else _ : Program Bool) stack j = _
  rw [if_neg (Nat.not_le.2 free)]
  rfl

theorem depthAbove {g : Nat → Program β} {post : β → Journal → Prop} (depth : Nat)
    (some_level : j.memory.depth = depth + 1) (rest : Meets (g depth) stack j post) :
    Meets (Program.depthAbove >>= g) stack j post := by
  refine after ?_ rest
  change (if j.memory.depth = 0 then _ else _ : Program Nat) stack j = _
  rw [if_neg (some_level ▸ Nat.succ_ne_zero depth)]
  change some (j.memory.depth - 1, j) = _
  rw [some_level]
  rfl

end Meets

end Program

end ChatSieve.Grammar
