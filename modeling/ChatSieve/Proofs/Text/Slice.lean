import ChatSieve.Text.Slice

/-!
# Which parts a text has

A text is cut just where a character begins or the text ends
(`splitBytes?_eq_some_iff`), and a part is what stands between two such places
(`slice?_eq_some_iff`). Where all characters have one byte, places are counted
in characters (`byteLength_of_narrow`).
-/

namespace ChatSieve.Text

/-- Only a text without characters has no bytes. -/
theorem byteLength_eq_zero_iff {s : List Char} : byteLength s = 0 ↔ s = [] := by
  cases s with
  | nil => exact ⟨fun _ => rfl, fun _ => rfl⟩
  | cons c s =>
    have some_bytes := c.utf8Size_pos
    rw [byteLength]
    constructor
    · omega
    · rintro ⟨⟩

theorem splitBytes?_eq_some_iff {n : Nat} {s front back : List Char} :
    splitBytes? n s = some (front, back) ↔ front ++ back = s ∧ byteLength front = n := by
  fun_induction splitBytes? n s generalizing front with
  | case1 s =>
    rw [byteLength_eq_zero_iff]
    grind
  | case2 n =>
    have no_part : front ++ back = [] → byteLength front ≠ n + 1 := by
      intro none
      obtain ⟨rfl, -⟩ := List.append_eq_nil_iff.1 none
      exact nofun
    simpa using no_part
  | case3 n c s fits ih =>
    rw [Option.map_eq_some_iff]
    constructor
    · rintro ⟨⟨first, second⟩, split, same⟩
      cases same
      obtain ⟨rfl, length⟩ := ih.1 split
      refine ⟨rfl, ?_⟩
      rw [byteLength]
      omega
    · rintro ⟨whole, length⟩
      cases front with
      | nil => cases length
      | cons d front =>
        obtain ⟨rfl, rfl⟩ := List.cons.inj whole
        rw [byteLength] at length
        exact ⟨(front, back), ih.2 ⟨rfl, by omega⟩, rfl⟩
  | case4 n c s large =>
    refine ⟨nofun, ?_⟩
    rintro ⟨whole, length⟩
    cases front with
    | nil => cases length
    | cons d front =>
      obtain ⟨rfl, -⟩ := List.cons.inj whole
      rw [byteLength] at length
      omega

/-- A part is cut out just if so many bytes stand before it and it has so many. -/
theorem slice?_eq_some_iff {s part : List Char} {start count : Nat} :
    slice? s start count = some part ↔
      ∃ before after, before ++ (part ++ after) = s ∧ byteLength before = start ∧
        byteLength part = count := by
  simp only [slice?, Option.bind_eq_bind, Option.bind_eq_some_iff, Prod.exists, Option.pure_def,
    Option.some.injEq, splitBytes?_eq_some_iff]
  constructor
  · rintro ⟨before, back, ⟨rfl, start_eq⟩, part, after, ⟨rfl, count_eq⟩, rfl⟩
    exact ⟨before, after, rfl, start_eq, count_eq⟩
  · rintro ⟨before, after, rfl, start_eq, count_eq⟩
    exact ⟨before, _, ⟨rfl, start_eq⟩, part, after, ⟨rfl, count_eq⟩, rfl⟩

/-- Inside a character and behind the end there is nothing to cut. -/
example : slice? ['é', 'a'] 2 1 = some ['a'] ∧ slice? ['é', 'a'] 1 1 = none ∧
    slice? ['é', 'a'] 2 2 = none := by
  decide

theorem byteLength_of_narrow {s : List Char} (narrow : ∀ c ∈ s, c.utf8Size = 1) :
    byteLength s = s.length := by
  induction s with
  | nil => rfl
  | cons c s ih =>
    obtain ⟨first, others⟩ := List.forall_mem_cons.1 narrow
    rw [byteLength, first, ih others, List.length_cons, Nat.add_comm]

end ChatSieve.Text
