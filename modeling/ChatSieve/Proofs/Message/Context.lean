import ChatSieve.Message.Context
import ChatSieve.Proofs.Expr.Soundness

/-!
# The values of a message and the catalogue

A message gives a value to each identifier of the catalogue and to no other,
and the value has the type that the catalogue states
(`bindings_honour_catalogue`). So no identifier of a filter over messages is
without a value.
-/

namespace ChatSieve

/-- No value of a type is `null`. -/
theorem Value.HasShape.ne_null {v : Value} {ty : Ty} (shape : v.HasShape ty) : v ≠ .null := by
  rintro rfl
  cases shape

/-- Values fit the declarations if each declared name has one and each value
has the type of its name. -/
theorem Bindings.fit_of_forall {vars : Bindings} {decls : Declarations}
    (names : ∀ name, decls.declares name → name ∈ vars.map Prod.fst)
    (shapes : ∀ entry ∈ vars, ∃ ty, decls.typeOf? entry.1 = some ty ∧ entry.2.HasShape ty) :
    vars.Fit decls := by
  intro name ty declared
  cases found : vars.lookup name with
  | none =>
    have bound := names name (by rw [Declarations.declares, declared]; rfl)
    obtain ⟨entry, member, rfl⟩ := List.mem_map.1 bound
    have other := List.lookup_eq_none_iff.1 found entry member
    rw [bne_self_eq_false] at other
    cases other
  | some v =>
    obtain ⟨before, after, split, -⟩ := List.lookup_eq_some_iff.1 found
    obtain ⟨ty', declared', shape⟩ := shapes (name, v) (by simp [split])
    obtain rfl := Option.some.inj (declared.symm.trans declared')
    rw [valueOf, found]
    exact shape

private theorem Declarations.mem_names_of_declares {decls : Declarations} {name : String}
    (declared : decls.declares name) : name ∈ decls.map Prod.fst := by
  obtain ⟨entry, member, same⟩ := List.lookup_isSome_iff.1 declared
  rw [eq_of_beq same]
  exact List.mem_map_of_mem member

namespace Message

variable (m : Message) (channels : Channels)

/-- The names are those of any other message. -/
theorem map_fst_bindings :
    (m.bindings channels).map Prod.fst = (Message.blank.bindings Channels.none).map Prod.fst := rfl

private theorem names_perm_declarations :
    ((m.bindings channels).map Prod.fst).Perm (Catalogue.declarations.map Prod.fst) := by
  rw [map_fst_bindings]
  decide +kernel

private theorem typeOf?_flag (f : Flag) :
    Catalogue.declarations.typeOf? ("flags." ++ f.name) = some .bool := by
  cases f <;> decide +kernel

/-- Each value has the type that the catalogue states for its name. -/
theorem bindings_hasShape :
    ∀ entry ∈ m.bindings channels,
      ∃ ty, Catalogue.declarations.typeOf? entry.1 = some ty ∧ entry.2.HasShape ty := by
  simp only [bindings, List.forall_mem_append, List.forall_mem_singleton]
  refine ⟨⟨?_, ?_⟩, ⟨.bool, by decide +kernel, .bool _⟩⟩
  · simp only [List.forall_mem_cons]
    refine ⟨⟨.stringList, ?_, .strings _⟩, ⟨.color, ?_, .color _⟩, ⟨.string, ?_, .string _⟩,
      ⟨.string, ?_, .string _⟩, ⟨.bool, ?_, .bool _⟩, ⟨.bool, ?_, .bool _⟩, ⟨.int, ?_, .int _⟩,
      ⟨.string, ?_, .string _⟩, ⟨.bool, ?_, .bool _⟩, ⟨.bool, ?_, .bool _⟩, ⟨.string, ?_, .string _⟩,
      ⟨.int, ?_, .int _⟩, ⟨.string, ?_, .string _⟩, ⟨.int, ?_, .int _⟩, ⟨.string, ?_, .string _⟩,
      List.forall_mem_nil _⟩
    all_goals decide +kernel
  · rintro entry flag
    obtain ⟨f, -, rfl⟩ := List.mem_map.1 flag
    exact ⟨.bool, typeOf?_flag f, .bool _⟩

theorem bindings_fit : (m.bindings channels).Fit Catalogue.declarations := by
  refine Bindings.fit_of_forall (fun name declared => ?_) (m.bindings_hasShape channels)
  exact (m.names_perm_declarations channels).mem_iff.2 (Declarations.mem_names_of_declares declared)

/-- The names under which a message has values are those of the catalogue, each
once. Under each one is a value of the type that the catalogue states, and an
identifier of a filter over messages is never `null`. -/
theorem bindings_honour_catalogue :
    ((m.bindings channels).map Prod.fst).Nodup ∧
    (∀ name, name ∈ (m.bindings channels).map Prod.fst ↔ name ∈ Catalogue.declarations.map Prod.fst) ∧
    (∀ name v, (name, v) ∈ m.bindings channels →
      ∃ ty, Catalogue.declarations.typeOf? name = some ty ∧ v.HasShape ty) ∧
    (m.bindings channels).Fit Catalogue.declarations ∧
    ∀ text f name, Filter.ofText text = .ok f → (Expr.identifier name).IsPartOf f.expr →
      (Expr.identifier name).eval (m.bindings channels) ≠ .null := by
  have perm := m.names_perm_declarations channels
  have once : (Catalogue.declarations.map Prod.fst).Nodup := by decide +kernel
  refine ⟨perm.nodup_iff.2 once, fun name => perm.mem_iff,
    fun name v => m.bindings_hasShape channels (name, v), m.bindings_fit channels, ?_⟩
  intro text f name compiled part
  have typed := ((Filter.compile_eq_ok_iff _ _ _).1 compiled).2
  obtain ⟨ty, name_typed⟩ := part.typed typed
  exact (m.bindings_fit channels name ty (Expr.typeOf?_of_typeIn name_typed)).ne_null

end Message

end ChatSieve
