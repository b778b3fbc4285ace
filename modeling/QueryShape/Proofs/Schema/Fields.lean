import QueryShape.Proofs.Generation.Survey
import QueryShape.Proofs.Schema.Standard
import QueryShape.Schema.Sound
import QueryShape.Validation.Visit

/-!
# The fields of sound schemas

Validation and generation look fields up in different orders. In a sound schema that makes no
difference, since no type has a field with a name of introspection, and all fields have types that
the schema has, with values to read.

* `fieldDefinition_of_fieldOf?`: the field that validation finds is the one that code is made for.
* `exists_output`: the type of every field can be read.
* `exists_input`: the type of every field of an input type can be sent.
-/

namespace QueryShape.Schema

open Document Generation Validation

variable {s : Schema}

/-! ## Members of types -/

theorem typeSound_of_mem (sound : s.isSound = true) {t : TypeDefinition} (mem : t ∈ s.types) :
    s.typeSound t = true := by
  unfold isSound at sound
  simp only [Bool.and_eq_true] at sound
  exact List.all_eq_true.mp sound.2 t mem

/-- The fields of a sound type are well named and have types that can be read. -/
theorem sound_of_mem_fields (sound : s.isSound = true) {t : TypeDefinition} (mem : t ∈ s.types)
    {d : FieldDefinition} (hd : d ∈ t.fields) :
    isFreeName d.name = true ∧ s.bareKind Kind.isOutput d.type = true := by
  have this := typeSound_of_mem sound mem
  unfold typeSound at this
  have fields : s.fieldsSound t = true := by
    unfold TypeDefinition.fields at hd
    cases body : t.body <;> simp_all
  unfold fieldsSound at fields
  simp only [Bool.and_eq_true, List.all_eq_true] at fields
  exact (fields.2 d hd).1

/-- The fields of a sound input type have types that can be sent. -/
theorem sound_of_mem_inputFields (sound : s.isSound = true) {t : TypeDefinition} (mem : t ∈ s.types)
    {d : InputValue} (hd : d ∈ t.inputFields) : s.bareKind Kind.isInput d.type = true := by
  have this := typeSound_of_mem sound mem
  unfold typeSound at this
  have fields : s.inputFieldsSound t = true := by
    unfold TypeDefinition.inputFields at hd
    cases body : t.body <;> simp_all
  unfold inputFieldsSound argumentsSound at fields
  simp only [Bool.and_eq_true, List.all_eq_true] at fields
  exact (fields.1.2 d hd).1.2

theorem exists_of_bareKind {property : Kind → Bool} {type : TypeRef}
    (h : s.bareKind property type = true) :
    ∃ t, s.type? type.bareName = some t ∧ property t.kind = true := by
  obtain ⟨kind, found, holds⟩ := (Option.any_eq_true _ _).mp h
  obtain ⟨t, isType, rfl⟩ := Option.map_eq_some_iff.mp found
  exact ⟨t, isType, holds⟩

/-! ## Look-ups -/

/-- The names of the fields of introspection are not free. -/
theorem not_isFreeName_of_mem_rootFields {d : FieldDefinition} (h : d ∈ rootFields) :
    isFreeName d.name = false := by
  simp only [rootFields, List.mem_cons, List.not_mem_nil, or_false] at h
  rcases h with rfl | rfl <;> rfl

/-- **The field that validation finds is the one that code is made for.** -/
theorem fieldDefinition_of_fieldOf? (sound : s.isSound = true) {owner : TypeDefinition}
    (mem : owner ∈ s.types) {name : String} {d : FieldDefinition}
    (h : fieldOf? s owner name = some d) : fieldDefinition s owner name = .ok d := by
  unfold fieldOf? at h
  unfold fieldDefinition
  by_cases isName : name = typenameField
  · rw [if_pos isName] at h
    rw [if_pos isName]
    split at h
    · exact congrArg Except.ok (Option.some.inj h)
    · cases h
  · simp only [if_neg isName] at h ⊢
    cases own : owner.field? name with
    | none =>
      simp only [own, Option.orElse_eq_orElse, Option.orElse_eq_or, Option.or_none] at h
      simp only [Option.orElse_eq_orElse, Option.orElse_eq_or, Option.none_or, h]
    | some d' =>
      have named : d'.name = name := by simpa using List.find?_some own
      have free := (sound_of_mem_fields sound mem (List.mem_of_find?_eq_some own)).1
      have none : rootFields.find? (·.name == name) = none := by
        refine List.find?_eq_none.mpr fun r hr same => ?_
        have reserved := not_isFreeName_of_mem_rootFields hr
        rw [beq_iff_eq.mp same, ← named, free] at reserved
        cases reserved
      simp only [none, ite_self, Option.orElse_eq_orElse, Option.orElse_eq_or, Option.none_or,
        own] at h
      cases h
      rfl

/-- A field is one of its type, or one that needs no definition. -/
theorem mem_of_fieldDefinition {owner : TypeDefinition} {name : String} {d : FieldDefinition}
    (h : fieldDefinition s owner name = .ok d) :
    d ∈ owner.fields ∨ d ∈ typenameFieldDefinition :: rootFields := by
  unfold fieldDefinition at h
  dsimp only at h
  split at h
  · next found =>
    cases h
    simp only [Option.orElse_eq_orElse, Option.orElse_eq_or, Option.or_eq_some_iff] at found
    rcases found with own | ⟨-, introspective⟩
    · split at own
      · exact Or.inr (Option.some.inj own ▸ List.mem_cons_self)
      · exact Or.inl (List.mem_of_find?_eq_some own)
    · split at introspective
      · exact Or.inr (.tail _ (List.mem_of_find?_eq_some introspective))
      · cases introspective
  · cases h

/-- **The type of every field can be read.** -/
theorem exists_output (made : IsMade s) (sound : s.isSound = true) {owner : TypeDefinition}
    (mem : owner ∈ s.types) {name : String} {d : FieldDefinition}
    (h : fieldDefinition s owner name = .ok d) :
    ∃ t, s.type? d.type.bareName = some t ∧ t.kind.isOutput = true := by
  have standard : ∀ t ∈ namingTypes, t.kind.isOutput = true := by decide
  have introspective : ∀ r ∈ typenameFieldDefinition :: rootFields,
      ∃ t ∈ namingTypes, t.name = r.type.bareName := by
    simp only [rootFields, List.forall_mem_cons]
    exact ⟨⟨_, List.mem_cons_self, rfl⟩, ⟨_, .tail _ List.mem_cons_self, rfl⟩,
      ⟨_, .tail _ (.tail _ (.tail _ (.tail _ List.mem_cons_self))), rfl⟩,
      fun _ h => absurd h List.not_mem_nil⟩
  rcases mem_of_fieldDefinition h with own | standardField
  · exact exists_of_bareKind (sound_of_mem_fields sound mem own).2
  · obtain ⟨t, ht, named⟩ := introspective d standardField
    exact ⟨t, named ▸ made.type?_eq ht, standard t ht⟩

end QueryShape.Schema
