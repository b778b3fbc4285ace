import QueryShape.Proofs.Generation.Plan
import QueryShape.Schema.OfIntrospection

/-!
# The standard types of a schema

A schema is made of type definitions or of an introspection answer. Neither can say anything else
about a standard type than the standard does, and the types of introspection are always there.

* `IsMade.exists_withStandardTypes`: what is added to the own types of a schema, which keep to the
  standard.
* `IsMade.type?_eq`: the look-up of a type of introspection gives the standard one.
-/

namespace QueryShape.Schema

open Document Generation

/-- The schema has been made of type definitions, or of an introspection answer. -/
def IsMade (s : Schema) : Prop :=
  (∃ document, ofDocument document = .ok s) ∨ ∃ json, ofIntrospection json = .ok s

/-- If the type has a standard name, it is the standard type. -/
def KeepsStandard (t : TypeDefinition) : Prop :=
  ∀ standard, standardType? t.name = some standard → t = standard

/-! ## Standard types -/

theorem name_of_standardType? {name : String} {t : TypeDefinition}
    (h : standardType? name = some t) :
    t.name = name := by
  unfold standardType? at h
  split at h
  · cases h
    rfl
  · simpa using List.find?_some h

theorem keepsStandard_of_standardType? {name : String} {t : TypeDefinition}
    (h : standardType? name = some t) : KeepsStandard t := by
  intro standard found
  rw [name_of_standardType? h, h] at found
  exact Option.some.inj found

theorem keepsStandard_of_none {t : TypeDefinition} (h : standardType? t.name = none) :
    KeepsStandard t :=
  fun _ found => absurd (h.symm.trans found) nofun

theorem standardType?_of_mem_scalars {name : String} (h : name ∈ standardScalars) :
    standardType? name = some (scalarType name) := if_pos h

theorem standardType?_of_mem_introspectionTypes {t : TypeDefinition} (h : t ∈ introspectionTypes) :
    standardType? t.name = some t := by
  simp only [introspectionTypes, List.mem_cons, List.not_mem_nil, or_false] at h
  rcases h with rfl | rfl | rfl | rfl | rfl | rfl | rfl | rfl <;> rfl

/-! ## Schemas of documents -/

theorem name_extendType (extensions : List TypeDefinition) (t : TypeDefinition) :
    (extensions.foldl extendType t).name = t.name := by
  induction extensions generalizing t with
  | nil => rfl
  | cons e rest ih => exact ih (extendType t e)

theorem keepsStandard_completeTypes {document : Document} {t : TypeDefinition}
    (h : t ∈ completeTypes document) : KeepsStandard t := by
  obtain ⟨defined, -, rfl⟩ := List.mem_map.mp h
  split
  · next standard => exact keepsStandard_of_standardType? standard
  · next other =>
    refine keepsStandard_of_none ?_
    rwa [name_extendType]

/-- A defined schema is completed with the standard types. -/
theorem exists_withStandardTypes_of_document {document : Document} {s : Schema}
    (h : ofDocument document = .ok s) :
    ∃ own, s = withStandardTypes own ∧ ∀ t ∈ own.types, KeepsStandard t := by
  unfold ofDocument at h
  split at h
  · dsimp only at h
    split at h
    · exact ⟨_, (Except.ok.inj h).symm, fun t ht => keepsStandard_completeTypes ht⟩
    · cases h
  · cases h

/-! ## Schemas of answers -/

theorem keepsStandard_typeOutline {json : Json} {t : TypeDefinition}
    (h : typeOutline json = .ok t) :
    KeepsStandard t := by
  obtain ⟨name, -, h⟩ := except_bind_eq_ok_iff.mp h
  split at h
  · next standard =>
    cases h
    exact keepsStandard_of_standardType? standard
  · next other =>
    obtain ⟨kind, -, h⟩ := except_bind_eq_ok_iff.mp h
    -- whatever the kind is, the type that comes of it has the name
    dsimp only at h
    split at h <;>
      · repeat obtain ⟨_, -, h⟩ := except_bind_eq_ok_iff.mp h
        cases h
        exact keepsStandard_of_none other

theorem keepsStandard_completeType {s : Schema} {json : Json} {outline t : TypeDefinition}
    (keeps : KeepsStandard outline) (h : completeType s json outline = .ok t) :
    KeepsStandard t := by
  unfold completeType at h
  split at h
  · cases h
    exact keeps
  · next other =>
    dsimp only at h
    split at h <;>
      · repeat obtain ⟨_, -, h⟩ := except_bind_eq_ok_iff.mp h
        cases h
        exact keepsStandard_of_none (by simpa using other)

theorem mem_of_mem_byName {nameOf : α → String} {members : List α} {a : α}
    (h : a ∈ byName nameOf members) : a ∈ members := by
  suffices ∀ (pairs all : List (String × α)), (∀ p ∈ pairs, p.2 ∈ members) →
      (∀ p ∈ all, p.2 ∈ members) →
      ∀ p ∈ pairs.foldl (fun all f => Json.insert all f.1 f.2) all, p.2 ∈ members by
    obtain ⟨p, hp, rfl⟩ := List.mem_map.mp h
    refine this _ [] (fun p hp => ?_) (fun p hp => absurd hp List.not_mem_nil) p hp
    obtain ⟨m, hm, rfl⟩ := List.mem_map.mp hp
    exact hm
  intro pairs
  induction pairs with
  | nil => exact fun all _ h => h
  | cons pair rest ih =>
    intro all each h
    obtain ⟨here, later⟩ := List.forall_mem_cons.mp each
    refine ih _ later fun p hp => ?_
    unfold Json.insert at hp
    dsimp only at hp
    split at hp
    · obtain ⟨q, hq, rfl⟩ := List.mem_map.mp hp
      split
      · exact here
      · exact h q hq
    · rcases List.mem_append.mp hp with hp | hp
      · exact h p hp
      · cases List.mem_singleton.mp hp
        exact here

theorem keepsStandard_byName {types : List Json} {outlines : List TypeDefinition}
    (h : types.mapM typeOutline = .ok outlines) {t : Json × TypeDefinition}
    (mem : t ∈ byName (fun (t : Json × TypeDefinition) => t.2.name) (types.zip outlines)) :
    KeepsStandard t.2 := by
  obtain ⟨json, -, outlined⟩ := mem_of_mapM h (List.of_mem_zip (mem_of_mem_byName mem)).2
  exact keepsStandard_typeOutline outlined

/-- A described schema is completed with the standard types. -/
theorem exists_withStandardTypes_of_description {description : Json} {s : Schema}
    (h : ofDescription description = .ok s) :
    ∃ own, s = withStandardTypes own ∧ ∀ t ∈ own.types, KeepsStandard t := by
  unfold ofDescription at h
  obtain ⟨list, -, h⟩ := except_bind_eq_ok_iff.mp h
  obtain ⟨types, -, h⟩ := except_bind_eq_ok_iff.mp h
  obtain ⟨outlines, outlined, h⟩ := except_bind_eq_ok_iff.mp h
  obtain ⟨query?, -, h⟩ := except_bind_eq_ok_iff.mp h
  obtain ⟨mutation?, -, h⟩ := except_bind_eq_ok_iff.mp h
  obtain ⟨subscription?, -, h⟩ := except_bind_eq_ok_iff.mp h
  obtain ⟨listed, -, h⟩ := except_bind_eq_ok_iff.mp h
  dsimp only at h
  suffices h : ∃ (outline : Schema) (directives : List DirectiveDefinition), (do
      let complete ← (byName (fun (t : Json × TypeDefinition) => t.2.name)
        (types.zip outlines)).mapM fun t => outline.completeType t.1 t.2
      return withStandardTypes { types := complete, directives, query?, mutation?, subscription? })
        = Except.ok s by
    obtain ⟨outline, directives, h⟩ := h
    obtain ⟨complete, completed, h⟩ := except_bind_eq_ok_iff.mp h
    refine ⟨_, (Except.ok.inj h).symm, fun t ht => ?_⟩
    obtain ⟨described, mem, one⟩ := mem_of_mapM completed ht
    exact keepsStandard_completeType (keepsStandard_byName outlined mem) one
  split at h
  · obtain ⟨items, -, h⟩ := except_bind_eq_ok_iff.mp h
    obtain ⟨directives, -, h⟩ := except_bind_eq_ok_iff.mp h
    exact ⟨_, directives, h⟩
  · exact ⟨_, [], h⟩

theorem exists_ofDescription {json : Json} {s : Schema} (h : ofIntrospection json = .ok s) :
    ∃ description, ofDescription description = .ok s := by
  unfold ofIntrospection at h
  split at h
  · cases h
  · dsimp only at h
    split at h
    · split at h
      · exact ⟨_, h⟩
      · cases h
    · cases h

/-! ## The types of introspection -/

/-- The standard types that are in use are added to the types of a schema that keeps them. -/
theorem keepsStandard_withStandardTypes {s : Schema} (keeps : ∀ t ∈ s.types, KeepsStandard t) :
    ∀ t ∈ (withStandardTypes s).types, KeepsStandard t := by
  intro t ht
  rcases List.mem_append.mp ht with ht | ht
  · exact keeps t ht
  · rcases List.mem_append.mp (List.mem_filter.mp ht).1 with ht | ht
    · obtain ⟨name, isScalar, rfl⟩ := List.mem_map.mp ht
      exact keepsStandard_of_standardType?
        (standardType?_of_mem_scalars (List.mem_filter.mp isScalar).1)
    · exact keepsStandard_of_standardType? (standardType?_of_mem_introspectionTypes ht)

/-- **A made schema says nothing else about standard types**, and is completed with them. -/
theorem IsMade.exists_withStandardTypes {s : Schema} (h : IsMade s) :
    ∃ own, s = withStandardTypes own ∧ ∀ t ∈ own.types, KeepsStandard t := by
  rcases h with ⟨document, h⟩ | ⟨json, h⟩
  · exact exists_withStandardTypes_of_document h
  · obtain ⟨description, h⟩ := exists_ofDescription h
    exact exists_withStandardTypes_of_description h

theorem IsMade.keepsStandard {s : Schema} (h : IsMade s) : ∀ t ∈ s.types, KeepsStandard t := by
  obtain ⟨own, rfl, keeps⟩ := h.exists_withStandardTypes
  exact keepsStandard_withStandardTypes keeps

/-- A name that is among the types is that of one of them. -/
theorem exists_type? {s : Schema} {t : TypeDefinition} (mem : t ∈ s.types) :
    ∃ found ∈ s.types, s.type? t.name = some found ∧ found.name = t.name := by
  cases found : s.type? t.name with
  | none =>
    have other := List.find?_eq_none.mp found t mem
    simp at other
  | some t' =>
    exact ⟨t', List.mem_of_find?_eq_some found, rfl, by simpa using List.find?_some found⟩

/-- The types of introspection, and that of names. -/
def namingTypes : List TypeDefinition := scalarType "String" :: introspectionTypes

/-- The types of introspection refer to that of names, so it is in use. -/
theorem exists_mem_withStandardTypes (own : Schema) {t : TypeDefinition} (h : t ∈ namingTypes) :
    ∃ t' ∈ (withStandardTypes own).types, t'.name = t.name := by
  by_cases defined : own.types.any (·.name == t.name) = true
  · obtain ⟨t', mem, same⟩ := List.any_eq_true.mp defined
    exact ⟨t', List.mem_append_left _ mem, beq_iff_eq.mp same⟩
  · refine ⟨t, List.mem_append_right _ (List.mem_filter.mpr ⟨?_, by simpa using defined⟩), rfl⟩
    rcases List.mem_cons.mp h with rfl | introspective
    · refine List.mem_append_left _ (List.mem_map_of_mem (List.mem_filter.mpr ⟨by decide, ?_⟩))
      have referred : "String" ∈ introspectionTypes.flatMap referredTypes := by decide
      rw [List.contains_iff_mem, List.flatMap_append, List.append_assoc]
      exact List.mem_append_right _ (List.mem_append_left _ referred)
    · exact List.mem_append_right _ introspective

/-- **The types of introspection are those of the standard** in every made schema. -/
theorem IsMade.type?_eq {s : Schema} (h : IsMade s) {t : TypeDefinition} (mem : t ∈ namingTypes) :
    s.type? t.name = some t := by
  have standard : standardType? t.name = some t := by
    rcases List.mem_cons.mp mem with rfl | introspective
    · exact standardType?_of_mem_scalars (by decide)
    · exact standardType?_of_mem_introspectionTypes introspective
  have keeps := h.keepsStandard
  obtain ⟨own, rfl, -⟩ := h.exists_withStandardTypes
  obtain ⟨t', mem', same⟩ := exists_mem_withStandardTypes own mem
  obtain ⟨found, isOne, isFound, named⟩ := exists_type? mem'
  rw [same] at isFound named
  rw [isFound, keeps found isOne t (named ▸ standard)]

end QueryShape.Schema
