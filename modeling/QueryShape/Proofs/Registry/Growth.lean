import Mathlib.Data.List.Nodup
import QueryShape.Program.Thing
import QueryShape.Proofs.Registry.Order
import QueryShape.Registry.Basic

/-!
# How a registry grows

Registering appends a record or merges one into the record of its name. `add_eq_ok_iff` and
`merge_leaf_cases` say all that the two can do, and `Registry.Grows` is what is left of that for the
records before: each is still there, under its name, of its kind and type, with at least what it
had.
-/

namespace QueryShape

open Record Program.Thing

/-! ## Records -/

namespace Record

/-- What a selection becomes when others are merged into it. -/
structure Leaf.Grows (before after : Leaf) : Prop where
  name : after.name = before.name
  graphqlType : after.graphqlType = before.graphqlType
  possibleTypes : after.possibleTypes = before.possibleTypes
  accessors : AccessorsGrow before.accessors after.accessors
  dependencies : ∀ d ∈ before.dependencies, d ∈ after.dependencies

theorem Leaf.Grows.trans {a b c : Leaf} (hab : a.Grows b) (hbc : b.Grows c) : a.Grows c where
  name := hbc.name.trans hab.name
  graphqlType := hbc.graphqlType.trans hab.graphqlType
  possibleTypes := hbc.possibleTypes.trans hab.possibleTypes
  accessors := hab.accessors.trans hbc.accessors
  dependencies := fun d hd => hbc.dependencies d (hab.dependencies d hd)

/-- What a record becomes in the course of a run. -/
inductive Grows : Record → Record → Prop
  | same (record : Record) : Grows record record
  | leaf {before after : Leaf} (h : before.Grows after) : Grows (.leaf before) (.leaf after)

namespace Grows

theorem trans {a b c : Record} (hab : a.Grows b) (hbc : b.Grows c) : a.Grows c := by
  cases hab with
  | same => exact hbc
  | leaf h =>
    cases hbc with
    | same => exact .leaf h
    | leaf h' => exact .leaf (h.trans h')

variable {a b : Record} (h : a.Grows b)
include h

theorem name_eq : b.name = a.name := by
  cases h with
  | same => rfl
  | leaf h => exact h.name

theorem graphqlType_eq : b.graphqlType = a.graphqlType := by
  cases h with
  | same => rfl
  | leaf h => exact h.graphqlType

theorem kind_eq : b.kind = a.kind := by
  cases h <;> rfl

theorem dependencies_subset : ∀ d ∈ a.dependencies, d ∈ b.dependencies := by
  cases h with
  | same => exact fun _ hd => hd
  | leaf h => exact h.dependencies

theorem accessors : AccessorsGrow (accessorsOf a) (accessorsOf b) := by
  cases h with
  | same => exact .refl _
  | leaf h => exact h.accessors

/-- Only selections change. -/
theorem eq_of_kind_ne_leaf (hk : a.kind ≠ .leaf) : b = a := by
  cases h with
  | same => rfl
  | leaf => exact absurd rfl hk

end Grows

end Record

/-! ## Look-ups -/

namespace Registry

theorem mem_names {r : Registry} {name : String} :
    name ∈ r.names ↔ ∃ x ∈ r.records, x.name = name := List.mem_map

/-- Two records of one name are one. -/
theorem eq_of_name_eq {r : Registry} {x y : Record} (hx : x ∈ r.records) (hy : y ∈ r.records)
    (h : x.name = y.name) : x = y :=
  List.inj_on_of_nodup_map r.distinct hx hy h

theorem get?_eq_some_iff {r : Registry} {name : String} {x : Record} :
    r.get? name = some x ↔ x ∈ r.records ∧ x.name = name :=
  find?_name_eq_some_iff r.distinct

theorem get?_eq_none_iff {r : Registry} {name : String} : r.get? name = none ↔ name ∉ r.names := by
  unfold get?
  rw [List.find?_eq_none, mem_names]
  simp

/-! ## What registering does -/

/-- **A record is added exactly if its name is free**, and stands last then. -/
theorem add_eq_ok_iff {r r' : Registry} {x : Record} :
    r.add x = .ok r' ↔ x.name ∉ r.names ∧ r'.records = r.records ++ [x] := by
  unfold add
  split
  · next taken => simp [taken]
  · next free =>
    simp only [Except.ok.injEq, free, not_false_eq_true, true_and]
    constructor
    · rintro rfl
      rfl
    · intro h
      obtain ⟨records, distinct⟩ := r'
      subst h
      rfl

theorem exists_add {r : Registry} {x : Record} (free : x.name ∉ r.names) :
    ∃ r', r.add x = .ok r' := by
  unfold add
  rw [dif_neg free]
  exact ⟨_, rfl⟩

theorem records_replace (r : Registry) (x : Record) :
    (r.replace x).records = r.records.map fun y => if y.name = x.name then x else y := rfl

theorem names_replace (r : Registry) (x : Record) : (r.replace x).names = r.names := by
  unfold Registry.names
  rw [records_replace, List.map_map]
  refine List.map_congr_left fun y _ => ?_
  simp only [Function.comp_apply]
  split
  · next e => exact e.symm
  · rfl

/-- A selection with what another adds to it. -/
def mergedLeaf (existing incoming : Leaf) : Leaf :=
  { existing with
    accessors := mergeAccessors existing.accessors incoming.accessors
    dependencies := existing.dependencies ∪ incoming.dependencies }

/-- A selection is put last under a free name. -/
theorem merge_of_free {r : Registry} {l : Leaf} (free : l.name ∉ r.names) :
    ∃ r', r.merge (.leaf l) = .ok (r', .leaf l) ∧ r'.records = r.records ++ [.leaf l] := by
  have none : r.get? (Record.leaf l).name = none := get?_eq_none_iff.mpr free
  obtain ⟨r', hr⟩ := exists_add (x := .leaf l) free
  refine ⟨r', ?_, (add_eq_ok_iff.mp hr).2⟩
  unfold merge
  rw [none, hr]
  rfl

/-- What a selection adds is put in the place of that of its name and type. -/
theorem merge_of_mem {r : Registry} {old l : Leaf} (hold : .leaf old ∈ r.records)
    (name : old.name = l.name) (type : old.graphqlType = l.graphqlType) :
    r.merge (.leaf l) =
      .ok (r.replace (.leaf (mergedLeaf old l)), .leaf (mergedLeaf old l)) := by
  have found : r.get? (Record.leaf l).name = some (.leaf old) := get?_eq_some_iff.mpr ⟨hold, name⟩
  unfold merge
  rw [found]
  simp only [Record.merge, Leaf.merge, if_pos type.symm]
  rfl

/-- All that merging a selection into a registry can do: put it last under a free name, put what it
adds to the selection of its name in that one's place, or fail. -/
theorem merge_leaf_cases (r : Registry) (l : Leaf) :
    (∃ r', r.merge (.leaf l) = .ok (r', .leaf l) ∧ l.name ∉ r.names ∧
      r'.records = r.records ++ [.leaf l]) ∨
    (∃ old, r.merge (.leaf l) = .ok (r.replace (.leaf (mergedLeaf old l)),
        .leaf (mergedLeaf old l)) ∧
      .leaf old ∈ r.records ∧ old.name = l.name ∧ old.graphqlType = l.graphqlType) ∨
    ∃ e, r.merge (.leaf l) = .error e := by
  cases h : r.get? l.name with
  | none =>
    have free := get?_eq_none_iff.mp h
    obtain ⟨r', eq, records⟩ := merge_of_free free
    exact Or.inl ⟨r', eq, free, records⟩
  | some existing =>
    right
    obtain ⟨hx, hn⟩ := get?_eq_some_iff.mp h
    have found : r.get? (Record.leaf l).name = some existing := h
    cases existing with
    | leaf old =>
      by_cases ht : old.graphqlType = l.graphqlType
      · exact Or.inl ⟨old, merge_of_mem hx hn ht, hx, hn, ht⟩
      · refine Or.inr ⟨.redefinition old.name (.types old.graphqlType l.graphqlType), ?_⟩
        unfold merge
        rw [found]
        simp only [Record.merge, Leaf.merge, if_neg (Ne.symm ht)]
        rfl
    | root _ | input _ | enum _ =>
      unfold merge
      rw [found]
      exact Or.inr ⟨_, rfl⟩

/-- A selection grows to what it is merged with, and holds that. -/
theorem leaf_grows_mergedLeaf {existing : Leaf} (h : (accessorNames existing.accessors).Nodup)
    (incoming : Leaf) : existing.Grows (mergedLeaf existing incoming) where
  name := rfl
  graphqlType := rfl
  possibleTypes := rfl
  accessors := accessorsGrow_mergeAccessors h incoming.accessors
  dependencies := fun _ hd => NameSet.mem_union.mpr (Or.inl hd)

/-! ## Growth -/

/-- What a registry becomes in the course of a run. -/
structure Grows (before after : Registry) : Prop where
  names : before.names <+: after.names
  records : ∀ x ∈ before.records, ∃ y ∈ after.records, x.Grows y

namespace Grows

theorem refl (r : Registry) : r.Grows r := ⟨List.prefix_refl _, fun x hx => ⟨x, hx, .same x⟩⟩

theorem trans {a b c : Registry} (hab : a.Grows b) (hbc : b.Grows c) : a.Grows c where
  names := hab.names.trans hbc.names
  records := by
    intro x hx
    obtain ⟨y, hy, hxy⟩ := hab.records x hx
    obtain ⟨z, hz, hyz⟩ := hbc.records y hy
    exact ⟨z, hz, hxy.trans hyz⟩

end Grows

/-- A class of the record's name, kind and type is registered. -/
def HasLike (r : Registry) (x : Record) : Prop :=
  ∃ y ∈ r.records, y.name = x.name ∧ y.kind = x.kind ∧ y.graphqlType = x.graphqlType

theorem hasLike_of_mem {r : Registry} {x : Record} (h : x ∈ r.records) : r.HasLike x :=
  ⟨x, h, rfl, rfl, rfl⟩

theorem HasLike.of_subset {r r' : Registry} {x : Record} (h : r.HasLike x)
    (sub : r.records ⊆ r'.records) : r'.HasLike x := by
  obtain ⟨y, hy, like⟩ := h
  exact ⟨y, sub hy, like⟩

/-- A class is still like itself when a selection has been merged into it. -/
theorem HasLike.replace {r : Registry} {x : Record} {old : Leaf} (h : r.HasLike x)
    (hold : .leaf old ∈ r.records) (l : Leaf) :
    (r.replace (.leaf (mergedLeaf old l))).HasLike x := by
  obtain ⟨y, hy, like⟩ := h
  refine ⟨_, List.mem_map.mpr ⟨y, hy, rfl⟩, ?_⟩
  split
  · next same =>
    cases eq_of_name_eq hy hold same
    exact like
  · exact like

theorem names_of_append {r r' : Registry} {x : Record} (h : r'.records = r.records ++ [x]) :
    r'.names = r.names ++ [x.name] := by
  unfold Registry.names
  rw [h, List.map_append]
  rfl

/-- A registry with one more record grows. -/
theorem grows_of_append {r r' : Registry} {x : Record} (h : r'.records = r.records ++ [x]) :
    r.Grows r' where
  names := by
    rw [names_of_append h]
    exact List.prefix_append _ _
  records := fun y hy => ⟨y, by rw [h]; exact List.mem_append_left _ hy, .same y⟩

/-- A registry with a record in the place of one that grows to it grows. -/
theorem grows_replace {r : Registry} {x y : Record} (hx : x ∈ r.records) (h : x.Grows y) :
    r.Grows (r.replace y) where
  names := (names_replace r y).symm ▸ List.prefix_refl _
  records := by
    intro z hz
    refine ⟨_, List.mem_map.mpr ⟨z, hz, rfl⟩, ?_⟩
    split
    · next e =>
      rw [eq_of_name_eq hz hx (e.trans h.name_eq)]
      exact h
    · exact .same z

end Registry

end QueryShape
