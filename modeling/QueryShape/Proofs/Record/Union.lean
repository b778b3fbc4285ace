import QueryShape.Proofs.Registry.Growth

/-!
# Merging is a union in order of first occurrence

Accessors with different names are told by two things: the names in their order, and the paths that
each name has (`pathsOf?`). Merging unites both, each in the order of first occurrence, so its laws
are those of `addAll`.

* `accessorNames_mergeAccessors`, `pathsOf?_mergeAccessors`: what merged accessors are told by.
* `mergeAccessors_assoc`, `mergeAccessors_self`: merging is associative and idempotent, down to the
  order of accessors and paths.
* `merge_laws`: the same for selections, which can be merged exactly if they have one type.
-/

namespace QueryShape.Record

open Registry (mergedLeaf)

variable {a b c : List Accessor} {name : String}

/-! ## What accessors are told by -/

theorem accessorNames_mergeAccessors (distinct : (accessorNames a).Nodup) :
    accessorNames (mergeAccessors a b) = addAll (accessorNames a) (accessorNames b) := by
  unfold mergeAccessors
  rw [distinctAccessors_of_nodup distinct]
  clear distinct
  induction b generalizing a with
  | nil => rfl
  | cons first rest ih =>
    rw [List.foldl_cons, ih, accessorNames_addAccessor]
    rfl

/-- The paths of the accessor of a name, if there is one. -/
def pathsOf? (accessors : List Accessor) (name : String) : Option (List Path) :=
  (accessors.find? (·.name == name)).map (·.paths)

theorem pathsOf?_cons (first : Accessor) (rest : List Accessor) (name : String) :
    pathsOf? (first :: rest) name =
      if first.name = name then some first.paths else pathsOf? rest name := by
  unfold pathsOf?
  by_cases own : first.name = name <;> simp [own]

theorem pathsOf?_eq_none_iff : pathsOf? a name = none ↔ name ∉ accessorNames a := by
  simp [pathsOf?, accessorNames]

/-- Where names are different, an accessor is found by its name. -/
theorem mem_iff_pathsOf? (distinct : (accessorNames a).Nodup) {x : Accessor} :
    x ∈ a ↔ pathsOf? a x.name = some x.paths := by
  constructor
  · intro hx
    cases found : a.find? (·.name == x.name) with
    | none => exact absurd (List.find?_eq_none.mp found x hx) (by simp)
    | some y =>
      have same : y.name = x.name := by simpa using List.find?_some found
      rw [pathsOf?, found,
        List.inj_on_of_nodup_map distinct (List.mem_of_find?_eq_some found) hx same]
      rfl
  · intro h
    obtain ⟨⟨n, paths⟩, found, rfl⟩ := Option.map_eq_some_iff.mp h
    obtain rfl : n = x.name := by simpa using List.find?_some found
    exact List.mem_of_find?_eq_some found

/-- **Accessors are told by their names and the paths of each.** -/
theorem eq_of_pathsOf?_eq (distinct : (accessorNames a).Nodup)
    (names : accessorNames a = accessorNames b)
    (paths : ∀ name, pathsOf? a name = pathsOf? b name) :
    a = b := by
  have told {l : List Accessor} (distinct : (accessorNames l).Nodup) :
      (accessorNames l).map (fun n => ⟨n, (pathsOf? l n).getD []⟩) = l := by
    unfold accessorNames
    rw [List.map_map]
    refine (List.map_congr_left fun x hx => ?_).trans (List.map_id l)
    rw [Function.comp_apply, (mem_iff_pathsOf? distinct).mp hx]
    rfl
  calc a = (accessorNames a).map fun n => ⟨n, (pathsOf? a n).getD []⟩ := (told distinct).symm
    _ = (accessorNames b).map fun n => ⟨n, (pathsOf? b n).getD []⟩ := by
      rw [names]
      exact List.map_congr_left fun n _ => by rw [paths]
    _ = b := told (names ▸ distinct)

/-! ## What merging does to it -/

theorem pathsOf?_addAccessor (accessors : List Accessor) (x : Accessor) (name : String) :
    pathsOf? (addAccessor accessors x) name =
      if x.name = name then (pathsOf? accessors name).merge mergePaths (some x.paths)
      else pathsOf? accessors name := by
  unfold addAccessor
  by_cases taken : x.name ∈ accessorNames accessors
  · rw [if_pos (any_name_iff.mpr taken)]
    -- merging keeps the names, so the accessor that is found is the one that was found before
    have before : (fun y : Accessor => (if y.name == x.name then y.merge x else y).name == name) =
        (·.name == name) := by
      funext y
      split <;> rfl
    unfold pathsOf?
    rw [List.find?_map]
    change Option.map _ (Option.map _
      (accessors.find? fun y => (if y.name == x.name then y.merge x else y).name == name)) = _
    rw [before]
    cases found : accessors.find? (·.name == name) with
    | none =>
      have other : x.name ≠ name := by
        rintro rfl
        obtain ⟨y, hy, same⟩ := List.mem_map.mp taken
        exact absurd (List.find?_eq_none.mp found y hy) (by simp [same])
      rw [if_neg other]
      rfl
    | some y =>
      obtain rfl : y.name = name := by simpa using List.find?_some found
      by_cases same : x.name = y.name
      · simp [same, Accessor.merge, Option.merge]
      · simp [same, Ne.symm same]
  · rw [if_neg fun e => taken (any_name_iff.mp e)]
    unfold pathsOf?
    rw [List.find?_append]
    by_cases own : x.name = name
    · subst own
      have new : accessors.find? (·.name == x.name) = none :=
        Option.map_eq_none_iff.mp (pathsOf?_eq_none_iff.mpr taken)
      simp [new, Option.merge]
    · simp [own]

/-- **Merged accessors have the paths of both sides under each name**, in the order of first
occurrence. -/
theorem pathsOf?_mergeAccessors (ha : (accessorNames a).Nodup) (hb : (accessorNames b).Nodup)
    (name : String) : pathsOf? (mergeAccessors a b) name =
      (pathsOf? a name).merge mergePaths (pathsOf? b name) := by
  unfold mergeAccessors
  rw [distinctAccessors_of_nodup ha]
  clear ha
  induction b generalizing a with
  | nil =>
    change pathsOf? a name = _
    cases pathsOf? a name <;> rfl
  | cons first rest ih =>
    obtain ⟨new, distinct⟩ := List.nodup_cons.mp hb
    rw [List.foldl_cons, ih distinct, pathsOf?_addAccessor, pathsOf?_cons]
    by_cases own : first.name = name
    · subst own
      rw [if_pos rfl, if_pos rfl, pathsOf?_eq_none_iff.mpr new]
      cases pathsOf? a first.name <;> rfl
    · rw [if_neg own, if_neg own]

/-! ## Laws -/

theorem merge_mergePaths_assoc (x y z : Option (List Path)) :
    (x.merge mergePaths y).merge mergePaths z = x.merge mergePaths (y.merge mergePaths z) := by
  cases x <;> cases y <;> cases z <;> simp [Option.merge, mergePaths_assoc]

/-- **Merging accessors is associative**, down to the order of accessors and paths. -/
theorem mergeAccessors_assoc (ha : (accessorNames a).Nodup) (hb : (accessorNames b).Nodup)
    (hc : (accessorNames c).Nodup) :
    mergeAccessors (mergeAccessors a b) c = mergeAccessors a (mergeAccessors b c) := by
  have hab := nodup_mergeAccessors ha b
  have hbc := nodup_mergeAccessors hb c
  refine eq_of_pathsOf?_eq (nodup_mergeAccessors hab c) ?_ fun name => ?_
  · rw [accessorNames_mergeAccessors hab, accessorNames_mergeAccessors ha,
      accessorNames_mergeAccessors ha, accessorNames_mergeAccessors hb, addAll_assoc]
  · rw [pathsOf?_mergeAccessors hab hc, pathsOf?_mergeAccessors ha hb,
      pathsOf?_mergeAccessors ha hbc, pathsOf?_mergeAccessors hb hc, merge_mergePaths_assoc]

/-- **Merging accessors is idempotent.** -/
theorem mergeAccessors_self (ha : (accessorNames a).Nodup) : mergeAccessors a a = a := by
  refine eq_of_pathsOf?_eq (nodup_mergeAccessors ha a) ?_ fun name => ?_
  · rw [accessorNames_mergeAccessors ha, addAll_of_subset fun _ h => h]
  · rw [pathsOf?_mergeAccessors ha ha]
    cases pathsOf? a name with
    | none => rfl
    | some paths => exact congrArg some (addAll_of_subset fun _ h => h)

theorem mem_accessorNames_mergeAccessors (ha : (accessorNames a).Nodup) :
    name ∈ accessorNames (mergeAccessors a b) ↔
      name ∈ accessorNames a ∨ name ∈ accessorNames b := by
  rw [accessorNames_mergeAccessors ha, mem_addAll]

/-! ## Selections -/

/-- A selection has what some selections have between them, and nothing else. -/
structure Unites (merged : Leaf) (parts : List Leaf) : Prop where
  distinct : (accessorNames merged.accessors).Nodup
  names : ∀ name, name ∈ accessorNames merged.accessors ↔
    ∃ l ∈ parts, name ∈ accessorNames l.accessors
  paths : ∀ name path, ReadsAlong merged.accessors name path ↔
    ∃ l ∈ parts, ReadsAlong l.accessors name path
  dependencies : ∀ d, d ∈ merged.dependencies ↔ ∃ l ∈ parts, d ∈ l.dependencies

variable {x y z : Leaf}

theorem Unites.singleton (distinct : (accessorNames x.accessors).Nodup) : Unites x [x] where
  distinct := distinct
  names := by simp
  paths := by simp
  dependencies := by simp

/-- What is merged with a selection has what that has as well. -/
theorem Unites.mergedLeaf {parts : List Leaf} (h : Unites x parts) (y : Leaf) :
    Unites (mergedLeaf x y) (parts ++ [y]) where
  distinct := nodup_mergeAccessors h.distinct y.accessors
  names := fun name => by
    refine (mem_accessorNames_mergeAccessors h.distinct).trans ?_
    rw [h.names]
    simp [or_and_right, exists_or]
  paths := fun name path => by
    refine (readsAlong_mergeAccessors h.distinct).trans ?_
    rw [h.paths]
    simp [or_and_right, exists_or]
  dependencies := fun d => by
    refine NameSet.mem_union.trans ?_
    rw [h.dependencies]
    simp [or_and_right, exists_or]

theorem merge_of_sameType (same : x.graphqlType = y.graphqlType) :
    x.merge y = .ok (mergedLeaf x y) := if_pos same.symm

/-- What comes of merging is that the records cannot be merged. -/
def IsRefused (result : Except GenerationError Leaf) : Prop :=
  ∃ name cause, result = .error (.redefinition name cause)

theorem isRefused_merge (other : x.graphqlType ≠ y.graphqlType) : IsRefused (x.merge y) :=
  ⟨_, _, if_neg other.symm⟩

theorem mergedLeaf_assoc (hx : (accessorNames x.accessors).Nodup)
    (hy : (accessorNames y.accessors).Nodup) (hz : (accessorNames z.accessors).Nodup) :
    mergedLeaf (mergedLeaf x y) z = mergedLeaf x (mergedLeaf y z) := by
  have dependencies : (x.dependencies ∪ y.dependencies) ∪ z.dependencies =
      x.dependencies ∪ (y.dependencies ∪ z.dependencies) :=
    NameSet.ext fun d => by simp only [NameSet.mem_union, or_assoc]
  simp only [mergedLeaf, mergeAccessors_assoc hx hy hz, dependencies]

theorem mergedLeaf_self (hx : (accessorNames x.accessors).Nodup) : mergedLeaf x x = x := by
  have dependencies : x.dependencies ∪ x.dependencies = x.dependencies :=
    NameSet.ext fun d => by simp only [NameSet.mem_union, or_self]
  simp only [mergedLeaf, mergeAccessors_self hx, dependencies]

/-- The selections are of one type. -/
def OfOneType (parts : List Leaf) : Prop := parts.Pairwise (·.graphqlType = ·.graphqlType)

theorem ofOneType_pair : OfOneType [x, y] ↔ x.graphqlType = y.graphqlType := by
  simp [OfOneType]

theorem ofOneType_triple :
    OfOneType [x, y, z] ↔ x.graphqlType = y.graphqlType ∧ y.graphqlType = z.graphqlType := by
  simp only [OfOneType, List.pairwise_cons, List.mem_cons, List.not_mem_nil, or_false,
    forall_eq_or_imp, forall_eq, false_implies, implies_true, List.Pairwise.nil, and_true]
  exact ⟨fun h => ⟨h.1.1, h.2⟩, fun h => ⟨⟨h.1, h.1.trans h.2⟩, h.2⟩⟩

/-- Three selections of more than one type are refused, whichever two are merged first. -/
theorem isRefused_of_types (other : ¬ OfOneType [x, y, z]) :
    IsRefused (x.merge y >>= (·.merge z)) ∧ IsRefused (y.merge z >>= x.merge) := by
  rw [ofOneType_triple, not_and_or] at other
  by_cases first : x.graphqlType = y.graphqlType
  · have second : y.graphqlType ≠ z.graphqlType := other.resolve_left (not_not_intro first)
    obtain ⟨name, cause, refused⟩ := isRefused_merge second
    rw [merge_of_sameType first, refused]
    exact ⟨isRefused_merge (first ▸ second : (mergedLeaf x y).graphqlType ≠ _), name, cause, rfl⟩
  · obtain ⟨name, cause, refused⟩ := isRefused_merge first
    rw [refused]
    refine ⟨⟨name, cause, rfl⟩, ?_⟩
    by_cases second : y.graphqlType = z.graphqlType
    · rw [merge_of_sameType second]
      exact isRefused_merge (first : _ ≠ (mergedLeaf y z).graphqlType)
    · obtain ⟨name, cause, refused⟩ := isRefused_merge second
      rw [refused]
      exact ⟨name, cause, rfl⟩

/-- **Merging selections is idempotent and associative**, down to the order of accessors and of the
paths of each. It succeeds exactly for selections of one type, and gives what they have between
them: their accessors, the paths of each, and their dependencies. -/
theorem merge_laws (hx : (accessorNames x.accessors).Nodup)
    (hy : (accessorNames y.accessors).Nodup) (hz : (accessorNames z.accessors).Nodup) :
    x.merge x = .ok x ∧
    (OfOneType [x, y] → ∃ merged, x.merge y = .ok merged ∧ Unites merged [x, y]) ∧
    (¬ OfOneType [x, y] → IsRefused (x.merge y)) ∧
    (OfOneType [x, y, z] → ∃ merged, (x.merge y >>= (·.merge z)) = .ok merged ∧
      (y.merge z >>= x.merge) = .ok merged ∧ Unites merged [x, y, z]) ∧
    (¬ OfOneType [x, y, z] →
      IsRefused (x.merge y >>= (·.merge z)) ∧ IsRefused (y.merge z >>= x.merge)) := by
  have pair := (Unites.singleton hx).mergedLeaf y
  refine ⟨?_, fun same => ?_, fun other => ?_, fun same => ?_, isRefused_of_types⟩
  · rw [merge_of_sameType rfl, mergedLeaf_self hx]
  · exact ⟨_, merge_of_sameType (ofOneType_pair.mp same), pair⟩
  · exact isRefused_merge (other ∘ ofOneType_pair.mpr)
  · obtain ⟨first, second⟩ := ofOneType_triple.mp same
    refine ⟨mergedLeaf (mergedLeaf x y) z, ?_, ?_, pair.mergedLeaf z⟩
    · rw [merge_of_sameType first]
      exact merge_of_sameType (first.trans second : (mergedLeaf x y).graphqlType = _)
    · rw [merge_of_sameType second, mergedLeaf_assoc hx hy hz]
      exact merge_of_sameType (first : _ = (mergedLeaf y z).graphqlType)

/-- A path that reads a text, which may be missing, for objects of some types. -/
def textPath (access : Code.Expr) (types : List String) : Path :=
  { signature := .optional (.bare "str")
    decoder := .build (.cast "str" .hole) [.nilable] access 0 0
    typenames := .ofList types }

/-- The entry of an object under a key. -/
def entryOf (key : String) : Code.Expr := .entry (.member (.name "self") "raw_result") key

/-- A selection on users with accessors that have some paths. -/
def selectionOf (accessors : List (String × List Path)) : Leaf :=
  { name := "Qa__User", graphqlType := "User", possibleTypes := ["Admin", "Guest"]
    accessors := accessors.map fun (name, paths) => ⟨name, paths⟩ }

/-- Selections that overlap in names and in paths give the same, whichever two are merged first. -/
theorem merge_laws_overlapping :
    let path (key : String) (types : List String) : Path := textPath (entryOf key) types
    let x := selectionOf [("id", [path "id" ["Admin"], path "id" ["Guest"]])]
    let y := selectionOf [("name", [path "name" ["Admin"]]), ("id", [path "id" ["Guest", "Admin"]])]
    let z := selectionOf [("age", [path "age" ["Guest"]]), ("id", [path "id" ["Guest"]])]
    ∃ merged, (x.merge y >>= (·.merge z)) = .ok merged ∧ (y.merge z >>= x.merge) = .ok merged ∧
      accessorNames merged.accessors = ["id", "name", "age"] := by
  intro path x y z
  have hx : (accessorNames x.accessors).Nodup := by decide
  have hy : (accessorNames y.accessors).Nodup := by decide
  have hz : (accessorNames z.accessors).Nodup := by decide
  obtain ⟨-, -, -, merges, -⟩ := merge_laws hx hy hz
  obtain ⟨merged, left, right, -⟩ := merges (ofOneType_triple.mpr ⟨rfl, rfl⟩)
  refine ⟨merged, left, right, ?_⟩
  have eq : (x.merge y >>= (·.merge z)) = .ok (mergedLeaf (mergedLeaf x y) z) := rfl
  rw [eq] at left
  cases left
  rfl

end QueryShape.Record
