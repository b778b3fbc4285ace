import QueryShape.Proofs.Record.Union

/-!
# Merging the other way round

An accessor reads an object along the first of its paths that is for the type of the object, and
merging puts the paths of the selection that came first in front. So two selections give the same
dependencies, the same accessor names and the same paths under each, whichever comes first, but not
the same accessors.

* `mergePaths_comm_iff`: paths can be merged either way exactly if those of one side begin with all
  of the other.
* `find?_mergePaths`: the first path for a type is that of the side that came first, if that has
  one.
* `merge_comm_iff`: when accessors are the same either way, and when they read along the same paths.
* `merge_not_comm`: two selections of which the first decides what an accessor reads.
-/

namespace QueryShape.Record

open Registry (mergedLeaf)

/-! ## Paths -/

section
variable {α : Type} [DecidableEq α]

/-- All is added where all is new. -/
theorem addAll_of_nodup {items more : List α} (h : (items ++ more).Nodup) :
    addAll items more = items ++ more := by
  induction more generalizing items with
  | nil => exact (List.append_nil items).symm
  | cons first rest ih =>
    have new : first ∉ items := fun old =>
      (List.nodup_append.mp h).2.2 first old first List.mem_cons_self rfl
    rw [addAll_cons, addNew, if_neg new, ih (by simpa using h), List.append_assoc]
    rfl

theorem addAll_of_begins {items more : List α} (h : items <+: more) (once : more.Nodup) :
    addAll items more = more := by
  obtain ⟨rest, rfl⟩ := h
  rw [addAll, List.foldl_append]
  change addAll (addAll items items) rest = _
  rw [addAll_of_subset fun _ h => h, addAll_of_nodup once]

/-- **Lists can be united either way exactly if one begins with the other.** -/
theorem addAll_comm_iff {a b : List α} (ha : a.Nodup) (hb : b.Nodup) :
    addAll a b = addAll b a ↔ a <+: b ∨ b <+: a := by
  constructor
  · intro same
    exact List.prefix_or_prefix_of_prefix (prefix_addAll a b) (same ▸ prefix_addAll b a)
  · rintro (front | front)
    · rw [addAll_of_begins front hb, addAll_of_subset fun _ h => front.subset h]
    · rw [addAll_of_begins front ha, addAll_of_subset fun _ h => front.subset h]

theorem find?_addNew (p : α → Bool) (items : List α) (item : α) :
    (addNew items item).find? p = (items.find? p).or (if p item then some item else none) := by
  unfold addNew
  split
  · next old =>
    cases found : items.find? p with
    | some x => rfl
    | none =>
      have no := List.find?_eq_none.mp found item old
      rw [if_neg no]
      rfl
  · rw [List.find?_append, List.find?_singleton]

theorem find?_addAll (p : α → Bool) (items more : List α) :
    (addAll items more).find? p = (items.find? p).or (more.find? p) := by
  induction more generalizing items with
  | nil => simp [addAll]
  | cons first rest ih =>
    rw [addAll_cons, ih, find?_addNew, Option.or_assoc, List.find?_cons]
    cases p first <;> rfl

end

theorem mergePaths_comm_iff {p q : List Path} (hp : p.Nodup) (hq : q.Nodup) :
    mergePaths p q = mergePaths q p ↔ p <+: q ∨ q <+: p := addAll_comm_iff hp hq

/-- **The first path for a type is that of the side that came first**, if that has one. -/
theorem find?_mergePaths (type : String) (existing incoming : List Path) :
    (mergePaths existing incoming).find? (type ∈ ·.typenames) =
      (existing.find? (type ∈ ·.typenames)).or (incoming.find? (type ∈ ·.typenames)) :=
  find?_addAll _ existing incoming

/-! ## Accessors -/

/-- The path along which the accessor of a name reads objects of a type. -/
def pathFor? (accessors : List Accessor) (name type : String) : Option Path :=
  (pathsOf? accessors name).bind (·.find? (type ∈ ·.typenames))

variable {a b : List Accessor}

theorem pathFor?_mergeAccessors (ha : (accessorNames a).Nodup) (hb : (accessorNames b).Nodup)
    (name type : String) : pathFor? (mergeAccessors a b) name type =
      (pathFor? a name type).or (pathFor? b name type) := by
  unfold pathFor?
  rw [pathsOf?_mergeAccessors ha hb]
  cases pathsOf? a name with
  | none => cases pathsOf? b name <;> rfl
  | some p =>
    cases pathsOf? b name with
    | none => exact (Option.or_none).symm
    | some q => exact find?_mergePaths type p q

/-- Where names are different, accessors are the same in any order if each name has the same
paths. -/
theorem mem_iff_mem_iff (ha : (accessorNames a).Nodup) (hb : (accessorNames b).Nodup) :
    (∀ x, x ∈ a ↔ x ∈ b) ↔ ∀ name, pathsOf? a name = pathsOf? b name := by
  constructor
  · intro same name
    refine Option.ext fun paths => ?_
    have here := same ⟨name, paths⟩
    rwa [mem_iff_pathsOf? ha, mem_iff_pathsOf? hb] at here
  · intro same x
    rw [mem_iff_pathsOf? ha, mem_iff_pathsOf? hb, same]

/-- Two accessors of one name, one of each list. -/
def Shared (a b : List Accessor) (x y : Accessor) : Prop := x ∈ a ∧ y ∈ b ∧ x.name = y.name

/-- What holds of the paths of each name that both lists have, holds of their shared accessors. -/
theorem forall_shared_iff (ha : (accessorNames a).Nodup) (hb : (accessorNames b).Nodup)
    {P : List Path → List Path → Prop} :
    (∀ name p q, pathsOf? a name = some p → pathsOf? b name = some q → P p q) ↔
      ∀ x y, Shared a b x y → P x.paths y.paths := by
  constructor
  · rintro all x y ⟨hx, hy, same⟩
    exact all x.name _ _ ((mem_iff_pathsOf? ha).mp hx) (same ▸ (mem_iff_pathsOf? hb).mp hy)
  · intro all name p q hp hq
    exact all ⟨name, p⟩ ⟨name, q⟩ ⟨(mem_iff_pathsOf? ha).mpr hp, (mem_iff_pathsOf? hb).mpr hq, rfl⟩

/-- The paths of each accessor are different. -/
def PathsDiffer (accessors : List Accessor) : Prop := ∀ x ∈ accessors, x.paths.Nodup

instance (accessors : List Accessor) : Decidable (PathsDiffer accessors) :=
  inferInstanceAs (Decidable (∀ x ∈ accessors, x.paths.Nodup))

theorem PathsDiffer.of_pathsOf? (h : PathsDiffer a) {name : String} {paths : List Path}
    (has : pathsOf? a name = some paths) : paths.Nodup := by
  obtain ⟨x, found, rfl⟩ := Option.map_eq_some_iff.mp has
  exact h x (List.mem_of_find?_eq_some found)

/-- Two accessor lists can be merged either way exactly if of the accessors that they share, the
paths of one begin with all of the other. -/
theorem mergeAccessors_comm_iff (ha : (accessorNames a).Nodup) (hb : (accessorNames b).Nodup)
    (pathsA : PathsDiffer a) (pathsB : PathsDiffer b) :
    (∀ x, x ∈ mergeAccessors a b ↔ x ∈ mergeAccessors b a) ↔
      ∀ x y, Shared a b x y → x.paths <+: y.paths ∨ y.paths <+: x.paths := by
  rw [mem_iff_mem_iff (nodup_mergeAccessors ha b) (nodup_mergeAccessors hb a),
    ← forall_shared_iff ha hb (P := fun p q => p <+: q ∨ q <+: p)]
  refine forall_congr' fun name => ?_
  rw [pathsOf?_mergeAccessors ha hb, pathsOf?_mergeAccessors hb ha]
  cases hp : pathsOf? a name with
  | none => cases pathsOf? b name <;> simp [Option.merge]
  | some p =>
    cases hq : pathsOf? b name with
    | none => simp [Option.merge]
    | some q =>
      have comm := mergePaths_comm_iff (pathsA.of_pathsOf? hp) (pathsB.of_pathsOf? hq)
      simpa [Option.merge] using comm

theorem or_comm_iff {α : Type} {u v : Option α} :
    u.or v = v.or u ↔ ∀ x y, u = some x → v = some y → x = y := by
  cases u <;> cases v <;> simp

/-- Merged accessors read along the same paths either way exactly if the accessors that they share
agree on each type that both have a path for. -/
theorem pathFor?_comm_iff (ha : (accessorNames a).Nodup) (hb : (accessorNames b).Nodup) :
    (∀ name type, pathFor? (mergeAccessors a b) name type =
        pathFor? (mergeAccessors b a) name type) ↔
      ∀ x y, Shared a b x y → ∀ type p q, x.paths.find? (type ∈ ·.typenames) = some p →
        y.paths.find? (type ∈ ·.typenames) = some q → p = q := by
  rw [← forall_shared_iff ha hb (P := fun ps qs => ∀ type p q,
    ps.find? (type ∈ ·.typenames) = some p → qs.find? (type ∈ ·.typenames) = some q → p = q)]
  refine forall_congr' fun name => ?_
  constructor
  · intro same ps qs hps hqs type
    have here := same type
    rw [pathFor?_mergeAccessors ha hb, pathFor?_mergeAccessors hb ha, or_comm_iff] at here
    simpa [pathFor?, hps, hqs] using here
  · intro agree type
    rw [pathFor?_mergeAccessors ha hb, pathFor?_mergeAccessors hb ha, or_comm_iff]
    intro p q hp hq
    obtain ⟨ps, hps, findP⟩ := Option.bind_eq_some_iff.mp hp
    obtain ⟨qs, hqs, findQ⟩ := Option.bind_eq_some_iff.mp hq
    exact agree ps qs hps hqs type p q findP findQ

/-! ## Selections -/

variable {x y : Leaf}

/-- **Which of two selections comes first** is no matter for the dependencies, for the names of
accessors and for the set of paths of each. It is none for the accessors, which have their paths in
order, exactly if of two accessors of one name, the paths of one begin with all of the other; and
none for the path along which an accessor reads objects of a type, exactly if two accessors of one
name that both have a path for the type have the same one first. -/
theorem merge_comm_iff (same : x.graphqlType = y.graphqlType)
    (hx : (accessorNames x.accessors).Nodup) (hy : (accessorNames y.accessors).Nodup)
    (pathsX : PathsDiffer x.accessors) (pathsY : PathsDiffer y.accessors) :
    ∃ xy yx, x.merge y = .ok xy ∧ y.merge x = .ok yx ∧ xy.dependencies = yx.dependencies ∧
      (∀ name, name ∈ accessorNames xy.accessors ↔ name ∈ accessorNames yx.accessors) ∧
      (∀ name path, ReadsAlong xy.accessors name path ↔ ReadsAlong yx.accessors name path) ∧
      ((∀ a, a ∈ xy.accessors ↔ a ∈ yx.accessors) ↔
        ∀ a b, Shared x.accessors y.accessors a b → a.paths <+: b.paths ∨ b.paths <+: a.paths) ∧
      ((∀ name type, pathFor? xy.accessors name type = pathFor? yx.accessors name type) ↔
        ∀ a b, Shared x.accessors y.accessors a b → ∀ type p q,
          a.paths.find? (type ∈ ·.typenames) = some p →
          b.paths.find? (type ∈ ·.typenames) = some q → p = q) := by
  refine ⟨mergedLeaf x y, mergedLeaf y x, merge_of_sameType same, merge_of_sameType same.symm,
    ?_, fun name => ?_, fun name path => ?_, mergeAccessors_comm_iff hx hy pathsX pathsY,
    pathFor?_comm_iff hx hy⟩
  · exact NameSet.ext fun d => NameSet.mem_union.trans (or_comm.trans NameSet.mem_union.symm)
  · exact (mem_accessorNames_mergeAccessors hx).trans
      (or_comm.trans (mem_accessorNames_mergeAccessors hy).symm)
  · exact (readsAlong_mergeAccessors hx).trans (or_comm.trans (readsAlong_mergeAccessors hy).symm)

/-- The accessors are the same either way where one selection has more paths behind the same. -/
theorem merge_comm_iff_extending :
    let path (type : String) : Path := textPath (entryOf "name") [type]
    let x := selectionOf [("name", [path "Admin"])]
    let y := selectionOf [("id", [textPath (entryOf "id") ["Guest"]]),
      ("name", [path "Admin", path "Guest"])]
    ∃ xy yx, x.merge y = .ok xy ∧ y.merge x = .ok yx ∧
      ∀ a, a ∈ xy.accessors ↔ a ∈ yx.accessors := by
  intro path x y
  have hx : (accessorNames x.accessors).Nodup := by decide
  have hy : (accessorNames y.accessors).Nodup := by decide
  have pathsX : PathsDiffer x.accessors := by decide
  have pathsY : PathsDiffer y.accessors := by decide
  have type : x.graphqlType = y.graphqlType := rfl
  obtain ⟨xy, yx, eqX, eqY, -, -, -, same, -⟩ := merge_comm_iff type hx hy pathsX pathsY
  refine ⟨xy, yx, eqX, eqY, same.mpr ?_⟩
  rintro a b ⟨ha, hb, named⟩
  obtain rfl : a = ⟨"name", [path "Admin"]⟩ := by simpa [x, selectionOf] using ha
  obtain rfl | rfl : b = ⟨"id", [textPath (entryOf "id") ["Guest"]]⟩ ∨
      b = ⟨"name", [path "Admin", path "Guest"]⟩ := by simpa [y, selectionOf] using hb
  · exact absurd named (by decide)
  · exact Or.inl ⟨[path "Guest"], rfl⟩

/-- **Which selection comes first decides what an accessor reads**: one asks for the name of a user,
and one for the name in a part that can be left out. Merged one way the accessor expects the entry
of the object, and the other way it reads nothing where there is none. -/
theorem merge_not_comm :
    let asked := textPath (entryOf "name") ["Admin"]
    let mayBeLeftOut :=
      textPath (.entryOrNothing (.member (.name "self") "raw_result") "name") ["Admin"]
    let x := selectionOf [("name", [asked])]
    let y := selectionOf [("name", [mayBeLeftOut])]
    x.graphqlType = y.graphqlType ∧ (accessorNames x.accessors).Nodup ∧
      (accessorNames y.accessors).Nodup ∧ PathsDiffer x.accessors ∧ PathsDiffer y.accessors ∧
      ∃ xy yx, x.merge y = .ok xy ∧ y.merge x = .ok yx ∧
        (∃ a, a ∈ xy.accessors ∧ a ∉ yx.accessors) ∧
        pathFor? xy.accessors "name" "Admin" = some asked ∧
        pathFor? yx.accessors "name" "Admin" = some mayBeLeftOut ∧ asked ≠ mayBeLeftOut := by
  intro asked mayBeLeftOut x y
  refine ⟨rfl, by decide, by decide, by decide, by decide, mergedLeaf x y, mergedLeaf y x, rfl, rfl,
    ⟨⟨"name", [asked, mayBeLeftOut]⟩, by decide, by decide⟩, rfl, rfl, by decide⟩

end QueryShape.Record
