import QueryShape.Record.Merge

/-!
# What merging keeps and adds

Accessors are looked at through the paths they read along: `ReadsAlong accessors name path`.

* `addAll_assoc`: adding what is new to a list is associative, which is all that merging does to
  paths and names.
* `readsAlong_addAccessor`, `readsAlong_mergeAccessors`: merging has the paths of both sides under
  their names, and no others.
* `nodup_addAccessor`, `nodup_mergeAccessors`: no two accessors get one name.
* `allRead_addAccessor`, `allRead_mergeAccessors`: no accessor is left without a path.
* `AccessorsGrow`: an accessor that others are merged into keeps its paths in front of new ones.
-/

namespace QueryShape.Record

/-! ## Adding what is new -/

section
variable {α : Type} [DecidableEq α]

/-- A list with an item at its end, unless it has the item. -/
def addNew (items : List α) (item : α) : List α :=
  if item ∈ items then items else items ++ [item]

/-- A list with those items of another at its end that it has not. -/
def addAll (items more : List α) : List α := more.foldl addNew items

theorem addAll_cons (items : List α) (item : α) (rest : List α) :
    addAll items (item :: rest) = addAll (addNew items item) rest := rfl

theorem addAll_concat (items more : List α) (item : α) :
    addAll items (more ++ [item]) = addNew (addAll items more) item :=
  List.foldl_append

theorem mem_addNew {items : List α} {item x : α} :
    x ∈ addNew items item ↔ x ∈ items ∨ x = item := by
  unfold addNew
  split
  · next h => exact ⟨Or.inl, fun h' => h'.elim id fun e => e ▸ h⟩
  · rw [List.mem_append, List.mem_singleton]

theorem mem_addAll {items more : List α} {x : α} :
    x ∈ addAll items more ↔ x ∈ items ∨ x ∈ more := by
  induction more generalizing items with
  | nil => simp [addAll]
  | cons first rest ih => rw [addAll_cons, ih, mem_addNew, List.mem_cons, or_assoc]

theorem prefix_addAll (items more : List α) : items <+: addAll items more := by
  induction more generalizing items with
  | nil => exact List.prefix_refl items
  | cons first rest ih =>
    rw [addAll_cons]
    refine List.IsPrefix.trans ?_ (ih _)
    unfold addNew
    split
    · exact List.prefix_refl items
    · exact List.prefix_append items [first]

/-- Nothing is added where nothing is new. -/
theorem addAll_of_subset {items more : List α} (h : ∀ x ∈ more, x ∈ items) :
    addAll items more = items := by
  induction more with
  | nil => rfl
  | cons first rest ih =>
    obtain ⟨old, others⟩ := List.forall_mem_cons.mp h
    rw [addAll_cons, addNew, if_pos old, ih others]

theorem addAll_addNew (items more : List α) (item : α) :
    addAll items (addNew more item) = addNew (addAll items more) item := by
  by_cases old : item ∈ more
  · have there : item ∈ addAll items more := mem_addAll.mpr (Or.inr old)
    rw [addNew, if_pos old, addNew, if_pos there]
  · rw [addNew, if_neg old, addAll_concat]

/-- **Adding all that is new is associative**, down to the order. -/
theorem addAll_assoc (a b c : List α) : addAll (addAll a b) c = addAll a (addAll b c) := by
  induction c generalizing b with
  | nil => rfl
  | cons first rest ih => rw [addAll_cons, addAll_cons, ← ih, addAll_addNew]

end

/-! ## Paths -/

theorem mem_mergePaths {existing incoming : List Path} {path : Path} :
    path ∈ mergePaths existing incoming ↔ path ∈ existing ∨ path ∈ incoming := mem_addAll

theorem prefix_mergePaths (existing incoming : List Path) :
    existing <+: mergePaths existing incoming := prefix_addAll existing incoming

theorem mergePaths_assoc (a b c : List Path) :
    mergePaths (mergePaths a b) c = mergePaths a (mergePaths b c) := addAll_assoc a b c

/-! ## Accessors -/

/-- An accessor of the name has the path. -/
def ReadsAlong (accessors : List Accessor) (name : String) (path : Path) : Prop :=
  ∃ a ∈ accessors, a.name = name ∧ path ∈ a.paths

theorem not_readsAlong_nil {name : String} {path : Path} : ¬ ReadsAlong [] name path := by
  rintro ⟨a, ha, -⟩
  exact absurd ha List.not_mem_nil

/-- The accessor names of a list. -/
def accessorNames (accessors : List Accessor) : List String := accessors.map (·.name)

theorem any_name_iff {accessors : List Accessor} {name : String} :
    accessors.any (·.name == name) = true ↔ name ∈ accessorNames accessors := by
  simp [accessorNames, List.any_eq_true]

/-- Merging into the accessors of a name changes no name. -/
theorem accessorNames_map_merge (accessors : List Accessor) (accessor : Accessor) :
    accessorNames (accessors.map fun a =>
      if a.name == accessor.name then a.merge accessor else a) = accessorNames accessors := by
  unfold accessorNames
  rw [List.map_map]
  refine List.map_congr_left fun a _ => ?_
  simp only [Function.comp_apply]
  split <;> rfl

theorem accessorNames_addAccessor (accessors : List Accessor) (accessor : Accessor) :
    accessorNames (addAccessor accessors accessor) =
      if accessor.name ∈ accessorNames accessors then accessorNames accessors
      else accessorNames accessors ++ [accessor.name] := by
  unfold addAccessor
  by_cases h : accessor.name ∈ accessorNames accessors
  · rw [if_pos (any_name_iff.mpr h), if_pos h, accessorNames_map_merge]
  · rw [if_neg (fun e => h (any_name_iff.mp e)), if_neg h]
    simp [accessorNames]

theorem nodup_addAccessor {accessors : List Accessor} (h : (accessorNames accessors).Nodup)
    (accessor : Accessor) : (accessorNames (addAccessor accessors accessor)).Nodup := by
  rw [accessorNames_addAccessor]
  split
  · exact h
  · next new =>
    refine List.nodup_append.2 ⟨h, by simp, fun a ha b hb e => ?_⟩
    rw [List.mem_singleton] at hb
    exact new (hb ▸ e ▸ ha)

/-- **An accessor is added with its paths**, and nothing else changes. -/
theorem readsAlong_addAccessor {accessors : List Accessor} {accessor : Accessor} {name : String}
    {path : Path} : ReadsAlong (addAccessor accessors accessor) name path ↔
      ReadsAlong accessors name path ∨ (accessor.name = name ∧ path ∈ accessor.paths) := by
  unfold addAccessor ReadsAlong
  by_cases h : accessor.name ∈ accessorNames accessors
  · rw [if_pos (any_name_iff.mpr h)]
    constructor
    · rintro ⟨b, hb, hn, hp⟩
      obtain ⟨a, ha, rfl⟩ := List.mem_map.mp hb
      by_cases he : a.name = accessor.name
      · rw [if_pos (by simpa using he)] at hn hp
        rcases mem_mergePaths.mp hp with hp | hp
        · exact Or.inl ⟨a, ha, hn, hp⟩
        · exact Or.inr ⟨he ▸ hn, hp⟩
      · rw [if_neg (by simpa using he)] at hn hp
        exact Or.inl ⟨a, ha, hn, hp⟩
    · rintro (⟨a, ha, hn, hp⟩ | ⟨hn, hp⟩)
      · refine ⟨_, List.mem_map.mpr ⟨a, ha, rfl⟩, ?_⟩
        split
        · exact ⟨hn, mem_mergePaths.mpr (Or.inl hp)⟩
        · exact ⟨hn, hp⟩
      · obtain ⟨a, ha, he⟩ := List.mem_map.mp h
        refine ⟨_, List.mem_map.mpr ⟨a, ha, rfl⟩, ?_⟩
        rw [if_pos (by simpa using he)]
        exact ⟨he.trans hn, mem_mergePaths.mpr (Or.inr hp)⟩
  · rw [if_neg (fun e => h (any_name_iff.mp e))]
    simp only [List.mem_append, List.mem_singleton]
    constructor
    · rintro ⟨a, ha | rfl, hn, hp⟩
      · exact Or.inl ⟨a, ha, hn, hp⟩
      · exact Or.inr ⟨hn, hp⟩
    · rintro (⟨a, ha, hn, hp⟩ | ⟨hn, hp⟩)
      · exact ⟨a, Or.inl ha, hn, hp⟩
      · exact ⟨accessor, Or.inr rfl, hn, hp⟩

/-- Every accessor has a path. -/
def AllRead (accessors : List Accessor) : Prop := ∀ a ∈ accessors, a.paths ≠ []

theorem allRead_nil : AllRead [] := fun _ ha => absurd ha List.not_mem_nil

theorem allRead_addAccessor {accessors : List Accessor} {accessor : Accessor}
    (h : AllRead accessors) (some : accessor.paths ≠ []) :
    AllRead (addAccessor accessors accessor) := by
  unfold addAccessor
  split
  · intro b hb
    obtain ⟨a, ha, rfl⟩ := List.mem_map.mp hb
    split
    · intro none
      have kept := prefix_mergePaths a.paths accessor.paths
      change a.paths <+: (a.merge accessor).paths at kept
      rw [none] at kept
      exact h a ha (List.prefix_nil.mp kept)
    · exact h a ha
  · exact List.forall_mem_append.mpr ⟨h, by simpa using some⟩

/-! ## Growing lists of accessors -/

/-- Every accessor of the first list is in the second, with its paths in front. -/
def AccessorsGrow (before after : List Accessor) : Prop :=
  ∀ a ∈ before, ∃ b ∈ after, b.name = a.name ∧ a.paths <+: b.paths

theorem AccessorsGrow.refl (accessors : List Accessor) : AccessorsGrow accessors accessors :=
  fun a ha => ⟨a, ha, rfl, List.prefix_refl a.paths⟩

theorem AccessorsGrow.trans {a b c : List Accessor} (hab : AccessorsGrow a b)
    (hbc : AccessorsGrow b c) : AccessorsGrow a c := by
  intro x hx
  obtain ⟨y, hy, hn, hp⟩ := hab x hx
  obtain ⟨z, hz, hn', hp'⟩ := hbc y hy
  exact ⟨z, hz, hn'.trans hn, hp.trans hp'⟩

theorem AccessorsGrow.readsAlong {a b : List Accessor} (h : AccessorsGrow a b) {name : String}
    {path : Path} (hr : ReadsAlong a name path) : ReadsAlong b name path := by
  obtain ⟨x, hx, hn, hp⟩ := hr
  obtain ⟨y, hy, hn', hp'⟩ := h x hx
  exact ⟨y, hy, hn'.trans hn, hp'.subset hp⟩

theorem accessorsGrow_addAccessor (accessors : List Accessor) (accessor : Accessor) :
    AccessorsGrow accessors (addAccessor accessors accessor) := by
  intro a ha
  unfold addAccessor
  split
  · refine ⟨_, List.mem_map.mpr ⟨a, ha, rfl⟩, ?_⟩
    split
    · exact ⟨rfl, prefix_mergePaths a.paths accessor.paths⟩
    · exact ⟨rfl, List.prefix_refl a.paths⟩
  · exact ⟨a, List.mem_append_left _ ha, rfl, List.prefix_refl a.paths⟩

/-! ## Merging lists of accessors -/

/-- Putting items in the places of earlier ones with their keys only adds them, if all keys are
different. -/
theorem foldl_addByKey_of_nodup {α : Type} {key : α → String} (items all : List α)
    (h : ((all ++ items).map key).Nodup) :
    items.foldl (fun all item =>
      if all.any (key · == key item) then all.map fun a => if key a == key item then item else a
      else all ++ [item]) all = all ++ items := by
  induction items generalizing all with
  | nil => simp
  | cons first rest ih =>
    have new : ¬ all.any (key · == key first) = true := by
      rw [List.map_append, List.nodup_append] at h
      intro taken
      obtain ⟨a, ha, he⟩ := List.any_eq_true.mp taken
      exact h.2.2 _ (List.mem_map.mpr ⟨a, ha, rfl⟩) _
        (List.mem_map.mpr ⟨first, List.mem_cons_self, rfl⟩) (by simpa using he)
    rw [List.foldl_cons, if_neg new, ih _ (by simpa using h)]
    simp

/-- Accessors of different names stay as they are. -/
theorem distinctAccessors_of_nodup {accessors : List Accessor}
    (h : (accessorNames accessors).Nodup) : distinctAccessors accessors = accessors := by
  have key : ((([] : List Accessor) ++ accessors).map Accessor.name).Nodup := h
  exact foldl_addByKey_of_nodup accessors [] key

theorem nodup_mergeAccessors {existing : List Accessor} (h : (accessorNames existing).Nodup)
    (incoming : List Accessor) : (accessorNames (mergeAccessors existing incoming)).Nodup := by
  unfold mergeAccessors
  rw [distinctAccessors_of_nodup h]
  induction incoming generalizing existing with
  | nil => exact h
  | cons first rest ih => exact ih (nodup_addAccessor h first)

theorem allRead_mergeAccessors {existing incoming : List Accessor}
    (distinct : (accessorNames existing).Nodup) (h : AllRead existing) (new : AllRead incoming) :
    AllRead (mergeAccessors existing incoming) := by
  unfold mergeAccessors
  rw [distinctAccessors_of_nodup distinct]
  clear distinct
  induction incoming generalizing existing with
  | nil => exact h
  | cons first rest ih =>
    obtain ⟨some, others⟩ := List.forall_mem_cons.mp new
    exact ih (allRead_addAccessor h some) others

theorem accessorsGrow_mergeAccessors {existing : List Accessor}
    (h : (accessorNames existing).Nodup) (incoming : List Accessor) :
    AccessorsGrow existing (mergeAccessors existing incoming) := by
  unfold mergeAccessors
  rw [distinctAccessors_of_nodup h]
  clear h
  induction incoming generalizing existing with
  | nil => exact .refl existing
  | cons first rest ih => exact (accessorsGrow_addAccessor existing first).trans ih

/-- **Merged accessors read along the paths of both lists.** -/
theorem readsAlong_mergeAccessors {existing incoming : List Accessor}
    (h : (accessorNames existing).Nodup) {name : String} {path : Path} :
    ReadsAlong (mergeAccessors existing incoming) name path ↔
      ReadsAlong existing name path ∨ ReadsAlong incoming name path := by
  unfold mergeAccessors
  rw [distinctAccessors_of_nodup h]
  clear h
  induction incoming generalizing existing with
  | nil => simp [not_readsAlong_nil]
  | cons first rest ih =>
    rw [List.foldl_cons, ih, readsAlong_addAccessor, or_assoc]
    refine or_congr Iff.rfl ?_
    simp only [ReadsAlong, List.mem_cons]
    constructor
    · rintro (⟨hn, hp⟩ | ⟨a, ha, hn, hp⟩)
      · exact ⟨first, Or.inl rfl, hn, hp⟩
      · exact ⟨a, Or.inr ha, hn, hp⟩
    · rintro ⟨a, rfl | ha, hn, hp⟩
      · exact Or.inl ⟨hn, hp⟩
      · exact Or.inr ⟨a, ha, hn, hp⟩

end QueryShape.Record
