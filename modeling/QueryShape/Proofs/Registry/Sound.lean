import Mathlib.Logic.Relation
import QueryShape.Proofs.Registry.Growth

/-!
# Registries that can be emitted

`Registry.Sound` is what a run keeps of its registry: classes depend on registered classes only, of
the kinds that they may need, and all but selections depend on classes that were registered before
them. A selection needs enums and selections with longer names.

* `Sound.append`, `Sound.replace`: registering and merging keep it.
* `Sound.not_transGen`: no class depends on itself, directly or through others.
* `Sound.exists_sorted`: the records have an emission order.
-/

namespace QueryShape

open Record Program.Thing

namespace Record

/-- A class of the first record may depend on that of the second. -/
def MayNeed (x y : Record) : Prop :=
  match x.kind, y.kind with
  | .leaf, .enum | .input, .enum | .input, .input => True
  | .leaf, .leaf => x.name.length < y.name.length
  | .root, kind => kind ≠ .root
  | _, _ => False

theorem mayNeed_of_input {x y : Record} (hx : x.kind = .input)
    (hy : y.kind = .input ∨ y.kind = .enum) : x.MayNeed y := by
  unfold MayNeed
  rcases hy with hy | hy <;> rw [hx, hy] <;> trivial

theorem mayNeed_of_root {x y : Record} (hx : x.kind = .root) (hy : y.kind ≠ .root) :
    x.MayNeed y := by
  unfold MayNeed
  rw [hx]
  exact hy

theorem MayNeed.congr {x x' y y' : Record} (h : x.MayNeed y) (kind : x'.kind = x.kind)
    (name : x'.name = x.name) (kind' : y'.kind = y.kind) (name' : y'.name = y.name) :
    x'.MayNeed y' := by
  unfold MayNeed at *
  rwa [kind, name, kind', name']

theorem MayNeed.of_grows {x x' y y' : Record} (h : x.MayNeed y) (hx : x.Grows x')
    (hy : y.Grows y') : x'.MayNeed y' :=
  h.congr hx.kind_eq hx.name_eq hy.kind_eq hy.name_eq

end Record

namespace Registry

/-- The class of the name is registered, and the record may depend on it. -/
def Has (r : Registry) (x : Record) (d : String) : Prop :=
  ∃ y ∈ r.records, y.name = d ∧ x.MayNeed y

theorem Has.of_grows {r r' : Registry} {x x' : Record} {d : String} (h : r.Has x d)
    (hr : r.Grows r') (hx : x.Grows x') : r'.Has x' d := by
  obtain ⟨y, hy, rfl, need⟩ := h
  obtain ⟨y', hy', g⟩ := hr.records y hy
  exact ⟨y', hy', g.name_eq, need.of_grows hx g⟩

theorem Has.mem_names {r : Registry} {x : Record} {d : String} (h : r.Has x d) : d ∈ r.names := by
  obtain ⟨y, hy, rfl, -⟩ := h
  exact Registry.mem_names.mpr ⟨y, hy, rfl⟩

/-- A class depends directly on another. -/
def DependsOn (r : Registry) (a b : String) : Prop :=
  ∃ x ∈ r.records, x.name = a ∧ b ∈ x.dependencies

/-- Classes depend on registered classes, in a way that has an order. -/
structure Sound (r : Registry) : Prop where
  /-- No two accessors of a class have one name. -/
  distinct : ∀ x ∈ r.records, (accessorNames (accessorsOf x)).Nodup
  has : ∀ x ∈ r.records, ∀ d ∈ x.dependencies, r.Has x d
  earlier : ∀ x ∈ r.records, x.kind ≠ .leaf → ∀ d ∈ x.dependencies,
    r.names.idxOf d < r.names.idxOf x.name

theorem sound_empty : (∅ : Registry).Sound where
  distinct := fun _ hx => absurd hx List.not_mem_nil
  has := fun _ hx => absurd hx List.not_mem_nil
  earlier := fun _ hx => absurd hx List.not_mem_nil

namespace Sound

variable {r r' : Registry}

/-- Registering a record that depends on registered classes keeps the registry sound. -/
theorem append (h : r.Sound) {x : Record} (eq : r'.records = r.records ++ [x])
    (distinct : (accessorNames (accessorsOf x)).Nodup) (has : ∀ d ∈ x.dependencies, r.Has x d) :
    r'.Sound := by
  have grows := grows_of_append eq
  have names := names_of_append eq
  have free : x.name ∉ r.names := by
    have := r'.distinct
    rw [← Registry.names, names, List.nodup_append] at this
    exact fun hx => this.2.2 _ hx _ List.mem_cons_self rfl
  constructor
  · intro y hy
    rw [eq] at hy
    rcases List.mem_append.mp hy with hy | hy
    · exact h.distinct y hy
    · rw [List.mem_singleton.mp hy]
      exact distinct
  · intro y hy d hd
    rw [eq] at hy
    rcases List.mem_append.mp hy with hy | hy
    · exact (h.has y hy d hd).of_grows grows (.same y)
    · rw [List.mem_singleton.mp hy] at hd ⊢
      exact (has d hd).of_grows grows (.same x)
  · intro y hy kind d hd
    rw [eq] at hy
    rw [names]
    rcases List.mem_append.mp hy with hy | hy
    · rw [List.idxOf_append_of_mem (h.has y hy d hd).mem_names,
        List.idxOf_append_of_mem (mem_names.mpr ⟨y, hy, rfl⟩)]
      exact h.earlier y hy kind d hd
    · rw [List.mem_singleton.mp hy] at hd ⊢
      have hd := (has d hd).mem_names
      rw [List.idxOf_append_of_mem hd, List.idxOf_append_of_notMem free]
      have := List.idxOf_lt_length_of_mem hd
      omega

/-- Merging a selection that depends on registered classes keeps the registry sound. -/
theorem replace (h : r.Sound) {old l : Leaf} (hold : .leaf old ∈ r.records)
    (name : old.name = l.name)
    (has : ∀ d ∈ l.dependencies, r.Has (.leaf l) d) :
    (r.replace (.leaf (mergedLeaf old l))).Sound := by
  have grown := leaf_grows_mergedLeaf (h.distinct _ hold) l
  have grows : r.Grows (r.replace (.leaf (mergedLeaf old l))) := grows_replace hold (.leaf grown)
  have names : (r.replace (.leaf (mergedLeaf old l))).names = r.names := names_replace r _
  constructor
  · intro y hy
    obtain ⟨x, hx, rfl⟩ := List.mem_map.mp hy
    split
    · exact nodup_mergeAccessors (h.distinct _ hold) _
    · exact h.distinct x hx
  · intro y hy d hd
    obtain ⟨x, hx, rfl⟩ := List.mem_map.mp hy
    split at hd
    · next same =>
      rw [if_pos same]
      rcases NameSet.mem_union.mp hd with hd | hd
      · exact (h.has _ hold d hd).of_grows grows (.leaf grown)
      · obtain ⟨y, hy, rfl, need⟩ := has d hd
        have : r.Has (.leaf (mergedLeaf old l)) y.name :=
          ⟨y, hy, rfl, need.congr rfl name rfl rfl⟩
        exact this.of_grows grows (.same _)
    · next other =>
      rw [if_neg other]
      exact (h.has x hx d hd).of_grows grows (.same x)
  · intro y hy kind d hd
    obtain ⟨x, hx, rfl⟩ := List.mem_map.mp hy
    rw [names]
    by_cases same : x.name = (Record.leaf (mergedLeaf old l)).name
    · rw [if_pos same] at kind
      exact absurd rfl kind
    · rw [if_neg same] at kind hd ⊢
      exact h.earlier x hx kind d hd

/-- The length of the longest name. -/
def longest (r : Registry) : Nat := (r.names.map String.length).max?.getD 0

/-- A number above those of all that the class of a record depends on: enums and inputs come in
their order, then selections, longer names first, then operations. -/
def rankOf (r : Registry) (x : Record) : Nat :=
  match x.kind with
  | .root => r.names.length + longest r + 1
  | .leaf => r.names.length + (longest r - x.name.length)
  | .input | .enum => r.names.idxOf x.name

/-- The number for the record of a name. -/
def rank (r : Registry) (name : String) : Nat := ((r.get? name).map (rankOf r)).getD 0

theorem rank_name {x : Record} (hx : x ∈ r.records) : rank r x.name = rankOf r x := by
  unfold rank
  rw [get?_eq_some_iff.mpr ⟨hx, rfl⟩]
  rfl

theorem rank_lt (h : r.Sound) {x : Record} (hx : x ∈ r.records) {d : String}
    (hd : d ∈ x.dependencies) : rank r d < rank r x.name := by
  obtain ⟨y, hy, rfl, need⟩ := h.has x hx d hd
  have first := List.idxOf_lt_length_of_mem (mem_names.mpr ⟨y, hy, rfl⟩)
  have fits : y.name.length ≤ longest r :=
    List.le_max?_getD_of_mem (List.mem_map.mpr ⟨y.name, mem_names.mpr ⟨y, hy, rfl⟩, rfl⟩)
  have earlier := h.earlier x hx
  rw [rank_name hx, rank_name hy]
  unfold rankOf
  unfold MayNeed at need
  cases hkx : x.kind <;> cases hky : y.kind <;> simp only [hkx, hky] at need ⊢
  all_goals first
    | omega
    | exact absurd rfl need
    | exact earlier (by simp [hkx]) _ hd

/-- **No class depends on itself**, directly or through others. -/
theorem not_transGen (h : r.Sound) (name : String) : ¬ Relation.TransGen r.DependsOn name name := by
  have climbs : ∀ {a b}, Relation.TransGen r.DependsOn a b → rank r b < rank r a := by
    intro a b hab
    induction hab with
    | single step =>
      obtain ⟨x, hx, rfl, hd⟩ := step
      exact h.rank_lt hx hd
    | tail _ step ih =>
      obtain ⟨x, hx, rfl, hd⟩ := step
      exact (h.rank_lt hx hd).trans ih
  exact fun cycle => absurd (climbs cycle) (Nat.lt_irrefl _)

/-- **The records have an emission order**, in which none is lost or added. -/
theorem exists_sorted (h : r.Sound) :
    ∃ sorted, r.sorted = .ok sorted ∧ ∀ x, x ∈ sorted ↔ x ∈ r.records :=
  exists_sort r.distinct (fun x hx d hd => (h.has x hx d hd).mem_names) (rank r)
    fun _ hx _ hd => h.rank_lt hx hd

end Sound

end Registry

end QueryShape
