/-!
# Sets of names

A finite set of names is the list of its members in order, so two sets with the same members are
equal.

* `mem_insert`, `mem_union`, `mem_inter`: membership after each operation.
* `ext`: sets with the same members are the same.
-/

namespace QueryShape

/-- A finite set of names. -/
structure NameSet where
  /-- The members, in order. -/
  toList : List String
  sorted : toList.Pairwise (· < ·)
  deriving DecidableEq

namespace NameSet

instance : EmptyCollection NameSet := ⟨⟨[], .nil⟩⟩

instance : Inhabited NameSet := ⟨∅⟩

instance : Repr NameSet := ⟨fun s n => reprPrec s.toList n⟩

instance : Membership String NameSet := ⟨fun s name => name ∈ s.toList⟩

instance (name : String) (s : NameSet) : Decidable (name ∈ s) :=
  inferInstanceAs (Decidable (name ∈ s.toList))

/-! ## Inserting -/

/-- Put a name into its place in a sorted list. -/
def place (name : String) : List String → List String
  | [] => [name]
  | first :: rest =>
    if name < first then name :: first :: rest
    else if name = first then first :: rest
    else first :: place name rest

theorem mem_place {x name : String} {names : List String} :
    x ∈ place name names ↔ x = name ∨ x ∈ names := by
  induction names with
  | nil => simp [place]
  | cons first rest ih =>
    unfold place
    split
    · simp
    · split
      · next h => subst h; simp
      · simp only [List.mem_cons, ih]
        exact or_left_comm

theorem pairwise_place {name : String} {names : List String} (h : names.Pairwise (· < ·)) :
    (place name names).Pairwise (· < ·) := by
  induction names with
  | nil => simp [place]
  | cons first rest ih =>
    rw [List.pairwise_cons] at h
    unfold place
    split
    · next below =>
      refine List.pairwise_cons.2 ⟨fun x hx => ?_, List.pairwise_cons.2 h⟩
      rcases List.mem_cons.1 hx with rfl | hx
      · exact below
      · exact String.lt_trans below (h.1 x hx)
    · next notBelow =>
      split
      · exact List.pairwise_cons.2 h
      · next different =>
        refine List.pairwise_cons.2 ⟨fun x hx => ?_, ih h.2⟩
        rcases mem_place.1 hx with rfl | hx
        · rcases String.le_total first x with le | le
          · rcases Decidable.em (first < x) with lt | notLt
            · exact lt
            · exact absurd (String.le_antisymm (String.not_lt.1 notLt) le) different
          · exact absurd (String.le_antisymm le (String.not_lt.1 notBelow)) different
        · exact h.1 x hx

/-- The set with a name added. -/
def insert (s : NameSet) (name : String) : NameSet :=
  ⟨place name s.toList, pairwise_place s.sorted⟩

/-- The members of both sets together. -/
def union (s t : NameSet) : NameSet := t.toList.foldl insert s

/-- The members of the first set that are in the second. -/
def inter (s t : NameSet) : NameSet :=
  ⟨s.toList.filter (· ∈ t), s.sorted.filter _⟩

/-- The set of the names in a list. -/
def ofList (names : List String) : NameSet := names.foldl insert ∅

instance : Union NameSet := ⟨union⟩

instance : Inter NameSet := ⟨inter⟩

/-! ## Membership -/

@[simp] theorem not_mem_empty (name : String) : name ∉ (∅ : NameSet) := List.not_mem_nil

@[simp] theorem mem_toList {s : NameSet} {name : String} : name ∈ s.toList ↔ name ∈ s := Iff.rfl

@[simp] theorem mem_insert {s : NameSet} {x name : String} :
    x ∈ s.insert name ↔ x = name ∨ x ∈ s := mem_place

theorem mem_foldl_insert {names : List String} {s : NameSet} {x : String} :
    x ∈ names.foldl insert s ↔ x ∈ s ∨ x ∈ names := by
  induction names generalizing s with
  | nil => simp
  | cons first rest ih =>
    rw [List.foldl_cons, ih, mem_insert, List.mem_cons, or_assoc, or_left_comm]

@[simp] theorem mem_union {s t : NameSet} {x : String} : x ∈ s ∪ t ↔ x ∈ s ∨ x ∈ t :=
  mem_foldl_insert

@[simp] theorem mem_inter {s t : NameSet} {x : String} : x ∈ s ∩ t ↔ x ∈ s ∧ x ∈ t := by
  change x ∈ s.toList.filter (· ∈ t) ↔ _
  simp

@[simp] theorem mem_ofList {names : List String} {x : String} : x ∈ ofList names ↔ x ∈ names := by
  simp [ofList, mem_foldl_insert]

/-- Sorted lists with the same members are equal. -/
theorem eq_of_sorted {a b : List String} (ha : a.Pairwise (· < ·)) (hb : b.Pairwise (· < ·))
    (h : ∀ x, x ∈ a ↔ x ∈ b) : a = b := by
  induction a generalizing b with
  | nil =>
    cases b with
    | nil => rfl
    | cons y _ => exact absurd ((h y).2 (List.mem_cons_self ..)) List.not_mem_nil
  | cons x a ih =>
    cases b with
    | nil => exact absurd ((h x).1 (List.mem_cons_self ..)) List.not_mem_nil
    | cons y b =>
      rw [List.pairwise_cons] at ha hb
      have hxy : x = y := by
        rcases List.mem_cons.1 ((h x).1 (List.mem_cons_self ..)) with e | hx
        · exact e
        · rcases List.mem_cons.1 ((h y).2 (List.mem_cons_self ..)) with e | hy
          · exact e.symm
          · exact absurd (String.lt_trans (hb.1 x hx) (ha.1 y hy)) (String.lt_irrefl y)
      subst hxy
      congr 1
      refine ih ha.2 hb.2 fun z => ⟨fun hz => ?_, fun hz => ?_⟩
      · rcases List.mem_cons.1 ((h z).1 (List.mem_cons_of_mem _ hz)) with rfl | hz'
        · exact absurd (ha.1 z hz) (String.lt_irrefl z)
        · exact hz'
      · rcases List.mem_cons.1 ((h z).2 (List.mem_cons_of_mem _ hz)) with rfl | hz'
        · exact absurd (hb.1 z hz) (String.lt_irrefl z)
        · exact hz'

theorem ext {s t : NameSet} (h : ∀ x, x ∈ s ↔ x ∈ t) : s = t := by
  obtain ⟨a, ha⟩ := s
  obtain ⟨b, hb⟩ := t
  have : a = b := eq_of_sorted ha hb h
  subst this
  rfl

end NameSet

end QueryShape
