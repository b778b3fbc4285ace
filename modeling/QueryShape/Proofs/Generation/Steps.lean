import QueryShape.Proofs.Generation.Members

/-!
# The order of steps

A class of a selection set is asked for after all steps of its own selection set, so after the
classes that it depends on: enum classes, and classes of selection sets with longer names.

* `orderedAfter_select`: what holds of a class after those steps, holds wherever a plan asks for it.
* `ordered_select`: a class is asked for after those that it depends on, also if the plan fails.
-/

namespace QueryShape.Generation

open Document Record

/-! ## Ordered steps -/

/-- Each step fits after those before it. -/
def OrderedAfter (fitting : List Step → Step → Prop) : (before steps : List Step) → Prop
  | _, [] => True
  | before, s :: rest => fitting before s ∧ OrderedAfter fitting (before ++ [s]) rest

/-- What fits after some steps fits after more. -/
def Kept (fitting : List Step → Step → Prop) : Prop :=
  ∀ ⦃some all : List Step⦄, some ⊆ all → ∀ ⦃a : Step⦄, fitting some a → fitting all a

section OrderedAfter

variable {fitting : List Step → Step → Prop} (kept : Kept fitting)

include kept

theorem OrderedAfter.of_subset {some all steps : List Step} (h : OrderedAfter fitting some steps)
    (sub : some ⊆ all) : OrderedAfter fitting all steps := by
  induction steps generalizing some all with
  | nil => trivial
  | cons s rest ih =>
    refine ⟨kept sub h.1, ih h.2 ?_⟩
    exact List.append_subset.mpr
      ⟨List.Subset.trans sub (List.subset_append_left _ _), List.subset_append_right _ _⟩

omit kept in
theorem orderedAfter_append {before first second : List Step}
    (hf : OrderedAfter fitting before first) (hs : OrderedAfter fitting (before ++ first) second) :
    OrderedAfter fitting before (first ++ second) := by
  induction first generalizing before with
  | nil => simpa using hs
  | cons s rest ih => exact ⟨hf.1, ih hf.2 (by simpa using hs)⟩

omit kept in
theorem OrderedAfter.fits {start before steps : List Step} {a : Step}
    (h : OrderedAfter fitting start steps) (front : before ++ [a] <+: steps) :
    fitting (start ++ before) a := by
  induction before generalizing start steps with
  | nil =>
    obtain ⟨rest, rfl⟩ := front
    simpa using h.1
  | cons first before ih =>
    obtain ⟨rest, rfl⟩ := front
    have later : fitting ((start ++ [first]) ++ before) a := ih h.2 ⟨rest, rfl⟩
    simpa using later

theorem OrderedAfter.append {first second : List Step} (hf : OrderedAfter fitting [] first)
    (hs : OrderedAfter fitting [] second) : OrderedAfter fitting [] (first ++ second) :=
  orderedAfter_append hf (hs.of_subset kept (List.nil_subset _))

/-- Steps that are for no selection set are ordered if these always fit. -/
theorem orderedAfter_of_no_leaf (simple : ∀ before a, (∀ r, a ≠ .leaf r) → fitting before a)
    {steps : List Step} (h : ∀ r, .leaf r ∉ steps) : OrderedAfter fitting [] steps := by
  induction steps with
  | nil => trivial
  | cons s rest ih =>
    have alone : OrderedAfter fitting [] [s] :=
      ⟨simple [] s fun r eq => h r (eq ▸ List.mem_cons_self), trivial⟩
    exact alone.append kept (ih fun r hr => h r (List.mem_cons_of_mem _ hr))

end OrderedAfter

/-- The class has been asked for, and one of the given name may depend on it. -/
def Ready (steps : List Step) (className needed : String) : Prop :=
  (∃ t, .enum t ∈ steps ∧ Naming.typeClassName t.name = needed) ∨
    ∃ r, .leaf r ∈ steps ∧ r.name = needed ∧ className.length < r.name.length

theorem Ready.of_subset {some all : List Step} {className needed : String}
    (h : Ready some className needed) (sub : some ⊆ all) : Ready all className needed := by
  rcases h with ⟨t, ht, e⟩ | ⟨r, hr, e⟩
  · exact Or.inl ⟨t, sub ht, e⟩
  · exact Or.inr ⟨r, sub hr, e⟩

/-- All that a step depends on has been asked for. -/
def Fits (steps : List Step) : Step → Prop
  | .leaf r => ∀ d ∈ r.dependencies, Ready steps r.name d
  | _ => True

theorem kept_fits : Kept Fits := by
  intro some all sub a h
  cases a with
  | enum => trivial
  | converter => trivial
  | leaf r => exact fun d hd => (h d hd).of_subset sub

theorem fits_of_no_leaf (before : List Step) (a : Step) (h : ∀ r, a ≠ .leaf r) :
    Fits before a := by
  cases a with
  | enum => trivial
  | converter => trivial
  | leaf r => exact absurd rfl (h r)

/-- What each step depends on has been asked for before it, wherever the steps stand. -/
abbrev Ordered (steps : List Step) : Prop := OrderedAfter Fits [] steps

/-- Steps that are for no selection set are ordered. -/
theorem ordered_of_no_leaf {steps : List Step} (h : ∀ r, .leaf r ∉ steps) : Ordered steps :=
  orderedAfter_of_no_leaf kept_fits fits_of_no_leaf h

/-! ## Plans -/

variable {g : Setting}

/-- The class under a field has a longer name. -/
theorem length_className_under (p : Place) (s : Schema) (f : Field) (t : TypeDefinition) :
    p.className.length < (p.under s f t).className.length := by
  unfold Place.under Naming.leafClassName
  have : "__".length = 2 := rfl
  cases f.alias? <;>
    · simp only [String.length_append]
      omega

section Select

variable {fitting : List Step → Step → Prop} (kept : Kept fitting)

include kept

theorem orderedAfter_foldlM {met : List (Except GenerationError Site)}
    (h : ∀ x definition, .ok x ∈ met →
      fieldDefinition g.schema x.place.owner x.field.name = .ok definition →
      OrderedAfter fitting [] (x.conversion g definition).steps) (members : Members) :
    OrderedAfter fitting [] (met.foldlM (addSite g) members).steps := by
  induction met generalizing members with
  | nil => trivial
  | cons first rest ih =>
    have start : OrderedAfter fitting [] (addSite g members first).steps := by
      rcases steps_addSite g members first with none | ⟨x, definition, rfl, hd, eq⟩
      · rw [none]
        trivial
      · rw [eq]
        exact h x definition List.mem_cons_self hd
    rw [List.foldlM_cons]
    cases hn : (addSite g members first).result with
    | error e => rwa [Plan.steps_bind_error hn]
    | ok next =>
      rw [Plan.steps_bind hn]
      exact start.append kept
        (ih (fun x definition hx => h x definition (List.mem_cons_of_mem _ hx)) next)

/-- **The steps of a selection set are ordered** if each class fits after the steps of its own
selection set, also if the plan fails. -/
theorem orderedAfter_select (simple : ∀ before a, (∀ r, a ≠ .leaf r) → fitting before a)
    (fragments : List Fragment) (selections : List Selection) {outer : List Fragment}
    (known : Known fragments outer) (p : Place) (before : Members)
    (leaf : ∀ q inner left members steps, Opens g outer p selections q inner →
      q.IsUnder g.schema → Known left outer → (select g left q inner {}).result = .ok members →
      (select g left q inner {}).steps ⊆ steps →
      fitting steps (.leaf (leafOf q g.schema members))) :
    OrderedAfter fitting [] (select g fragments p selections before).steps := by
  induction fragments, selections using survey_induction generalizing p before with
  | step fragments selections ih =>
    rw [select_eq_foldlM]
    refine orderedAfter_foldlM kept (fun x definition hx hd => ?_) before
    obtain ⟨selected, known'⟩ := selects_of_mem_survey known hx
    rcases conversion_cases g x definition with ⟨e, eq⟩ | ⟨t, ht, ⟨-, eq⟩ | ⟨composite, eq⟩⟩
    · rw [eq]
      trivial
    · rw [eq]
      refine orderedAfter_of_no_leaf kept simple fun r hr => ?_
      rcases mem_steps_outputOf hr with ⟨_, _, e⟩ | ⟨-, e⟩ <;> cases e
    · have inner : OrderedAfter fitting [] (x.inner g t).steps :=
        ih _ _ x hx known' _ _ fun q inner left members steps opens =>
          leaf q inner left members steps (.under selected hd ht composite opens)
      rw [eq]
      cases ok : (x.inner g t).result with
      | error e => rwa [Plan.steps_bind_error ok]
      | ok members =>
        rw [Plan.steps_bind ok]
        refine orderedAfter_append inner ⟨?_, trivial⟩
        exact leaf _ _ x.fragments members _ (.under selected hd ht composite (.here _ _))
          ⟨_, _, _, rfl⟩ known' ok (List.Subset.refl _)

end Select

/-- What the members of a class depend on has been asked for. -/
theorem ready_of_select {fragments : List Fragment} {p : Place} {selections : List Selection}
    {members : Members} (h : (select g fragments p selections {}).result = .ok members) {d : String}
    (hd : d ∈ members.dependencies) :
    Ready (select g fragments p selections {}).steps p.className d := by
  obtain ⟨q, f, inner, r, selected, hr, needs⟩ :=
    ((gives_of_select (.refl fragments) h).dependencies d).mp hd
  by_cases composite : r.type.kind.isComposite = true
  · obtain ⟨left, under, -, -, -, mem⟩ :=
      exists_leaf_of_selects (.refl fragments) h selected hr composite
    rw [conversion_of_composite hr composite] at needs
    cases needs
    refine Or.inr ⟨_, mem, rfl, ?_⟩
    rw [← selected.className_eq]
    exact length_className_under q g.schema f r.type
  · rcases simple_of_selects (.refl fragments) h selected hr (by simpa using composite) with
      ⟨-, none⟩ | ⟨-, reads, mem⟩
    · rw [none] at needs
      cases needs
    · rw [reads] at needs
      cases needs
      exact Or.inl ⟨r.type, mem, rfl⟩

/-- **A class is asked for after those that it depends on**, also if the plan fails. -/
theorem ordered_select (fragments : List Fragment) (selections : List Selection) (p : Place)
    (before : Members) : Ordered (select g fragments p selections before).steps := by
  refine orderedAfter_select kept_fits fits_of_no_leaf fragments selections
    (.refl fragments) p before fun q inner left members steps _ _ _ ok sub => ?_
  exact fun d hd => (ready_of_select ok hd).of_subset sub

end QueryShape.Generation
