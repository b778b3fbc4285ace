import QueryShape.Generation.Select
import QueryShape.Proofs.Generation.Plan

/-!
# The fields that a class reads

`survey` lists the fields that are met in the selection set of a class, fields first and then those
of fragments, each with where it stands. A fragment that cannot be gone into is listed as the fault
that it is.

* `select_eq_foldlM`: going through a selection set adds the members of the fields listed, in order.
* `Selects` says which fields those are without going through them: a field of the set, or of the
  set of a fragment in it. `selects_of_mem_survey` and `mem_survey_of_selects` are the two halves.
-/

namespace QueryShape.Generation

open Document Record

/-! ## Sites -/

/-- A field under a selection set, and where it stands. -/
structure Site where
  /-- The fragments that can be spread under the field. -/
  fragments : List Fragment
  place : Place
  field : Field
  selections : List Selection

/-- The fields of a selection set itself, without those that ask for the type name only. -/
def fieldSites (fragments : List Fragment) (p : Place) (selections : List Selection) :
    List (Except GenerationError Site) :=
  selections.filterMap fun
    | .field f inner =>
      if f.isPlainTypename then none
      else some (.ok { fragments, place := p, field := f, selections := inner })
    | _ => none

/-- The place inside an inline fragment. -/
def inlinePlace (s : Schema) (p : Place) (condition? : Option String)
    (directives : List Directive) : Except GenerationError Place := do
  let t ← match condition? with
    | some condition => typeNamed s condition
    | none => .ok p.owner
  p.inFragment s t directives

/-- The place inside a fragment that is spread. -/
def spreadPlace (s : Schema) (p : Place) (f : Fragment) (directives : List Directive) :
    Except GenerationError Place := do
  p.inFragment s (← typeNamed s f.condition) directives

theorem name_of_type? {s : Schema} {name : String} {t : TypeDefinition}
    (h : s.type? name = some t) : t.name = name := by
  simpa using List.find?_some h

theorem type?_name {s : Schema} {name : String} {t : TypeDefinition} (h : s.type? name = some t) :
    s.type? t.name = some t := by
  rwa [name_of_type? h]

theorem type?_of_typeNamed {s : Schema} {name : String} {t : TypeDefinition}
    (h : typeNamed s name = .ok t) : s.type? name = some t ∧ t.name = name := by
  unfold typeNamed at h
  split at h
  · next found =>
    cases h
    exact ⟨found, name_of_type? found⟩
  · cases h

theorem typeNamed_of_type? {s : Schema} {name : String} {t : TypeDefinition}
    (h : s.type? name = some t) : typeNamed s name = .ok t := by
  unfold typeNamed
  rw [h]

/-- A place inside a fragment is one of the same class. -/
theorem className_inFragment {s : Schema} {p q : Place} {t : TypeDefinition}
    {directives : List Directive} (h : p.inFragment s t directives = .ok q) :
    q.className = p.className := by
  obtain ⟨types, -, h⟩ := except_bind_eq_ok_iff.mp h
  cases h
  rfl

theorem className_inlinePlace {s : Schema} {p q : Place} {condition? : Option String}
    {directives : List Directive} (h : inlinePlace s p condition? directives = .ok q) :
    q.className = p.className := by
  cases condition? <;>
    · obtain ⟨t, -, h⟩ := except_bind_eq_ok_iff.mp h
      exact className_inFragment h

theorem className_spreadPlace {s : Schema} {p q : Place} {f : Fragment}
    {directives : List Directive} (h : spreadPlace s p f directives = .ok q) :
    q.className = p.className := by
  obtain ⟨t, -, h⟩ := except_bind_eq_ok_iff.mp h
  exact className_inFragment h

/-- The fields that the fragments of a selection set select. -/
def surveyFragments (s : Schema) (fragments : List Fragment) (p : Place) :
    List Selection → List (Except GenerationError Site)
  | [] => []
  | .field .. :: rest => surveyFragments s fragments p rest
  | .inline condition? directives selections :: rest =>
    (match inlinePlace s p condition? directives with
      | .error e => [.error e]
      | .ok q => fieldSites fragments q selections ++ surveyFragments s fragments q selections) ++
      surveyFragments s fragments p rest
  | .spread name directives :: rest =>
    (match h : fragmentNamed? fragments name with
      | none => [.error (.unknownFragment name)]
      | some f =>
        match spreadPlace s p f directives with
        | .error e => [.error e]
        | .ok q =>
          have := otherFragments_lt h
          fieldSites (otherFragments fragments name) q f.selections ++
            surveyFragments s (otherFragments fragments name) q f.selections) ++
      surveyFragments s fragments p rest
termination_by selections => (fragments.length, sizeOf selections)

/-- The fields that a selection set selects, in the order in which they are met. -/
def survey (s : Schema) (fragments : List Fragment) (p : Place) (selections : List Selection) :
    List (Except GenerationError Site) :=
  fieldSites fragments p selections ++ surveyFragments s fragments p selections

theorem surveyFragments_inline (s : Schema) (fragments : List Fragment) (p : Place)
    (condition? : Option String) (directives : List Directive) (inner rest : List Selection) :
    surveyFragments s fragments p (.inline condition? directives inner :: rest) =
      (match inlinePlace s p condition? directives with
        | .error e => [.error e]
        | .ok q => survey s fragments q inner) ++ surveyFragments s fragments p rest := by
  rw [surveyFragments]
  rfl

theorem surveyFragments_unknown {fragments : List Fragment} {name : String}
    (h : fragmentNamed? fragments name = none) (s : Schema) (p : Place)
    (directives : List Directive) (rest : List Selection) :
    surveyFragments s fragments p (.spread name directives :: rest) =
      .error (.unknownFragment name) :: surveyFragments s fragments p rest := by
  rw [surveyFragments]
  split
  · rfl
  · next f some =>
    rw [some] at h
    cases h

theorem surveyFragments_spread {fragments : List Fragment} {name : String} {f : Fragment}
    (h : fragmentNamed? fragments name = some f) (s : Schema) (p : Place)
    (directives : List Directive) (rest : List Selection) :
    surveyFragments s fragments p (.spread name directives :: rest) =
      (match spreadPlace s p f directives with
        | .error e => [.error e]
        | .ok q => survey s (otherFragments fragments name) q f.selections) ++
        surveyFragments s fragments p rest := by
  rw [surveyFragments]
  split
  · next none =>
    rw [none] at h
    cases h
  · next f' some =>
    rw [some] at h
    cases h
    rfl

/-! ## Going through a selection set -/

/-- The members with those of a field that has been met. -/
def addSite (g : Setting) (members : Members) : Except GenerationError Site → Plan Members
  | .error e => .fail e
  | .ok x => do
    let name ← .ofExcept (accessorOf x.place x.field)
    let definition ← .ofExcept (fieldDefinition g.schema x.place.owner x.field.name)
    let c ← fieldConversion g x.fragments x.place x.field definition x.selections
    return members.add name (pathOf x.place x.field definition.type c) c.dependency?

variable {g : Setting}

theorem selectFields_eq_foldlM (fragments : List Fragment) (p : Place) (selections : List Selection)
    (members : Members) : selectFields g fragments p selections members =
      (fieldSites fragments p selections).foldlM (addSite g) members := by
  induction selections generalizing members with
  | nil => rw [selectFields]; rfl
  | cons first rest ih =>
    cases first with
    | spread => rw [selectFields, ih]; rfl
    | inline => rw [selectFields, ih]; rfl
    | field f inner =>
      rw [selectFields]
      by_cases plain : f.isPlainTypename = true
      · rw [if_pos plain, ih]
        unfold fieldSites
        rw [List.filterMap_cons_none (by simp [plain])]
      · unfold fieldSites at *
        rw [if_neg plain, List.filterMap_cons_some (by simp only [if_neg plain]; rfl),
          List.foldlM_cons]
        simp only [addSite, bind_assoc, pure_bind, ih]

theorem selectFragments_inline (fragments : List Fragment) (p : Place) (condition? : Option String)
    (directives : List Directive) (inner rest : List Selection) (members : Members) :
    selectFragments g fragments p (.inline condition? directives inner :: rest) members = (do
      let q ← .ofExcept (inlinePlace g.schema p condition? directives)
      selectFragments g fragments p rest (← select g fragments q inner members)) := by
  cases condition? <;>
    · rw [selectFragments]
      unfold inlinePlace
      rw [Plan.ofExcept_bind, bind_assoc]

theorem selectFragments_spread {fragments : List Fragment} {name : String} {f : Fragment}
    (h : fragmentNamed? fragments name = some f) (p : Place) (directives : List Directive)
    (rest : List Selection) (members : Members) :
    selectFragments g fragments p (.spread name directives :: rest) members = (do
      let q ← .ofExcept (spreadPlace g.schema p f directives)
      selectFragments g fragments p rest
        (← select g (otherFragments fragments name) q f.selections members)) := by
  rw [selectFragments]
  unfold spreadPlace
  rw [Plan.ofExcept_bind, bind_assoc]
  split
  · next none => rw [none] at h; cases h
  · next f' some =>
    rw [some] at h
    cases h
    rfl

theorem selectFragments_unknown {fragments : List Fragment} {name : String}
    (h : fragmentNamed? fragments name = none) (p : Place) (directives : List Directive)
    (rest : List Selection) (members : Members) :
    selectFragments g fragments p (.spread name directives :: rest) members =
      .fail (.unknownFragment name) := by
  rw [selectFragments]
  split
  · rfl
  · next f some =>
    rw [some] at h
    cases h

theorem selectFragments_eq_foldlM (fragments : List Fragment) (p : Place)
    (selections : List Selection) (members : Members) :
    selectFragments g fragments p selections members =
      (surveyFragments g.schema fragments p selections).foldlM (addSite g) members := by
  induction fragments, p, selections using surveyFragments.induct generalizing members with
  | case1 =>
    rw [selectFragments, surveyFragments]
    rfl
  | case2 fragments p f inner rest ih => rw [selectFragments, surveyFragments, ih]
  | case3 fragments p condition? directives inner rest ihInner ih =>
    rw [selectFragments_inline, surveyFragments_inline, List.foldlM_append]
    cases inlinePlace g.schema p condition? directives with
    | error e => rfl
    | ok q =>
      simp only [Plan.ofExcept_ok, pure_bind, select, selectFields_eq_foldlM, ihInner, ih, survey,
        List.foldlM_append]
  | case4 fragments p name directives rest ihInner ih =>
    obtain h | ⟨f, h⟩ := Option.eq_none_or_eq_some (fragmentNamed? fragments name)
    · rw [selectFragments_unknown h, surveyFragments_unknown h]
      rfl
    · rw [selectFragments_spread h, surveyFragments_spread h, List.foldlM_append]
      cases spreadPlace g.schema p f directives with
      | error e => rfl
      | ok q =>
        simp only [Plan.ofExcept_ok, pure_bind, select, selectFields_eq_foldlM, ihInner f h, ih,
          survey, List.foldlM_append]

/-- **Going through a selection set adds the members of the fields that it selects**, in order. -/
theorem select_eq_foldlM (fragments : List Fragment) (p : Place) (selections : List Selection)
    (members : Members) : select g fragments p selections members =
      (survey g.schema fragments p selections).foldlM (addSite g) members := by
  rw [select, selectFields_eq_foldlM, survey, List.foldlM_append]
  simp only [selectFragments_eq_foldlM]

/-! ## What is selected -/

/-- The selection set selects a field, itself or through a fragment in it. The place is that of the
field. -/
inductive Selects (s : Schema) (fragments : List Fragment) :
    Place → List Selection → Place → Field → List Selection → Prop
  | field {p : Place} {selections inner : List Selection} {f : Field}
      (mem : .field f inner ∈ selections) (asks : f.isPlainTypename = false) :
      Selects s fragments p selections p f inner
  | inline {p q r : Place} {selections under inner : List Selection} {f : Field}
      {condition? : Option String} {directives : List Directive}
      (mem : .inline condition? directives under ∈ selections)
      (place : inlinePlace s p condition? directives = .ok q)
      (next : Selects s fragments q under r f inner) : Selects s fragments p selections r f inner
  | spread {p q r : Place} {selections inner : List Selection} {f : Field} {name : String}
      {directives : List Directive} {fragment : Fragment}
      (mem : .spread name directives ∈ selections)
      (named : fragmentNamed? fragments name = some fragment)
      (place : spreadPlace s p fragment directives = .ok q)
      (next : Selects s fragments q fragment.selections r f inner) :
      Selects s fragments p selections r f inner

variable {s : Schema}

theorem Selects.of_subset {fragments : List Fragment} {p q : Place}
    {some all inner : List Selection} {f : Field} (sub : some ⊆ all)
    (h : Selects s fragments p some q f inner) : Selects s fragments p all q f inner := by
  cases h with
  | field mem asks => exact .field (sub mem) asks
  | inline mem place next => exact .inline (sub mem) place next
  | spread mem named place next => exact .spread (sub mem) named place next

/-- What a list of fragments has under a name, the other has as well. -/
def Known (inner outer : List Fragment) : Prop :=
  ∀ name f, fragmentNamed? inner name = some f → fragmentNamed? outer name = some f

theorem Known.refl (fragments : List Fragment) : Known fragments fragments := fun _ _ h => h

theorem Known.trans {a b c : List Fragment} (hab : Known a b) (hbc : Known b c) : Known a c :=
  fun name f h => hbc name f (hab name f h)

/-- Without the fragments of a name, those of other names are found as before. -/
theorem fragmentNamed?_otherFragments {fragments : List Fragment} {name other : String}
    (different : other ≠ name) :
    fragmentNamed? (otherFragments fragments name) other = fragmentNamed? fragments other := by
  unfold fragmentNamed? otherFragments
  rw [← List.filter_reverse, List.find?_filter]
  congr 1
  funext x
  by_cases hx : x.name = other
  · simp [hx, different]
  · simp [hx]

theorem known_otherFragments (fragments : List Fragment) (name : String) :
    Known (otherFragments fragments name) fragments := by
  intro other f h
  have different : other ≠ name := by
    rintro rfl
    have left := List.mem_of_find?_eq_some h
    have named : f.name = other := by simpa using List.find?_some h
    have kept := (List.mem_filter.mp (List.mem_reverse.mp left)).2
    simp [named] at kept
  rw [← h, fragmentNamed?_otherFragments different]

theorem mem_fieldSites {fragments : List Fragment} {p : Place} {selections : List Selection}
    {x : Site} : .ok x ∈ fieldSites fragments p selections ↔
      x.fragments = fragments ∧ x.place = p ∧ x.field.isPlainTypename = false ∧
        .field x.field x.selections ∈ selections := by
  unfold fieldSites
  rw [List.mem_filterMap]
  constructor
  · rintro ⟨a, ha, hx⟩
    cases a with
    | spread => cases hx
    | inline => cases hx
    | field f inner =>
      by_cases plain : f.isPlainTypename = true
      · simp [plain] at hx
      · simp only [if_neg plain, Option.some.injEq, Except.ok.injEq] at hx
        subst hx
        exact ⟨rfl, rfl, by simpa using plain, ha⟩
  · rintro ⟨rfl, rfl, asks, mem⟩
    exact ⟨_, mem, by simp [asks]⟩

theorem selects_of_mem_fieldSites {outer fragments : List Fragment} (known : Known fragments outer)
    {p : Place} {selections : List Selection} {x : Site}
    (h : .ok x ∈ fieldSites fragments p selections) :
    Selects s outer p selections x.place x.field x.selections ∧ Known x.fragments outer := by
  obtain ⟨rfl, rfl, asks, mem⟩ := mem_fieldSites.mp h
  exact ⟨.field mem asks, known⟩

theorem selects_of_mem_surveyFragments {outer fragments : List Fragment}
    (known : Known fragments outer) {p : Place} {selections : List Selection} {x : Site}
    (h : .ok x ∈ surveyFragments s fragments p selections) :
    Selects s outer p selections x.place x.field x.selections ∧ Known x.fragments outer := by
  induction fragments, p, selections using surveyFragments.induct with
  | case1 =>
    rw [surveyFragments] at h
    exact absurd h List.not_mem_nil
  | case2 fragments p f inner rest ih =>
    rw [surveyFragments] at h
    obtain ⟨selected, known'⟩ := ih known h
    exact ⟨selected.of_subset (List.subset_cons_self _ _), known'⟩
  | case3 fragments p condition? directives inner rest ihInner ih =>
    rw [surveyFragments_inline] at h
    rcases List.mem_append.mp h with h | h
    · cases place : inlinePlace s p condition? directives with
      | error e => simp [place] at h
      | ok q =>
        simp only [place, survey] at h
        obtain ⟨selected, known'⟩ := (List.mem_append.mp h).elim
          (selects_of_mem_fieldSites known) (ihInner q known)
        exact ⟨.inline List.mem_cons_self place selected, known'⟩
    · obtain ⟨selected, known'⟩ := ih known h
      exact ⟨selected.of_subset (List.subset_cons_self _ _), known'⟩
  | case4 fragments p name directives rest ihInner ih =>
    obtain unknown | ⟨f, named⟩ := Option.eq_none_or_eq_some (fragmentNamed? fragments name)
    · rw [surveyFragments_unknown unknown] at h
      obtain ⟨selected, known'⟩ := ih known ((List.mem_cons.mp h).resolve_left nofun)
      exact ⟨selected.of_subset (List.subset_cons_self _ _), known'⟩
    · rw [surveyFragments_spread named] at h
      rcases List.mem_append.mp h with h | h
      · cases place : spreadPlace s p f directives with
        | error e => simp [place] at h
        | ok q =>
          simp only [place, survey] at h
          have inside := (known_otherFragments fragments name).trans known
          obtain ⟨selected, known'⟩ := (List.mem_append.mp h).elim
            (selects_of_mem_fieldSites inside) (ihInner f named q inside)
          exact ⟨.spread List.mem_cons_self (known name f named) place selected, known'⟩
      · obtain ⟨selected, known'⟩ := ih known h
        exact ⟨selected.of_subset (List.subset_cons_self _ _), known'⟩

/-- **Only what is selected is listed.** -/
theorem selects_of_mem_survey {outer fragments : List Fragment} (known : Known fragments outer)
    {p : Place} {selections : List Selection} {x : Site}
    (h : .ok x ∈ survey s fragments p selections) :
    Selects s outer p selections x.place x.field x.selections ∧ Known x.fragments outer :=
  (List.mem_append.mp h).elim (selects_of_mem_fieldSites known)
    (selects_of_mem_surveyFragments known)

/-- The fragments of a selection set are gone into one after the other. -/
theorem surveyFragments_cons (fragments : List Fragment) (p : Place) (a : Selection)
    (rest : List Selection) : surveyFragments s fragments p (a :: rest) =
      surveyFragments s fragments p [a] ++ surveyFragments s fragments p rest := by
  have nil : surveyFragments s fragments p [] = [] := by rw [surveyFragments]
  cases a with
  | field => rw [surveyFragments, surveyFragments, nil, List.nil_append]
  | inline => rw [surveyFragments_inline, surveyFragments_inline, nil, List.append_nil]
  | spread name =>
    obtain unknown | ⟨f, named⟩ := Option.eq_none_or_eq_some (fragmentNamed? fragments name)
    · rw [surveyFragments_unknown unknown, surveyFragments_unknown unknown, nil]
      rfl
    · rw [surveyFragments_spread named, surveyFragments_spread named, nil, List.append_nil]

theorem surveyFragments_subset (s : Schema) (fragments : List Fragment) (p : Place)
    {a : Selection} {selections : List Selection} (mem : a ∈ selections) :
    surveyFragments s fragments p [a] ⊆ survey s fragments p selections := by
  intro x hx
  refine List.mem_append_right _ ?_
  induction selections with
  | nil => exact absurd mem List.not_mem_nil
  | cons first rest ih =>
    rw [surveyFragments_cons]
    rcases List.mem_cons.mp mem with rfl | later
    · exact List.mem_append_left _ hx
    · exact List.mem_append_right _ (ih later)

/-- **All that is selected is listed**, if every fragment can be gone into. -/
theorem mem_survey_of_selects {outer : List Fragment} {p q : Place}
    {selections inner : List Selection} {f : Field}
    (selected : Selects s outer p selections q f inner) {fragments : List Fragment}
    (known : Known fragments outer)
    (sound : ∀ x ∈ survey s fragments p selections, ∃ y, x = .ok y) :
    ∃ x, .ok x ∈ survey s fragments p selections ∧ x.place = q ∧ x.field = f ∧
      x.selections = inner ∧ Known x.fragments outer := by
  induction selected generalizing fragments with
  | @field p selections inner f mem asks =>
    refine ⟨⟨fragments, p, f, inner⟩, List.mem_append_left _ ?_, rfl, rfl, rfl, known⟩
    exact mem_fieldSites.mpr ⟨rfl, rfl, asks, mem⟩
  | @inline p q r selections under inner f condition? directives mem place next ih =>
    have within := surveyFragments_subset s fragments p mem
    rw [surveyFragments_inline, place] at within
    have within := List.Subset.trans (List.subset_append_left _ _) within
    obtain ⟨x, hx, h⟩ := ih known fun x hx => sound x (within hx)
    exact ⟨x, within hx, h⟩
  | @spread p q r selections inner f name directives fragment mem named place next ih =>
    have within := surveyFragments_subset s fragments p mem
    obtain unknown | ⟨f', named'⟩ := Option.eq_none_or_eq_some (fragmentNamed? fragments name)
    · rw [surveyFragments_unknown unknown] at within
      obtain ⟨y, hy⟩ := sound _ (within List.mem_cons_self)
      cases hy
    · cases (known name f' named').symm.trans named
      rw [surveyFragments_spread named', place] at within
      have within := List.Subset.trans (List.subset_append_left _ _) within
      obtain ⟨x, hx, h⟩ := ih ((known_otherFragments fragments name).trans known)
        fun x hx => sound x (within hx)
      exact ⟨x, within hx, h⟩

/-- The selection set has the field selection, itself or in a fragment in it. -/
inductive Holds (fragments : List Fragment) : List Selection → Field → List Selection → Prop
  | field {selections inner : List Selection} {f : Field} (mem : .field f inner ∈ selections) :
      Holds fragments selections f inner
  | inline {selections under inner : List Selection} {f : Field} {condition? : Option String}
      {directives : List Directive} (mem : .inline condition? directives under ∈ selections)
      (next : Holds fragments under f inner) : Holds fragments selections f inner
  | spread {selections inner : List Selection} {f : Field} {name : String}
      {directives : List Directive} {fragment : Fragment}
      (mem : .spread name directives ∈ selections)
      (named : fragmentNamed? fragments name = some fragment)
      (next : Holds fragments fragment.selections f inner) : Holds fragments selections f inner

/-- **No field selection is passed over**, if every fragment can be gone into. -/
theorem exists_selects_of_holds {outer : List Fragment} {selections inner : List Selection}
    {f : Field} (holds : Holds outer selections f inner) (asks : f.isPlainTypename = false)
    {p : Place} {fragments : List Fragment} (known : Known fragments outer)
    (sound : ∀ x ∈ survey s fragments p selections, ∃ y, x = .ok y) :
    ∃ q, Selects s outer p selections q f inner := by
  induction holds generalizing p fragments with
  | field mem => exact ⟨p, .field mem asks⟩
  | @inline selections under inner f condition? directives mem next ih =>
    have within := surveyFragments_subset s fragments p mem
    rw [surveyFragments_inline] at within
    cases place : inlinePlace s p condition? directives with
    | error e =>
      rw [place] at within
      obtain ⟨y, hy⟩ := sound _ (within List.mem_cons_self)
      cases hy
    | ok q =>
      rw [place] at within
      obtain ⟨r, h⟩ := ih asks known fun x hx => sound x (within (List.mem_append_left _ hx))
      exact ⟨r, .inline mem place h⟩
  | @spread selections inner f name directives fragment mem named next ih =>
    have within := surveyFragments_subset s fragments p mem
    obtain unknown | ⟨f', named'⟩ := Option.eq_none_or_eq_some (fragmentNamed? fragments name)
    · rw [surveyFragments_unknown unknown] at within
      obtain ⟨y, hy⟩ := sound _ (within List.mem_cons_self)
      cases hy
    · cases (known name f' named').symm.trans named
      rw [surveyFragments_spread named'] at within
      cases place : spreadPlace s p fragment directives with
      | error e =>
        rw [place] at within
        obtain ⟨y, hy⟩ := sound _ (within List.mem_cons_self)
        cases hy
      | ok q =>
        rw [place] at within
        obtain ⟨r, h⟩ := ih asks ((known_otherFragments fragments name).trans known)
          fun x hx => sound x (within (List.mem_append_left _ hx))
        exact ⟨r, .spread mem named place h⟩

/-- Fragments do not leave the class. -/
theorem Selects.className_eq {fragments : List Fragment} {p q : Place}
    {selections inner : List Selection} {f : Field}
    (h : Selects s fragments p selections q f inner) : q.className = p.className := by
  induction h with
  | field => rfl
  | inline mem place next ih => rw [ih, className_inlinePlace place]
  | spread mem named place next ih => rw [ih, className_spreadPlace place]

/-! ## The way down -/

/-- Under a field that is met there are fewer fragments left, or a smaller selection set. -/
def Site.Below (x : Site) (fragments : List Fragment) (selections : List Selection) : Prop :=
  x.fragments.length < fragments.length ∨
    x.fragments.length = fragments.length ∧ sizeOf x.selections < sizeOf selections

theorem below_of_mem_fieldSites {fragments : List Fragment} {p : Place}
    {selections : List Selection} {x : Site} (h : .ok x ∈ fieldSites fragments p selections) :
    x.Below fragments selections := by
  obtain ⟨rfl, -, -, mem⟩ := mem_fieldSites.mp h
  have := List.sizeOf_lt_of_mem mem
  refine Or.inr ⟨rfl, ?_⟩
  simp only [Selection.field.sizeOf_spec] at this
  omega

theorem below_of_mem_surveyFragments {fragments : List Fragment} {p : Place}
    {selections : List Selection} {x : Site}
    (h : .ok x ∈ surveyFragments s fragments p selections) : x.Below fragments selections := by
  induction fragments, p, selections using surveyFragments.induct with
  | case1 =>
    rw [surveyFragments] at h
    exact absurd h List.not_mem_nil
  | case2 fragments p f inner rest ih =>
    rw [surveyFragments] at h
    exact (ih h).imp_right fun ⟨same, lt⟩ => ⟨same, by simp; omega⟩
  | case3 fragments p condition? directives inner rest ihInner ih =>
    rw [surveyFragments_inline] at h
    rcases List.mem_append.mp h with h | h
    · cases place : inlinePlace s p condition? directives with
      | error e => simp [place] at h
      | ok q =>
        simp only [place, survey] at h
        have := (List.mem_append.mp h).elim below_of_mem_fieldSites (ihInner q)
        exact this.imp_right fun ⟨same, lt⟩ => ⟨same, by simp; omega⟩
    · exact (ih h).imp_right fun ⟨same, lt⟩ => ⟨same, by simp; omega⟩
  | case4 fragments p name directives rest ihInner ih =>
    obtain unknown | ⟨f, named⟩ := Option.eq_none_or_eq_some (fragmentNamed? fragments name)
    · rw [surveyFragments_unknown unknown] at h
      exact (ih ((List.mem_cons.mp h).resolve_left nofun)).imp_right
        fun ⟨same, lt⟩ => ⟨same, by simp; omega⟩
    · rw [surveyFragments_spread named] at h
      rcases List.mem_append.mp h with h | h
      · cases place : spreadPlace s p f directives with
        | error e => simp [place] at h
        | ok q =>
          simp only [place, survey] at h
          have := (List.mem_append.mp h).elim below_of_mem_fieldSites (ihInner f named q)
          have := otherFragments_lt named
          unfold Site.Below at *
          omega
      · exact (ih h).imp_right fun ⟨same, lt⟩ => ⟨same, by simp; omega⟩

theorem below_of_mem_survey {fragments : List Fragment} {p : Place} {selections : List Selection}
    {x : Site} (h : .ok x ∈ survey s fragments p selections) : x.Below fragments selections :=
  (List.mem_append.mp h).elim below_of_mem_fieldSites below_of_mem_surveyFragments

/-- **What holds of a selection set if it holds of those under its fields, holds of all.** -/
theorem survey_induction {motive : List Fragment → List Selection → Prop}
    (step : ∀ fragments selections, (∀ s p x, .ok x ∈ survey s fragments p selections →
      motive x.fragments x.selections) → motive fragments selections)
    (fragments : List Fragment) (selections : List Selection) : motive fragments selections :=
  step fragments selections fun _ _ x h =>
    have := below_of_mem_survey h
    survey_induction step x.fragments x.selections
termination_by (fragments.length, sizeOf selections)
decreasing_by
  rcases this with fewer | ⟨same, smaller⟩
  · exact Prod.Lex.left _ _ fewer
  · rw [same]
    exact Prod.Lex.right _ smaller

end QueryShape.Generation
