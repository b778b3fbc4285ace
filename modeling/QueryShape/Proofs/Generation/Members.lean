import QueryShape.Proofs.Generation.Survey
import QueryShape.Proofs.Record.Merge

/-!
# What a selection set gives its class

`readingOf` resolves one field at one place, without the selection under it: its accessor, its type
and its conversion.

* `gathered_of_select`: the members that a selection set gives are the readings of the fields that
  it selects, and those of no others.
* `mem_steps_select`: the classes under it come from the composite fields among them.
-/

namespace QueryShape.Generation

open Document Record

/-! ## Readings -/

/-- The place of the selection under a field of a type. -/
def Place.under (p : Place) (s : Schema) (f : Field) (t : TypeDefinition) : Place where
  className := Naming.leafClassName p.className f.alias? f.name
  owner := t
  typenames := .ofList (s.possibleTypes t)

/-- The place is that of what is selected under a field. -/
def Place.IsUnder (p : Place) (s : Schema) : Prop :=
  ∃ (around : Place) (f : Field) (t : TypeDefinition), p = around.under s f t

/-- The class of a selection set at a place. -/
def leafOf (p : Place) (s : Schema) (members : Members) : Leaf where
  name := p.className
  graphqlType := p.owner.name
  possibleTypes := s.possibleTypes p.owner
  accessors := members.accessors
  dependencies := members.dependencies

/-- How the bare value of a field of a type is converted. -/
def conversionOf (g : Setting) (p : Place) (f : Field) (t : TypeDefinition) :
    Except GenerationError Conversion :=
  if t.kind.isComposite then .ok (readByClass (p.under g.schema f t).className)
  else (outputOf g t).result

/-- How a field is read at a place. -/
structure Reading where
  accessor : String
  definition : FieldDefinition
  type : TypeDefinition
  conversion : Conversion

/-- How a field is read at a place, if it can be. -/
def readingOf (g : Setting) (p : Place) (f : Field) : Except GenerationError Reading := do
  let accessor ← accessorOf p f
  let definition ← fieldDefinition g.schema p.owner f.name
  let type ← typeNamed g.schema definition.type.bareName
  let conversion ← conversionOf g p f type
  return { accessor, definition, type, conversion }

/-- The path of a reading. -/
def Reading.path (r : Reading) (p : Place) (f : Field) : Path :=
  pathOf p f r.definition.type r.conversion

theorem readingOf_eq_ok_iff {g : Setting} {p : Place} {f : Field} {r : Reading} :
    readingOf g p f = .ok r ↔ accessorOf p f = .ok r.accessor ∧
      fieldDefinition g.schema p.owner f.name = .ok r.definition ∧
      typeNamed g.schema r.definition.type.bareName = .ok r.type ∧
      conversionOf g p f r.type = .ok r.conversion := by
  unfold readingOf
  simp only [except_bind_eq_ok_iff, except_pure_eq_ok_iff]
  constructor
  · rintro ⟨accessor, ha, definition, hd, type, ht, conversion, hc, rfl⟩
    exact ⟨ha, hd, ht, hc⟩
  · rintro ⟨ha, hd, ht, hc⟩
    exact ⟨r.accessor, ha, r.definition, hd, r.type, ht, r.conversion, hc, rfl⟩

/-- The values of a composite field are read by the class of what is selected under it. -/
theorem conversion_of_composite {g : Setting} {p : Place} {f : Field} {r : Reading}
    (h : readingOf g p f = .ok r) (composite : r.type.kind.isComposite = true) :
    r.conversion = readByClass (p.under g.schema f r.type).className := by
  have hc := (readingOf_eq_ok_iff.mp h).2.2.2
  unfold conversionOf at hc
  rw [if_pos composite] at hc
  exact (Except.ok.inj hc).symm

/-! ## Scalars and enums -/

variable {g : Setting}

/-- The conversion of the values of an enum type by its class. -/
def readByEnum (name : String) : Conversion :=
  { signature := .bare name, template := .call (.member (.name name) "deserialize") .hole
    dependency? := some name }

/-- All that converting the values of a type without selections can do: fail, use a converter of
scalars or none, or need the class of an enum type. -/
theorem outputOf_cases (g : Setting) (t : TypeDefinition) :
    (∃ e, outputOf g t = .fail e) ∨
    (∃ c, t.kind = .scalar ∧ c.dependency? = none ∧ outputOf g t = pure c) ∨
    (∃ c path imports, t.kind = .scalar ∧ c.dependency? = none ∧ outputOf g t = (do
      Plan.step (.converter t.name path imports)
      return c)) ∨
    (t.kind = .enum ∧ outputOf g t = (do
      Plan.step (.enum t)
      return readByEnum (Naming.typeClassName t.name))) := by
  unfold outputOf
  split
  · next scalar =>
    unfold scalarOutput
    split
    · unfold convertedBy
      split
      · exact Or.inl ⟨_, rfl⟩
      · exact Or.inr (Or.inr (Or.inl ⟨_, _, _, scalar, rfl, rfl⟩))
    · exact Or.inr (Or.inl ⟨_, scalar, rfl, rfl⟩)
  · next enum => exact Or.inr (Or.inr (Or.inr ⟨enum, rfl⟩))
  · exact Or.inl ⟨_, rfl⟩

theorem mem_steps_outputOf {t : TypeDefinition} {s : Step} (h : s ∈ (outputOf g t).steps) :
    (∃ path imports, s = .converter t.name path imports) ∨ (t.kind = .enum ∧ s = .enum t) := by
  rcases outputOf_cases g t with ⟨e, eq⟩ | ⟨c, -, -, eq⟩ | ⟨c, path, imports, -, -, eq⟩ | ⟨enum, eq⟩
  · rw [eq] at h
    exact absurd h List.not_mem_nil
  · rw [eq] at h
    exact absurd h List.not_mem_nil
  · rw [eq] at h
    have h : s ∈ [Step.converter t.name path imports] := h
    exact Or.inl ⟨path, imports, List.mem_singleton.mp h⟩
  · rw [eq] at h
    have h : s ∈ [Step.enum t] := h
    exact Or.inr ⟨enum, List.mem_singleton.mp h⟩

/-- The values of a type without selections are read by no class, or by that of an enum type, which
is asked for. -/
theorem outputOf_eq_ok {t : TypeDefinition} {c : Conversion}
    (h : (outputOf g t).result = .ok c) : (t.kind = .scalar ∧ c.dependency? = none) ∨
      (t.kind = .enum ∧ c = readByEnum (Naming.typeClassName t.name) ∧
        .enum t ∈ (outputOf g t).steps) := by
  rcases outputOf_cases g t with
    ⟨e, eq⟩ | ⟨c, scalar, no, eq⟩ | ⟨c, path, imports, scalar, no, eq⟩ | ⟨enum, eq⟩
  · rw [eq] at h
    cases h
  · rw [eq] at h
    cases h
    exact Or.inl ⟨scalar, no⟩
  · rw [eq] at h
    cases h
    exact Or.inl ⟨scalar, no⟩
  · rw [eq] at h ⊢
    cases h
    exact Or.inr ⟨enum, rfl, List.mem_cons_self⟩

/-! ## Fields -/

/-- How the bare value of a field that is met is converted. -/
def Site.conversion (x : Site) (g : Setting) (definition : FieldDefinition) : Plan Conversion :=
  fieldConversion g x.fragments x.place x.field definition x.selections

/-- The place of the selection under a field that is met. -/
def Site.under (x : Site) (s : Schema) (t : TypeDefinition) : Place := x.place.under s x.field t

/-- Going through the selection under a field that is met. -/
def Site.inner (x : Site) (g : Setting) (t : TypeDefinition) : Plan Members :=
  select g x.fragments (x.under g.schema t) x.selections {}

/-- All that converting a field can do: fail, convert a scalar or enum, or have a class read what is
selected under the field. -/
theorem conversion_cases (g : Setting) (x : Site) (definition : FieldDefinition) :
    (∃ e, x.conversion g definition = .fail e) ∨
    ∃ t, typeNamed g.schema definition.type.bareName = .ok t ∧
      ((t.kind.isComposite = false ∧ x.conversion g definition = outputOf g t) ∨
      (t.kind.isComposite = true ∧ x.conversion g definition = (do
        let members ← x.inner g t
        Plan.step (.leaf (leafOf (x.under g.schema t) g.schema members))
        return readByClass (x.under g.schema t).className))) := by
  unfold Site.conversion
  rw [fieldConversion]
  cases typeNamed g.schema definition.type.bareName with
  | error e => exact Or.inl ⟨e, rfl⟩
  | ok t =>
    simp only [Plan.ofExcept_ok, pure_bind]
    by_cases composite : t.kind.isComposite = true
    · rw [if_pos composite]
      by_cases none : x.selections.isEmpty = true
      · rw [if_pos none]
        exact Or.inl ⟨_, rfl⟩
      · rw [if_neg none]
        exact Or.inr ⟨t, rfl, Or.inr ⟨composite, rfl⟩⟩
    · rw [if_neg composite]
      split
      · exact Or.inl ⟨_, rfl⟩
      · exact Or.inr ⟨t, rfl, Or.inl ⟨by simpa using composite, rfl⟩⟩

/-- A field that is converted has a reading. -/
theorem conversionOf_of_conversion {x : Site} {definition : FieldDefinition} {c : Conversion}
    (h : (x.conversion g definition).result = .ok c) :
    ∃ t, typeNamed g.schema definition.type.bareName = .ok t ∧
      conversionOf g x.place x.field t = .ok c := by
  rcases conversion_cases g x definition with ⟨e, fails⟩ | ⟨t, type, ⟨simple, eq⟩ | ⟨composite, eq⟩⟩
  · rw [fails] at h
    cases h
  · refine ⟨t, type, ?_⟩
    unfold conversionOf
    rw [if_neg (by simp [simple]), ← eq, h]
  · refine ⟨t, type, ?_⟩
    unfold conversionOf
    rw [eq, Plan.bind_eq_ok_iff] at h
    obtain ⟨members, -, h⟩ := h
    rw [if_pos composite]
    exact h

theorem conversion_eq_outputOf {x : Site} {definition : FieldDefinition} {c : Conversion}
    {t : TypeDefinition} (h : (x.conversion g definition).result = .ok c)
    (type : typeNamed g.schema definition.type.bareName = .ok t)
    (simple : t.kind.isComposite = false) : x.conversion g definition = outputOf g t := by
  rcases conversion_cases g x definition with ⟨e, fails⟩ | ⟨t', type', cases⟩
  · rw [fails] at h
    cases h
  · cases type.symm.trans type'
    rcases cases with ⟨-, eq⟩ | ⟨composite, -⟩
    · exact eq
    · simp [simple] at composite

/-- What is selected under a composite field that is converted has members, and its class is made
of them. -/
theorem leaf_mem_steps {x : Site} {definition : FieldDefinition} {c : Conversion}
    {t : TypeDefinition} (h : (x.conversion g definition).result = .ok c)
    (type : typeNamed g.schema definition.type.bareName = .ok t)
    (composite : t.kind.isComposite = true) :
    ∃ members, (x.inner g t).result = .ok members ∧
      (x.inner g t).steps ⊆ (x.conversion g definition).steps ∧
      .leaf (leafOf (x.under g.schema t) g.schema members) ∈ (x.conversion g definition).steps := by
  rcases conversion_cases g x definition with ⟨e, fails⟩ | ⟨t', type', cases⟩
  · rw [fails] at h
    cases h
  · cases type.symm.trans type'
    rcases cases with ⟨simple, -⟩ | ⟨-, eq⟩
    · simp [composite] at simple
    · rw [eq, Plan.bind_eq_ok_iff] at h
      obtain ⟨members, ok, -⟩ := h
      refine ⟨members, ok, ?_⟩
      rw [eq, Plan.steps_bind ok]
      exact ⟨List.subset_append_left _ _, List.mem_append_right _ List.mem_cons_self⟩

/-- The steps of converting a field are those of going through the selection under it, then its
class. -/
theorem leaf_of_mem_steps {x : Site} {definition : FieldDefinition} {r : Leaf}
    (h : .leaf r ∈ (x.conversion g definition).steps) :
    ∃ t, typeNamed g.schema definition.type.bareName = .ok t ∧ t.kind.isComposite = true ∧
      (.leaf r ∈ (x.inner g t).steps ∨ ∃ members, (x.inner g t).result = .ok members ∧
        r = leafOf (x.under g.schema t) g.schema members) := by
  rcases conversion_cases g x definition with ⟨e, fails⟩ | ⟨t, type, ⟨simple, eq⟩ | ⟨composite, eq⟩⟩
  · rw [fails] at h
    exact absurd h List.not_mem_nil
  · rw [eq] at h
    rcases mem_steps_outputOf h with ⟨_, _, e⟩ | ⟨-, e⟩ <;> cases e
  · refine ⟨t, type, composite, ?_⟩
    rw [eq] at h
    rcases Plan.mem_steps_bind.mp h with h | ⟨members, ok, h⟩
    · exact Or.inl h
    · have last : Step.leaf r ∈ [Step.leaf (leafOf (x.under g.schema t) g.schema members)] := h
      exact Or.inr ⟨members, ok, by simpa using last⟩

/-! ## Selection sets -/

/-- All that adding the members of a field can do: fail, before or after its steps, or add its
reading. -/
theorem addSite_ok {members after : Members} {a : Except GenerationError Site}
    (h : (addSite g members a).result = .ok after) :
    ∃ x r, a = .ok x ∧ readingOf g x.place x.field = .ok r ∧
      (x.conversion g r.definition).result = .ok r.conversion ∧
      (addSite g members a).steps = (x.conversion g r.definition).steps ∧
      after = members.add r.accessor (r.path x.place x.field) r.conversion.dependency? := by
  cases a with
  | error e => cases h
  | ok x =>
    unfold addSite at h ⊢
    simp only [Plan.ofExcept_bind_eq_ok_iff] at h
    obtain ⟨accessor, ha, definition, hd, h⟩ := h
    obtain ⟨c, hc, h⟩ := Plan.bind_eq_ok_iff.mp h
    cases h
    obtain ⟨t, ht, hconv⟩ := conversionOf_of_conversion hc
    refine ⟨x, ⟨accessor, definition, t, c⟩, rfl, ?_, hc, ?_, rfl⟩
    · exact readingOf_eq_ok_iff.mpr ⟨ha, hd, ht, hconv⟩
    · simp only [ha, hd, Plan.ofExcept_ok, pure_bind]
      rw [Plan.steps_bind hc]
      exact List.append_nil _

/-- The steps of adding the members of a field are those of its conversion, if it is converted. -/
theorem steps_addSite (g : Setting) (members : Members) (a : Except GenerationError Site) :
    (addSite g members a).steps = [] ∨ ∃ x definition, a = .ok x ∧
      fieldDefinition g.schema x.place.owner x.field.name = .ok definition ∧
      (addSite g members a).steps = (x.conversion g definition).steps := by
  cases a with
  | error e => exact Or.inl rfl
  | ok x =>
    simp only [addSite]
    cases accessorOf x.place x.field with
    | error e => exact Or.inl rfl
    | ok accessor =>
      cases hd : fieldDefinition g.schema x.place.owner x.field.name with
      | error e => exact Or.inl rfl
      | ok definition =>
        refine Or.inr ⟨x, definition, rfl, hd, ?_⟩
        simp only [Plan.ofExcept_ok, pure_bind]
        cases hc : (x.conversion g definition).result with
        | error e => exact Plan.steps_bind_error hc
        | ok c => exact (Plan.steps_bind hc).trans (List.append_nil _)

/-- What members become with those of the fields that are met. -/
structure Gathered (g : Setting) (met : List (Except GenerationError Site))
    (before after : Members) (steps : List Step) : Prop where
  /-- Every field has been read. -/
  read : ∀ a ∈ met, ∃ x r, a = .ok x ∧ readingOf g x.place x.field = .ok r ∧
    (x.conversion g r.definition).result = .ok r.conversion ∧
    (x.conversion g r.definition).steps ⊆ steps
  accessors : ∀ name path, ReadsAlong after.accessors name path ↔
    ReadsAlong before.accessors name path ∨ ∃ x r, .ok x ∈ met ∧
      readingOf g x.place x.field = .ok r ∧ r.accessor = name ∧ r.path x.place x.field = path
  dependencies : ∀ d, d ∈ after.dependencies ↔ d ∈ before.dependencies ∨ ∃ x r, .ok x ∈ met ∧
    readingOf g x.place x.field = .ok r ∧ r.conversion.dependency? = some d
  distinct : (accessorNames before.accessors).Nodup → (accessorNames after.accessors).Nodup
  allRead : AllRead before.accessors → AllRead after.accessors

/-- What has been gathered from is fields only, no faults. -/
theorem Gathered.sound {met : List (Except GenerationError Site)} {before after : Members}
    {steps : List Step} (h : Gathered g met before after steps) :
    ∀ a ∈ met, ∃ x, a = .ok x := by
  intro a ha
  obtain ⟨x, -, e, -⟩ := h.read a ha
  exact ⟨x, e⟩

theorem Members.readsAlong_add {m : Members} {name n : String} {path q : Path}
    {dependency? : Option String} : ReadsAlong (m.add name path dependency?).accessors n q ↔
      ReadsAlong m.accessors n q ∨ (name = n ∧ path = q) := by
  unfold Members.add
  rw [readsAlong_addAccessor, List.mem_singleton, eq_comm (a := q)]

theorem Members.mem_dependencies_add {m : Members} {name d : String} {path : Path}
    {dependency? : Option String} : d ∈ (m.add name path dependency?).dependencies ↔
      d ∈ m.dependencies ∨ dependency? = some d := by
  unfold Members.add
  cases dependency? with
  | none => simp
  | some n => simp [or_comm, eq_comm]

theorem gathered_of_foldlM {met : List (Except GenerationError Site)} {before after : Members}
    (h : (met.foldlM (addSite g) before).result = .ok after) :
    Gathered g met before after (met.foldlM (addSite g) before).steps := by
  induction met generalizing before with
  | nil =>
    cases h
    exact ⟨by simp, by simp, by simp, id, id⟩
  | cons first rest ih =>
    rw [List.foldlM_cons] at h ⊢
    obtain ⟨next, hn, h⟩ := Plan.bind_eq_ok_iff.mp h
    rw [Plan.steps_bind hn]
    obtain ⟨x, r, rfl, hr, hc, hs, rfl⟩ := addSite_ok hn
    have later := ih h
    constructor
    · intro a ha
      rcases List.mem_cons.mp ha with rfl | ha
      · exact ⟨x, r, rfl, hr, hc, hs ▸ List.subset_append_left _ _⟩
      · obtain ⟨y, ry, rfl, hry, hcy, hsy⟩ := later.read a ha
        exact ⟨y, ry, rfl, hry, hcy, List.Subset.trans hsy (List.subset_append_right _ _)⟩
    · intro name path
      rw [later.accessors, Members.readsAlong_add]
      simp only [List.mem_cons]
      constructor
      · rintro ((h | ⟨rfl, rfl⟩) | ⟨y, ry, hy, h⟩)
        · exact Or.inl h
        · exact Or.inr ⟨x, r, Or.inl rfl, hr, rfl, rfl⟩
        · exact Or.inr ⟨y, ry, Or.inr hy, h⟩
      · rintro (h | ⟨y, ry, e | hy, h⟩)
        · exact Or.inl (Or.inl h)
        · cases e
          cases hr.symm.trans h.1
          exact Or.inl (Or.inr h.2)
        · exact Or.inr ⟨y, ry, hy, h⟩
    · intro d
      rw [later.dependencies, Members.mem_dependencies_add]
      simp only [List.mem_cons]
      constructor
      · rintro ((h | h) | ⟨y, ry, hy, h⟩)
        · exact Or.inl h
        · exact Or.inr ⟨x, r, Or.inl rfl, hr, h⟩
        · exact Or.inr ⟨y, ry, Or.inr hy, h⟩
      · rintro (h | ⟨y, ry, e | hy, h⟩)
        · exact Or.inl (Or.inl h)
        · cases e
          cases hr.symm.trans h.1
          exact Or.inl (Or.inr h.2)
        · exact Or.inr ⟨y, ry, hy, h⟩
    · intro distinct
      exact later.distinct (nodup_addAccessor distinct _)
    · intro allRead
      exact later.allRead (allRead_addAccessor allRead (List.cons_ne_nil _ _))

/-- The steps of going through fields are those of their conversions. -/
theorem mem_steps_foldlM {met : List (Except GenerationError Site)} {members : Members} {s : Step}
    (h : s ∈ (met.foldlM (addSite g) members).steps) :
    ∃ x definition, .ok x ∈ met ∧
      fieldDefinition g.schema x.place.owner x.field.name = .ok definition ∧
      s ∈ (x.conversion g definition).steps := by
  induction met generalizing members with
  | nil => exact absurd h List.not_mem_nil
  | cons first rest ih =>
    rw [List.foldlM_cons] at h
    rcases Plan.mem_steps_bind.mp h with h | ⟨next, -, h⟩
    · rcases steps_addSite g members first with none | ⟨x, definition, rfl, hd, eq⟩
      · rw [none] at h
        exact absurd h List.not_mem_nil
      · exact ⟨x, definition, List.mem_cons_self, hd, eq ▸ h⟩
    · obtain ⟨x, definition, hx, hd, hs⟩ := ih h
      exact ⟨x, definition, List.mem_cons_of_mem _ hx, hd, hs⟩

/-! ## What a selection set gives -/

/-- The members are the readings of the fields that a selection set selects. -/
structure Gives (g : Setting) (fragments : List Fragment) (p : Place) (selections : List Selection)
    (members : Members) : Prop where
  read : ∀ q f inner, Selects g.schema fragments p selections q f inner →
    ∃ r, readingOf g q f = .ok r
  accessors : ∀ name path, ReadsAlong members.accessors name path ↔
    ∃ q f inner r, Selects g.schema fragments p selections q f inner ∧
      readingOf g q f = .ok r ∧ r.accessor = name ∧ r.path q f = path
  dependencies : ∀ d, d ∈ members.dependencies ↔
    ∃ q f inner r, Selects g.schema fragments p selections q f inner ∧
      readingOf g q f = .ok r ∧ r.conversion.dependency? = some d
  distinct : (accessorNames members.accessors).Nodup
  allRead : AllRead members.accessors

variable {outer fragments : List Fragment} {p : Place} {selections : List Selection}
  {before members : Members}

theorem gathered_of_select (h : (select g fragments p selections before).result = .ok members) :
    Gathered g (survey g.schema fragments p selections) before members
      (select g fragments p selections before).steps := by
  rw [select_eq_foldlM] at h ⊢
  exact gathered_of_foldlM h

/-- **A selection set gives its class the readings of the fields that it selects**, of all and of no
others. -/
theorem gives_of_select (known : Known fragments outer)
    (h : (select g fragments p selections {}).result = .ok members) :
    Gives g outer p selections members := by
  have gathered := gathered_of_select h
  have sound := gathered.sound
  constructor
  · intro q f inner selected
    obtain ⟨x, hx, rfl, rfl, -, -⟩ := mem_survey_of_selects selected known sound
    obtain ⟨y, r, e, hr, -⟩ := gathered.read _ hx
    cases e
    exact ⟨r, hr⟩
  · intro name path
    rw [gathered.accessors, or_iff_right not_readsAlong_nil]
    constructor
    · rintro ⟨x, r, hx, h⟩
      exact ⟨_, _, _, r, (selects_of_mem_survey known hx).1, h⟩
    · rintro ⟨q, f, inner, r, selected, h⟩
      obtain ⟨x, hx, rfl, rfl, -, -⟩ := mem_survey_of_selects selected known sound
      exact ⟨x, r, hx, h⟩
  · intro d
    rw [gathered.dependencies, or_iff_right (NameSet.not_mem_empty d)]
    constructor
    · rintro ⟨x, r, hx, h⟩
      exact ⟨_, _, _, r, (selects_of_mem_survey known hx).1, h⟩
    · rintro ⟨q, f, inner, r, selected, h⟩
      obtain ⟨x, hx, rfl, rfl, -, -⟩ := mem_survey_of_selects selected known sound
      exact ⟨x, r, hx, h⟩
  · exact gathered.distinct (by simp [accessorNames])
  · exact gathered.allRead allRead_nil

/-- What is selected under a composite field gives members as well, and its class is made of
them. -/
theorem exists_leaf_of_selects (known : Known fragments outer)
    (h : (select g fragments p selections before).result = .ok members) {q : Place} {f : Field}
    {inner : List Selection} {r : Reading}
    (selected : Selects g.schema outer p selections q f inner) (hr : readingOf g q f = .ok r)
    (composite : r.type.kind.isComposite = true) :
    ∃ left under, Known left outer ∧
      (select g left (q.under g.schema f r.type) inner {}).result = .ok under ∧
      (select g left (q.under g.schema f r.type) inner {}).steps ⊆
        (select g fragments p selections before).steps ∧
      .leaf (leafOf (q.under g.schema f r.type) g.schema under) ∈
        (select g fragments p selections before).steps := by
  have gathered := gathered_of_select h
  obtain ⟨x, hx, rfl, rfl, rfl, known'⟩ := mem_survey_of_selects selected known gathered.sound
  obtain ⟨y, ry, e, hry, hc, hs⟩ := gathered.read _ hx
  cases e
  cases hr.symm.trans hry
  obtain ⟨under, ok, sub, mem⟩ := leaf_mem_steps hc (readingOf_eq_ok_iff.mp hr).2.2.1 composite
  exact ⟨x.fragments, under, known', ok, List.Subset.trans sub hs, hs mem⟩

/-- A field without selections reads scalars, or the values of an enum type, whose class is asked
for. -/
theorem simple_of_selects (known : Known fragments outer)
    (h : (select g fragments p selections before).result = .ok members) {q : Place} {f : Field}
    {inner : List Selection} {r : Reading}
    (selected : Selects g.schema outer p selections q f inner) (hr : readingOf g q f = .ok r)
    (simple : r.type.kind.isComposite = false) :
    (r.type.kind = .scalar ∧ r.conversion.dependency? = none) ∨
      (r.type.kind = .enum ∧ r.conversion = readByEnum (Naming.typeClassName r.type.name) ∧
        .enum r.type ∈ (select g fragments p selections before).steps) := by
  have gathered := gathered_of_select h
  obtain ⟨x, hx, rfl, rfl, rfl, -⟩ := mem_survey_of_selects selected known gathered.sound
  obtain ⟨y, ry, e, hry, hc, hs⟩ := gathered.read _ hx
  cases e
  cases hr.symm.trans hry
  have eq := conversion_eq_outputOf hc (readingOf_eq_ok_iff.mp hr).2.2.1 simple
  rw [eq] at hc hs
  exact (outputOf_eq_ok hc).imp_right fun ⟨kind, reads, mem⟩ => ⟨kind, reads, hs mem⟩

/-! ## The classes under a selection set -/

/-- The selection sets of classes: one itself, and those under composite fields. -/
inductive Opens (g : Setting) (fragments : List Fragment) :
    Place → List Selection → Place → List Selection → Prop
  | here (p : Place) (selections : List Selection) : Opens g fragments p selections p selections
  | under {p q p' : Place} {selections inner selections' : List Selection} {f : Field}
      {definition : FieldDefinition} {t : TypeDefinition}
      (selected : Selects g.schema fragments p selections q f inner)
      (field : fieldDefinition g.schema q.owner f.name = .ok definition)
      (type : typeNamed g.schema definition.type.bareName = .ok t)
      (composite : t.kind.isComposite = true)
      (next : Opens g fragments (q.under g.schema f t) inner p' selections') :
      Opens g fragments p selections p' selections'

/-- **The classes under a selection set are those of composite fields under it.** -/
theorem opens_of_leaf_mem_steps (fragments : List Fragment) (selections : List Selection)
    {outer : List Fragment} (known : Known fragments outer) {p : Place} {before : Members}
    {r : Leaf}
    (h : .leaf r ∈ (select g fragments p selections before).steps) :
    ∃ q inner left members, Opens g outer p selections q inner ∧ Known left outer ∧
      (select g left q inner {}).result = .ok members ∧ r = leafOf q g.schema members := by
  induction fragments, selections using survey_induction generalizing p before with
  | step fragments selections ih =>
    rw [select_eq_foldlM] at h
    obtain ⟨x, definition, hx, hd, hs⟩ := mem_steps_foldlM h
    obtain ⟨selected, known'⟩ := selects_of_mem_survey known hx
    obtain ⟨t, ht, composite, inside | ⟨members, ok, rfl⟩⟩ := leaf_of_mem_steps hs
    · obtain ⟨q, inner, left, members, opens, h⟩ := ih _ _ x hx known' inside
      exact ⟨q, inner, left, members, .under selected hd ht composite opens, h⟩
    · exact ⟨_, _, x.fragments, members, .under selected hd ht composite (.here _ _), known',
        ok, rfl⟩

end QueryShape.Generation
