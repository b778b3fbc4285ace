import Mathlib
import QueryShape.Proofs.Generation.Generate

/-!
# What stays recorded

After a call that succeeds, every field that an operation of its document selects has its path in
the class of its place, and the class that reads its values is registered. Later calls take nothing
of that away, whether they succeed or fail.

* `recorded_of_selects`: the fields of a selection set whose class is registered are recorded.
* `registered_of_opens`: the classes of the selection sets under it are registered.
* `recorded_after`: the two, for all operations of all calls.
-/

namespace QueryShape.Generation

open Document Record Session Program.Thing

variable {s : Session} {g : Setting} {outer : List Fragment} {p : Place}
  {selections : List Selection}

/-! ## Recorded fields -/

/-- The field has its path under its accessor in the class of its place. If its values are not
scalars, the class of a selection or of an enum reads them, which is registered for their type, and
the class of the place depends on it. -/
def Recorded (s : Session) (g : Setting) (p : Place) (f : Field) : Prop :=
  ∃ r x, readingOf g p f = .ok r ∧ x ∈ s.registry.records ∧ x.name = p.className ∧
    ReadsAlong (accessorsOf x) r.accessor (r.path p f) ∧
    (r.type.kind ≠ .scalar → ∃ y ∈ s.registry.records,
      (r.conversion = readByClass y.name ∧ y.kind = .leaf ∨
        r.conversion = readByEnum y.name ∧ y.kind = .enum) ∧
      y.name ∈ x.dependencies ∧ y.graphqlType = r.definition.type.bareName)

/-- The selection set at a place has been gone through, and a class is registered that has its
members. -/
def Registered (s : Session) (g : Setting) (outer : List Fragment) (p : Place)
    (selections : List Selection) : Prop :=
  ∃ left members x, Known left outer ∧ (select g left p selections {}).result = .ok members ∧
    (∀ a ∈ (select g left p selections {}).steps, s.Did a) ∧
    x ∈ s.registry.records ∧ x.name = p.className ∧
    (∀ name path, ReadsAlong members.accessors name path →
      ReadsAlong (accessorsOf x) name path) ∧
    ∀ d ∈ members.dependencies, d ∈ x.dependencies

/-- **The fields that a selection set selects are recorded**, if its class is registered. -/
theorem recorded_of_selects (registered : Registered s g outer p selections) {q : Place} {f : Field}
    {inner : List Selection} (selected : Selects g.schema outer p selections q f inner) :
    Recorded s g q f := by
  obtain ⟨left, members, x, known, ok, did, hx, hn, reads, needs⟩ := registered
  have gives := gives_of_select known ok
  obtain ⟨r, hr⟩ := gives.read q f inner selected
  have typed := (type?_of_typeNamed (readingOf_eq_ok_iff.mp hr).2.2.1).2
  refine ⟨r, x, hr, hx, hn.trans selected.className_eq.symm, ?_, fun kind => ?_⟩
  · exact reads _ _ ((gives.accessors _ _).mpr ⟨q, f, inner, r, selected, hr, rfl, rfl⟩)
  · by_cases composite : r.type.kind.isComposite = true
    · obtain ⟨_, under, -, -, -, mem⟩ := exists_leaf_of_selects known ok selected hr composite
      obtain ⟨l, hl, hln, hlt, -⟩ := did _ mem
      have conversion := conversion_of_composite hr composite
      refine ⟨.leaf l, hl, Or.inl ⟨?_, rfl⟩, needs _ ((gives.dependencies _).mpr ?_),
        hlt.trans typed⟩
      · rw [conversion]
        exact congrArg readByClass hln.symm
      · refine ⟨q, f, inner, r, selected, hr, ?_⟩
        rw [conversion]
        exact congrArg some hln.symm
    · rcases simple_of_selects known ok selected hr (by simpa using composite) with
        ⟨scalar, -⟩ | ⟨-, conversion, mem⟩
      · exact absurd scalar kind
      · obtain ⟨e, he, hen, het⟩ := did _ mem
        refine ⟨.enum e, he, Or.inr ⟨?_, rfl⟩, needs _ ((gives.dependencies _).mpr ?_),
          het.trans typed⟩
        · rw [conversion]
          exact congrArg readByEnum hen.symm
        · refine ⟨q, f, inner, r, selected, hr, ?_⟩
          rw [conversion]
          exact congrArg some hen.symm

/-- The class of what is selected under a composite field is registered with it. -/
theorem registered_under (registered : Registered s g outer p selections) {q : Place} {f : Field}
    {inner : List Selection} (selected : Selects g.schema outer p selections q f inner)
    {definition : FieldDefinition} {t : TypeDefinition}
    (field : fieldDefinition g.schema q.owner f.name = .ok definition)
    (type : typeNamed g.schema definition.type.bareName = .ok t)
    (composite : t.kind.isComposite = true) :
    Registered s g outer (q.under g.schema f t) inner ∧
      ∃ l, .leaf l ∈ s.registry.records ∧ l.name = (q.under g.schema f t).className := by
  obtain ⟨left, members, x, known, ok, did, -⟩ := registered
  obtain ⟨r, hr⟩ := (gives_of_select known ok).read q f inner selected
  obtain ⟨-, hd, ht, -⟩ := readingOf_eq_ok_iff.mp hr
  cases field.symm.trans hd
  cases type.symm.trans ht
  obtain ⟨left', under, known', ok', sub, mem⟩ :=
    exists_leaf_of_selects known ok selected hr composite
  obtain ⟨l, hl, hn, -, reads, needs⟩ := did _ mem
  exact ⟨⟨left', under, .leaf l, known', ok', fun a ha => did a (sub ha), hl, hn, reads, needs⟩,
    l, hl, hn⟩

/-- **The classes of all selection sets under one are registered with it.** -/
theorem registered_of_opens {p' : Place} {selections' : List Selection}
    (opens : Opens g outer p selections p' selections') :
    Registered s g outer p selections → Registered s g outer p' selections' := by
  induction opens with
  | here => exact id
  | under selected field type composite next ih =>
    exact fun registered => ih (registered_under registered selected field type composite).1

/-- Under a selection set, what is selected has classes of selections. -/
theorem leaf_of_opens {p' : Place} {selections' : List Selection}
    (opens : Opens g outer p selections p' selections') :
    Registered s g outer p selections → p' = p ∨
      ∃ l, .leaf l ∈ s.registry.records ∧ l.name = p'.className := by
  induction opens with
  | here => exact fun _ => Or.inl rfl
  | under selected field type composite next ih =>
    intro registered
    obtain ⟨inside, leaf⟩ := registered_under registered selected field type composite
    rcases ih inside with rfl | deeper
    · exact Or.inr leaf
    · exact Or.inr deeper

/-- No field selection of a selection set that has been gone through is passed over. -/
theorem Registered.exists_selects (registered : Registered s g outer p selections) {f : Field}
    {inner : List Selection} (holds : Holds outer selections f inner)
    (asks : f.isPlainTypename = false) : ∃ q, Selects g.schema outer p selections q f inner := by
  obtain ⟨left, members, -, known, ok, -⟩ := registered
  exact exists_selects_of_holds holds asks known (gathered_of_select ok).sound

/-- The class of an operation is registered. -/
theorem registered_of_isClassOf {queryText name : String} {o : Operation} {root : TypeDefinition}
    {members : Members} {r : Root} (h : IsClassOf g outer queryText name o root members r)
    (did : ∀ a ∈ (select g outer (operationPlace name root) o.selections {}).steps, s.Did a)
    (mem : .root r ∈ s.registry.records) :
    Registered s g outer (operationPlace name root) o.selections := by
  refine ⟨outer, members, .root r, .refl outer, h.selected, did, mem, h.name_eq, ?_,
    h.dependencies⟩
  intro n path reads
  change ReadsAlong r.accessors n path
  rwa [h.accessors]

/-! ## Calls -/

/-- The call succeeds on the session. -/
def Succeeds (s : Session) (g : Generator) (d : Declaration) : Prop :=
  ((g.generate d).outcome s).1 = .ok ()

theorem outcome_eq_of_succeeds {s : Session} {g : Generator} {d : Declaration}
    (h : Succeeds s g d) : (g.generate d).outcome s = (.ok (), ((g.generate d).outcome s).2) :=
  Prod.ext h rfl

theorem hasOperations_of_succeeds (sound : s.Sound fun _ => True) {g : Generator} {d : Declaration}
    (h : Succeeds s g d) : HasOperations ((g.generate d).outcome s).2 g d := by
  have ends := ends_generate closed_true sound g d fun _ _ => trivial
  unfold Run.Ends at ends
  unfold Succeeds at h
  split at ends
  · next eq =>
    rw [eq]
    exact ends.2
  · next eq =>
    rw [eq] at h
    cases h

theorem after_append (s : Session) (calls : List (Generator × Declaration))
    (call : Generator × Declaration) (later : List (Generator × Declaration)) :
    after s (calls ++ call :: later) =
      after ((call.1.generate call.2).outcome (after s calls)).2 later := by
  unfold after
  rw [List.foldl_append, List.foldl_cons]

/-- What a call that succeeds has registered, all later sessions have. -/
theorem hasOperations_after {before : List (Generator × Declaration)} {g : Generator}
    {d : Declaration} (h : Succeeds (after {} before) g d)
    (later : List (Generator × Declaration)) :
    HasOperations (after {} (before ++ (g, d) :: later)) g d := by
  have sound := sound_after closed_true before fun _ _ _ _ _ => trivial
  have next := leads_generate closed_true sound g d fun _ _ => trivial
  rw [after_append]
  exact (hasOperations_of_succeeds sound h).of_grows
    (leads_after closed_true next.sound later fun _ _ _ _ _ => trivial).grows

/-- A selection set of an operation of the document: its own, or one under a composite field. -/
def OpenedBy (g : Generator) (q : Request) (p : Place) (selections : List Selection) : Prop :=
  ∃ name o root, (name, o) ∈ q.operations ∧ rootType g.schema o = .ok root ∧
    Opens g.toSetting q.fragments (operationPlace name root) o.selections p selections

/-- An operation of the document selects the field at the place. -/
def AsksFor (g : Generator) (d : Declaration) (p : Place) (f : Field) : Prop :=
  ∃ q under selections inner, g.asks d = .ok q ∧ OpenedBy g q under selections ∧
    Selects g.schema q.fragments under selections p f inner

theorem HasOperations.registered {g : Generator} {d : Declaration} (h : HasOperations s g d)
    {q : Request} (asked : g.asks d = .ok q) (opened : OpenedBy g q p selections) :
    Registered s g.toSetting q.fragments p selections := by
  obtain ⟨name, o, root, ho, rooted, opens⟩ := opened
  obtain ⟨root', members, r, isClass, did, mem⟩ := h.hasOperation asked ho
  cases rooted.symm.trans isClass.rooted
  exact registered_of_opens opens (registered_of_isClassOf isClass did mem)

theorem HasOperations.recorded {g : Generator} {d : Declaration} (h : HasOperations s g d)
    {f : Field} (asks : AsksFor g d p f) : Recorded s g.toSetting p f := by
  obtain ⟨q, under, selections, inner, asked, opened, selected⟩ := asks
  exact recorded_of_selects (h.registered asked opened) selected

/-- **No selection is lost.** After a call that succeeds and any later calls: in the selection set
of every operation of its document, and in every one under a composite field, each field selection
that does not just ask for the type name stands at some place, and wherever it stands, it is
recorded. -/
theorem recorded_after (before : List (Generator × Declaration)) (g : Generator) (d : Declaration)
    (succeeds : Succeeds (after {} before) g d) (later : List (Generator × Declaration)) :
    ∃ q, g.asks d = .ok q ∧
      (∀ name o, (name, o) ∈ q.operations → ∃ root, rootType g.schema o = .ok root) ∧
      ∀ p selections, OpenedBy g q p selections →
        ∀ f inner, Holds q.fragments selections f inner → f.isPlainTypename = false →
          (∃ place, Selects g.schema q.fragments p selections place f inner) ∧
          ∀ place, Selects g.schema q.fragments p selections place f inner →
            Recorded (after {} (before ++ (g, d) :: later)) g.toSetting place f := by
  have has := hasOperations_after succeeds later
  obtain ⟨q, asked, all⟩ := has
  refine ⟨q, asked, fun name o ho => ?_, fun p selections opened f inner holds asks => ?_⟩
  · obtain ⟨root, members, r, isClass, -, -⟩ := all name o ho
    exact ⟨root, isClass.rooted⟩
  · have registered := HasOperations.registered ⟨q, asked, all⟩ asked opened
    exact ⟨registered.exists_selects holds asks, fun place selected =>
      recorded_of_selects registered selected⟩

/-! ## A small schema -/

/-- A schema with two fields of scalars on the query type, and an object with the same two. -/
def sample : Schema where
  types :=
    [{ name := "Query"
       body := .object [] [{ name := "a", type := .named "String" },
         { name := "b", type := .named "String" }, { name := "u", type := .named "U" }] },
     { name := "U"
       body := .object [] [{ name := "a", type := .named "String" },
         { name := "b", type := .named "String" }] },
     { name := "String", body := .scalar }]
  query? := some "Query"

/-- A generator for the schema that does not check documents. -/
def sampleGenerator : Generator := { schema := sample, validates := false }

/-- A document that selects a field through a fragment. -/
def spreading : Declaration := { text := "query Qa{u{...F}}fragment F on U{a}" }

theorem asks_spreading : ∃ text, sampleGenerator.asks spreading = .ok
    { operations := [("Qa", { kind := .query, name? := some "Qa"
                              selections := [.field { name := "u" } [.spread "F" []]] })]
      fragments := [{ name := "F", condition := "U", selections := [.field { name := "a" } []] }]
      queryText := text } := by
  have read : readDocument (sampleGenerator.hooks.runBefore spreading) = .ok
      [.operation { kind := .query, name? := some "Qa"
                    selections := [.field { name := "u" } [.spread "F" []]] },
       .fragment { name := "F", condition := "U", selections := [.field { name := "a" } []] }] := by
    cbv
  unfold Generator.asks Generator.request
  rw [read]
  exact ⟨_, rfl⟩

theorem succeeds_spreading : Succeeds {} sampleGenerator spreading := by
  obtain ⟨text, asked⟩ := asks_spreading
  unfold Succeeds
  rw [outcome_generate asked]
  cbv

/-- The document's fields are recorded, also after it has been tried a second time. -/
theorem recorded_after_spreading : Succeeds (after {} []) sampleGenerator spreading ∧
    ∃ q, sampleGenerator.asks spreading = .ok q ∧
      (∀ name o, (name, o) ∈ q.operations → ∃ root, rootType sample o = .ok root) ∧
      ∀ p selections, OpenedBy sampleGenerator q p selections →
        ∀ f inner, Holds q.fragments selections f inner → f.isPlainTypename = false →
          (∃ place, Selects sample q.fragments p selections place f inner) ∧
          ∀ place, Selects sample q.fragments p selections place f inner →
            Recorded
              (after {} ([] ++ (sampleGenerator, spreading) :: [(sampleGenerator, spreading)]))
              sampleGenerator.toSetting place f :=
  ⟨succeeds_spreading, recorded_after [] sampleGenerator spreading succeeds_spreading
    [(sampleGenerator, spreading)]⟩

/-! ## Selections under scalars -/

/-- A document that selects a field of a scalar, which checking it would have excluded. -/
def underScalar : Declaration := { text := "query Qa{a{b}}" }

theorem asks_underScalar : ∃ text, sampleGenerator.asks underScalar = .ok
    { operations := [("Qa", { kind := .query, name? := some "Qa"
                              selections := [.field { name := "a" } [.field { name := "b" } []]] })]
      fragments := [], queryText := text } := by
  have read : readDocument (sampleGenerator.hooks.runBefore underScalar) = .ok
      [.operation { kind := .query, name? := some "Qa"
                    selections := [.field { name := "a" } [.field { name := "b" } []]] }] := by
    cbv
  unfold Generator.asks Generator.request
  rw [read]
  exact ⟨_, rfl⟩

/-- **What is selected under a scalar is lost** where documents are not checked: the call succeeds,
and no class has an accessor for it. -/
theorem lost_under_scalar : Succeeds {} sampleGenerator underScalar ∧
    (∃ q o f inner, sampleGenerator.asks underScalar = .ok q ∧ ("Qa", o) ∈ q.operations ∧
      .field f inner ∈ o.selections ∧ .field { name := "b" } [] ∈ inner) ∧
    ∀ x ∈ (after {} [(sampleGenerator, underScalar)]).registry.records,
      "b" ∉ accessorNames (accessorsOf x) := by
  obtain ⟨text, asked⟩ := asks_underScalar
  refine ⟨?_, ⟨_, _, _, _, asked, List.mem_cons_self, List.mem_cons_self, List.mem_cons_self⟩, ?_⟩
  · unfold Succeeds
    rw [outcome_generate asked]
    cbv
  · have none : (((sampleGenerator.generate underScalar).outcome {}).2.registry.records.all
        fun x => decide ("b" ∉ accessorNames (accessorsOf x))) = true := by
      rw [outcome_generate asked]
      cbv
    simpa [after] using none

end QueryShape.Generation
