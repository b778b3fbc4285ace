import Mathlib
import QueryShape.Proofs.Generation.Faults
import QueryShape.Proofs.Generation.Generate
import QueryShape.Proofs.Validation.Cycles

/-!
# Generating from valid documents

Validation follows the type at every place of a document, and generation looks the same types up
again on its own way. `Tracks` is what the two have in common at a place. It is kept by every field,
inline fragment and spread of a valid document, so generation meets no type, field or fragment that
it cannot use.

* `exists_field`, `exists_inline`, `exists_spread`: one step of the way into a selection set.
* `exists_of_mem_survey`: all steps, at any depth and inside every fragment.
* `generate_of_valid`: the errors that are left.
-/

namespace QueryShape.Generation

open Document Record Schema Validation Relation

/-! ## Valid documents -/

/-- A schema that has been made and is sound, and a document that the rules pass everywhere. -/
structure IsValid (c : Context) : Prop where
  made : IsMade c.schema
  sound : c.schema.isSound = true
  passes : ∀ v ∈ visits c.schema c.document, Passes c v

/-- The rules pass all places of the selections, which select on the type at hand. -/
def Clean (c : Context) (scope : Scope) (selections : List Selection) : Prop :=
  ∀ a ∈ selections, ∃ path, ∀ v ∈ selectionVisits c.schema (scope.selecting c.schema) path a,
    Passes c v

/-- The type at hand is known, and has members to select. -/
structure Tracks (s : Schema) (scope : Scope) (t : TypeDefinition) : Prop where
  known : ∃ type, scope.type? = some type ∧ s.type? type.bareName = some t
  composite : t.kind.isComposite = true
  executable : scope.inTypeDefinition = false
  outside : scope.inDirective = false ∧ scope.directive? = none

/-- The fragments that the selections reach are there. -/
def Available (c : Context) (fragments : List Fragment) (selections : List Selection) : Prop :=
  ∀ name ∈ spreads selections, ∀ reached, ReflTransGen (SpreadIn c) reached name →
    fragmentNamed? fragments reached = c.fragment? reached

variable {c : Context} {scope : Scope} {selections : List Selection}

theorem IsValid.noFragmentInItself (valid : IsValid c) : NoFragmentInItself c :=
  noFragmentInItself_of_passes valid.passes

theorem clean_of_visits (path : List Nat)
    (h : ∀ v ∈ selectionSetVisits c.schema scope path selections, Passes c v) :
    Clean c scope selections := by
  intro a ha
  obtain ⟨path', sub⟩ := selectionVisits_subset c.schema scope path ha
  exact ⟨path', fun v hv => h v (sub hv)⟩

theorem Clean.of_subset {some : List Selection} (h : Clean c scope selections)
    (sub : some ⊆ selections) : Clean c scope some := fun a ha => h a (sub ha)

theorem Tracks.parent? {s : Schema} {t : TypeDefinition} (h : Tracks s scope t) :
    (scope.selecting s).parent? = some t := by
  obtain ⟨type, at_, found⟩ := h.known
  simp [Scope.selecting, compositeOf?, at_, found, h.composite]

theorem Tracks.mem {s : Schema} {t : TypeDefinition} (h : Tracks s scope t) : t ∈ s.types := by
  obtain ⟨type, -, found⟩ := h.known
  exact List.mem_of_find?_eq_some found

/-! ## Spreads -/

theorem mem_spreadsOfRest {name : String} :
    name ∈ spreadsOfRest selections ↔ ∃ a ∈ selections, name ∈ spreadsInside a := by
  induction selections with
  | nil => simp [spreadsOfRest]
  | cons first rest ih =>
    rw [spreadsOfRest, List.mem_append, ih, List.exists_mem_cons_iff, or_comm]

/-- A fragment is spread in a selection set by one of its selections, or inside one. -/
theorem mem_spreads {name : String} : name ∈ spreads selections ↔
    ∃ a ∈ selections, spreadOf? a = some name ∨ name ∈ spreadsInside a := by
  rw [spreads, List.mem_append, List.mem_filterMap, mem_spreadsOfRest]
  simp only [and_or_left, exists_or]

theorem Available.of_subset {fragments : List Fragment} {some : List Selection}
    (h : Available c fragments selections) (sub : spreads some ⊆ spreads selections) :
    Available c fragments some := fun name hn => h name (sub hn)

theorem spreads_subset {some : List Selection} (sub : some ⊆ selections) :
    spreads some ⊆ spreads selections := by
  intro name hn
  obtain ⟨a, ha, isSpread⟩ := mem_spreads.mp hn
  exact mem_spreads.mpr ⟨a, sub ha, isSpread⟩

theorem spreads_field_subset {f : Field} {inner : List Selection}
    (mem : .field f inner ∈ selections) : spreads inner ⊆ spreads selections :=
  fun _ hn => mem_spreads.mpr ⟨_, mem, Or.inr (by rwa [spreadsInside])⟩

theorem spreads_inline_subset {condition? : Option String} {directives : List Directive}
    {inner : List Selection} (mem : .inline condition? directives inner ∈ selections) :
    spreads inner ⊆ spreads selections :=
  fun _ hn => mem_spreads.mpr ⟨_, mem, Or.inr (by rwa [spreadsInside])⟩

/-- Inside a fragment that is spread all that it reaches is there, although it is not itself. -/
theorem Available.inside (acyclic : NoFragmentInItself c) {fragments : List Fragment}
    (h : Available c fragments selections) {name : String} {directives : List Directive}
    (mem : .spread name directives ∈ selections) {f : Fragment}
    (known : c.fragment? name = some f) :
    Available c (otherFragments fragments name) f.selections := by
  have isSpread : name ∈ spreads selections := mem_spreads.mpr ⟨_, mem, Or.inl rfl⟩
  intro inner hi reached reaches
  have below : TransGen (SpreadIn c) reached name := .tail' reaches ⟨f, known, hi⟩
  have different : reached ≠ name := by
    rintro rfl
    exact acyclic reached below
  rw [fragmentNamed?_otherFragments different]
  exact h name isSpread reached below.to_reflTransGen

/-! ## What single rules say -/

/-- A valid document defines no types. -/
theorem IsValid.no_type (valid : IsValid c) {t : TypeDefinition} : .type t ∉ c.document := by
  intro mem
  have here := valid.passes ⟨{}, .documentStart⟩ List.mem_cons_self executableDefinitions
    (by simp [rulesBeforeOverlap])
  exact Option.some_ne_none _ (List.filterMap_eq_nil_iff.mp here _ mem)

/-- A type that is named is one of the schema. -/
theorem exists_type_of_passes (valid : IsValid c) {name : String}
    (h : Passes c ⟨scope, .typeName name⟩) (executable : scope.inTypeDefinition = false) :
    ∃ t, c.schema.type? name = some t := by
  have here := h knownTypeNames (by simp [rulesBeforeOverlap])
  unfold knownTypeNames at here
  dsimp only at here
  split at here
  · next known =>
    rw [executable, Bool.false_and, Bool.or_false, List.contains_iff_mem, List.mem_append,
      List.mem_map, List.mem_filterMap] at known
    rcases known with ⟨t, mem, rfl⟩ | ⟨d, mem, own⟩
    · obtain ⟨found, -, isType, -⟩ := exists_type? mem
      exact ⟨found, isType⟩
    · split at own
      · exact absurd mem valid.no_type
      · cases own
  · cases here

/-- The condition of a fragment is on a type with members to select. -/
theorem isComposite_of_other {name : String} {t : TypeDefinition}
    (found : c.schema.type? name = some t) (h : isOtherThanComposite c name = false) :
    t.kind.isComposite = true := by
  simpa [isOtherThanComposite, kind?, found] using h

/-! ## Steps into a selection set -/

variable {t : TypeDefinition}

/-- What is known of a field of a valid document: it has a definition, with a type that can be read,
and below it the rules pass. -/
structure GoodField (c : Context) (owner : TypeDefinition) (f : Field) (inner : List Selection)
    (d : FieldDefinition) (t : TypeDefinition) (scope : Scope) : Prop where
  defined : fieldDefinition c.schema owner f.name = .ok d
  named : typeNamed c.schema d.type.bareName = .ok t
  output : t.kind.isOutput = true
  clean : Clean c scope inner
  selected : t.kind.isComposite = true → inner ≠ [] ∧ Tracks c.schema scope t
  leaf : t.kind.isLeaf = true → inner = []
  arguments : ∀ a ∈ f.arguments, ∃ v ∈ d.arguments, v.name = a.name

/-- The arguments of a field are those of its definition. -/
theorem exists_argument {d : FieldDefinition} {a : Argument}
    (outside : scope.inDirective = false ∧ scope.directive? = none)
    (parent : scope.parent? = some t) (field : scope.field? = some d)
    (h : ∀ v ∈ argumentVisits c.schema scope a, Passes c v) :
    ∃ v ∈ d.arguments, v.name = a.name := by
  have here := h _ List.mem_cons_self knownArgumentNames (by simp [rulesBeforeOverlap])
  cases found : d.arguments.find? (·.name == a.name) with
  | none => simp [knownArgumentNames, outside, parent, field, found] at here
  | some v =>
    exact ⟨v, List.mem_of_find?_eq_some found, by simpa using List.find?_some found⟩

/-- The step into a field. -/
theorem exists_field (valid : IsValid c) (clean : Clean c scope selections)
    (tracks : Tracks c.schema scope t) {f : Field} {inner : List Selection}
    (mem : .field f inner ∈ selections) :
    ∃ d below scope', GoodField c t f inner d below scope' := by
  obtain ⟨path, passes⟩ := clean _ mem
  rw [selectionVisits] at passes
  have here := passes _ List.mem_cons_self
  have parent := tracks.parent?
  cases field : fieldOf? c.schema t f.name with
  | none =>
    have wrong := here fieldsOnCorrectType (by simp [rulesBeforeOverlap])
    simp [fieldsOnCorrectType, Scope.onField, parent, field] at wrong
  | some d =>
    have defined := fieldDefinition_of_fieldOf? valid.sound tracks.mem field
    obtain ⟨below, found, output⟩ := exists_output valid.made valid.sound tracks.mem defined
    have type : ((scope.selecting c.schema).onField c.schema f).type? = some d.type := by
      simp [Scope.onField, parent, field, resolveKind?, bareKind, kind?, found, output]
    have field? : ((scope.selecting c.schema).onField c.schema f).field? = some d := by
      simp [Scope.onField, parent, field]
    have isLeaf : c.schema.bareKind Kind.isLeaf d.type = below.kind.isLeaf := by
      unfold bareKind kind?
      rw [found]
      rfl
    have rule := here scalarLeafs (by simp [rulesBeforeOverlap])
    simp only [scalarLeafs, type, isLeaf] at rule
    refine ⟨d, below, _, defined, typeNamed_of_type? found, output, clean_of_visits path
      fun v hv => passes v (by simp [hv]), fun composite => ⟨?_, ⟨_, type, found⟩, composite,
      tracks.executable, tracks.outside⟩, fun leaf => ?_, fun a ha => ?_⟩
    · rintro rfl
      have noLeaf : below.kind.isLeaf = false := by
        cases kind : below.kind <;> simp_all [Kind.isComposite, Kind.isLeaf]
      simp [noLeaf] at rule
    · simpa [leaf] using rule
    · let within := (scope.selecting c.schema).onField c.schema f
      have outside : within.inDirective = false ∧ within.directive? = none := tracks.outside
      refine exists_argument outside parent field? fun v hv => passes v ?_
      simp only [List.mem_cons, List.mem_append, List.mem_flatMap]
      exact Or.inr (Or.inl (Or.inl (Or.inl ⟨a, ha, hv⟩)))

/-- A place inside a fragment on a type with members. -/
theorem exists_inFragment (s : Schema) (p : Place) (directives : List Directive)
    (composite : t.kind.isComposite = true) :
    ∃ q, p.inFragment s t directives = .ok q ∧ q.owner = t := by
  unfold Place.inFragment objectTypes
  rw [if_pos composite]
  exact ⟨_, rfl, rfl⟩

theorem tracks_onCondition {name : String} (executable : scope.inTypeDefinition = false)
    (outside : scope.inDirective = false ∧ scope.directive? = none)
    (found : c.schema.type? name = some t) (composite : t.kind.isComposite = true) :
    Tracks c.schema (scope.onCondition c.schema name) t where
  known := by
    have output : t.kind.isOutput = true := by
      cases kind : t.kind <;> simp_all [Kind.isComposite, Kind.isOutput]
    refine ⟨.named name, ?_, found⟩
    simp [Scope.onCondition, resolveKind?, bareKind, kind?, TypeRef.bareName, found, output]
  composite := composite
  executable := executable
  outside := outside

/-- The step into an inline fragment. -/
theorem exists_inline (valid : IsValid c) (clean : Clean c scope selections) {p : Place}
    (tracks : Tracks c.schema scope p.owner) {condition? : Option String}
    {directives : List Directive} {inner : List Selection}
    (mem : .inline condition? directives inner ∈ selections) :
    ∃ q scope', inlinePlace c.schema p condition? directives = .ok q ∧
      Tracks c.schema scope' q.owner ∧ Clean c scope' inner := by
  obtain ⟨path, passes⟩ := clean _ mem
  rw [selectionVisits] at passes
  have below : Clean c ((scope.selecting c.schema).onInline c.schema condition?) inner :=
    clean_of_visits path fun v hv => passes v (by simp [hv])
  cases condition? with
  | none =>
    obtain ⟨q, place, owner⟩ := exists_inFragment c.schema p directives tracks.composite
    obtain ⟨type, at_, found⟩ := tracks.known
    refine ⟨q, _, place, owner ▸ ⟨⟨.named type.bareName, ?_, found⟩, tracks.composite,
      tracks.executable, tracks.outside⟩, below⟩
    simp [Scope.onInline, Scope.selecting, at_]
  | some condition =>
    let within := (scope.selecting c.schema).onInline c.schema (some condition)
    obtain ⟨t, found⟩ := exists_type_of_passes valid
      (passes ⟨within, .typeName condition⟩ (by simp [within])) tracks.executable
    have composite : t.kind.isComposite = true := by
      have here := passes _ List.mem_cons_self fragmentsOnCompositeTypes
        (by simp [rulesBeforeOverlap])
      refine isComposite_of_other found ?_
      simpa [fragmentsOnCompositeTypes] using here
    obtain ⟨q, place, owner⟩ := exists_inFragment c.schema p directives composite
    refine ⟨q, _, ?_, owner ▸ tracks_onCondition tracks.executable tracks.outside found composite,
      below⟩
    unfold inlinePlace
    dsimp only
    rw [typeNamed_of_type? found]
    exact place

/-- A fragment of a valid document, where it is defined. -/
theorem exists_fragment (valid : IsValid c) {f : Fragment} (mem : f ∈ fragments c.document) :
    ∃ t scope', c.schema.type? f.condition = some t ∧ Tracks c.schema scope' t ∧
      Clean c scope' f.selections := by
  obtain ⟨d, isOne, isFragment⟩ := List.mem_filterMap.mp mem
  obtain ⟨before, after, eq⟩ := List.append_of_mem isOne
  have same : d = .fragment f := by
    cases d <;> cases isFragment
    rfl
  have passes := passes_fragment valid.passes (same ▸ eq)
  unfold fragmentVisits at passes
  obtain ⟨t, found⟩ := exists_type_of_passes valid
    (passes ⟨({} : Scope).onCondition c.schema f.condition, .typeName f.condition⟩ (by simp)) rfl
  have composite : t.kind.isComposite = true := by
    have here := passes _ List.mem_cons_self fragmentsOnCompositeTypes
      (by simp [rulesBeforeOverlap])
    refine isComposite_of_other found ?_
    simpa [fragmentsOnCompositeTypes] using here
  exact ⟨t, ({} : Scope).onCondition c.schema f.condition, found,
    tracks_onCondition rfl ⟨rfl, rfl⟩ found composite,
    clean_of_visits [before.length] fun v hv => passes v (by simp [hv])⟩

/-- The step into a fragment that is spread. -/
theorem exists_spread (valid : IsValid c) (clean : Clean c scope selections) (p : Place)
    {name : String} {directives : List Directive} (mem : .spread name directives ∈ selections) :
    ∃ f q scope', c.fragment? name = some f ∧ spreadPlace c.schema p f directives = .ok q ∧
      Tracks c.schema scope' q.owner ∧ Clean c scope' f.selections := by
  obtain ⟨path, passes⟩ := clean _ mem
  rw [selectionVisits] at passes
  have here := passes _ List.mem_cons_self knownFragmentNames (by simp [rulesBeforeOverlap])
  obtain ⟨f, known⟩ : ∃ f, c.fragment? name = some f := by
    rw [← Option.ne_none_iff_exists']
    simpa [knownFragmentNames] using here
  obtain ⟨t, scope', found, tracks, below⟩ := exists_fragment valid (name_of_fragment? known).1
  obtain ⟨q, place, owner⟩ := exists_inFragment c.schema p directives tracks.composite
  refine ⟨f, q, scope', known, ?_, owner ▸ tracks, below⟩
  unfold spreadPlace
  rw [typeNamed_of_type? found]
  exact place

/-! ## The way through a selection set -/

/-- What is known of a field that generation meets. -/
def GoodSite (c : Context) (x : Site) : Prop :=
  ∃ d t scope, GoodField c x.place.owner x.field x.selections d t scope ∧
    Available c x.fragments x.selections

theorem exists_of_mem_fieldSites (valid : IsValid c) {p : Place} {fragments : List Fragment}
    (clean : Clean c scope selections) (tracks : Tracks c.schema scope p.owner)
    (available : Available c fragments selections) {e : Except GenerationError Site}
    (mem : e ∈ fieldSites fragments p selections) : ∃ x, e = .ok x ∧ GoodSite c x := by
  obtain ⟨a, ha, isSite⟩ := List.mem_filterMap.mp mem
  split at isSite
  · next f inner =>
    split at isSite
    · cases isSite
    · cases isSite
      obtain ⟨d, t, scope', good⟩ := exists_field valid clean tracks ha
      exact ⟨_, rfl, d, t, scope', good, available.of_subset (spreads_field_subset ha)⟩
  · cases isSite

theorem exists_of_mem_surveyFragments (valid : IsValid c) {p : Place} {fragments : List Fragment}
    (clean : Clean c scope selections) (tracks : Tracks c.schema scope p.owner)
    (available : Available c fragments selections) {e : Except GenerationError Site}
    (mem : e ∈ surveyFragments c.schema fragments p selections) :
    ∃ x, e = .ok x ∧ GoodSite c x := by
  induction fragments, p, selections using surveyFragments.induct generalizing scope with
  | case1 =>
    rw [surveyFragments] at mem
    exact absurd mem List.not_mem_nil
  | case2 fragments p f inner rest ih =>
    rw [surveyFragments] at mem
    exact ih (clean.of_subset (List.subset_cons_self _ _)) tracks
      (available.of_subset (spreads_subset (List.subset_cons_self _ _))) mem
  | case3 fragments p condition? directives inner rest ihInner ih =>
    rw [surveyFragments_inline, List.mem_append] at mem
    rcases mem with mem | mem
    · obtain ⟨q, scope', place, within, below⟩ :=
        exists_inline valid clean tracks List.mem_cons_self
      have there := available.of_subset (spreads_inline_subset List.mem_cons_self)
      rw [place] at mem
      rcases List.mem_append.mp mem with mem | mem
      · exact exists_of_mem_fieldSites valid below within there mem
      · exact ihInner q below within there mem
    · exact ih (clean.of_subset (List.subset_cons_self _ _)) tracks
        (available.of_subset (spreads_subset (List.subset_cons_self _ _))) mem
  | case4 fragments p name directives rest ihInner ih =>
    obtain ⟨f, q, scope', known, place, within, below⟩ :=
      exists_spread valid clean p List.mem_cons_self
    have isThere : fragmentNamed? fragments name = some f := by
      rw [available name (mem_spreads.mpr ⟨_, List.mem_cons_self, Or.inl rfl⟩) name .refl, known]
    rw [surveyFragments_spread isThere, place, List.mem_append] at mem
    rcases mem with mem | mem
    · have there := available.inside valid.noFragmentInItself List.mem_cons_self known
      rcases List.mem_append.mp mem with mem | mem
      · exact exists_of_mem_fieldSites valid below within there mem
      · exact ihInner f isThere q below within there mem
    · exact ih (clean.of_subset (List.subset_cons_self _ _)) tracks
        (available.of_subset (spreads_subset (List.subset_cons_self _ _))) mem

/-- **Generation meets fields that it can use**, through all fragments. -/
theorem exists_of_mem_survey (valid : IsValid c) {p : Place} {fragments : List Fragment}
    (clean : Clean c scope selections) (tracks : Tracks c.schema scope p.owner)
    (available : Available c fragments selections) {e : Except GenerationError Site}
    (mem : e ∈ survey c.schema fragments p selections) : ∃ x, e = .ok x ∧ GoodSite c x :=
  (List.mem_append.mp mem).elim (exists_of_mem_fieldSites valid clean tracks available)
    (exists_of_mem_surveyFragments valid clean tracks available)

variable {g : Setting} {document : Document}

/-- **The members of a selection set can be found**, names and converters apart. -/
theorem failsOnly_select (valid : IsValid ⟨g.schema, document⟩) (fragments : List Fragment)
    (selections : List Selection) {scope : Scope} {p : Place}
    (clean : Clean ⟨g.schema, document⟩ scope selections) (tracks : Tracks g.schema scope p.owner)
    (available : Available ⟨g.schema, document⟩ fragments selections) (members : Members) :
    (select g fragments p selections members).FailsOnly (Unforeseen g.schema) := by
  induction fragments, selections using survey_induction generalizing scope p members with
  | step fragments selections ih =>
    rw [select_eq_foldlM]
    refine Plan.failsOnly_foldlM (fun e mem before => ?_) members
    obtain ⟨x, rfl, d, t, scope', good, there⟩ :=
      exists_of_mem_survey valid clean tracks available mem
    refine Plan.failsOnly_bind (Plan.failsOnly_ofExcept fun e h => ?_) fun name _ => ?_
    · unfold accessorOf at h
      split at h <;> cases h
      trivial
    refine Plan.failsOnly_bind (Plan.failsOnly_ofExcept fun e h => ?_) fun definition ok => ?_
    · cases good.defined.symm.trans h
    cases good.defined.symm.trans ok
    refine Plan.failsOnly_bind ?_ fun c _ => Plan.failsOnly_pure _
    rw [fieldConversion, good.named, Plan.ofExcept_ok, pure_bind]
    by_cases composite : t.kind.isComposite = true
    · obtain ⟨some, below⟩ := good.selected composite
      rw [if_pos composite, if_neg (by simpa using some)]
      refine Plan.failsOnly_bind ?_ fun members _ =>
        Plan.failsOnly_bind (Plan.failsOnly_step _) fun _ _ => Plan.failsOnly_pure _
      exact ih _ _ x mem good.clean (by exact below) there {}
    · have output := good.output
      rw [if_neg composite]
      split
      · next input => simp [input, Kind.isOutput] at output
      · next notInput =>
        refine failsOnly_outputOf ?_
        cases kind : t.kind <;> simp_all [Kind.isComposite, Kind.isLeaf]

/-! ## Operations -/

theorem available_all (c : Context) (selections : List Selection) :
    Available c (fragments c.document) selections := fun _ _ _ _ => rfl

/-- The root type of an operation is an object, if the schema has one. -/
theorem rootType_cases (sound : c.schema.isSound = true) (o : Operation) :
    (rootType c.schema o = .error (.missingRoot o.kind) ∧ c.schema.root? o.kind = none) ∨
    ∃ root, rootType c.schema o = .ok root ∧ Tracks c.schema (operationScope c.schema o) root := by
  unfold isSound at sound
  simp only [Bool.and_eq_true] at sound
  have isObject : c.schema.rootIsObject o.kind = true := by
    have all := List.all_eq_true.mp sound.1.1.2
    cases o.kind <;> exact all _ (by simp)
  unfold rootIsObject at isObject
  unfold rootType
  cases isRoot : c.schema.root? o.kind with
  | none => exact Or.inl ⟨rfl, rfl⟩
  | some name =>
    rw [isRoot] at isObject
    obtain ⟨root, found, object⟩ := Option.map_eq_some_iff.mp
      (show (c.schema.type? name).map (·.kind) = some .object by simpa [kind?] using isObject)
    refine Or.inr ⟨root, by rw [Option.bind_some, found], ⟨.named name, ?_, found⟩, ?_, rfl, rfl,
      rfl⟩
    · simp [operationScope, isRoot, resolveKind?, bareKind, kind?, TypeRef.bareName, found, object]
    · rw [object]
      rfl

/-- The rules pass an operation where it is defined. -/
theorem passes_operation (valid : IsValid c) {o : Operation} (mem : o ∈ operations c.document) :
    ∃ index, ∀ v ∈ operationVisits c.schema index o, Passes c v := by
  obtain ⟨d, isOne, isOperation⟩ := List.mem_filterMap.mp mem
  obtain ⟨before, after, eq⟩ := List.append_of_mem isOne
  have same : d = .operation o := by
    cases d <;> cases isOperation
    rfl
  exact ⟨before.length, fun v hv =>
    valid.passes v (definitionVisits_subset (d := .operation o) (same ▸ eq) hv)⟩

/-- The variables of an operation have types that can be sent. -/
theorem input_of_mem_parameters (valid : IsValid c) {o : Operation}
    (mem : o ∈ operations c.document) {v : Variable} (hv : v ∈ o.parameters) :
    c.schema.bareKind Kind.isInput v.type = true := by
  obtain ⟨index, passes⟩ := passes_operation valid mem
  unfold operationVisits at passes
  have sub : ∀ visit ∈ variableVisits c.schema (operationScope c.schema o) v, Passes c visit :=
    fun visit h => passes visit (by simp; exact Or.inr (Or.inl ⟨v, hv, h⟩))
  unfold variableVisits at sub
  obtain ⟨t, found⟩ := exists_type_of_passes valid (sub _ (.tail _ List.mem_cons_self)) rfl
  have here := sub _ List.mem_cons_self variablesAreInputTypes (by simp [rulesBeforeOverlap])
  simp only [variablesAreInputTypes, kind?, found, Option.map_some] at here
  simp only [bareKind, kind?, found, Option.map_some, Option.any_some]
  split at here
  · assumption
  · cases here

/-- **The classes of an operation of a valid document are registered**, unforeseen errors apart. -/
theorem failsOnly_generateOperation (valid : IsValid ⟨g.schema, document⟩)
    (queryText name : String) {o : Operation} (mem : o ∈ operations document) :
    (generateOperation g (fragments document) queryText name o).FailsOnly
      (Unforeseen g.schema) := by
  unfold generateOperation
  rcases rootType_cases valid.sound o with ⟨missing, none⟩ | ⟨root, rooted, tracks⟩
  · rw [missing]
    exact Run.failsOnly_throw_bind none _
  rw [rooted]
  refine Run.failsOnly_pure_bind ?_
  refine Run.failsOnly_bind (Run.failsOnly_mapM fun v hv => ?_) fun parameters => ?_
  · have input := input_of_mem_parameters valid mem hv
    obtain ⟨t, found, -⟩ := exists_of_bareKind input
    unfold variableParameter
    rw [if_neg (by rw [found]; exact Bool.false_ne_true)]
    exact failsOnly_parameter valid.sound _ _ _ _ _ input
  dsimp only
  split
  · exact Run.failsOnly_throw_bind trivial _
  · obtain ⟨index, passes⟩ := passes_operation valid mem
    unfold operationVisits operationBodyVisits at passes
    refine Run.failsOnly_bind (failsOnly_plan (failsOnly_select valid _ _
      (clean_of_visits [index] fun v hv => passes v ?_) tracks (available_all _ _) {}))
      fun members =>
      failsOnly_register _
    simp only [List.mem_cons, List.mem_append]
    exact Or.inr (Or.inl (Or.inr (Or.inr hv)))

/-! ## Documents -/

/-- A document without complaints is valid, if the schema has been made. -/
theorem isValid_of_validate {s : Schema} (made : IsMade s)
    (h : s.validate document = .complaints []) : IsValid ⟨s, document⟩ :=
  have passes := passes_of_validate h
  ⟨made, passes.1, passes.2⟩

/-- A valid document is asked for what it says, whether it is checked or not. -/
theorem asks_of_valid {g : Generator} {d : Declaration} {named : List (String × Operation)}
    (read : readDocument (g.hooks.runBefore d) = .ok document)
    (names : namedOperations document = .ok named)
    (valid : g.schema.validate document = .complaints []) : g.asks d = .ok
      { operations := named, fragments := fragments document
        queryText := Document.print (addTypename document) } := by
  have checked : checkDocument g.schema (g.hooks.runBefore d) document = .ok () := by
    unfold checkDocument
    rw [valid]
  unfold Generator.asks Generator.request
  simp only [read, names, checked, bind, Except.bind, ite_self]
  cases g.validates <;> rfl

/-- **A document that validation accepts is generated from, or one of the unforeseen errors comes
up**: names that clash, a converter that cannot be used, or a root type that the schema does not
have. -/
theorem generate_of_valid {g : Generator} {d : Declaration} {named : List (String × Operation)}
    (made : IsMade g.schema) (read : readDocument (g.hooks.runBefore d) = .ok document)
    (names : namedOperations document = .ok named)
    (valid : g.schema.validate document = .complaints []) (s : Session) :
    (∃ s', (g.generate d).outcome s = (.ok (), s')) ∨
      ∃ e s', (g.generate d).outcome s = (.error e, s') ∧ Unforeseen g.schema e := by
  have isValid := isValid_of_validate made valid
  have asked := asks_of_valid read names valid
  cases result : (g.generate d).outcome s with
  | mk ending s' =>
    cases ending with
    | ok => exact Or.inl ⟨s', rfl⟩
    | error e =>
      rw [outcome_generate asked] at result
      refine Or.inr ⟨e, s', rfl, Run.failsOnly_forM (fun operation mem => ?_) _ e s' result⟩
      exact failsOnly_generateOperation isValid _ _ (of_mem_namedOperations names mem).1

/-! ## A valid document -/

/-- The definitions of an object with two fields. -/
def definitions : Document :=
  [.type { name := "Query", body := .object [] [{ name := "u", type := .named "U" }] },
   .type { name := "U"
           body := .object [] [{ name := "a", type := .named "String" },
             { name := "b", type := .named "String" }] }]

/-- The schema of the definitions. -/
def defined : Schema := withStandardTypes
  { types := completeTypes definitions, directives := standardDirectives, query? := some "Query" }

theorem ofDocument_definitions : ofDocument definitions = .ok defined := by
  have rules : brokenRules definitions = [] := by cbv
  have fits : defined.fits = true := by cbv
  unfold ofDocument
  rw [rules]
  exact if_pos fits

/-- A document that selects fields inline and through a fragment. -/
def mixed : Declaration := { text := "query Qa{u{...F ...on U{b}}}fragment F on U{a}" }

def mixedOperation : Operation where
  kind := .query
  name? := some "Qa"
  selections := [.field { name := "u" }
    [.spread "F" [], .inline (some "U") [] [.field { name := "b" } []]]]

def mixedDocument : Document :=
  [.operation mixedOperation,
   .fragment { name := "F", condition := "U", selections := [.field { name := "a" } []] }]

theorem validate_mixed : defined.validate mixedDocument = .complaints [] := by
  have sound : defined.isSound = true := by cbv
  have read : (visits defined mixedDocument).all
      (fun v => (unreadAt? ⟨defined, mixedDocument⟩ v).isNone) = true := by cbv
  have silent : complaintsAt ⟨defined, mixedDocument⟩ (visits defined mixedDocument) = [] := by cbv
  exact validate_of_silent sound read silent

/-- A generator for the schema that checks documents. -/
def definedGenerator : Generator := { schema := defined }

/-- The document is generated from, or one of the unforeseen errors comes up. -/
theorem generate_of_valid_mixed : IsMade defined ∧
    readDocument (definedGenerator.hooks.runBefore mixed) = .ok mixedDocument ∧
    namedOperations mixedDocument = .ok [("Qa", mixedOperation)] ∧
    defined.validate mixedDocument = .complaints [] ∧
    ((∃ s', (definedGenerator.generate mixed).outcome {} = (.ok (), s')) ∨
      ∃ e s', (definedGenerator.generate mixed).outcome {} = (.error e, s') ∧
        Unforeseen defined e) := by
  have made : IsMade defined := Or.inl ⟨_, ofDocument_definitions⟩
  have read : readDocument (definedGenerator.hooks.runBefore mixed) = .ok mixedDocument := by cbv
  have names : namedOperations mixedDocument = .ok [("Qa", mixedOperation)] := by cbv
  exact ⟨made, read, names, validate_mixed, generate_of_valid made read names validate_mixed {}⟩

end QueryShape.Generation
