import Mathlib.Logic.Relation
import QueryShape.Proofs.Generation.Needs
import QueryShape.Proofs.Generation.Recorded

/-!
# The changes of a run

Whatever a call does to the registry and the imports, it does in single changes: it adds the lines
of a converter, adds the record of a class, or merges a selection into the class of its name. Each
says what the document and the schema had to do with it, and that what the record converts with has
been imported by then.

* `changes_generate`: a call is a sequence of changes, whether it succeeds or fails.
* `invariant_after`: what no change breaks holds of every session that calls lead to.
-/

namespace QueryShape.Generation

open Document Record Run Session

/-! ## Imports -/

/-- The lines by which a module imports a converter, and the type of its values. -/
def linesOf (module : String) (c : Converter) : List String :=
  Converter.referenceLine module c.path :: if c.importLine.isEmpty then [] else [c.importLine]

/-- The converter of a type, if it has one, has been imported. -/
def Session.Imports (s : Session) (g : Setting) (t : TypeDefinition) : Prop :=
  ∀ c, t.kind = .scalar → g.converters.find? t.name = some c →
    ∃ module, c.importableFrom? = some module ∧ ∀ line ∈ linesOf module c, line ∈ s.imports

/-- What the steps import has been imported. -/
def Session.Imported (s : Session) (steps : List Step) : Prop :=
  ∀ scalar path lines, .converter scalar path lines ∈ steps → ∀ line ∈ lines, line ∈ s.imports

variable {s s' : Session} {g : Setting}

theorem Session.Imports.of_subset {t : TypeDefinition} (h : s.Imports g t)
    (sub : ∀ line ∈ s.imports, line ∈ s'.imports) : s'.Imports g t := by
  intro c kind found
  obtain ⟨module, importable, lines⟩ := h c kind found
  exact ⟨module, importable, fun line hl => sub line (lines line hl)⟩

theorem Session.Imported.of_subset {steps : List Step} (h : s.Imported steps)
    (sub : ∀ line ∈ s.imports, line ∈ s'.imports) : s'.Imported steps :=
  fun scalar path lines mem line hl => sub line (h scalar path lines mem line hl)

/-! ## Steps of plans -/

/-- The step is for an enum type of the schema, or for the converter of a scalar. -/
def FromSetting (g : Setting) : Step → Prop
  | .enum t => g.schema.type? t.name = some t ∧ t.kind = .enum
  | .converter scalar path lines => ∃ c module, g.converters.find? scalar = some c ∧
      c.importableFrom? = some module ∧ path = c.path ∧ lines = linesOf module c
  | .leaf _ => True

theorem fromSetting_convertedBy {scalar method : String} {c : Converter}
    (found : g.converters.find? scalar = some c) {a : Step}
    (h : a ∈ (convertedBy scalar c method).steps) : FromSetting g a := by
  unfold convertedBy at h
  split at h
  · exact absurd h List.not_mem_nil
  · next module importable =>
    have h : a ∈ [Step.converter scalar c.path (linesOf module c)] := h
    rw [List.mem_singleton.mp h]
    exact ⟨c, module, found, importable, rfl, rfl⟩

theorem fromSetting_outputOf {t : TypeDefinition} (found : g.schema.type? t.name = some t)
    {a : Step} (h : a ∈ (outputOf g t).steps) : FromSetting g a := by
  unfold outputOf at h
  split at h
  · unfold scalarOutput at h
    split at h
    · next known => exact fromSetting_convertedBy known h
    · exact absurd h List.not_mem_nil
  · next kind =>
    have h : a ∈ [Step.enum t] := h
    rw [List.mem_singleton.mp h]
    exact ⟨found, kind⟩
  · exact absurd h List.not_mem_nil

/-- The steps of a selection set are for types of the schema and converters of their scalars. -/
theorem fromSetting_select (fragments : List Fragment) (selections : List Selection) (p : Place)
    (before : Members) : ∀ a ∈ (select g fragments p selections before).steps, FromSetting g a := by
  induction fragments, selections using survey_induction generalizing p before with
  | step fragments selections ih =>
    intro a ha
    rw [select_eq_foldlM] at ha
    obtain ⟨x, definition, hx, -, hs⟩ := mem_steps_foldlM ha
    rcases conversion_cases g x definition with ⟨e, eq⟩ | ⟨t, ht, ⟨-, eq⟩ | ⟨-, eq⟩⟩
    · rw [eq] at hs
      exact absurd hs List.not_mem_nil
    · rw [eq] at hs
      exact fromSetting_outputOf (type?_name (type?_of_typeNamed ht).1) hs
    · rw [eq] at hs
      rcases Plan.mem_steps_bind.mp hs with hs | ⟨members, -, hs⟩
      · exact ih _ _ x hx _ _ a hs
      · have last : a ∈ [Step.leaf (leafOf (x.under g.schema t) g.schema members)] := hs
        rw [List.mem_singleton.mp last]
        trivial

/-- A scalar is read by the converter that it has, which the plan imports. -/
theorem converter_mem_steps_outputOf {t : TypeDefinition} {c : Converter} {out : Conversion}
    (h : (outputOf g t).result = .ok out) (kind : t.kind = .scalar)
    (found : g.converters.find? t.name = some c) : ∃ module, c.importableFrom? = some module ∧
      .converter t.name c.path (linesOf module c) ∈ (outputOf g t).steps := by
  unfold outputOf at h ⊢
  rw [kind] at h ⊢
  dsimp only at h ⊢
  unfold scalarOutput convertedBy at h ⊢
  rw [found] at h ⊢
  dsimp only at h ⊢
  split at h
  · cases h
  · next module importable =>
    rw [importable]
    exact ⟨module, rfl, List.mem_cons_self⟩

/-- What the fields of a selection set are read by has been imported with its steps. -/
theorem imports_of_selects {fragments outer : List Fragment} {p : Place}
    {selections : List Selection} {members : Members} (known : Known fragments outer)
    (ok : (select g fragments p selections {}).result = .ok members)
    (imported : s.Imported (select g fragments p selections {}).steps) {q : Place} {f : Field}
    {inner : List Selection} {r : Reading}
    (selected : Selects g.schema outer p selections q f inner) (hr : readingOf g q f = .ok r) :
    s.Imports g r.type := by
  intro c kind found
  have gathered := gathered_of_select ok
  obtain ⟨x, hx, rfl, rfl, rfl, -⟩ := mem_survey_of_selects selected known gathered.sound
  obtain ⟨y, ry, e, hry, hc, hs⟩ := gathered.read _ hx
  cases e
  cases hr.symm.trans hry
  have simple : r.type.kind.isComposite = false := by rw [kind]; rfl
  have eq := conversion_eq_outputOf hc (readingOf_eq_ok_iff.mp hr).2.2.1 simple
  rw [eq] at hc hs
  obtain ⟨module, importable, mem⟩ := converter_mem_steps_outputOf hc kind found
  exact ⟨module, importable, imported _ _ _ (hs mem)⟩

/-! ## What is registered -/

/-- The parameter is that of a variable or input field, and its converter has been imported. -/
def ParameterFrom (g : Setting) (s : Session) (pending reserved : List String) (name : String)
    (type : TypeRef) (p : Parameter) : Prop :=
  parameterName name ∉ reserved ∧ ∃ t c, g.schema.type? type.bareName = some t ∧
    sentAs g t = .ok c ∧ s.Imports g t ∧ p = parameterOf pending (parameterName name) name type c

theorem ParameterFrom.of_subset {pending reserved : List String} {name : String} {type : TypeRef}
    {p : Parameter} (h : ParameterFrom g s pending reserved name type p)
    (sub : ∀ line ∈ s.imports, line ∈ s'.imports) :
    ParameterFrom g s' pending reserved name type p := by
  obtain ⟨free, t, c, found, sent, imports, eq⟩ := h
  exact ⟨free, t, c, found, sent, imports.of_subset sub, eq⟩

/-- The class is that of a selection set of the document, whose steps are among those given. -/
inductive LeafFrom (g : Generator) (d : Declaration) (steps : List Step) : Leaf → Prop
  | mk {q : Request} {place : Place} {inner : List Selection} {left : List Fragment}
      {members : Members} (asked : g.asks d = .ok q) (opened : OpenedBy g q place inner)
      (under : place.IsUnder g.schema) (known : Known left q.fragments)
      (ok : (select g.toSetting left place inner {}).result = .ok members)
      (sub : (select g.toSetting left place inner {}).steps ⊆ steps) :
      LeafFrom g d steps (leafOf place g.schema members)

/-- The record is that of an operation of the document, with a parameter for each variable, and what
it converts with has been imported. -/
structure RootFrom (g : Generator) (q : Request) (s : Session) (name : String) (o : Operation)
    (r : Root) : Prop where
  made : ∃ root members, IsClassOf g.toSetting q.fragments q.queryText name o root members r ∧
    s.Imported (select g.toSetting q.fragments (operationPlace name root) o.selections {}).steps
  parameters : List.Forall₂
    (fun (v : Variable) p => ParameterFrom g.toSetting s [] operationParameters v.name v.type p)
    o.parameters r.parameters
  distinct : (r.parameters.map (·.name)).Nodup

theorem RootFrom.of_subset {g : Generator} {q : Request} {name : String} {o : Operation} {r : Root}
    (h : RootFrom g q s name o r) (sub : ∀ line ∈ s.imports, line ∈ s'.imports) :
    RootFrom g q s' name o r where
  made := by
    obtain ⟨root, members, isClass, imported⟩ := h.made
    exact ⟨root, members, isClass, imported.of_subset sub⟩
  parameters := h.parameters.imp fun _ _ p => p.of_subset sub
  distinct := h.distinct

/-- A call with the document can register the record now. -/
inductive Makes (g : Generator) (d : Declaration) (s : Session) : Record → Prop
  | enum {t : TypeDefinition} (found : g.schema.type? t.name = some t) (kind : t.kind = .enum)
      (free : t.values.find? isReservedValue = none) :
      Makes g d s
        (.enum { name := Naming.typeClassName t.name, graphqlType := t.name, values := t.values })
  | input {t : TypeDefinition} {arguments : List Parameter} (pending : List String)
      (found : g.schema.type? t.name = some t) (kind : t.kind = .input)
      (parameters : List.Forall₂ (fun (field : InputValue) p => ParameterFrom g.toSetting s
        (Naming.typeClassName t.name :: pending) inputParameters field.name field.type p)
        t.inputFields arguments) :
      Makes g d s
        (.input { name := Naming.typeClassName t.name, graphqlType := t.name, arguments
                  dependencies := .ofList (arguments.filterMap (·.dependency?)) })
  | leaf {l : Leaf} {steps : List Step} (from_ : LeafFrom g d steps l)
      (imported : s.Imported steps) : Makes g d s (.leaf l)
  | root {q : Request} {name : String} {o : Operation} {r : Root} (asked : g.asks d = .ok q)
      (mem : (name, o) ∈ q.operations) (from_ : RootFrom g q s name o r) : Makes g d s (.root r)

/-! ## Changes -/

/-- One change that a call with the document can make to the registry and the imports. -/
inductive Change (g : Generator) (d : Declaration) : Session → Session → Prop
  | other {s s' : Session} (registry : s'.registry = s.registry)
      (imports : s'.imports = s.imports) : Change g d s s'
  | imports {s s' : Session} {scalar module : String} {c : Converter}
      (found : g.converters.find? scalar = some c) (importable : c.importableFrom? = some module)
      (registry : s'.registry = s.registry)
      (imports : s'.imports = s.imports ∪ .ofList (linesOf module c)) : Change g d s s'
  | add {s s' : Session} {x : Record} (makes : Makes g d s x) (free : x.name ∉ s.registry.names)
      (records : s'.registry.records = s.registry.records ++ [x])
      (imports : s'.imports = s.imports) : Change g d s s'
  | merge {s s' : Session} {old l : Leaf} (makes : Makes g d s (.leaf l))
      (mem : .leaf old ∈ s.registry.records) (name : old.name = l.name)
      (type : old.graphqlType = l.graphqlType)
      (registry : s'.registry = s.registry.replace (.leaf (Registry.mergedLeaf old l)))
      (imports : s'.imports = s.imports) : Change g d s s'

/-- What a call with the document can make of a session. -/
abbrev Changes (g : Generator) (d : Declaration) : Session → Session → Prop :=
  Relation.ReflTransGen (Change g d)

variable {g : Generator} {d : Declaration}

/-- No change takes away an import. -/
theorem Changes.imports_subset (h : Changes g d s s') : ∀ line ∈ s.imports, line ∈ s'.imports := by
  induction h with
  | refl => exact fun _ h => h
  | tail _ change ih =>
    intro line hl
    have hl := ih line hl
    cases change with
    | other _ imports => rwa [imports]
    | imports _ _ _ imports => exact imports ▸ NameSet.mem_union.mpr (Or.inl hl)
    | add _ _ _ imports => rwa [imports]
    | merge _ _ _ _ _ imports => rwa [imports]

/-- No change takes away a record that is not that of a selection. -/
theorem Changes.mem_records (h : Changes g d s s') {x : Record} (kind : x.kind ≠ .leaf)
    (mem : x ∈ s.registry.records) : x ∈ s'.registry.records := by
  induction h with
  | refl => exact mem
  | tail _ change ih =>
    cases change with
    | other registry _ => rwa [registry]
    | imports _ _ registry _ => rwa [registry]
    | add _ _ records _ => exact records ▸ List.mem_append_left _ ih
    | merge _ old _ _ registry _ =>
      rw [registry]
      refine List.mem_map.mpr ⟨x, ih, if_neg fun same => kind ?_⟩
      rw [Registry.eq_of_name_eq ih old same]
      rfl

/-! ## Enums and converters -/

section Runs

variable (g d)

theorem changes_report (event : Event) {failed : Session → Prop} :
    (report event).Ends s (fun _ s' => Changes g d s s') failed :=
  ends_modify (.single (.other rfl rfl))

theorem changes_converter {scalar module : String} {c : Converter}
    (found : g.converters.find? scalar = some c) (importable : c.importableFrom? = some module)
    {failed : Session → Prop} :
    (Step.run (.converter scalar c.path (linesOf module c))).Ends s
      (fun _ s' => Changes g d s s' ∧ ∀ line ∈ linesOf module c, line ∈ s'.imports) failed := by
  refine ends_bind (ends_modify (ends_modify ⟨.single (.imports found importable rfl rfl), ?_⟩))
  exact fun line hl => NameSet.mem_union.mpr (Or.inr (NameSet.mem_ofList.mpr hl))

/-- A record that can be made is added, or nothing changes. -/
theorem changes_register {x : Record} (makes : Makes g d s x) : (register x).Ends s
    (fun _ s' => Changes g d s s' ∧ x ∈ s'.registry.records) (Changes g d s ·) := by
  refine (ends_register x).imp ?_ ?_
  · rintro - s' ⟨free, records, same⟩
    refine ⟨.single (.add makes free records same.imports), ?_⟩
    exact records ▸ List.mem_append_right _ List.mem_cons_self
  · rintro s' rfl
    exact .refl

theorem changes_registerOrMerge {l : Leaf} (makes : Makes g d s (.leaf l)) :
    (registerOrMerge (.leaf l)).Ends s (fun _ s' => Changes g d s s') (Changes g d s ·) := by
  refine (ends_registerOrMerge l).imp ?_ ?_
  · rintro - s' ⟨same, ⟨free, records⟩ | ⟨old, mem, name, type, registry⟩⟩
    · exact .single (.add makes free records same.imports)
    · exact .single (.merge makes mem name type registry same.imports)
  · rintro s' rfl
    exact .refl

theorem changes_registerEnum {t : TypeDefinition} (found : g.schema.type? t.name = some t)
    (kind : t.kind = .enum) :
    (registerEnum t).Ends s (fun _ s' => Changes g d s s') (Changes g d s ·) := by
  unfold registerEnum
  refine ends_bind (ends_get ?_)
  split
  · exact ends_pure .refl
  · refine ends_bind (ends_pure ?_)
    split
    · exact ends_throw .refl
    · next free =>
      refine ends_bind ((changes_register g d (.enum found kind free)).imp ?_ fun _ h => h)
      rintro - s' ⟨changes, -⟩
      exact ends_modify (changes.tail (.other rfl rfl))

/-! ## Input types -/

/-- How a scalar is sent is what its plan gives, and its converter is imported. -/
theorem changes_scalarInput {t : TypeDefinition} (kind : t.kind = .scalar) :
    (scalarInput g.toSetting t.name).run.Ends s
    (fun c s' => Changes g d s s' ∧ sentAs g.toSetting t = .ok c ∧ s'.Imports g.toSetting t)
    (Changes g d s ·) := by
  rw [sentAs_of_scalar kind]
  unfold scalarInput
  split
  · next c found =>
    unfold convertedBy
    split
    · exact .refl
    · next module importable =>
      refine ends_bind (ends_bind ((changes_converter g d found importable).imp ?_ fun _ h => h))
      rintro - s' ⟨changes, imported⟩
      refine ⟨changes, ?_, fun c' _ found' => ?_⟩
      · rfl
      · cases found.symm.trans found'
        exact ⟨module, importable, imported⟩
  · next none =>
    refine ⟨.refl, rfl, fun c _ found => ?_⟩
    rw [none] at found
    cases found

mutual

/-- Going through the class of an input type is a sequence of changes. -/
theorem changes_inputClass {s : Session} (pending : List String) {t : TypeDefinition}
    (ht : t ∈ g.schema.types) (found : g.schema.type? t.name = some t) (kind : t.kind = .input) :
    (inputClass g.toSetting pending t ht).Ends s
    (fun name s' => Changes g d s s' ∧ name = Naming.typeClassName t.name) (Changes g d s ·) := by
  rw [inputClass]
  dsimp only
  split
  · exact ends_pure ⟨.refl, rfl⟩
  · next new =>
    refine ends_bind (ends_get ?_)
    split
    · exact ends_pure ⟨.refl, rfl⟩
    · have := unvisited_lt ht new
      refine ends_bind ((changes_inputParametersOf _ _ _).imp ?_ fun _ h => h)
      rintro arguments s₁ ⟨first, parameters⟩
      have makes := Makes.input (d := d) pending found kind parameters
      refine ends_bind ((changes_register g d makes).imp ?_ fun _ next => first.trans next)
      rintro - s₂ ⟨next, -⟩
      exact ends_bind (ends_modify (ends_pure ⟨(first.trans next).tail (.other rfl rfl), rfl⟩))
termination_by (unvisited g.schema pending, 0)
decreasing_by
  exact Prod.Lex.left _ _ this

/-- Going through the fields of an input type is a sequence of changes, and gives the parameters of
the fields. -/
theorem changes_inputParametersOf {s : Session} (pending : List String) (owner : String)
    (fields : List InputValue) : (inputParametersOf g.toSetting pending owner fields).Ends s
    (fun ps s' => Changes g d s s' ∧ List.Forall₂ (fun (field : InputValue) p =>
      ParameterFrom g.toSetting s' pending inputParameters field.name field.type p) fields ps)
    (Changes g d s ·) := by
  cases fields with
  | nil =>
    rw [inputParametersOf]
    exact ends_pure ⟨.refl, .nil⟩
  | cons field rest =>
    rw [inputParametersOf]
    refine ends_bind ((changes_parameter _ _ _ _ _).imp ?_ fun _ h => h)
    rintro p s₁ ⟨first, isParameter⟩
    refine ends_bind ((changes_inputParametersOf _ _ rest).imp ?_ fun _ next => first.trans next)
    rintro ps s₂ ⟨next, others⟩
    exact ends_pure ⟨first.trans next, .cons (isParameter.of_subset next.imports_subset) others⟩
termination_by (unvisited g.schema pending, fields.length + 2)

/-- Resolving a parameter is a sequence of changes, and gives the parameter of its name and type. -/
theorem changes_parameter {s : Session} (pending : List String) (owner : String)
    (reserved : List String) (name : String) (type : TypeRef) :
    (parameter g.toSetting pending owner reserved name type).Ends s
    (fun p s' => Changes g d s s' ∧ ParameterFrom g.toSetting s' pending reserved name type p)
    (Changes g d s ·) := by
  rw [parameter]
  dsimp only
  split
  · exact ends_bind (ends_throw .refl)
  · next free =>
    split
    · next t found =>
      refine ends_bind ((changes_inputOf _ _ (type?_name found)).imp ?_ fun _ h => h)
      rintro c s' ⟨changes, sent, imports⟩
      exact ends_pure ⟨changes, free, t, c, found, sent, imports, rfl⟩
    · exact ends_throw .refl
termination_by (unvisited g.schema pending, 2)

/-- Resolving how the values of a type are sent is a sequence of changes. -/
theorem changes_inputOf {s : Session} (pending : List String) {t : TypeDefinition}
    (ht : t ∈ g.schema.types) (found : g.schema.type? t.name = some t) :
    (inputOf g.toSetting pending t ht).Ends s
    (fun c s' => Changes g d s s' ∧ sentAs g.toSetting t = .ok c ∧ s'.Imports g.toSetting t)
    (Changes g d s ·) := by
  rw [inputOf]
  split
  · next kind => exact changes_scalarInput g d kind
  · next kind =>
    refine ends_bind (ends_enumClass_run ?_)
    refine (changes_registerEnum g d found kind).imp (fun _ s' changes => ?_) fun _ h => h
    exact ends_pure ⟨changes, sentAs_of_class (Or.inl kind), by simp [Session.Imports, kind]⟩
  · next kind =>
    refine ends_bind ((changes_inputClass pending ht found kind).imp ?_ fun _ h => h)
    rintro name s' ⟨changes, rfl⟩
    exact ends_pure ⟨changes, sentAs_of_class (Or.inr kind), by simp [Session.Imports, kind]⟩
  · exact ends_throw .refl
termination_by (unvisited g.schema pending, 1)

end

theorem changes_variableParameter (owner : String) (v : Variable) :
    (variableParameter g.toSetting owner v).Ends s
    (fun p s' => Changes g d s s' ∧
      ParameterFrom g.toSetting s' [] operationParameters v.name v.type p) (Changes g d s ·) := by
  unfold variableParameter
  split
  · exact ends_bind (ends_throw .refl)
  · exact changes_parameter g d _ _ _ _ _

/-- Resolving the parameters of an operation is a sequence of changes, and gives those of its
variables. -/
theorem changes_variableParameters (owner : String) (vs : List Variable) :
    (vs.mapM (variableParameter g.toSetting owner)).Ends s
    (fun ps s' => Changes g d s s' ∧ List.Forall₂ (fun (v : Variable) p =>
      ParameterFrom g.toSetting s' [] operationParameters v.name v.type p) vs ps)
    (Changes g d s ·) := by
  induction vs generalizing s with
  | nil =>
    rw [List.mapM_nil]
    exact ends_pure ⟨.refl, .nil⟩
  | cons v rest ih =>
    rw [List.mapM_cons]
    refine ends_bind ((changes_variableParameter g d owner v).imp ?_ fun _ h => h)
    rintro p s₁ ⟨first, isParameter⟩
    refine ends_bind (ih.imp ?_ fun _ next => first.trans next)
    rintro ps s₂ ⟨next, others⟩
    exact ends_pure ⟨first.trans next, .cons (isParameter.of_subset next.imports_subset) others⟩

/-! ## Plans -/

/-- A class fits after the steps of its own selection set. -/
def LeafFits (steps : List Step) (a : Step) : Prop := ∀ l, a = .leaf l → LeafFrom g d steps l

theorem kept_leafFits : Kept (LeafFits g d) := by
  rintro some all sub a fits l rfl
  obtain ⟨asked, opened, under, known, ok, within⟩ := fits l rfl
  exact ⟨asked, opened, under, known, ok, List.Subset.trans within sub⟩

/-- The classes of a selection set that the document opens are asked for after the steps of their
own selection sets. -/
theorem leafFits_select {q : Request} {p : Place} {selections : List Selection}
    (asked : g.asks d = .ok q) {name : String} {o : Operation} {root : TypeDefinition}
    (mem : (name, o) ∈ q.operations) (rooted : rootType g.schema o = .ok root)
    (h : p = operationPlace name root) (hs : selections = o.selections) :
    OrderedAfter (LeafFits g d) [] (select g.toSetting q.fragments p selections {}).steps := by
  subst h hs
  refine orderedAfter_select (kept_leafFits g d) (fun _ a simple l eq => absurd eq (simple l)) _ _
    (.refl q.fragments) _ _ ?_
  rintro place inner left members steps opens under known ok sub l ⟨⟩
  exact ⟨asked, ⟨name, o, root, mem, rooted, opens⟩, under, known, ok, sub⟩

/-- Doing a step of the plan of a selection set is a change. -/
theorem changes_step {a : Step} {before : List Step} (setting : FromSetting g.toSetting a)
    (fits : LeafFits g d before a) (imported : s.Imported before) :
    a.run.Ends s (fun _ s' => Changes g d s s' ∧ s'.Imported [a]) (Changes g d s ·) := by
  cases a with
  | enum t =>
    refine (changes_registerEnum g d setting.1 setting.2).imp (fun _ s' changes => ?_) fun _ h => h
    exact ⟨changes, fun _ _ _ mem => absurd (List.mem_singleton.mp mem) nofun⟩
  | leaf l =>
    refine (changes_registerOrMerge g d (.leaf (fits l rfl) imported)).imp
      (fun _ s' changes => ?_) fun _ h => h
    exact ⟨changes, fun _ _ _ mem => absurd (List.mem_singleton.mp mem) nofun⟩
  | converter scalar path lines =>
    obtain ⟨c, module, found, importable, rfl, rfl⟩ := setting
    refine (changes_converter g d found importable).imp (fun _ s' ⟨changes, lines⟩ => ?_)
      fun _ h => h
    refine ⟨changes, fun _ _ _ mem => ?_⟩
    cases List.mem_singleton.mp mem
    exact lines

/-- Running the plan of a selection set is a sequence of changes, and what it converts with is
imported. -/
theorem changes_plan {α : Type} {p : Plan α} (setting : ∀ a ∈ p.steps, FromSetting g.toSetting a)
    (ordered : OrderedAfter (LeafFits g d) [] p.steps) :
    p.run.Ends s
    (fun a s' => Changes g d s s' ∧ p.result = .ok a ∧ s'.Imported p.steps) (Changes g d s ·) := by
  have run : (p.steps.forM Step.run).Ends s (fun _ s' => Changes g d s s' ∧ s'.Imported p.steps)
      (Changes g d s ·) := by
    refine ends_forM (fun before s' => Changes g d s s' ∧ s'.Imported before)
      ⟨.refl, fun _ _ _ h => absurd h List.not_mem_nil⟩ ?_
    rintro before a s' front ⟨changes, imported⟩
    have fits : LeafFits g d before a := by simpa using ordered.fits front
    refine (changes_step g d (setting a (front.subset (by simp))) fits imported).imp ?_
      fun _ next => changes.trans next
    rintro - s'' ⟨next, last⟩
    refine ⟨changes.trans next, fun scalar path lines mem => ?_⟩
    rcases List.mem_append.mp mem with mem | mem
    · exact (imported.of_subset next.imports_subset) scalar path lines mem
    · exact last scalar path lines mem
  unfold Plan.run
  refine ends_bind (run.imp ?_ fun _ h => h)
  rintro - s' ⟨changes, imported⟩
  cases h : p.result with
  | error e => exact ends_throw changes
  | ok a => exact ends_pure ⟨changes, rfl, imported⟩

end Runs

/-! ## Operations -/

theorem nodup_of_firstRepeated? {seen names : List String} (h : firstRepeated? seen names = none) :
    names.Nodup ∧ ∀ name ∈ names, name ∉ seen := by
  induction names generalizing seen with
  | nil => exact ⟨List.nodup_nil, fun _ h => absurd h List.not_mem_nil⟩
  | cons first rest ih =>
    unfold firstRepeated? at h
    split at h
    · cases h
    · next new =>
      obtain ⟨nodup, others⟩ := ih h
      refine ⟨List.nodup_cons.mpr ⟨fun mem => others first mem List.mem_cons_self, nodup⟩, ?_⟩
      intro name mem
      rcases List.mem_cons.mp mem with rfl | mem
      · exact new
      · exact fun hs => others name mem (List.mem_cons_of_mem _ hs)

variable {q : Request}

/-- Registering the classes of an operation is a sequence of changes, and its record is there if
that succeeds. -/
theorem changes_generateOperation (asked : g.asks d = .ok q) {name : String} {o : Operation}
    (mem : (name, o) ∈ q.operations) :
    (generateOperation g.toSetting q.fragments q.queryText name o).Ends s
    (fun _ s' => Changes g d s s' ∧ ∃ r, RootFrom g q s' name o r ∧ .root r ∈ s'.registry.records)
    (Changes g d s ·) := by
  unfold generateOperation
  cases rooted : rootType g.schema o with
  | error e => exact ends_bind (ends_throw .refl)
  | ok root =>
    refine ends_bind (ends_pure ?_)
    refine ends_bind ((changes_variableParameters g d name o.parameters).imp ?_ fun _ h => h)
    rintro parameters s₁ ⟨first, isParameters⟩
    dsimp only
    split
    · exact ends_bind (ends_throw first)
    · next distinct =>
      refine ends_bind ((changes_plan g d (fromSetting_select _ _ _ _)
        (leafFits_select g d asked mem rooted rfl rfl)).imp ?_ fun _ next => first.trans next)
      rintro members s₂ ⟨next, ok, imported⟩
      have from_ : RootFrom g q s₂ name o
          { name, operationName := name, operationKind := o.kind, graphqlType := root.name
            possibleTypes := [root.name], queryText := q.queryText, parameters
            accessors := members.accessors
            dependencies := members.dependencies ∪
              .ofList (parameters.filterMap (·.dependency?)) } := by
        refine ⟨⟨root, members, ?_, imported⟩, ?_, (nodup_of_firstRepeated? distinct).1⟩
        · exact ⟨rooted, ok, rfl, rfl, rfl, rfl, rfl, rfl,
            fun _ hd => NameSet.mem_union.mpr (Or.inl hd)⟩
        · exact isParameters.imp fun _ _ p => p.of_subset next.imports_subset
      refine (changes_register g d (.root asked mem from_)).imp ?_
        fun _ last => (first.trans next).trans last
      rintro - s₃ ⟨last, registered⟩
      exact ⟨(first.trans next).trans last, _, from_.of_subset last.imports_subset, registered⟩

/-- The records of the operations of the document are there, with their parameters. -/
def HasRoots (s : Session) (g : Generator) (d : Declaration) : Prop :=
  ∃ q, g.asks d = .ok q ∧ ∀ name o, (name, o) ∈ q.operations →
    ∃ r, RootFrom g q s name o r ∧ .root r ∈ s.registry.records

/-- **A call is a sequence of changes**, whether it succeeds or fails. If it succeeds, the records
of its operations are there. -/
theorem changes_generate (s : Session) (g : Generator) (d : Declaration) :
    (g.generate d).Ends s (fun _ s' => Changes g d s s' ∧ HasRoots s' g d) (Changes g d s ·) := by
  unfold Generator.generate
  dsimp only
  refine ends_bind ((changes_report g d _).imp ?_ fun _ h => h)
  rintro - s₀ start
  cases hq : g.asks d with
  | error e =>
    unfold Generator.asks at hq
    rw [hq]
    exact ends_throw start
  | ok q =>
    have asked := hq
    unfold Generator.asks at hq
    rw [hq]
    refine (ends_forM (fun before s' => Changes g d s s' ∧ ∀ name o, (name, o) ∈ before →
      ∃ r, RootFrom g q s' name o r ∧ .root r ∈ s'.registry.records)
      ⟨start, fun _ _ h => absurd h List.not_mem_nil⟩ ?_).imp ?_ fun _ h => h
    · rintro before ⟨name, o⟩ s₁ front ⟨changes, has⟩
      have mem : (name, o) ∈ q.operations := front.subset (by simp)
      refine (changes_generateOperation asked mem).imp ?_ fun _ next => changes.trans next
      rintro - s₂ ⟨next, hasThis⟩
      refine ⟨changes.trans next, fun name' o' h => ?_⟩
      rcases List.mem_append.mp h with h | h
      · obtain ⟨r, from_, registered⟩ := has name' o' h
        exact ⟨r, from_.of_subset next.imports_subset, next.mem_records nofun registered⟩
      · cases List.mem_singleton.mp h
        exact hasThis
    · rintro - s' ⟨changes, has⟩
      exact ⟨changes, q, asked, has⟩

/-! ## Calls -/

/-- A call is a sequence of changes, whatever comes of it. -/
theorem changes_outcome (s : Session) (g : Generator) (d : Declaration) :
    Changes g d s ((g.generate d).outcome s).2 := by
  have ends := changes_generate s g d
  unfold Run.Ends at ends
  split at ends
  · next eq =>
    rw [eq]
    exact ends.1
  · next eq =>
    rw [eq]
    exact ends

/-- **What no change breaks holds of every session that calls lead to**, whatever comes of each. -/
theorem invariant_after {Invariant : Session → Prop} (start : Invariant {})
    (calls : List (Generator × Declaration))
    (keeps : ∀ g d, (g, d) ∈ calls → ∀ s s', Change g d s s' → Invariant s → Invariant s') :
    Invariant (after {} calls) := by
  suffices ∀ (rest : List (Generator × Declaration)) s, rest ⊆ calls → Invariant s →
      Invariant (after s rest) from this calls {} (List.Subset.refl _) start
  intro rest
  induction rest with
  | nil => exact fun s _ h => h
  | cons call rest ih =>
    intro s sub h
    have kept : ∀ s', Changes call.1 call.2 s s' → Invariant s' := by
      intro s' changes
      induction changes with
      | refl => exact h
      | tail _ change ih => exact keeps call.1 call.2 (sub List.mem_cons_self) _ _ change ih
    exact ih _ (fun x hx => sub (List.mem_cons_of_mem _ hx)) (kept _ (changes_outcome s _ _))

/-- A class that is not that of a selection is registered as some call has made it. -/
theorem exists_makes_after (calls : List (Generator × Declaration)) {x : Record}
    (registered : x ∈ (after {} calls).registry.records) (kind : x.kind ≠ .leaf) :
    ∃ g d s, (g, d) ∈ calls ∧ Makes g d s x := by
  refine @invariant_after (fun s => ∀ x ∈ s.registry.records, x.kind ≠ .leaf →
    ∃ g d s, (g, d) ∈ calls ∧ Makes g d s x) (fun _ h => absurd h List.not_mem_nil) calls
    ?_ x registered kind
  intro g d call s s' change made x hx kind
  cases change with
  | other registry _ => exact made x (registry ▸ hx) kind
  | imports _ _ registry _ => exact made x (registry ▸ hx) kind
  | add makes _ records _ =>
    rcases List.mem_append.mp (records ▸ hx) with hx | hx
    · exact made x hx kind
    · cases List.mem_singleton.mp hx
      exact ⟨g, d, s, call, makes⟩
  | merge makes mem name _ registry _ =>
    rw [registry, Registry.records_replace] at hx
    obtain ⟨y, hy, eq⟩ := List.mem_map.mp hx
    split at eq
    · exact absurd (congrArg Record.kind eq.symm) kind
    · exact made x (eq ▸ hy) kind

/-- No call takes away an import, or a record that is not that of a selection. -/
theorem changes_after_keeps (s : Session) (calls : List (Generator × Declaration)) :
    (∀ line ∈ s.imports, line ∈ (after s calls).imports) ∧
      ∀ x ∈ s.registry.records, x.kind ≠ .leaf → x ∈ (after s calls).registry.records := by
  induction calls generalizing s with
  | nil => exact ⟨fun _ h => h, fun _ h _ => h⟩
  | cons call rest ih =>
    have changes := changes_outcome s call.1 call.2
    obtain ⟨lines, records⟩ := ih ((call.1.generate call.2).outcome s).2
    exact ⟨fun line hl => lines line (changes.imports_subset line hl),
      fun x hx kind => records x (changes.mem_records kind hx) kind⟩

/-- The records of the operations of a call that succeeds are there after all later calls, with
their parameters. -/
theorem hasRoots_after {before : List (Generator × Declaration)}
    (h : Succeeds (after {} before) g d) (later : List (Generator × Declaration)) :
    HasRoots (after {} (before ++ (g, d) :: later)) g d := by
  rw [after_append]
  have ends := changes_generate (after {} before) g d
  unfold Run.Ends at ends
  unfold Succeeds at h
  split at ends
  · next eq =>
    obtain ⟨-, q, asked, has⟩ := ends
    rw [eq]
    obtain ⟨lines, records⟩ := changes_after_keeps _ later
    refine ⟨q, asked, fun name o ho => ?_⟩
    obtain ⟨r, from_, registered⟩ := has name o ho
    exact ⟨r, from_.of_subset lines, records _ registered nofun⟩
  · next eq =>
    rw [eq] at h
    cases h

end QueryShape.Generation
