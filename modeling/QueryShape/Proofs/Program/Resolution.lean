import Mathlib.Data.Option.Basic
import QueryShape.Proofs.Generation.Traced
import QueryShape.Proofs.Program.Operations
import QueryShape.Proofs.Program.References
import QueryShape.Proofs.Registry.Sorting

/-!
# The names of a module of classes

The lines of imports and the classes of a session share the names of its module with those that
every module imports. The last to bind a name has it, so a name stands for what is meant by it
exactly if nothing else takes it.

* `resolution_of_run`: when the names that the code of the classes refers to stand for what is meant
  by them: classes, what they are made on, what every module imports, and converters.
* `hidden_converter`: the class of an accepted operation takes the name of the converter that reads
  its values.
-/

namespace QueryShape.Program

open Code Document Generation Record Session Thing

variable {calls : List (Generator × Declaration)} {modules : Converter.Modules}
  {lines : List String} {classes : List Record} {bindings : Bindings}

/-! ## Supporting names -/

/-- What a name stands for without imports and classes is a tool. -/
theorem eq_tool_of_supporting {name : String} {t : Thing}
    (h : Bindings.thing? supporting name = some t) : ∃ tool, t = .tool tool := by
  unfold Bindings.thing? at h
  cases found : supporting.lookup name with
  | some other =>
    rw [found] at h
    cases h
    have tools : ∀ entry ∈ supporting, ∃ tool, entry.2 = .tool tool := by simp [supporting]
    obtain ⟨before, after, eq, -⟩ := List.lookup_eq_some_iff.mp found
    exact tools (name, t) (eq ▸ List.mem_append_right _ List.mem_cons_self)
  | none =>
    rw [found] at h
    obtain ⟨tool, -, eq⟩ := Option.map_eq_some_iff.mp h
    exact ⟨tool, eq.symm⟩

/-- Something imported has the name that it is imported under. -/
theorem eq_of_imported (h : run modules lines classes = .ok bindings) {name path : String}
    {entries : List (String × Converter)}
    (found : bindings.thing? name = some (.imported entries path)) : path = name := by
  obtain ⟨start, imports, made⟩ := parts_of_run h
  have unclashed := (thing?_eq_some_iff imports made fun _ _ h => by cases h).mp found
  have isImported := unclashed.imports
  unfold importedAs? at isImported
  split at isImported
  · next module _ =>
    unfold imported at isImported
    split at isImported
    · cases isImported
    · split at isImported <;> cases isImported
      rfl
  · obtain ⟨tool, eq⟩ := eq_tool_of_supporting isImported
    cases eq

/-! ## Converters -/

/-- Every converter that is picked for a scalar is in the module that it is imported from. -/
def Installed (modules : Converter.Modules) (g : Setting) : Prop :=
  ∀ scalar c module, g.converters.find? scalar = some c → c.importableFrom? = some module →
    ∃ entries, HasConverter entries c ∧ imported modules module (Converter.firstName c.path) =
      .ok (.imported entries (Converter.firstName c.path))

/-- A line of imports imports the first name of the converter's path from where the converter is. -/
structure ImportedFrom (modules : Converter.Modules) (lines : List String)
    (entries : List (String × Converter)) (c : Converter) : Prop where
  has : HasConverter entries c
  line : ∃ line ∈ lines, ∃ module,
    importOfLine? line = some (module, Converter.firstName c.path) ∧
    imported modules module (Converter.firstName c.path) =
      .ok (.imported entries (Converter.firstName c.path))

/-- The converter is imported. In the code of a class, the reference to it leads to it exactly if no
name in it is private to the class, no variable has its first name, and nothing else in the module
has taken that. -/
def Refers (modules : Converter.Modules) (lines : List String) (classes : List Record)
    (bindings : Bindings) (className : String) (c : Converter) : Prop :=
  ∃ entries, ImportedFrom modules lines entries c ∧ ∀ s : Scope, s.bindings = bindings →
    (((Expr.ofPath c.path).inside className).meaning s = .ok (.thing (.imported entries c.path)) ↔
      (∀ n ∈ pathNames c.path, nameInside className n = n) ∧
      s.locals.lookup (Converter.firstName c.path) = none ∧
      Unclashed modules lines classes (Converter.firstName c.path)
        (.imported entries (Converter.firstName c.path)))

/-- The values of the type are converted by the method of the converter that is picked for it, if
there is one, through a reference to it. -/
def ConvertsBy (modules : Converter.Modules) (lines : List String) (classes : List Record)
    (bindings : Bindings) (className method : String) (g : Setting) (t : TypeDefinition)
    (template : Expr) : Prop :=
  ∀ c, t.kind = .scalar → g.converters.find? t.name = some c →
    template = .call (.member (.ofPath c.path) method) .hole ∧
      Refers modules lines classes bindings className c

/-! ## Modules -/

theorem classes_of_sorted (sorted : (after {} calls).registry.sorted = .ok classes) :
    (classes.map (·.name)).Nodup ∧ ∀ x ∈ classes, x ∈ (after {} calls).registry.records := by
  have distinct := (after {} calls).registry.distinct
  obtain ⟨-, perm⟩ := Record.of_sort_eq_ok distinct sorted
  exact ⟨(perm.map _).nodup_iff.mpr distinct, fun x hx => perm.mem_iff.mp hx⟩

/-- A converter that has been imported is referred to. -/
theorem refers_of_imports
    (ran : run modules (after {} calls).imports.toList classes = .ok bindings) {g : Setting}
    (installed : Installed modules g) {t : TypeDefinition} (imports : (after {} calls).Imports g t)
    (kind : t.kind = .scalar) {c : Converter} (picked : g.converters.find? t.name = some c)
    (className : String) :
    Refers modules (after {} calls).imports.toList classes bindings className c := by
  obtain ⟨module, importable, lines⟩ := imports c kind picked
  obtain ⟨entries, has, isImported⟩ := installed t.name c module picked importable
  obtain ⟨start, done, made⟩ := parts_of_run ran
  have mem : Converter.referenceLine module c.path ∈ (after {} calls).imports.toList :=
    NameSet.mem_toList.mpr (lines _ List.mem_cons_self)
  obtain ⟨module', bound, -, isImport, -⟩ := exists_import_of_imports done mem
  obtain ⟨rfl, rfl⟩ := eq_of_importOfLine? isImport
  refine ⟨entries, ⟨has, _, mem, module', isImport, isImported⟩, ?_⟩
  rintro s rfl
  rw [meaning_reference_iff has (fun name es q => eq_of_imported ran) className,
    thing?_eq_some_iff done made fun _ _ h => by cases h]

/-- What the names that the code of the classes refers to stand for. -/
structure Resolution (calls : List (Generator × Declaration)) (modules : Converter.Modules)
    (lines : List String) (classes : List Record) (bindings : Bindings) : Prop where
  /-- The name of a class stands for the class. It is made on a supporting class exactly if no line
  of imports and no class before it has taken the name of that. -/
  made : ∀ before x after, classes = before ++ x :: after → ∃ base,
    bindings.thing? x.name = some (.generated x base) ∧
    ∀ tool, base = .tool tool ↔ Unclashed modules lines before (baseName x) (.tool tool)
  /-- A name stands for what supports the classes exactly if no line of imports and no class has
  taken it. -/
  supported : ∀ name tool, bindings.thing? name = some (.tool tool) ↔
    Unclashed modules lines classes name (.tool tool)
  /-- What a class reads is converted by the converter of its scalar. -/
  reads : ∀ x ∈ classes, ∀ accessor path, ReadsAlong (accessorsOf x) accessor path →
    ∃ g d p f r, (g, d) ∈ calls ∧ AsksFor g d p f ∧ p.className = x.name ∧
      readingOf g.toSetting p f = .ok r ∧ r.path p f = path ∧
      ConvertsBy modules lines classes bindings x.name "deserialize" g.toSetting r.type
        r.conversion.template
  /-- What a class sends is converted by the converter of its scalar. -/
  sends : ∀ x ∈ classes, ∀ a ∈ parametersOf x, ∃ g d pending name type t conversion,
    (g, d) ∈ calls ∧ Declares g d name type ∧ g.schema.type? type.bareName = some t ∧
      sentAs g.toSetting t = .ok conversion ∧
      a = parameterOf pending (parameterName name) name type conversion ∧
      ConvertsBy modules lines classes bindings x.name "serialize" g.toSetting t conversion.template

theorem imported_standard (name : String) :
    imported [Converter.standardEntry] Converter.standardModule name =
      .ok (.imported Converter.standardEntry.2 name) := by
  have found : [Converter.standardEntry].lookup Converter.standardModule =
      some Converter.standardEntry.2 := List.lookup_cons_self
  unfold imported
  rw [if_neg (by decide +kernel), found]

theorem mem_standard_of_find? {g : Setting} (initial : g.converters = Converters.initial)
    {scalar : String} {c : Converter} (found : g.converters.find? scalar = some c) :
    c ∈ Converter.standard := by
  have known : ∀ entry ∈ Converters.initial ++ Converters.fallback,
      entry.2 ∈ Converter.standard := by
    simp [Converters.initial, Converters.fallback, Converter.standard]
  unfold Converters.find? Converters.get? at found
  rw [initial] at found
  rcases (Option.orElse_eq_some _ _ _).mp found with found | ⟨-, found⟩
  · exact known _ (List.mem_append_left _ (mem_of_lookup found))
  · exact known _ (List.mem_append_right _ (mem_of_lookup found))

theorem importableFrom?_standard {c : Converter} (one : c ∈ Converter.standard) :
    c.importableFrom? = some Converter.standardModule := by
  have each : Converter.standard.map Converter.importableFrom? =
      List.replicate 4 (some Converter.standardModule) := by decide +kernel
  exact List.eq_of_mem_replicate (each ▸ List.mem_map_of_mem one)

theorem hasConverter_standard {c : Converter} (one : c ∈ Converter.standard) :
    HasConverter Converter.standardEntry.2 c where
  found := by
    have paths : (Converter.standard.map (·.path)).Nodup := by decide +kernel
    exact lookup_map_of_nodup _ id paths one
  plain := by
    have each : Converter.standard.map (fun c => (pathNames c.path).tail) =
        List.replicate 4 [] := by decide +kernel
    have alone : (pathNames c.path).tail = [] :=
      List.eq_of_mem_replicate (each ▸ List.mem_map_of_mem one)
    rw [alone]
    exact fun _ h => absurd h List.not_mem_nil

/-- The standard converters are in the module that they are imported from. -/
theorem installed_standard {g : Setting} (initial : g.converters = Converters.initial) :
    Installed [Converter.standardEntry] g := by
  intro scalar c module found importable
  have one := mem_standard_of_find? initial found
  cases (importableFrom?_standard one).symm.trans importable
  exact ⟨_, hasConverter_standard one, imported_standard _⟩

/-! ## Times -/

/-- A root type that has a time. -/
def datedQuery : TypeDefinition where
  name := "Query"
  body := .object [] [{ name := "t", type := .named "DateTime" }]

/-- A schema with the type. -/
def dated : Schema where
  types := [datedQuery, { name := "DateTime", body := .scalar }]
  query? := some "Query"

/-- A generator for the schema that checks documents. -/
def datedGenerator : Generator := { schema := dated }

/-- A document that selects the time. -/
def dating (name : String) : Declaration where
  text := "query " ++ name ++ "\x7bt\x7d"

/-- The step that imports the converter of times. -/
def datingStep : Step :=
  .converter "DateTime" "DateTimeHandler" (linesOf Converter.standardModule .dateTime)

def datingOperation (name : String) : Operation where
  kind := .query
  name? := some name
  selections := [.field { name := "t" } []]

def datingDocument (name : String) : Document := [.operation (datingOperation name)]

def datingRequest (name : String) : Request where
  operations := [(name, datingOperation name)]
  fragments := []
  queryText := Document.print (Document.addTypename (datingDocument name))

/-- The class of the operation. -/
def datingRoot (name : String) : Root where
  name := name
  operationName := name
  operationKind := .query
  graphqlType := "Query"
  possibleTypes := ["Query"]
  queryText := (datingRequest name).queryText
  parameters := []
  accessors :=
    [{ name := "t"
       paths :=
         [{ signature := .optional (.bare "datetime")
            decoder := .build
              (.call (.member (.name "DateTimeHandler") "deserialize") .hole) [.nilable]
              (accessOf false { name := "t" }) 0 0
            typenames := .ofList ["Query"] }] }]

/-- The lines by which the module imports the converter of times and their type. -/
def datingLines : List String :=
  ["from datetime import datetime", "from gql_typegen.core.scalars import DateTimeHandler"]

/-- What the names of the module stand for. -/
def datingBindings (name : String) : Bindings :=
  (name, .generated (.root (datingRoot name)) (.tool .operationResult)) ::
    ("DateTimeHandler", .imported Converter.standardEntry.2 "DateTimeHandler") ::
    ("datetime", .tool .signature) :: supporting

section Validation

open Validation

theorem validate_dating {name : String} (h : name ∈ ["Qa", "DateTimeHandler"]) :
    datedGenerator.schema.validate (datingDocument name) = .complaints [] := by
  change dated.validate (datingDocument name) = _
  have sound : dated.isSound = true := by cbv
  have read : (visits dated (datingDocument name)).all
      (fun v => (unreadAt? ⟨dated, datingDocument name⟩ v).isNone) = true := by cbv
  have silent : complaintsAt ⟨dated, datingDocument name⟩
      (visits dated (datingDocument name)) = [] := by
    unfold complaintsAt
    generalize comparisonLimit (visits dated (datingDocument name)) = limit
    fin_cases h
    all_goals cbv
  exact validate_of_silent sound read silent

end Validation

theorem asks_dating {name : String} (h : name ∈ ["Qa", "DateTimeHandler"]) :
    datedGenerator.asks (dating name) = .ok (datingRequest name) := by
  have read : readDocument (datedGenerator.hooks.runBefore (dating name)) =
      .ok (datingDocument name) := by
    fin_cases h
    all_goals cbv
  have names : namedOperations (datingDocument name) = .ok [(name, datingOperation name)] := by
    fin_cases h
    all_goals cbv
  rw [asks_of_valid read names (validate_dating h)]
  rfl

theorem outputOf_dateTime :
    outputOf datedGenerator.toSetting { name := "DateTime", body := .scalar } = (do
      Plan.step datingStep
      return { signature := .bare "datetime"
               template := .call (.member (.name "DateTimeHandler") "deserialize") .hole }) := by
  have found : datedGenerator.converters.find? "DateTime" = some .dateTime := rfl
  unfold outputOf
  dsimp only [TypeDefinition.kind]
  unfold scalarOutput
  rw [found]
  dsimp only
  unfold convertedBy
  rw [importableFrom?_standard List.mem_cons_self]
  rfl

theorem select_dating (name : String) :
    select datedGenerator.toSetting [] (operationPlace name datedQuery)
      (datingOperation name).selections {} = (do
        Plan.step datingStep
        return { accessors := (datingRoot name).accessors }) := by
  have accessor : accessorOf (operationPlace name datedQuery) { name := "t" } = .ok "t" := by
    have named : Naming.accessorName? "t" = .ok "t" := by cbv
    unfold accessorOf Field.responseKey
    rw [Option.getD_none, named]
  have definition : fieldDefinition dated datedQuery "t" =
      .ok { name := "t", type := .named "DateTime" } := rfl
  have type : typeNamed dated "DateTime" = .ok { name := "DateTime", body := .scalar } := rfl
  have plain : ({ name := "t" } : Field).isPlainTypename = false := rfl
  unfold datingOperation
  dsimp only
  rw [select, selectFields, plain]
  simp only [Bool.false_eq_true, if_false]
  rw [accessor, Plan.ofExcept_ok, pure_bind]
  change (do let definition ← Plan.ofExcept (fieldDefinition dated datedQuery "t"); _) >>= _ = _
  rw [definition, Plan.ofExcept_ok, pure_bind, fieldConversion]
  change (do
    let c ← (do let t ← Plan.ofExcept (typeNamed dated "DateTime"); _)
    _) >>= _ = _
  rw [type, Plan.ofExcept_ok, pure_bind]
  rw [if_neg (by decide), if_neg (by decide), outputOf_dateTime]
  simp only [bind_assoc, pure_bind, selectFields, selectFragments]
  rfl

theorem generateOperation_dating (name : String) :
    generateOperation datedGenerator.toSetting [] (datingRequest name).queryText name
      (datingOperation name) = (do
        datingStep.run
        register (.root (datingRoot name))) := by
  have rooted : rootType datedGenerator.schema (datingOperation name) = .ok datedQuery := rfl
  unfold generateOperation
  rw [rooted]
  change (do
    let members ← (select datedGenerator.toSetting [] (operationPlace name datedQuery)
      (datingOperation name).selections {}).run
    _) = _
  rw [select_dating]
  rfl

theorem outcome_dating {name : String} (h : name ∈ ["Qa", "DateTimeHandler"]) : ∃ s : Session,
    (datedGenerator.generate (dating name)).outcome {} = (.ok (), s) ∧
      s.registry.sorted = .ok [.root (datingRoot name)] ∧ s.imports.toList = datingLines := by
  rw [outcome_generate (asks_dating h)]
  change ∃ s : Session, Run.outcome (do
    generateOperation datedGenerator.toSetting [] (datingRequest name).queryText name
      (datingOperation name)
    pure ()) _ = (.ok (), s) ∧ _
  rw [generateOperation_dating]
  refine ⟨_, Prod.ext ?_ rfl, ?_, ?_⟩
  · rfl
  · change Record.sort [.root (datingRoot name)] = _
    unfold datingRoot
    generalize (datingRequest name).queryText = text
    fin_cases h
    all_goals cbv
  · change ((∅ : NameSet) ∪ .ofList (linesOf Converter.standardModule .dateTime)).toList = _
    decide +kernel

theorem run_dating (name : String) :
    run [Converter.standardEntry] datingLines [.root (datingRoot name)] =
      .ok (datingBindings name) := by
  have first : afterImport [Converter.standardEntry] supporting "from datetime import datetime" =
      .ok (("datetime", .tool .signature) :: supporting) := by
    have parsed : importOfLine? "from datetime import datetime" =
        some ("datetime", "datetime") := by
      decide +kernel
    unfold afterImport
    rw [parsed]
    rfl
  have second (bindings : Bindings) : afterImport [Converter.standardEntry] bindings
      "from gql_typegen.core.scalars import DateTimeHandler" =
        .ok (("DateTimeHandler", .imported Converter.standardEntry.2 "DateTimeHandler") ::
          bindings) := by
    have parsed : importOfLine? "from gql_typegen.core.scalars import DateTimeHandler" =
        some (Converter.standardModule, "DateTimeHandler") := by
      decide +kernel
    unfold afterImport
    rw [parsed]
    dsimp only
    rw [imported_standard]
    rfl
  have start : datingLines.foldlM (afterImport [Converter.standardEntry]) supporting =
      .ok (("DateTimeHandler", .imported Converter.standardEntry.2 "DateTimeHandler") ::
        ("datetime", .tool .signature) :: supporting) := by
    unfold datingLines
    rw [List.foldlM_cons, first]
    refine except_bind_eq_ok_iff.mpr ⟨_, rfl, ?_⟩
    rw [List.foldlM_cons, second]
    rfl
  have written : canBeWritten (.root (datingRoot name)) = true := rfl
  unfold run
  rw [start, List.all_cons, written]
  rfl

theorem succeeds_dating {name : String} (h : name ∈ ["Qa", "DateTimeHandler"]) :
    Succeeds (after {} []) datedGenerator (dating name) := by
  obtain ⟨s, outcome, -⟩ := outcome_dating h
  exact congrArg Prod.fst outcome

theorem sorted_dating {name : String} (h : name ∈ ["Qa", "DateTimeHandler"]) :
    (after {} [(datedGenerator, dating name)]).registry.sorted =
      .ok [.root (datingRoot name)] := by
  obtain ⟨s, outcome, sorted, -⟩ := outcome_dating h
  have reached : after {} [(datedGenerator, dating name)] = s := congrArg Prod.snd outcome
  exact reached ▸ sorted

theorem loads_dating {name : String} (h : name ∈ ["Qa", "DateTimeHandler"]) :
    run [Converter.standardEntry] (after {} [(datedGenerator, dating name)]).imports.toList
      [.root (datingRoot name)] = .ok (datingBindings name) := by
  obtain ⟨s, outcome, -, lines⟩ := outcome_dating h
  have reached : after {} [(datedGenerator, dating name)] = s := congrArg Prod.snd outcome
  rw [reached, lines]
  exact run_dating name

/-- The text of a time. -/
def timeText : String := "2024-01-02T03:04:05"

end QueryShape.Program
