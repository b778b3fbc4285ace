import QueryShape.Proofs.Generation.Keys
import QueryShape.Proofs.Naming.Pascal
import QueryShape.Proofs.Program.Usable

/-!
# Accessors and the classes of their values

The accessor of a field is named in snake case and the class of what is selected under it in pascal
case, so two accessors of a class can have one class for their values: pascal case does not tell all
underscores.

* `leafClassName_eq_iff_markedAlike`: when two accessors lead to one class name.
* `one_leaf_iff`: which is when their values are read into one class.
* `refused_neighbors`: fields of an accepted document are taken for one, and refused.
-/

namespace QueryShape.Generation

open Document Naming Program Record Session

variable {f f' : Field} {accessor accessor' : String}

/-! ## Names -/

/-- Pascal case does not tell the fields apart: both have an alias or neither, their accessors have
the same marks, and so have their names. -/
structure MarkedAlike (f f' : Field) (accessor accessor' : String) : Prop where
  aliased : f.alias?.isSome = f'.alias?.isSome
  accessors : marks accessor.toList = marks accessor'.toList
  names : marks (snakeChars f.name.toList) = marks (snakeChars f'.name.toList)

/-- **Two fields have one name for the class of their values exactly if pascal case does not tell
them apart.** -/
theorem leafClassName_eq_iff_markedAlike (parent : String) (named : FieldNamed f)
    (named' : FieldNamed f') (h : accessorName? f.responseKey = .ok accessor)
    (h' : accessorName? f'.responseKey = .ok accessor') :
    leafClassName parent f.alias? f.name = leafClassName parent f'.alias? f'.name ↔
      MarkedAlike f f' accessor accessor' := by
  have names := pascalCase_eq_iff (isWordChar_of_isName named.2) (isWordChar_of_isName named'.2)
  have keys := pascalCase_eq_iff (isWordChar_of_isName named.responseKey)
    (isWordChar_of_isName named'.responseKey)
  rw [leafClassName_eq_iff, names]
  have alike : MarkedAlike f f' accessor accessor' ↔ f.alias?.isSome = f'.alias?.isSome ∧
      marks (snakeChars f.responseKey.toList) = marks (snakeChars f'.responseKey.toList) ∧
      marks (snakeChars f.name.toList) = marks (snakeChars f'.name.toList) := by
    rw [← marks_accessor h, ← marks_accessor h']
    exact ⟨fun ⟨a, b, c⟩ => ⟨a, b, c⟩, fun ⟨a, b, c⟩ => ⟨a, b, c⟩⟩
  rw [alike, ← keys]
  unfold Field.responseKey
  cases f.alias? with
  | none =>
    cases f'.alias? with
    | none => simp [names]
    | some key' => simp
  | some key =>
    cases f'.alias? with
    | none => simp
    | some key' => simp

/-! ## Classes -/

/-- The registered class of a selection reads the values of a field, which are of its type. -/
structure ReadInto (s : Session) (r : Reading) (l : Leaf) : Prop where
  mem : .leaf l ∈ s.registry.records
  conversion : r.conversion = readByClass l.name
  graphqlType : l.graphqlType = r.definition.type.bareName

variable {calls : List (Generator × Declaration)} {g g' : Generator} {d d' : Declaration}
  {p p' : Place} {r r' : Reading}

/-- The values of a composite field are read into the class that is named after it. -/
theorem exists_readInto (succeed : AllSucceed calls) (mem : (g, d) ∈ calls)
    (asks : AsksFor g d p f) (hr : readingOf g.toSetting p f = .ok r)
    (composite : r.type.kind.isComposite = true) :
    ∃ l, ReadInto (after {} calls) r l ∧ l.name = leafClassName p.className f.alias? f.name := by
  obtain ⟨r', x, hr', -, -, -, needs⟩ := recorded_of_allSucceed succeed mem asks
  cases hr.symm.trans hr'
  have notScalar : r.type.kind ≠ .scalar := fun kind => by
    rw [kind] at composite
    cases composite
  have named := conversion_of_composite hr composite
  obtain ⟨y, hy, ⟨conversion, kind⟩ | ⟨conversion, -⟩, -, type⟩ := needs notScalar
  · cases y with
    | leaf l =>
      refine ⟨l, ⟨hy, conversion, type⟩, ?_⟩
      exact Option.some.inj (congrArg Conversion.dependency? (conversion.symm.trans named))
    | _ => cases kind
  · have templates := congrArg Conversion.template (conversion.symm.trans named)
    cases templates

/-- **Two composite fields that are read on one class are read into one class exactly if pascal case
does not tell them apart**, whatever their accessors are called. -/
theorem one_leaf_iff (calls : List (Generator × Declaration)) :
    (∀ parent f f' accessor accessor', FieldNamed f → FieldNamed f' →
      accessorName? f.responseKey = .ok accessor → accessorName? f'.responseKey = .ok accessor' →
      (leafClassName parent f.alias? f.name = leafClassName parent f'.alias? f'.name ↔
        MarkedAlike f f' accessor accessor')) ∧
    (AllSucceed calls → ∀ g d p f r g' d' p' f' r',
      (g, d) ∈ calls → AsksFor g d p f → readingOf g.toSetting p f = .ok r →
      (g', d') ∈ calls → AsksFor g' d' p' f' → readingOf g'.toSetting p' f' = .ok r' →
      r.type.kind.isComposite = true → r'.type.kind.isComposite = true →
      p.className = p'.className →
      ∃ l l', ReadInto (after {} calls) r l ∧ ReadInto (after {} calls) r' l' ∧
        (l = l' ↔ MarkedAlike f f' r.accessor r'.accessor)) := by
  refine ⟨fun parent f f' accessor accessor' => leafClassName_eq_iff_markedAlike parent, ?_⟩
  intro succeed g d p f r g' d' p' f' r' mem asks hr mem' asks' hr' composite composite' sameClass
  obtain ⟨l, into, name⟩ := exists_readInto succeed mem asks hr composite
  obtain ⟨l', into', name'⟩ := exists_readInto succeed mem' asks' hr' composite'
  refine ⟨l, l', into, into', ?_⟩
  rw [← leafClassName_eq_iff_markedAlike p.className (named_of_asksFor asks)
    (named_of_asksFor asks') (accessorName?_of_readingOf hr) (accessorName?_of_readingOf hr'),
    ← name, sameClass, ← name']
  -- a registry has one class of a name
  constructor
  · rintro rfl
    rfl
  · intro same
    exact Record.leaf.inj (Registry.eq_of_name_eq into.mem into'.mem same)

/-! ## Neighbors -/

/-- The type of queries, with fields whose names differ in a digit or in an underscore. -/
def neighboringQuery : TypeDefinition where
  name := "Query"
  body := .object [] [{ name := "u1", type := .named "User" },
    { name := "u2", type := .named "User" }, { name := "u_1", type := .named "Post" }]

/-- The schema of the type. -/
def neighboring : Schema where
  types :=
    [neighboringQuery,
     { name := "User", body := .object [] [{ name := "id", type := .named "String" }] },
     { name := "Post", body := .object [] [{ name := "id", type := .named "String" }] },
     { name := "String", body := .scalar }]
  query? := some "Query"

/-- A generator for the schema that checks documents. -/
def neighboringGenerator : Generator := { schema := neighboring }

/-- A document that selects a field and another. -/
def neighbors (name : String) : Declaration where
  text := "query Qa\x7bu1\x7bid\x7d" ++ name ++ "\x7bid\x7d\x7d"

def neighborsOperation (name : String) : Operation where
  kind := .query
  name? := some "Qa"
  selections :=
    [.field { name := "u1" } [.field { name := "id" } []],
     .field { name } [.field { name := "id" } []]]

def neighborsDocument (name : String) : Document := [.operation (neighborsOperation name)]

def neighborsRequest (name : String) : Request where
  operations := [("Qa", neighborsOperation name)]
  fragments := []
  queryText := Document.print (Document.addTypename (neighborsDocument name))

section Validation

open Validation

theorem validate_neighbors {name : String} (h : name ∈ ["u2", "u_1"]) :
    neighboringGenerator.schema.validate (neighborsDocument name) = .complaints [] := by
  change neighboring.validate (neighborsDocument name) = _
  have sound : neighboring.isSound = true := by cbv
  have read : (visits neighboring (neighborsDocument name)).all
      (fun v => (unreadAt? ⟨neighboring, neighborsDocument name⟩ v).isNone) = true := by
    fin_cases h
    all_goals cbv
  have silent : complaintsAt ⟨neighboring, neighborsDocument name⟩
      (visits neighboring (neighborsDocument name)) = [] := by
    unfold complaintsAt
    generalize comparisonLimit (visits neighboring (neighborsDocument name)) = limit
    fin_cases h
    all_goals cbv
  exact validate_of_silent sound read silent

end Validation

theorem asks_neighbors {name : String} (h : name ∈ ["u2", "u_1"]) :
    neighboringGenerator.asks (neighbors name) = .ok (neighborsRequest name) := by
  have read : readDocument (neighboringGenerator.hooks.runBefore (neighbors name)) =
      .ok (neighborsDocument name) := by
    fin_cases h
    all_goals cbv
  have names : namedOperations (neighborsDocument name) =
      .ok [("Qa", neighborsOperation name)] := by
    fin_cases h
    all_goals cbv
  rw [asks_of_valid read names (validate_neighbors h)]
  rfl

/-- The class of what is selected under a field. -/
def neighborLeaf (className typeName : String) : Leaf where
  name := className
  graphqlType := typeName
  possibleTypes := [typeName]
  accessors :=
    [{ name := "id"
       paths :=
         [{ signature := .optional (.bare "str")
            decoder := .build (.cast "str" .hole) [.nilable] (accessOf false { name := "id" }) 0 0
            typenames := .ofList [typeName] }] }]

/-- The members with those of a field. -/
def addNeighbor (members : Members) (name className typeName : String) : Members :=
  members.add name (pathOf (operationPlace "Qa" neighboringQuery) { name } (.named typeName)
    (readByClass className)) (some className)

/-- The fields with the classes of what is selected under them, and their types. -/
def neighborClasses : List (String × String × String) :=
  [("u1", "Qa__U1", "User"), ("u2", "Qa__U2", "User"), ("u_1", "Qa__U1", "Post")]

theorem addSite_neighbor {name className typeName : String}
    (h : (name, className, typeName) ∈ neighborClasses) (members : Members) :
    addSite neighboringGenerator.toSetting members
      (.ok ⟨[], operationPlace "Qa" neighboringQuery, { name }, [.field { name := "id" } []]⟩) =
      { steps := [.leaf (neighborLeaf className typeName)]
        result := .ok (addNeighbor members name className typeName) } := by
  fin_cases h
  all_goals cbv

theorem select_neighbors {name className typeName : String}
    (h : (name, className, typeName) ∈ neighborClasses) :
    select neighboringGenerator.toSetting [] (operationPlace "Qa" neighboringQuery)
      (neighborsOperation name).selections {} =
      { steps := [.leaf (neighborLeaf "Qa__U1" "User"), .leaf (neighborLeaf className typeName)]
        result := .ok (addNeighbor (addNeighbor {} "u1" "Qa__U1" "User")
          name className typeName) } := by
  have first : ("u1", "Qa__U1", "User") ∈ neighborClasses := List.mem_cons_self
  have sites : survey neighboringGenerator.schema [] (operationPlace "Qa" neighboringQuery)
      (neighborsOperation name).selections =
      [.ok ⟨[], operationPlace "Qa" neighboringQuery, { name := "u1" },
        [.field { name := "id" } []]⟩,
       .ok ⟨[], operationPlace "Qa" neighboringQuery, { name }, [.field { name := "id" } []]⟩] := by
    fin_cases h
    all_goals cbv
  rw [select_eq_foldlM, sites, List.foldlM_cons, addSite_neighbor first]
  change Plan.bind _ _ = _
  unfold Plan.bind
  dsimp only
  rw [List.foldlM_cons, addSite_neighbor h]
  rfl

/-- The document is refused if its second field has the class of the first and another type. -/
theorem outcome_neighbors {name className typeName : String}
    (h : (name, className, typeName) ∈ neighborClasses.tail) :
    ((neighboringGenerator.generate (neighbors name)).outcome {}).1 =
      if className = "Qa__U1" then .error (.redefinition "Qa__U1" (.types "User" typeName))
      else .ok () := by
  have mem : name ∈ neighborClasses.tail.map (·.1) := List.mem_map.mpr ⟨_, h, rfl⟩
  have rooted : rootType neighboringGenerator.schema (neighborsOperation name) =
      .ok neighboringQuery := rfl
  rw [outcome_generate (asks_neighbors mem)]
  change (Run.outcome (do
    generateOperation neighboringGenerator.toSetting [] (neighborsRequest name).queryText "Qa"
      (neighborsOperation name)
    pure ()) _).1 = _
  unfold generateOperation
  rw [rooted]
  change (Run.outcome (do
    (do
      let members ← (select neighboringGenerator.toSetting []
        (operationPlace "Qa" neighboringQuery) (neighborsOperation name).selections {}).run
      _)
    _) _).1 = _
  rw [select_neighbors (List.mem_of_mem_tail h)]
  generalize (neighborsRequest name).queryText = text
  fin_cases h
  all_goals cbv

/-- A document asks for the fields of its selection set. -/
theorem asksFor_neighbors {name field : String} (h : name ∈ ["u2", "u_1"])
    (mem : field ∈ ["u1", name]) : AsksFor neighboringGenerator (neighbors name)
      (operationPlace "Qa" neighboringQuery) { name := field } := by
  refine ⟨neighborsRequest name, _, (neighborsOperation name).selections,
    [.field { name := "id" } []], asks_neighbors h,
    ⟨"Qa", neighborsOperation name, neighboringQuery, List.mem_cons_self, rfl, .here _ _⟩,
    .field ?_ ?_⟩
  · rcases List.mem_cons.mp mem with rfl | mem
    · exact List.mem_cons_self
    · cases List.mem_singleton.mp mem
      exact List.mem_cons_of_mem _ List.mem_cons_self
  · have plain : ∀ name ∈ ["u2", "u_1"], ∀ field ∈ ["u1", name],
        Field.isPlainTypename { name := field } = false := by decide
    exact plain name h field mem

/-- Fields whose names differ in a digit are told apart, so each has its own class. -/
theorem one_leaf_iff_neighbors :
    FieldNamed { name := "u1" } ∧ FieldNamed { name := "u2" } ∧
    accessorName? "u1" = .ok "u1" ∧ accessorName? "u2" = .ok "u2" ∧
    (leafClassName "Qa" none "u1" = leafClassName "Qa" none "u2" ↔
      MarkedAlike { name := "u1" } { name := "u2" } "u1" "u2") ∧
    AllSucceed [(neighboringGenerator, neighbors "u2")] ∧
    ∃ r r', readingOf neighboringGenerator.toSetting (operationPlace "Qa" neighboringQuery)
        { name := "u1" } = .ok r ∧
      readingOf neighboringGenerator.toSetting (operationPlace "Qa" neighboringQuery)
        { name := "u2" } = .ok r' ∧
      ∃ l l', ReadInto (after {} [(neighboringGenerator, neighbors "u2")]) r l ∧
        ReadInto (after {} [(neighboringGenerator, neighbors "u2")]) r' l' ∧
        (l = l' ↔ MarkedAlike { name := "u1" } { name := "u2" } r.accessor r'.accessor) := by
  have second : "u2" ∈ ["u2", "u_1"] := List.mem_cons_self
  have asks := asksFor_neighbors second List.mem_cons_self
  have asks' := asksFor_neighbors second (List.mem_cons_of_mem "u1" List.mem_cons_self)
  have succeeds : Succeeds {} neighboringGenerator (neighbors "u2") := by
    have mem : ("u2", "Qa__U2", "User") ∈ neighborClasses.tail := List.mem_cons_self
    unfold Succeeds
    rw [outcome_neighbors mem]
    decide
  have succeed := allSucceed_singleton succeeds
  have call : (neighboringGenerator, neighbors "u2") ∈ [(neighboringGenerator, neighbors "u2")] :=
    List.mem_cons_self
  obtain ⟨r, -, hr, -⟩ := recorded_of_allSucceed succeed call asks
  obtain ⟨r', -, hr', -⟩ := recorded_of_allSucceed succeed call asks'
  have isComposite {field : String} {r : Reading} (mem : field ∈ ["u1", "u2"])
      (hr : readingOf neighboringGenerator.toSetting (operationPlace "Qa" neighboringQuery)
        { name := field } = .ok r) : r.type.kind.isComposite = true := by
    obtain ⟨-, definition, type, -⟩ := readingOf_eq_ok_iff.mp hr
    have isUser : fieldDefinition neighboring neighboringQuery field =
        .ok { name := field, type := .named "User" } := by
      fin_cases mem
      all_goals rfl
    rw [← Except.ok.inj (isUser.symm.trans definition)] at type
    have composite : typeNamed neighboring "User" = .ok r.type := type
    rw [← Except.ok.inj composite]
    rfl
  obtain ⟨names, classes⟩ := one_leaf_iff [(neighboringGenerator, neighbors "u2")]
  have named := named_of_asksFor asks
  have named' := named_of_asksFor asks'
  have accessor : accessorName? "u1" = .ok "u1" := by cbv
  have accessor' : accessorName? "u2" = .ok "u2" := by cbv
  exact ⟨named, named', accessor, accessor', names _ _ _ _ _ named named' accessor accessor',
    succeed, r, r', hr, hr', classes succeed _ _ _ _ r _ _ _ _ r' call asks hr call asks' hr'
      (isComposite (by decide) hr) (isComposite (by decide) hr') rfl⟩

/-- **Two fields of an accepted document are taken for one.** Their accessors differ in an
underscore, which pascal case does not tell, so their classes have one name, and since the fields
have different types, the document is refused. -/
theorem refused_neighbors :
    neighboringGenerator.validates = true ∧
    neighboringGenerator.asks (neighbors "u_1") = .ok (neighborsRequest "u_1") ∧
    accessorName? "u1" = .ok "u1" ∧ accessorName? "u_1" = .ok "u_1" ∧
    leafClassName "Qa" none "u1" = leafClassName "Qa" none "u_1" ∧
    ((neighboringGenerator.generate (neighbors "u_1")).outcome {}).1 =
      .error (.redefinition "Qa__U1" (.types "User" "Post")) := by
  have mem : "u_1" ∈ ["u2", "u_1"] := by decide
  have isLast : ("u_1", "Qa__U1", "Post") ∈ neighborClasses.tail := by decide
  refine ⟨rfl, asks_neighbors mem, by cbv, by cbv, by cbv, ?_⟩
  rw [outcome_neighbors isLast]
  rfl

end QueryShape.Generation
