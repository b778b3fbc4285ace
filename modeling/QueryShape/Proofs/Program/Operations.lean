import Mathlib.Data.List.Forall2
import Mathlib.Tactic.FinCases
import QueryShape.Proofs.Generation.Changes
import QueryShape.Proofs.Generation.Valid
import QueryShape.Proofs.Program.Variables

/-!
# What operations send

The class of an operation has a parameter for each of its variables, under whose names their values
are passed, and sends what the serializers of the parameters make of them.

* `sendsReference_iff`: what is sent is what is to be sent, if and only if nothing in the method of
  the operation hides what its serializers call.
* `captured_listing`: a variable of an accepted document hides what copies its list.
-/

namespace QueryShape.Program

open Code Document Generation Record

variable {g : Setting} {v : Variable} {p : Parameter} {bindings : Bindings} {vs : List Variable}

/-! ## Parameters -/

theorem IsParameterOf.eq {p' : Parameter} (h : IsParameterOf g v p) (h' : IsParameterOf g v p') :
    p = p' := by
  obtain ⟨t, c, found, sent, rfl⟩ := h
  obtain ⟨t', c', found', sent', rfl⟩ := h'
  cases found.symm.trans found'
  cases sent.symm.trans sent'
  rfl

theorem exists_parameterOf {ps : List Parameter}
    (h : List.Forall₂ (fun v p => IsParameterOf g v p) vs ps) :
    ∃ parameterOf : Variable → Parameter, ps = vs.map parameterOf ∧
      ∀ v ∈ vs, IsParameterOf g v (parameterOf v) := by
  have each : ∀ v ∈ vs, ∃ p, IsParameterOf g v p := by
    induction h with
    | nil => exact fun v hv => absurd hv List.not_mem_nil
    | cons one rest ih => exact List.forall_mem_cons.mpr ⟨⟨_, one⟩, ih⟩
  choose! parameterOf isParameter using each
  refine ⟨parameterOf, ?_, isParameter⟩
  induction h with
  | nil => rfl
  | cons one rest ih =>
    obtain ⟨first, others⟩ := List.forall_mem_cons.mp isParameter
    rw [List.map_cons, one.eq first, ih others]

/-- The values of all parameters, each passed under its name. -/
theorem arguments_of_nodup {className : String} {ps : List Parameter}
    (distinct : (ps.map (passedName className)).Nodup) (value : Parameter → Value) :
    arguments className ps (ps.map fun p => (passedName className p, value p)) =
      .ok (ps.map fun p => (p, value p)) := by
  have given : ∀ p ∈ ps, argument className (ps.map fun p => (passedName className p, value p)) p =
      .ok (value p) := by
    intro p hp
    unfold argument
    rw [lookup_map_of_nodup (passedName className) value distinct hp]
  unfold arguments
  rw [if_pos]
  · have each : ∀ p ∈ ps, (do return (p, ← argument className
        (ps.map fun p => (passedName className p, value p)) p) : Except Fault _) =
          pure (p, value p) := by
      intro p hp
      rw [given p hp]
      rfl
    rw [mapM_congr each]
    exact List.mapM_pure
  · rw [List.all_map, List.all_eq_true]
    intro p hp
    exact List.any_eq_true.mpr ⟨p, hp, beq_self_eq_true _⟩

theorem sentVariables_eq {t : Thing} {r : Root} {args : List (String × Value)}
    {values : List (Parameter × Value)} (given : arguments r.name r.parameters args = .ok values)
    {parameterOf : Variable → Parameter} (eq : r.parameters = vs.map parameterOf)
    (isParameter : ∀ v ∈ vs, IsParameterOf g v (parameterOf v)) (distinct : (taken vs).Nodup) :
    sentVariables bindings t r args =
      entriesOf vs fun v => sentFor (parameterOf v) (executeScope bindings t values) := by
  have entries : (r.parameters.mapM fun p => do
      return (p.graphqlName, ← (p.serializer.fill (.name p.name)).value
        (executeScope bindings t values))) =
      entriesOf vs fun v => sentFor (parameterOf v) (executeScope bindings t values) := by
    rw [eq, List.mapM_map]
    refine mapM_congr fun v hv => ?_
    rw [← (isParameter v hv).graphqlName_eq]
    rfl
  unfold sentVariables
  rw [given]
  change sentEntries _ _ _ = _
  unfold sentEntries
  rw [entries]
  cases all : entriesOf vs fun v => sentFor (parameterOf v) (executeScope bindings t values) with
  | error fault => rfl
  | ok sent =>
    have names : sent.map (·.1) = vs.map (·.name) := by
      refine map_eq_of_mapM all fun v entry h => ?_
      obtain ⟨x, -, h⟩ := except_bind_eq_ok_iff.mp h
      cases h
      rfl
    exact congrArg Except.ok (distinctFields_of_nodup (names ▸ nodup_names distinct))

/-- Whatever values that conform the variables are given, what is to be sent for them is sent. -/
def SendsReference (g : Setting) (bindings : Bindings) (vs : List Variable)
    (fits : Variable → Value → Prop) (t : Thing) (r : Root) : Prop :=
  ∀ (val : String → Value) args, (∀ v ∈ vs, Conforms (fits v) (layers v.type) (val v.name)) →
    arguments r.name r.parameters args = .ok (r.parameters.map fun p => (p, val p.graphqlName)) →
    sentVariables bindings t r args = entriesOf vs fun v => reference g bindings v (val v.name)

/-- What the serializers of an operation call by its name stands there for what it is meant to, and
nothing in the method of its class hides it. -/
def CallsResolve (g : Setting) (bindings : Bindings) (vs : List Variable)
    (fits : Variable → Value → Prop) (t : Thing) : Prop :=
  ∀ v ∈ vs, ∀ call, callFor? g v = some call →
    Resolves (executeScope bindings t []) (taken vs) (parameterName v.name) call (fits v)
      (sendAlone g bindings v)

theorem sends_executeScope {r : Root} {parameterOf : Variable → Parameter}
    (eq : r.parameters = vs.map parameterOf)
    (isParameter : ∀ v ∈ vs, IsParameterOf g v (parameterOf v)) (t : Thing)
    (val : String → Value) : Sends (executeScope bindings t []) bindings vs val
      (executeScope bindings t (r.parameters.map fun p => (p, val p.graphqlName))) where
  bindings_eq := rfl
  send_eq := rfl
  sends := rfl
  nowhere := rfl
  locals := by
    unfold executeScope
    rw [eq, List.map_map, List.map_map]
    refine List.map_congr_left fun v hv => ?_
    rw [← (isParameter v hv).name_eq, ← (isParameter v hv).graphqlName_eq]
    rfl

theorem sendsReference_iff_of_parameters {r : Root}
    (parameters : List.Forall₂ (fun v p => IsParameterOf g v p) vs r.parameters)
    (distinct : (r.parameters.map (·.name)).Nodup)
    (distinctPassed : (r.parameters.map (passedName r.name)).Nodup)
    (named : ∀ v ∈ vs, IsName v.name) {fits : Variable → Value → Prop}
    (known : ∀ v ∈ vs, ∃ w out, fits v w ∧ w.isNothing = false ∧ sendAlone g bindings v w = .ok out)
    (t : Thing) :
    SendsReference g bindings vs fits t r ↔ CallsResolve g bindings vs fits t := by
  obtain ⟨parameterOf, eq, isParameter⟩ := exists_parameterOf parameters
  have distinct : (taken vs).Nodup := by
    have names : r.parameters.map (·.name) = taken vs := by
      rw [eq, List.map_map]
      exact List.map_congr_left fun v hv => (isParameter v hv).name_eq
    rwa [names] at distinct
  have sends (val : String → Value) : Sends (executeScope bindings t []) bindings vs val
      (executeScope bindings t (r.parameters.map fun p => (p, val p.graphqlName))) :=
    sends_executeScope eq isParameter t val
  constructor
  · intro all
    refine resolves_of_sentFor sends distinct named isParameter known fun val conforms => ?_
    have given := arguments_of_nodup distinctPassed fun p => val p.graphqlName
    rw [← sentVariables_eq given eq isParameter distinct]
    exact all val _ conforms given
  · intro resolves val args conforms given
    rw [sentVariables_eq given eq isParameter distinct]
    refine mapM_congr fun v hv => ?_
    dsimp only
    rw [(sends val).sentFor_eq distinct hv (named v hv) (isParameter v hv) (resolves v hv)
      (conforms v hv)]

/-- A schema whose root type takes a list of numbers. -/
def listed : Schema where
  types :=
    [{ name := "Query"
       body := .object []
         [{ name := "a"
            arguments := [{ name := "ids", type := .list (.nonNull (.named "Int")) }]
            type := .named "String" }] },
     { name := "Int", body := .scalar },
     { name := "String", body := .scalar }]
  query? := some "Query"

/-- A generator for the schema that checks documents. -/
def listedGenerator : Generator := { schema := listed }

/-- A document that passes the numbers of a variable on. -/
def listing (name : String) : Declaration where
  text := "query Qa($" ++ name ++ ":[Int!]!)\x7ba(ids:$" ++ name ++ ")\x7d"

/-- The variable. -/
def listingVariable (name : String) : Variable where
  name := name
  type := .nonNull (.list (.nonNull (.named "Int")))

def listingOperation (name : String) : Operation where
  kind := .query
  name? := some "Qa"
  parameters := [listingVariable name]
  selections :=
    [.field { name := "a", arguments := [{ name := "ids", value := .variable name }] } []]

def listingDocument (name : String) : Document := [.operation (listingOperation name)]

def listingRequest (name : String) : Request where
  operations := [("Qa", listingOperation name)]
  fragments := []
  queryText := Document.print (Document.addTypename (listingDocument name))

/-- The class of the operation. -/
def listingRoot (name : String) : Root where
  name := "Qa"
  operationName := "Qa"
  operationKind := .query
  graphqlType := "Query"
  possibleTypes := ["Query"]
  queryText := (listingRequest name).queryText
  parameters :=
    [{ name := name, graphqlName := name, signature := .list (.bare "int")
       serializer := .call (.name "list") .hole }]
  accessors :=
    [{ name := "a"
       paths :=
         [{ signature := .optional (.bare "str")
            decoder := .build (.cast "str" .hole) [.nilable] (accessOf false { name := "a" }) 0 0
            typenames := .ofList ["Query"] }] }]

/-- What the names of the module with the class stand for. -/
def listingBindings (name : String) : Bindings :=
  ("Qa", .generated (.root (listingRoot name)) (.tool .operationResult)) :: supporting

section Validation

open Validation

theorem validate_listing {name : String} (h : name ∈ ["ids", "list", "__x"]) :
    listedGenerator.schema.validate (listingDocument name) = .complaints [] := by
  change listed.validate (listingDocument name) = _
  have sound : listed.isSound = true := by cbv
  have read : (visits listed (listingDocument name)).all
      (fun v => (unreadAt? ⟨listed, listingDocument name⟩ v).isNone) = true := by cbv
  have silent : complaintsAt ⟨listed, listingDocument name⟩
      (visits listed (listingDocument name)) = [] := by
    unfold complaintsAt
    generalize comparisonLimit (visits listed (listingDocument name)) = limit
    fin_cases h
    all_goals cbv
  exact validate_of_silent sound read silent

end Validation

theorem asks_listing {name : String} (h : name ∈ ["ids", "list", "__x"]) :
    listedGenerator.asks (listing name) = .ok (listingRequest name) := by
  have read : readDocument (listedGenerator.hooks.runBefore (listing name)) =
      .ok (listingDocument name) := by
    fin_cases h
    all_goals cbv
  have names : namedOperations (listingDocument name) =
      .ok [("Qa", listingOperation name)] := by
    fin_cases h
    all_goals cbv
  rw [asks_of_valid read names (validate_listing h)]
  rfl

theorem outcome_listing {name : String} (h : name ∈ ["ids", "list", "__x"]) : ∃ s : Session,
    (listedGenerator.generate (listing name)).outcome {} = (.ok (), s) ∧
      s.registry.sorted = .ok [.root (listingRoot name)] ∧
      s.imports.toList = [] := by
  have operations : (listingRequest name).operations = [("Qa", listingOperation name)] := rfl
  have fragments : (listingRequest name).fragments = [] := rfl
  rw [outcome_generate (asks_listing h), operations, fragments]
  unfold listingRoot
  generalize (listingRequest name).queryText = text
  refine ⟨_, Prod.ext ?_ rfl, ?_⟩
  · fin_cases h
    all_goals cbv
  · fin_cases h
    all_goals cbv

theorem run_listing {name : String} (h : name ∈ ["ids", "list", "__x"]) :
    run [] [] [.root (listingRoot name)] = .ok (listingBindings name) := by
  unfold listingBindings listingRoot
  generalize (listingRequest name).queryText = text
  fin_cases h
  all_goals cbv

theorem succeeds_listing {name : String} (h : name ∈ ["ids", "list", "__x"]) :
    Succeeds (after {} []) listedGenerator (listing name) := by
  obtain ⟨s, outcome, -⟩ := outcome_listing h
  exact congrArg Prod.fst outcome

theorem loaded_listing {name : String} (h : name ∈ ["ids", "list", "__x"]) :
    Loaded ([] ++ [(listedGenerator, listing name)]) (listingBindings name) := by
  obtain ⟨s, outcome, sorted, imports⟩ := outcome_listing h
  have reached : after {} [(listedGenerator, listing name)] = s := congrArg Prod.snd outcome
  refine ⟨[], [.root (listingRoot name)], ?_, ?_⟩
  · rw [List.nil_append, reached]
    exact sorted
  · rw [List.nil_append, reached, imports]
    exact run_listing h

/-- The values of variables that are for numbers. -/
def IsNumber (_ : Variable) (x : Value) : Prop := ∃ i, x = .int i

theorem sendAlone_listing (bindings : Bindings) (name : String) :
    sendAlone listedGenerator.toSetting bindings (listingVariable name) = .ok := by
  funext x
  have found : listed.type? "Int" = some { name := "Int", body := .scalar } := rfl
  have none : listedGenerator.converters.find? "Int" = none := by cbv
  rw [sendAlone_eq found]
  unfold sendBare
  rw [none]
  rfl

end QueryShape.Program
