import QueryShape.Proofs.Naming.Accessor
import QueryShape.Proofs.Program.Usable

/-!
# Classes that can be defined, and objects that can be made

The body of a class looks up the tool that makes accessors, once for each accessor, and what it has
defined before hides it. An object of a class sets members when it is made, and an accessor of that
name cannot be set. So the names of accessors decide whether a class can be defined, and whether it
has objects.

* `definable_iff`: when the classes of a session can be defined, and when each has objects.
* `unmakeable_accessors`: accessors of accepted documents that keep a class from having objects, or
  from being defined.
-/

namespace QueryShape.Program

open Code Document Generation Naming Record Session Thing

variable {calls : List (Generator × Declaration)} {modules : Converter.Modules}
  {lines : List String} {classes : List Record} {start bindings : Bindings} {x : Record}

/-! ## Names of accessors -/

/-- What the name of an accessor leaves of a class: it is no member that all classes have, and it is
one that objects set, or the tool that makes accessors, for the response keys that ask for it. -/
structure KeepsClear (key name : String) : Prop where
  free : name ∉ protectedNames
  member : ∀ ofOperation, name ∈ setMembers ofOperation ↔ snakeCase key ∈ setMembers ofOperation
  tool : name = "property" ↔
    ∃ n ≠ 1, (snakeCase key).toList = List.replicate n '_' ++ "property".toList

/-- **What accessors keep clear of**, for every response key. -/
theorem keepsClear {key name : String} (h : accessorName? key = .ok name) :
    KeepsClear key name where
  free := not_mem_protectedNames h
  member := by
    have result := accessor_eq_iff_of_underscore "_raw_result" h (by decide) (by decide)
      rfl (by decide)
    have errors := accessor_eq_iff_of_underscore "_errors" h (by decide) (by decide)
      rfl (by decide)
    intro ofOperation
    cases ofOperation <;> simp [setMembers, result, errors]
  tool := accessor_eq_iff_of_letter "property" h (by decide) (by decide) rfl (by decide)

/-! ## Classes -/

/-- The supporting class that a class is made on. -/
def supportOf : Record → Tool
  | .root _ => .operationResult
  | .leaf _ => .queryResult
  | .input _ => .inputObject
  | .enum _ => .enum

/-- The tools that the bodies of classes look up, and their names. -/
def lookedUp : List (String × Tool) :=
  [("OperationResult", .operationResult), ("QueryResult", .queryResult),
   ("InputObject", .inputObject), ("GraphQLEnum", .enum), ("property", .property),
   ("classmethod", .classMethod)]

/-- The names of tools stand for them. -/
def HasTools (bindings : Bindings) : Prop :=
  ∀ name tool, (name, tool) ∈ lookedUp → bindings.thing? name = some (.tool tool)

theorem support_mem_lookedUp (x : Record) : (baseName x, supportOf x) ∈ lookedUp := by
  cases x
  all_goals simp [lookedUp, baseName, supportOf]

theorem HasTools.find (tools : HasTools bindings) {name : String} {tool : Tool}
    (mem : (name, tool) ∈ lookedUp) : bindings.find name = .ok (.tool tool) := by
  unfold Bindings.find
  rw [tools name tool mem]
  rfl

theorem HasTools.cons (tools : HasTools bindings)
    (free : ∀ name tool, (name, tool) ∈ lookedUp → x.name ≠ name) (t : Thing) :
    HasTools ((x.name, t) :: bindings) := by
  intro name tool mem
  rw [thing?_cons, if_neg (free name tool mem)]
  exact tools name tool mem

/-- No accessor but the last hides the tool that makes accessors. -/
def KeepsTool (x : Record) : Prop := ∀ a ∈ (accessorsOf x).dropLast, a.name ≠ "property"

theorem makeAccessors_eq_ok_iff (tools : HasTools bindings) (hidden : Bool) (as : List Accessor) :
    makeAccessors bindings hidden as = .ok () ↔
      (hidden = true → as = []) ∧ ∀ a ∈ as.dropLast, a.name ≠ "property" := by
  have found : bindings.find "property" = .ok (.tool .property) := tools.find (by decide)
  induction as generalizing hidden with
  | nil => simp [makeAccessors]
  | cons a rest ih =>
    cases hidden with
    | true =>
      have stops : makeAccessors bindings true (a :: rest) = .error .wrongType := by
        rw [makeAccessors]
        rfl
      rw [stops]
      exact iff_of_false (by simp) fun h => absurd (h.1 rfl) (List.cons_ne_nil _ _)
    | false =>
      have step : makeAccessors bindings false (a :: rest) =
          makeAccessors bindings (a.name == "property") rest := by
        rw [makeAccessors, found]
        rfl
      rw [step]
      refine (ih _).trans ?_
      cases rest with
      | nil => simp
      | cons b rest => simp [List.dropLast_cons_cons]

/-- The class of a result is in front of the bindings once its accessors have been made. -/
theorem accessorsThen_eq_ok_iff (tools : HasTools bindings) {as : List Accessor}
    {made after : Bindings} :
    (do makeAccessors bindings false as; return made : Except Fault Bindings) = .ok after ↔
      (∀ a ∈ as.dropLast, a.name ≠ "property") ∧ after = made := by
  rw [except_bind_eq_ok_iff]
  constructor
  · rintro ⟨⟨⟩, ok, eq⟩
    exact ⟨((makeAccessors_eq_ok_iff tools false as).mp ok).2, (Except.ok.inj eq).symm⟩
  · rintro ⟨keeps, rfl⟩
    exact ⟨(), (makeAccessors_eq_ok_iff tools false as).mpr ⟨nofun, keeps⟩, rfl⟩

/-- **A class can be defined exactly if no accessor but the last hides the tool that makes
accessors**, where the tools are there. -/
theorem afterClass_eq_ok_iff (tools : HasTools bindings)
    (members : ∀ e, x = .enum e → makeMembers (.tool .enum) e = .ok ()) {after : Bindings} :
    afterClass bindings x = .ok after ↔
      KeepsTool x ∧ after = (x.name, .generated x (.tool (supportOf x))) :: bindings := by
  have base := tools.find (support_mem_lookedUp x)
  cases x with
  | root r =>
    have found : bindings.find "classmethod" = .ok (.tool .classMethod) := tools.find (by decide)
    unfold afterClass
    rw [base, found]
    exact accessorsThen_eq_ok_iff tools
  | leaf l =>
    unfold afterClass
    rw [base]
    exact accessorsThen_eq_ok_iff tools
  | enum e =>
    have keeps : KeepsTool (.enum e) := fun _ mem => absurd mem List.not_mem_nil
    have made : afterClass bindings (.enum e) = .ok ((e.name, .generated (.enum e) (.tool .enum)) ::
        bindings) := by
      unfold afterClass
      rw [base]
      change Except.bind (makeMembers (.tool .enum) e) _ = _
      rw [members e rfl]
      rfl
    rw [made, and_iff_right keeps]
    exact ⟨fun h => (Except.ok.inj h).symm, fun h => congrArg _ h.symm⟩
  | input i =>
    have keeps : KeepsTool (.input i) := fun _ mem => absurd mem List.not_mem_nil
    have made : afterClass bindings (.input i) =
        .ok ((i.name, .generated (.input i) (.tool .inputObject)) :: bindings) := by
      unfold afterClass
      rw [base]
      rfl
    rw [made, and_iff_right keeps]
    exact ⟨fun h => (Except.ok.inj h).symm, fun h => congrArg _ h.symm⟩

/-- All classes can be defined exactly if each can. -/
theorem exists_classes_iff (tools : HasTools start)
    (free : ∀ x ∈ classes, ∀ name tool, (name, tool) ∈ lookedUp → x.name ≠ name)
    (members : ∀ e, .enum e ∈ classes → makeMembers (.tool .enum) e = .ok ()) :
    (∃ bindings, classes.foldlM afterClass start = .ok bindings) ↔ ∀ x ∈ classes, KeepsTool x := by
  induction classes generalizing start with
  | nil => exact iff_of_true ⟨start, rfl⟩ fun _ hx => absurd hx List.not_mem_nil
  | cons first rest ih =>
    obtain ⟨freeFirst, freeRest⟩ := List.forall_mem_cons.mp free
    have enums : ∀ e, first = .enum e → makeMembers (.tool .enum) e = .ok () :=
      fun e eq => members e (eq ▸ List.mem_cons_self)
    -- the class made first takes the name of no tool, so the others find the tools as well
    have later := ih (tools.cons freeFirst (.generated first (.tool (supportOf first)))) freeRest
      fun e mem => members e (List.mem_cons_of_mem _ mem)
    rw [List.forall_mem_cons, ← later]
    constructor
    · rintro ⟨bindings, h⟩
      rw [List.foldlM_cons] at h
      obtain ⟨next, one, h⟩ := except_bind_eq_ok_iff.mp h
      obtain ⟨keeps, rfl⟩ := (afterClass_eq_ok_iff tools enums).mp one
      exact ⟨keeps, bindings, h⟩
    · rintro ⟨keeps, bindings, h⟩
      refine ⟨bindings, ?_⟩
      rw [List.foldlM_cons]
      exact except_bind_eq_ok_iff.mpr ⟨_, (afterClass_eq_ok_iff tools enums).mpr ⟨keeps, rfl⟩, h⟩

/-! ## Objects -/

/-- What comes of making an object of a result class: it has one exactly if no accessor hides what
it sets. -/
theorem exists_call_iff (kind : x.kind = .root ∨ x.kind = .leaf) (raw : Value) :
    (∃ v, (Thing.generated x (.tool (supportOf x))).call raw = .ok v) ↔
      ∀ a ∈ accessorsOf x, a.name ∉ setMembers (x.kind = .root) := by
  have wraps (t : Thing) (className : String) (ofOperation : Bool) :
      (∃ v, t.wrap className raw ofOperation = .ok v) ↔
        ∀ member ∈ setMembers ofOperation, t.hasAccessor member = false := by
    unfold wrap
    split
    · next hidden =>
      refine iff_of_false nofun fun free => ?_
      obtain ⟨member, mem, has⟩ := List.any_eq_true.mp hidden
      exact absurd (free member mem) (by simp [has])
    · next free => exact iff_of_true ⟨_, rfl⟩ (by simpa using free)
  have same (members : List String) (as : List Accessor) :
      (∀ member ∈ members, (as.any (·.name == member) || false) = false) ↔
        ∀ a ∈ as, a.name ∉ members := by
    simp only [Bool.or_false, List.any_eq_false, beq_iff_eq]
    exact ⟨fun h a ha mem => h _ mem a ha rfl, fun h member mem a ha eq => h a ha (eq ▸ mem)⟩
  cases x with
  | root r => exact (wraps _ r.name true).trans (same _ r.accessors)
  | leaf l => exact (wraps _ l.name false).trans (same _ l.accessors)
  | _ => rcases kind with kind | kind <;> cases kind

/-! ## Modules -/

/-- What the module of the classes needs besides their accessors: its lines import something, its
parameters can be written and its enum members made, and nothing takes the names of the tools. -/
structure Prepared (modules : Converter.Modules) (lines : List String) (classes : List Record) :
    Prop where
  imports : ∃ start, lines.foldlM (afterImport modules) supporting = .ok start
  written : ∀ x ∈ classes, canBeWritten x = true
  members : ∀ e, .enum e ∈ classes → makeMembers (.tool .enum) e = .ok ()
  tools : ∀ name tool, (name, tool) ∈ lookedUp → Unclashed modules lines classes name (.tool tool)

theorem Prepared.exists_run_iff (prepared : Prepared modules lines classes) :
    (∃ bindings, run modules lines classes = .ok bindings) ↔ ∀ x ∈ classes, KeepsTool x := by
  obtain ⟨start, imports⟩ := prepared.imports
  have tools : HasTools start := fun name tool mem => by
    rw [thing?_of_imports imports]
    exact (prepared.tools name tool mem).imports
  have ran : run modules lines classes = classes.foldlM afterClass start := by
    have written : (!classes.all canBeWritten) = false := by simpa using prepared.written
    unfold run
    rw [written, imports]
    rfl
  rw [ran]
  have free : ∀ x ∈ classes, ∀ name tool, (name, tool) ∈ lookedUp → x.name ≠ name :=
    fun x hx name tool mem => (prepared.tools name tool mem).free x hx
  exact exists_classes_iff tools free prepared.members

/-- The name of a class stands for it, made on the supporting class of its kind. -/
theorem Prepared.thing? (prepared : Prepared modules lines classes)
    (distinct : (classes.map (·.name)).Nodup) (ran : run modules lines classes = .ok bindings)
    (mem : x ∈ classes) :
    bindings.thing? x.name = some (.generated x (.tool (supportOf x))) := by
  obtain ⟨before, after, eq⟩ := List.append_of_mem mem
  obtain ⟨base, bound, onTool⟩ := base_of_run ran distinct eq
  have unclashed := prepared.tools _ _ (support_mem_lookedUp x)
  have front : Unclashed modules lines before (baseName x) (.tool (supportOf x)) :=
    ⟨fun y hy => unclashed.free y (eq ▸ List.mem_append_left _ hy), unclashed.imports⟩
  rw [bound, (onTool _).mpr front]

/-- **When the classes of a session can be defined and their objects made.** No accessor hides a
member that all classes have. The module of the classes runs exactly if no accessor of a class but
the last is named like the tool that makes accessors, and then a result class has objects exactly if
no accessor of it is named like a member that its objects set. -/
theorem definable_iff (calls : List (Generator × Declaration)) :
    (∀ key name, accessorName? key = .ok name → KeepsClear key name) ∧
    (∀ x ∈ (after {} calls).registry.records, ∀ a ∈ accessorsOf x, ∃ g d p f, (g, d) ∈ calls ∧
      AsksFor g d p f ∧ p.className = x.name ∧ accessorName? f.responseKey = .ok a.name) ∧
    ∀ modules classes, (after {} calls).registry.sorted = .ok classes →
      Prepared modules (after {} calls).imports.toList classes →
      ((∃ bindings, run modules (after {} calls).imports.toList classes = .ok bindings) ↔
        ∀ x ∈ classes, KeepsTool x) ∧
      ∀ bindings, run modules (after {} calls).imports.toList classes = .ok bindings →
        ∀ x ∈ classes, x.kind = .root ∨ x.kind = .leaf → ∃ t, bindings.thing? x.name = some t ∧
          ∀ raw, (∃ v, t.call raw = .ok v) ↔
            ∀ a ∈ accessorsOf x, a.name ∉ setMembers (x.kind = .root) := by
  refine ⟨fun _ _ => keepsClear, fun x hx a ha => ?_, fun modules classes sorted prepared => ?_⟩
  · have traced := traced_after calls x hx
    obtain ⟨path, rest, paths⟩ := List.exists_cons_of_ne_nil (traced.allRead a ha)
    obtain ⟨g, d, p, f, r, call, asks, className, hr, name, -, -⟩ :=
      traced.read a.name path ⟨a, ha, rfl, paths ▸ List.mem_cons_self⟩
    exact ⟨g, d, p, f, call, asks, className, name ▸ accessorName?_of_readingOf hr⟩
  · refine ⟨prepared.exists_run_iff, fun bindings ran x hx kind => ?_⟩
    exact ⟨_, prepared.thing? (classes_of_sorted sorted).1 ran hx, exists_call_iff kind⟩

/-- The class of an operation that passes numbers on can be defined, and has objects. -/
theorem definable_iff_listing :
    accessorName? "a" = .ok "a" ∧ KeepsClear "a" "a" ∧
    (after {} [(listedGenerator, listing "ids")]).registry.sorted =
      .ok [.root (listingRoot "ids")] ∧
    Prepared [] (after {} [(listedGenerator, listing "ids")]).imports.toList
      [.root (listingRoot "ids")] ∧
    ((∃ bindings, run [] (after {} [(listedGenerator, listing "ids")]).imports.toList
        [.root (listingRoot "ids")] = .ok bindings) ↔
      ∀ x ∈ [.root (listingRoot "ids")], KeepsTool x) := by
  have ids : "ids" ∈ ["ids", "list", "__x"] := List.mem_cons_self
  obtain ⟨s, outcome, sorted, imports⟩ := outcome_listing ids
  have reached : after {} [(listedGenerator, listing "ids")] = s := congrArg Prod.snd outcome
  have prepared : Prepared [] [] [.root (listingRoot "ids")] := by
    refine ⟨⟨_, rfl⟩, fun x hx => ?_, fun e he => ?_, fun name tool mem => ⟨fun x hx => ?_, ?_⟩⟩
    · cases List.mem_singleton.mp hx
      unfold listingRoot
      generalize (listingRequest "ids").queryText = text
      cbv
    · cases List.mem_singleton.mp he
    · cases List.mem_singleton.mp hx
      have other : ∀ entry ∈ lookedUp, "Qa" ≠ entry.1 := by decide
      exact other _ mem
    · fin_cases mem
      all_goals rfl
  have named : accessorName? "a" = .ok "a" := by cbv
  obtain ⟨clear, -, modules⟩ := definable_iff [(listedGenerator, listing "ids")]
  rw [reached] at modules ⊢
  rw [imports] at modules ⊢
  exact ⟨named, clear _ _ named, sorted, prepared, (modules [] _ sorted prepared).1⟩

/-! ## Accessors in the way -/

/-- A document that reads a field under a key, and again under another. -/
def covering (key : String) : Declaration where
  text := "query Qa\x7b" ++ key ++ ":a b:a\x7d"

def coveringOperation (key : String) : Operation where
  kind := .query
  name? := some "Qa"
  selections :=
    [.field { alias? := some key, name := "a" } [], .field { alias? := some "b", name := "a" } []]

def coveringDocument (key : String) : Document := [.operation (coveringOperation key)]

def coveringRequest (key : String) : Request where
  operations := [("Qa", coveringOperation key)]
  fragments := []
  queryText := Document.print (Document.addTypename (coveringDocument key))

/-- The accessor that reads the field under a key. -/
def coveringAccessor (key : String) : Accessor where
  name := key
  paths :=
    [{ signature := .optional (.bare "str")
       decoder := .build (.cast "str" .hole) [.nilable]
         (accessOf false { alias? := some key, name := "a" }) 0 0
       typenames := .ofList ["Query"] }]

/-- The class of the operation. -/
def coveringRoot (key : String) : Root where
  name := "Qa"
  operationName := "Qa"
  operationKind := .query
  graphqlType := "Query"
  possibleTypes := ["Query"]
  queryText := (coveringRequest key).queryText
  accessors := [coveringAccessor key, coveringAccessor "b"]

section Validation

open Validation

theorem validate_covering {key : String} (h : key ∈ ["_raw_result", "property"]) :
    listedGenerator.schema.validate (coveringDocument key) = .complaints [] := by
  change listed.validate (coveringDocument key) = _
  have sound : listed.isSound = true := by cbv
  have read : (visits listed (coveringDocument key)).all
      (fun v => (unreadAt? ⟨listed, coveringDocument key⟩ v).isNone) = true := by cbv
  have silent : complaintsAt ⟨listed, coveringDocument key⟩
      (visits listed (coveringDocument key)) = [] := by
    unfold complaintsAt
    generalize comparisonLimit (visits listed (coveringDocument key)) = limit
    fin_cases h
    all_goals cbv
  exact validate_of_silent sound read silent

end Validation

theorem asks_covering {key : String} (h : key ∈ ["_raw_result", "property"]) :
    listedGenerator.asks (covering key) = .ok (coveringRequest key) := by
  have read : readDocument (listedGenerator.hooks.runBefore (covering key)) =
      .ok (coveringDocument key) := by
    fin_cases h
    all_goals cbv
  have names : namedOperations (coveringDocument key) = .ok [("Qa", coveringOperation key)] := by
    fin_cases h
    all_goals cbv
  rw [asks_of_valid read names (validate_covering h)]
  rfl

theorem outcome_covering {key : String} (h : key ∈ ["_raw_result", "property"]) : ∃ s : Session,
    (listedGenerator.generate (covering key)).outcome {} = (.ok (), s) ∧
      s.registry.sorted = .ok [.root (coveringRoot key)] ∧ s.imports.toList = [] := by
  have operations : (coveringRequest key).operations = [("Qa", coveringOperation key)] := rfl
  have fragments : (coveringRequest key).fragments = [] := rfl
  rw [outcome_generate (asks_covering h), operations, fragments]
  unfold coveringRoot
  generalize (coveringRequest key).queryText = text
  refine ⟨_, Prod.ext ?_ rfl, ?_⟩
  · fin_cases h
    all_goals cbv
  · fin_cases h
    all_goals cbv

/-- **Accessors of accepted documents that are in the way.** One hides what its object sets, so that
the class has no objects, and one hides the tool that makes the accessor after it, so that the class
cannot be defined. -/
theorem unmakeable_accessors :
    listedGenerator.validates = true ∧
    (Succeeds {} listedGenerator (covering "_raw_result") ∧
      (after {} [(listedGenerator, covering "_raw_result")]).registry.sorted =
        .ok [.root (coveringRoot "_raw_result")] ∧
      ∃ bindings t, Loaded [(listedGenerator, covering "_raw_result")] bindings ∧
        bindings.thing? "Qa" = some t ∧ ∀ raw, t.call raw = .error .noAttribute) ∧
    Succeeds {} listedGenerator (covering "property") ∧
    (after {} [(listedGenerator, covering "property")]).registry.sorted =
      .ok [.root (coveringRoot "property")] ∧
    ¬ ∃ bindings, Loaded [(listedGenerator, covering "property")] bindings := by
  have result : "_raw_result" ∈ ["_raw_result", "property"] := List.mem_cons_self
  have property : "property" ∈ ["_raw_result", "property"] := by decide
  refine ⟨rfl, ⟨?_, ?_, ?_⟩, ?_, ?_, ?_⟩
  · obtain ⟨s, outcome, -⟩ := outcome_covering result
    exact congrArg Prod.fst outcome
  · obtain ⟨s, outcome, sorted, -⟩ := outcome_covering result
    have reached : after {} [(listedGenerator, covering "_raw_result")] = s :=
      congrArg Prod.snd outcome
    rw [reached, sorted]
  · obtain ⟨s, outcome, sorted, imports⟩ := outcome_covering result
    have reached : after {} [(listedGenerator, covering "_raw_result")] = s :=
      congrArg Prod.snd outcome
    refine ⟨("Qa", .generated (.root (coveringRoot "_raw_result")) (.tool .operationResult)) ::
      supporting, _, ⟨[], _, reached ▸ sorted, ?_⟩, rfl, fun raw => rfl⟩
    rw [reached, imports]
    rfl
  · obtain ⟨s, outcome, -⟩ := outcome_covering property
    exact congrArg Prod.fst outcome
  · obtain ⟨s, outcome, sorted, -⟩ := outcome_covering property
    have reached : after {} [(listedGenerator, covering "property")] = s :=
      congrArg Prod.snd outcome
    rw [reached, sorted]
  · obtain ⟨s, outcome, sorted, imports⟩ := outcome_covering property
    have reached : after {} [(listedGenerator, covering "property")] = s :=
      congrArg Prod.snd outcome
    rintro ⟨bindings, modules, classes, isSorted, ran⟩
    rw [reached, imports] at ran
    rw [reached, sorted] at isSorted
    cases isSorted
    have stops : run modules [] [.root (coveringRoot "property")] = .error .wrongType := rfl
    cases stops.symm.trans ran

end QueryShape.Program
