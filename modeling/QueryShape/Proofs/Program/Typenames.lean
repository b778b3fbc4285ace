import QueryShape.Proofs.Generation.SentSets
import QueryShape.Proofs.Program.Dispatch
import QueryShape.Proofs.Program.Reading
import QueryShape.Proofs.Validation.Passing

/-!
# The type names that accessors look at

An accessor whose paths are not all for the same types looks at the type name of the object. The
text that is sent asks for type names under fields, so most objects have one. This module says which
classes look at the type name, and when the text asks for it wherever one of them does.

* `looksAtType_body`: an accessor looks at the type name exactly if the first path for any of the
  types is not for all of them.
* `looksAtType_root_iff`: the class of an operation does if all fields of an accessor stand in
  fragments that objects of the root type do not meet.
* `asksWhereLooked_iff`: the text asks for the type name wherever a class looks at it exactly if the
  document does so itself where nothing is added to it.
* `unasked_untold`: an operation and a field whose classes look at what is not asked for.
-/

namespace QueryShape.Program

open Code Generation QueryShape.Module Record Thing

/-! ## Classes that look at the type name -/

/-- The part of a body looks at the type name of the object. -/
def looksAtType : Branch → Bool
  | .always _ => false
  | .ofTypes .. | .unexpected _ => true

/-- Some accessor of the class looks at the type name of the object. -/
def LooksAtType (x : Record) : Prop :=
  ∃ a ∈ accessorsOf x, (view x.name (typesOf x) a).body.any looksAtType = true

/-- The first path that is for any of the types. -/
def firstPath? (types : List String) (paths : List Path) : Option Path :=
  paths.find? fun path => types.any (· ∈ path.typenames)

theorem firstPath?_cons (types : List String) (path : Path) (rest : List Path) :
    firstPath? types (path :: rest) =
      if types.any (· ∈ path.typenames) then some path else firstPath? types rest := by
  unfold firstPath?
  rw [List.find?_cons]
  split
  · next here => rw [if_pos here]
  · next notHere => rw [if_neg (by simp [notHere])]

/-- **An accessor looks at the type name exactly if the first path for any of the types is not for
all of them**, or there is none. -/
theorem looksAtType_body (types : List String) (paths : List Path) (className : String) :
    ((dispatch types paths).body className).any looksAtType =
      types.any fun type => (firstPath? types paths).all (type ∉ ·.typenames) := by
  induction paths with
  | nil =>
    unfold dispatch Dispatch.body firstPath?
    cases types <;> simp [looksAtType]
  | cons path rest ih =>
    rw [dispatch_cons, firstPath?_cons]
    dsimp only
    split
    · next none =>
      have notHere : ¬ types.any (· ∈ path.typenames) := by
        simpa using here_isEmpty_iff.mp none
      rw [if_neg notHere, ih]
    · next here =>
      have isHere : types.any (· ∈ path.typenames) := by simpa using here
      simp only [if_pos isHere, Option.all_some]
      split
      · next all =>
        have noOther : types.any (· ∉ path.typenames) = false := by
          simpa using here_length_iff.mp all
        rw [noOther]
        rfl
      · next others =>
        have other : types.any (· ∉ path.typenames) = true := by
          by_contra all
          exact others (here_length_iff.mpr (by simpa using all))
        rw [other]
        unfold Dispatch.body
        dsimp only
        split <;> simp [looksAtType]

/-- A class for one type looks at the type name if some accessor has no path for that. -/
theorem looksAtType_singleton (type className : String) (a : Accessor) :
    (view className [type] a).body.any looksAtType = isUncovered a.paths type := by
  refine (looksAtType_body [type] a.paths className).trans ?_
  unfold firstPath? isUncovered
  simp only [List.any_cons, List.any_nil, Bool.or_false]
  cases found : a.paths.find? (type ∈ ·.typenames) with
  | none =>
    have uncovered : a.paths.all (type ∉ ·.typenames) = true := by
      simpa using List.find?_eq_none.mp found
    exact uncovered.symm
  | some path =>
    have isFor : type ∈ path.typenames := by simpa using List.find?_some found
    have covered : a.paths.all (type ∉ ·.typenames) = false := by
      rw [List.all_eq_false]
      exact ⟨path, List.mem_of_find?_eq_some found, by simpa using isFor⟩
    rw [covered]
    simpa using isFor

/-! ## Classes of operations -/

section Paths

variable {g : Setting} {fragments : List Document.Fragment} {p : Place}
  {selections : List Document.Selection} {members : Members} {accessor : String}

/-- A field that is selected has a path under its accessor, which is for the types of its place. -/
theorem exists_readsAlong (gives : Gives g fragments p selections members) {place : Place}
    {f : Document.Field} {inner : List Document.Selection}
    (selected : Selects g.schema fragments p selections place f inner)
    (named : accessorOf place f = .ok accessor) :
    ∃ path, ReadsAlong members.accessors accessor path ∧ path.typenames = place.typenames := by
  obtain ⟨r, hr⟩ := gives.read place f inner selected
  have same : r.accessor = accessor :=
    Except.ok.inj ((readingOf_eq_ok_iff.mp hr).1.symm.trans named)
  exact ⟨r.path place f,
    (gives.accessors accessor _).mpr ⟨place, f, inner, r, selected, hr, same, rfl⟩, rfl⟩

/-- Every path is that of a field. -/
theorem exists_selects_of_readsAlong (gives : Gives g fragments p selections members) {path : Path}
    (reads : ReadsAlong members.accessors accessor path) :
    ∃ place f inner, Selects g.schema fragments p selections place f inner ∧
      accessorOf place f = .ok accessor ∧ path.typenames = place.typenames := by
  obtain ⟨place, f, inner, r, selected, hr, rfl, rfl⟩ := (gives.accessors accessor path).mp reads
  exact ⟨place, f, inner, selected, (readingOf_eq_ok_iff.mp hr).1, rfl⟩

end Paths

/-- Some accessor of the operation's class is for other objects only: all its fields stand in
fragments that objects of the root type do not meet. -/
def HasForeignAccessor (s : Schema) (fragments : List Document.Fragment) (name : String)
    (o : Document.Operation) (root : Document.TypeDefinition) : Prop :=
  ∃ accessor, (∃ place f inner,
      Selects s fragments (operationPlace name root) o.selections place f inner ∧
        accessorOf place f = .ok accessor) ∧
    ∀ place f inner, Selects s fragments (operationPlace name root) o.selections place f inner →
      accessorOf place f = .ok accessor → root.name ∉ place.typenames

/-- **The class of an operation looks at the type name exactly if it has an accessor for other
objects only.** -/
theorem looksAtType_root_iff {g : Setting} {fragments : List Document.Fragment}
    {queryText name : String} {o : Document.Operation} {root : Document.TypeDefinition}
    {members : Members} {r : Root} (h : IsClassOf g fragments queryText name o root members r) :
    LooksAtType (.root r) ↔ HasForeignAccessor g.schema fragments name o root := by
  have gives := gives_of_select (.refl fragments) h.selected
  have accessors : accessorsOf (.root r) = members.accessors := h.accessors
  have types : typesOf (.root r) = [root.name] := h.possibleTypes
  unfold LooksAtType HasForeignAccessor
  rw [accessors, types]
  simp only [looksAtType_singleton, isUncovered, List.all_eq_true, decide_eq_true_eq]
  constructor
  · rintro ⟨a, ha, uncovered⟩
    obtain ⟨path, mem⟩ := List.exists_mem_of_ne_nil _ (gives.allRead a ha)
    obtain ⟨place, f, inner, selected, named, -⟩ :=
      exists_selects_of_readsAlong gives ⟨a, ha, rfl, mem⟩
    refine ⟨a.name, ⟨place, f, inner, selected, named⟩, fun place f inner selected named => ?_⟩
    obtain ⟨path, ⟨b, hb, same, isPath⟩, types⟩ := exists_readsAlong gives selected named
    obtain rfl := List.inj_on_of_nodup_map gives.distinct hb ha same
    exact types ▸ uncovered path isPath
  · rintro ⟨accessor, ⟨place, f, inner, selected, named⟩, foreign⟩
    obtain ⟨-, ⟨a, ha, rfl, -⟩, -⟩ := exists_readsAlong gives selected named
    refine ⟨a, ha, fun path mem => ?_⟩
    obtain ⟨place, f, inner, selected, named, types⟩ :=
      exists_selects_of_readsAlong gives ⟨a, ha, rfl, mem⟩
    exact types ▸ foreign place f inner selected named

/-! ## Asking for what is looked at -/

/-- If the class looks at the type name, each selection set that is sent for its objects asks for
that itself, and no directive may leave it out. -/
def AsksWhereLooked (g : Generator) (q : Request) (x : Record) : Prop :=
  LooksAtType x → ∀ p sent, OpenedBy g q.sent p sent → p.className = x.name →
    asksAlways sent = true

/-- The document asks for the type name where nothing is added and the class looks at it: for an
operation with an accessor for other objects, in its own selection set, and otherwise in the
selection sets under fields that ask for it already. -/
def AsksItself (g : Generator) (q : Request) : Record → Prop
  | .root r => ∀ o root, (r.name, o) ∈ q.operations → rootType g.schema o = .ok root →
      HasForeignAccessor g.schema q.fragments r.name o root → asksAlways o.selections = true
  | .leaf l => LooksAtType (.leaf l) → ∀ p own, UnderField g q p own → p.className = l.name →
      own.any Document.Selection.isPlainTypename = true → asksAlways own = true
  | .input _ | .enum _ => True

section Classes

variable {s : Session} {g : Generator} {d : Declaration} {q : Request}
  (has : HasOperations s g d) (asked : g.asks d = .ok q)
include has asked

/-- The class of an operation is the one with its name. -/
theorem isClassOf_of_mem {r : Root} (hr : .root r ∈ s.registry.records) {o : Document.Operation}
    (ho : (r.name, o) ∈ q.operations) : ∃ root members,
      IsClassOf g.toSetting q.fragments q.queryText r.name o root members r := by
  obtain ⟨root, members, r', isClass, -, hr'⟩ := has.hasOperation asked ho
  obtain ⟨⟩ := Registry.eq_of_name_eq hr' hr isClass.name_eq
  exact ⟨root, members, isClass⟩

/-- Of the selection sets that are sent, those of operations are for the classes of operations. -/
theorem asksWhereLooked_root_iff {r : Root} (hr : .root r ∈ s.registry.records) :
    AsksWhereLooked g q (.root r) ↔ AsksItself g q (.root r) := by
  constructor
  · intro asks o root ho rooted foreign
    obtain ⟨root', members, isClass⟩ := isClassOf_of_mem has asked hr ho
    cases rooted.symm.trans isClass.rooted
    have looks := (looksAtType_root_iff isClass).mpr foreign
    rw [← asksAlways_addTypenames]
    exact asks looks _ _ (openedBy_sent.mpr
      (.inl ⟨_, ⟨r.name, o, root, ho, rooted, rfl, rfl⟩, rfl⟩)) rfl
  · intro itself looks p sent opened isFor
    rcases openedBy_sent.mp opened with
      ⟨_, ⟨name, o, root, ho, rooted, rfl, rfl⟩, rfl⟩ | ⟨own, under, rfl⟩
    · obtain rfl : name = r.name := isFor
      obtain ⟨root', members, isClass⟩ := isClassOf_of_mem has asked hr ho
      cases rooted.symm.trans isClass.rooted
      rw [asksAlways_addTypenames]
      exact itself o root ho rooted ((looksAtType_root_iff isClass).mp looks)
    · obtain ⟨-, l, hl, named⟩ := has.leaf_of_underField asked under
      cases Registry.eq_of_name_eq hl hr (named.trans isFor)

/-- Those under fields are for the other classes. -/
theorem asksWhereLooked_leaf_iff {l : Leaf} (hl : .leaf l ∈ s.registry.records) :
    AsksWhereLooked g q (.leaf l) ↔ AsksItself g q (.leaf l) := by
  constructor
  · intro asks looks p own under isFor already
    have sent := asks looks p _ (openedBy_sent.mpr (.inr ⟨own, under, rfl⟩)) isFor
    rw [asksAlways_sentUnder (has.leaf_of_underField asked under).1, already] at sent
    exact sent
  · intro itself looks p sent opened isFor
    rcases openedBy_sent.mp opened with
      ⟨_, ⟨name, o, root, ho, -, rfl, rfl⟩, rfl⟩ | ⟨own, under, rfl⟩
    · obtain ⟨_, _, r, isClass, -, hr⟩ := has.hasOperation asked ho
      cases Registry.eq_of_name_eq hr hl (isClass.name_eq.trans isFor)
    · rw [asksAlways_sentUnder (has.leaf_of_underField asked under).1]
      by_cases already : own.any Document.Selection.isPlainTypename = true
      · rw [itself looks p own under isFor already, Bool.or_true]
      · rw [Bool.eq_false_of_not_eq_true already]
        rfl

end Classes

/-- Classes without accessors look at nothing. -/
theorem not_looksAtType {x : Record} (none : accessorsOf x = []) : ¬ LooksAtType x := by
  rintro ⟨a, ha, -⟩
  rw [none] at ha
  cases ha

/-- Every object that answers a selection set that is sent for the class has the type name, whatever
conditions hold. -/
def AlwaysTold (g : Generator) (q : Request) (x : Record) : Prop :=
  ∀ p sent, OpenedBy g q.sent p sent → p.className = x.name →
    ∀ (distinct : (g.schema.types.map (·.name)).Nodup) (truth : String → Bool) object all fields,
      sent ⊆ all → Answers (q.execution g.schema distinct truth) object all fields →
        (fields.lookup Value.typenameKey).isSome = true

/-- **The text asks for the type name wherever a class looks at it exactly if the document does so
itself where nothing is added to it**, after a call that succeeds and any later calls. What is sent
is the document with type names. The class of an operation looks at the type name exactly if it has
an accessor for other objects only. Where the text asks for the type name, every object that is
answered has it. -/
theorem asksWhereLooked_iff (before : List (Generator × Declaration)) (g : Generator)
    (d : Declaration) (succeeds : Succeeds (after {} before) g d)
    (later : List (Generator × Declaration)) :
    ∃ q document, g.asks d = .ok q ∧ q.queryText = Document.print document ∧
      namedOperations document = .ok q.sent.operations ∧
      Document.fragments document = q.sent.fragments ∧
      (∀ name o, (name, o) ∈ q.operations → ∃ root r, rootType g.schema o = .ok root ∧
        .root r ∈ (after {} (before ++ (g, d) :: later)).registry.records ∧ r.name = name ∧
        r.queryText = q.queryText ∧
        (LooksAtType (.root r) ↔ HasForeignAccessor g.schema q.fragments name o root)) ∧
      ∀ x ∈ (after {} (before ++ (g, d) :: later)).registry.records,
        (AsksWhereLooked g q x ↔ AsksItself g q x) ∧
        (AsksWhereLooked g q x → LooksAtType x → AlwaysTold g q x) := by
  have has := hasOperations_after succeeds later
  obtain ⟨q, asked, all⟩ := has
  obtain ⟨document, text, operations, fragments⟩ := text_of_asks asked
  refine ⟨q, document, asked, text, operations, fragments, fun name o ho => ?_, fun x hx => ?_⟩
  · obtain ⟨root, members, r, isClass, -, mem⟩ := all name o ho
    exact ⟨root, r, isClass.rooted, mem, isClass.name_eq, isClass.queryText_eq,
      looksAtType_root_iff isClass⟩
  · refine ⟨?_, fun asks looks p sent opened isFor distinct truth object all fields sub answers =>
      isSome_typename_of_answers (asks looks p sent opened isFor) sub answers⟩
    cases x with
    | root r => exact asksWhereLooked_root_iff ⟨q, asked, all⟩ asked hx
    | leaf l => exact asksWhereLooked_leaf_iff ⟨q, asked, all⟩ asked hx
    | input i => exact iff_of_true (fun looks => absurd looks (not_looksAtType rfl)) trivial
    | enum e => exact iff_of_true (fun looks => absurd looks (not_looksAtType rfl)) trivial

/-! ## Type names that are not told -/

/-- An interface that the root type of queries has in common with another type. -/
def nodeInterface : Document.TypeDefinition where
  name := "Node"
  body := .interface [] [{ name := "id", type := .named "ID" }]

def nodeQuery : Document.TypeDefinition where
  name := "Query"
  body := .object ["Node"] [{ name := "id", type := .named "ID" },
    { name := "node", type := .named "Node" }]

def nodeUser : Document.TypeDefinition where
  name := "User"
  body := .object ["Node"] [{ name := "id", type := .named "ID" },
    { name := "name", type := .named "String" }]

/-- A schema with the interface and its types. -/
def nodes : Schema where
  types := [nodeInterface, nodeQuery, nodeUser, { name := "ID", body := .scalar },
    { name := "String", body := .scalar }, { name := "Boolean", body := .scalar }]
  directives :=
    [{ name := "include", arguments := [Schema.condition], locations := Schema.selectionPlaces }]
  query? := some "Query"

/-- A generator for the schema that checks documents. -/
def nodesGenerator : Generator := { schema := nodes }

/-- A document that selects the name of users, in fragments that the root type does not meet and
beside a type name that is asked for if a condition holds. -/
def untold : Declaration where
  text := "query Qa($x:Boolean!)\x7b...on Node\x7b...on User\x7bname\x7d\x7d" ++
    "node\x7b__typename@include(if:$x)...on User\x7bname\x7d\x7d\x7d"

/-- What is selected under the field. -/
def untoldNode : List Document.Selection :=
  [.field { name := "__typename"
            directives := [{ name := "include"
                             arguments := [{ name := "if", value := .variable "x" }] }] } [],
   .inline (some "User") [] [.field { name := "name" } []]]

def untoldOperation : Document.Operation where
  kind := .query
  name? := some "Qa"
  parameters := [{ name := "x", type := .nonNull (.named "Boolean") }]
  selections :=
    [.inline (some "Node") [] [.inline (some "User") [] [.field { name := "name" } []]],
     .field { name := "node" } untoldNode]

def untoldDocument : Document := [.operation untoldOperation]

def untoldRequest : Request where
  operations := [("Qa", untoldOperation)]
  fragments := []
  queryText := Document.print (Document.addTypename untoldDocument)

section Validation

open Validation

theorem complaintsAt_untold :
    complaintsAt ⟨nodes, untoldDocument⟩ (visits nodes untoldDocument) = [] := by
  have limit : comparisonLimit (visits nodes untoldDocument) = 23322 + 6 := by cbv
  unfold complaintsAt
  rw [limit]
  -- any limit that is not too small will do, and a variable is not counted down
  generalize 23322 = more
  cbv

theorem validate_untold : nodes.validate untoldDocument = .complaints [] := by
  have sound : nodes.isSound = true := by cbv
  have read : (visits nodes untoldDocument).all
      (fun v => (unreadAt? ⟨nodes, untoldDocument⟩ v).isNone) = true := by cbv
  exact validate_of_silent sound read complaintsAt_untold

end Validation

theorem asks_untold : nodesGenerator.asks untold = .ok untoldRequest := by
  have read : readDocument (nodesGenerator.hooks.runBefore untold) = .ok untoldDocument := by cbv
  have names : namedOperations untoldDocument = .ok [("Qa", untoldOperation)] := by cbv
  exact asks_of_valid read names validate_untold

theorem succeeds_untold : Succeeds {} nodesGenerator untold := by
  have operations : untoldRequest.operations = [("Qa", untoldOperation)] := rfl
  have fragments : untoldRequest.fragments = [] := rfl
  unfold Succeeds
  rw [outcome_generate asks_untold, operations, fragments]
  generalize untoldRequest.queryText = text
  cbv

/-- The document is accepted, so all of this holds of what it sends. -/
theorem asksWhereLooked_iff_untold : Succeeds (after {} []) nodesGenerator untold ∧
    ∃ q document, nodesGenerator.asks untold = .ok q ∧ q.queryText = Document.print document ∧
      namedOperations document = .ok q.sent.operations ∧
      Document.fragments document = q.sent.fragments ∧
      (∀ name o, (name, o) ∈ q.operations → ∃ root r, rootType nodes o = .ok root ∧
        .root r ∈ (after {} ([] ++ (nodesGenerator, untold) :: [])).registry.records ∧
        r.name = name ∧ r.queryText = q.queryText ∧
        (LooksAtType (.root r) ↔ HasForeignAccessor nodes q.fragments name o root)) ∧
      ∀ x ∈ (after {} ([] ++ (nodesGenerator, untold) :: [])).registry.records,
        (AsksWhereLooked nodesGenerator q x ↔ AsksItself nodesGenerator q x) ∧
        (AsksWhereLooked nodesGenerator q x → LooksAtType x → AlwaysTold nodesGenerator q x) :=
  ⟨succeeds_untold, asksWhereLooked_iff [] nodesGenerator untold succeeds_untold []⟩

/-- The classes of the operation and of the field look at the type name. -/
theorem looks_untold {name : String} (mem : name ∈ ["Qa", "Qa__Node"]) :
    ∃ x ∈ (after {} [(nodesGenerator, untold)]).registry.records,
      x.name = name ∧ LooksAtType x := by
  have operations : untoldRequest.operations = [("Qa", untoldOperation)] := rfl
  have fragments : untoldRequest.fragments = [] := rfl
  have looks : (["Qa", "Qa__Node"].all fun name =>
      (after {} [(nodesGenerator, untold)]).registry.records.any fun x =>
        x.name == name && (accessorsOf x).any fun a => (typesOf x).any fun type =>
          (firstPath? (typesOf x) a.paths).all (type ∉ ·.typenames)) = true := by
    unfold after
    rw [List.foldl_cons, List.foldl_nil, outcome_generate asks_untold, operations, fragments]
    generalize untoldRequest.queryText = text
    cbv
  obtain ⟨x, hx, found⟩ := List.any_eq_true.mp (List.all_eq_true.mp looks name mem)
  obtain ⟨isNamed, some⟩ := Bool.and_eq_true_iff.mp found
  obtain ⟨a, ha, looks⟩ := List.any_eq_true.mp some
  exact ⟨x, hx, beq_iff_eq.mp isNamed, a, ha, (looksAtType_body _ _ _).trans looks⟩

/-- **What is looked at is not asked for**: the document is accepted, and the classes of the
operation and of the field look at the type name, but the operation's selection set does not ask for
it, and the one of the field only if the condition holds. -/
theorem unasked_untold : nodesGenerator.validates = true ∧ Succeeds {} nodesGenerator untold ∧
    ∃ q, nodesGenerator.asks untold = .ok q ∧ ∀ name ∈ ["Qa", "Qa__Node"],
      ∃ x ∈ (after {} [(nodesGenerator, untold)]).registry.records, x.name = name ∧
        LooksAtType x ∧ ∃ p sent, OpenedBy nodesGenerator q.sent p sent ∧ p.className = x.name ∧
          asksAlways sent = false := by
  refine ⟨rfl, succeeds_untold, untoldRequest, asks_untold, fun name mem => ?_⟩
  obtain ⟨x, hx, rfl, looks⟩ := looks_untold mem
  refine ⟨x, hx, rfl, looks, ?_⟩
  have rooted : rootType nodes untoldOperation = .ok nodeQuery := by cbv
  have operation : ("Qa", untoldOperation) ∈ untoldRequest.operations := List.mem_cons_self
  obtain isQa | isNode : x.name = "Qa" ∨ x.name = "Qa__Node" := by simpa using mem
  · refine ⟨_, _, openedBy_sent.mpr (.inl ⟨_, ⟨"Qa", _, nodeQuery, operation, rooted, rfl, rfl⟩,
      rfl⟩), isQa.symm, ?_⟩
    rw [asksAlways_addTypenames]
    rfl
  · have field : fieldDefinition nodes nodeQuery "node" =
        .ok { name := "node", type := .named "Node" } := by cbv
    have type : typeNamed nodes "Node" = .ok nodeInterface := by cbv
    have under : OpensUnder nodesGenerator.toSetting untoldRequest.fragments
        (operationPlace "Qa" nodeQuery) untoldOperation.selections
        ((operationPlace "Qa" nodeQuery).under nodes { name := "node" } nodeInterface)
        untoldNode :=
      ⟨_, _, _, _, _, _, .here _ _, .field (List.mem_cons_of_mem _ List.mem_cons_self) rfl, field,
        type, rfl, rfl⟩
    have className : Naming.leafClassName "Qa" none "node" = "Qa__Node" := by cbv
    have some : untoldNode ≠ [] := List.cons_ne_nil _ _
    refine ⟨_, _, openedBy_sent.mpr (.inr ⟨_, ⟨"Qa", _, nodeQuery, operation, rooted, under⟩,
      rfl⟩), className.trans isNode.symm, ?_⟩
    rw [asksAlways_sentUnder some]
    rfl

end QueryShape.Program
