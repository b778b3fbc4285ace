import QueryShape.Generation.Generator
import QueryShape.Proofs.Generation.Inputs

/-!
# What generating does to a session

`ends_generate` is what one call does: it leads to a sound session, whether it succeeds or fails,
and if it succeeds every operation of the document has its classes. `after` goes through calls one
by one, whatever comes of each.

* `sound_after`: every session that calls lead to is sound.
* `closed_acyclic`: classes depend on registered classes only, without a cycle, so there is always
  an emission order.
-/

namespace QueryShape.Generation

open Document Record Run Session Program.Thing

/-! ## Operations -/

/-- The place of the selection set of an operation on its root type. -/
def operationPlace (name : String) (root : TypeDefinition) : Place where
  className := name
  owner := root
  typenames := .ofList [root.name]

/-- The record is that of an operation of the name, with the members of its selection set. -/
structure IsClassOf (g : Setting) (fragments : List Fragment) (queryText name : String)
    (o : Operation) (root : TypeDefinition) (members : Members) (r : Root) : Prop where
  rooted : rootType g.schema o = .ok root
  selected : (select g fragments (operationPlace name root) o.selections {}).result = .ok members
  name_eq : r.name = name
  operationKind : r.operationKind = o.kind
  graphqlType : r.graphqlType = root.name
  possibleTypes : r.possibleTypes = [root.name]
  queryText_eq : r.queryText = queryText
  accessors : r.accessors = members.accessors
  dependencies : ∀ d ∈ members.dependencies, d ∈ r.dependencies

/-- The classes that an operation has apart from those of inputs and enums: its own, and those of
the selection sets under it. -/
inductive ClassOf (g : Setting) (fragments : List Fragment) (queryText name : String)
    (o : Operation) : Record → Prop
  | root {root : TypeDefinition} {members : Members} {r : Root}
      (h : IsClassOf g fragments queryText name o root members r) :
      ClassOf g fragments queryText name o (.root r)
  | leaf {root : TypeDefinition} {l : Leaf} (rooted : rootType g.schema o = .ok root)
      (asked : .leaf l ∈ (select g fragments (operationPlace name root) o.selections {}).steps) :
      ClassOf g fragments queryText name o (.leaf l)

/-- The operation has its class, and the steps of its selection set have been done. -/
def HasOperation (s : Session) (g : Setting) (fragments : List Fragment)
    (queryText name : String) (o : Operation) : Prop :=
  ∃ root members r, IsClassOf g fragments queryText name o root members r ∧
    (∀ a ∈ (select g fragments (operationPlace name root) o.selections {}).steps, s.Did a) ∧
    .root r ∈ s.registry.records

theorem HasOperation.of_grows {s s' : Session} {g : Setting} {fragments : List Fragment}
    {queryText name : String} {o : Operation} (h : HasOperation s g fragments queryText name o)
    (grows : s.Grows s') : HasOperation s' g fragments queryText name o := by
  obtain ⟨root, members, r, isClass, did, mem⟩ := h
  obtain ⟨x, hx, grown⟩ := grows.registry.records _ mem
  rw [grown.eq_of_kind_ne_leaf nofun] at hx
  exact ⟨root, members, r, isClass, fun a ha => (did a ha).of_grows grows, hx⟩

variable {s : Session} {P : Record → Prop}

theorem ends_variableParameter (closed : Closed P) (sound : s.Sound P) (g : Setting)
    (owner : String) (v : Variable) :
    (variableParameter g owner v).Ends s
    (fun p s' => s.Leads P s' ∧ ∀ d, p.dependency? = some d → s'.HasSent d) (s.Leads P ·) := by
  unfold variableParameter
  split
  · exact ends_bind (ends_throw (.refl sound))
  · exact ends_parameter closed sound _ _ _ _ _

theorem ends_variableParameters (closed : Closed P) (sound : s.Sound P) (g : Setting)
    (owner : String) (vs : List Variable) : (vs.mapM (variableParameter g owner)).Ends s
    (fun ps s' => s.Leads P s' ∧ s'.HasAll ps) (s.Leads P ·) := by
  refine ends_mapM (fun ps s' => s.Leads P s' ∧ s'.HasAll ps)
    ⟨.refl sound, fun p hp => absurd hp List.not_mem_nil⟩ ?_
  rintro ps v s₁ ⟨leads, has⟩
  refine (ends_variableParameter closed leads.sound g owner v).imp ?_ fun _ next => leads.trans next
  rintro p s₂ ⟨next, hasThis⟩
  refine ⟨leads.trans next, fun q hq d hd => ?_⟩
  rcases List.mem_append.mp hq with hq | hq
  · exact (has q hq d hd).of_grows next.grows
  · rw [List.mem_singleton.mp hq] at hd
    exact hasThis d hd

/-- The classes of a plan for a selection set have no two accessors of one name. -/
theorem distinct_of_leaf_mem_steps {g : Setting} {fragments : List Fragment} {p : Place}
    {selections : List Selection} {before : Members} {r : Leaf}
    (h : .leaf r ∈ (select g fragments p selections before).steps) :
    (accessorNames r.accessors).Nodup := by
  obtain ⟨q, inner, left, members, -, known, ok, rfl⟩ :=
    opens_of_leaf_mem_steps fragments selections (.refl fragments) h
  exact (gives_of_select known ok).distinct

/-- What a class depends on and has been asked for may be needed by an operation. -/
theorem has_root_of_ready {before : List Step} (did : ∀ a ∈ before, s.Did a) {r : Root}
    {className d : String} (ready : Ready before className d) : s.registry.Has (.root r) d := by
  rcases ready with ⟨t, ht, rfl⟩ | ⟨m, hm, rfl, -⟩
  · obtain ⟨e, he, hn, -⟩ := did _ ht
    exact ⟨.enum e, he, hn, mayNeed_of_root rfl nofun⟩
  · obtain ⟨l, hl, hn, -⟩ := did _ hm
    exact ⟨.leaf l, hl, hn, mayNeed_of_root rfl nofun⟩

/-- **Registering the classes of an operation keeps the session sound**, and if it succeeds they
are there. -/
theorem ends_generateOperation (closed : Closed P) (sound : s.Sound P) (g : Setting)
    (fragments : List Fragment) (queryText name : String) (o : Operation)
    (classes : ∀ x, ClassOf g fragments queryText name o x → P x) :
    (generateOperation g fragments queryText name o).Ends s
    (fun _ s' => s.Leads P s' ∧ HasOperation s' g fragments queryText name o) (s.Leads P ·) := by
  unfold generateOperation
  cases hr : rootType g.schema o with
  | error e => exact ends_bind (ends_throw (.refl sound))
  | ok root =>
    refine ends_bind (ends_pure ?_)
    refine ends_bind ((ends_variableParameters closed sound g name o.parameters).imp ?_
      fun _ h => h)
    rintro parameters s₁ ⟨leads, has⟩
    dsimp only
    split
    · exact ends_bind (ends_throw leads)
    · refine ends_bind ((ends_plan closed leads.sound (ordered_select _ _ _ _) fun l hl =>
        ⟨classes _ (.leaf hr hl), distinct_of_leaf_mem_steps hl⟩).imp ?_
        fun _ next => leads.trans next)
      rintro members s₂ ⟨next, ok, did⟩
      have gives := gives_of_select (.refl fragments) ok
      have isClass : IsClassOf g fragments queryText name o root members
          { name, operationName := name, operationKind := o.kind, graphqlType := root.name
            possibleTypes := [root.name], queryText, parameters, accessors := members.accessors
            dependencies := members.dependencies ∪
              .ofList (parameters.filterMap (·.dependency?)) } :=
        ⟨hr, ok, rfl, rfl, rfl, rfl, rfl, rfl, fun d hd => NameSet.mem_union.mpr (Or.inl hd)⟩
      refine (ends_register_leads next.sound (classes _ (.root isClass)) gives.distinct ?_).imp ?_
        fun _ last => (leads.trans next).trans last
      · intro d hd
        rcases NameSet.mem_union.mp hd with hd | hd
        · exact has_root_of_ready did (ready_of_select ok hd)
        · obtain ⟨p, hp, hpd⟩ := List.mem_filterMap.mp (NameSet.mem_ofList.mp hd)
          obtain ⟨x, hx, hn, kind⟩ := (has p hp d hpd).of_grows next.grows
          refine ⟨x, hx, hn, mayNeed_of_root rfl ?_⟩
          rcases kind with kind | kind <;> rw [kind] <;> decide
      · rintro - s₃ ⟨last, -, mem⟩
        exact ⟨(leads.trans next).trans last, root, members, _, isClass,
          fun a ha => (did a ha).of_grows last.grows, mem⟩

/-! ## Documents -/

/-- What the document of a declaration asks for, after the hooks. -/
def Generator.asks (g : Generator) (d : Declaration) : Except GenerationError Request :=
  g.request (g.hooks.runBefore d)

/-- What is asked for are the operations and fragments of the document. -/
theorem exists_document_of_asks {g : Generator} {d : Declaration} {q : Request}
    (h : g.asks d = .ok q) : ∃ document named, readDocument (g.hooks.runBefore d) = .ok document ∧
      namedOperations document = .ok named ∧
      q = { operations := named, fragments := Document.fragments document
            queryText := Document.print (addTypename document) } := by
  unfold Generator.asks Generator.request at h
  obtain ⟨document, read, h⟩ := except_bind_eq_ok_iff.mp h
  obtain ⟨named, eq, h⟩ := except_bind_eq_ok_iff.mp h
  refine ⟨document, named, read, eq, ?_⟩
  split at h
  · obtain ⟨_, -, h⟩ := except_bind_eq_ok_iff.mp h
    exact (Except.ok.inj h).symm
  · exact (Except.ok.inj h).symm

/-- The operations that are asked for have the names of classes. -/
theorem of_mem_namedOperations {document : Document} {named : List (String × Operation)}
    (h : namedOperations document = .ok named) {name : String} {o : Operation}
    (mem : (name, o) ∈ named) :
    o ∈ operations document ∧ o.name? = some name ∧ Naming.isOperationName name = true := by
  obtain ⟨o', ho, eq⟩ := mem_of_mapM h mem
  split at eq
  · next name' isNamed =>
    split at eq
    · next isName =>
      cases eq
      exact ⟨ho, isNamed, isName⟩
    · cases eq
  · cases eq

/-- A call goes through the operations that its document asks for. -/
theorem outcome_generate {g : Generator} {d : Declaration} {q : Request} (h : g.asks d = .ok q)
    (s : Session) : (g.generate d).outcome s =
      Run.outcome (q.operations.forM fun (name, o) =>
        generateOperation g.toSetting q.fragments q.queryText name o)
        { s with events := s.events ++ [.document (g.hooks.runBefore d).source] } := by
  unfold Generator.generate
  unfold Generator.asks at h
  dsimp only
  rw [h, outcome_bind]
  rfl

/-- The classes that the operations of a document have. -/
def Classes (g : Generator) (d : Declaration) (x : Record) : Prop :=
  ∃ q name o, g.asks d = .ok q ∧ (name, o) ∈ q.operations ∧
    ClassOf g.toSetting q.fragments q.queryText name o x

/-- Every operation of the document has its classes. -/
def HasOperations (s : Session) (g : Generator) (d : Declaration) : Prop :=
  ∃ q, g.asks d = .ok q ∧ ∀ name o, (name, o) ∈ q.operations →
    HasOperation s g.toSetting q.fragments q.queryText name o

theorem HasOperations.hasOperation {s : Session} {g : Generator} {d : Declaration}
    (h : HasOperations s g d) {q : Request} (asked : g.asks d = .ok q) {name : String}
    {o : Operation} (ho : (name, o) ∈ q.operations) :
    HasOperation s g.toSetting q.fragments q.queryText name o := by
  obtain ⟨q', asked', all⟩ := h
  cases asked.symm.trans asked'
  exact all name o ho

theorem HasOperations.of_grows {s s' : Session} {g : Generator} {d : Declaration}
    (h : HasOperations s g d) (grows : s.Grows s') : HasOperations s' g d := by
  obtain ⟨q, ok, all⟩ := h
  exact ⟨q, ok, fun name o ho => (all name o ho).of_grows grows⟩

/-- **A call keeps the session sound**, and if it succeeds every operation of the document has its
classes. -/
theorem ends_generate (closed : Closed P) (sound : s.Sound P) (g : Generator) (d : Declaration)
    (classes : ∀ x, Classes g d x → P x) :
    (g.generate d).Ends s (fun _ s' => s.Leads P s' ∧ HasOperations s' g d) (s.Leads P ·) := by
  unfold Generator.generate
  dsimp only
  refine ends_bind ((ends_report sound _).imp ?_ fun _ h => h)
  rintro - s₀ start
  cases hq : g.asks d with
  | error e =>
    unfold Generator.asks at hq
    rw [hq]
    exact ends_throw start
  | ok q =>
    have asked := hq
    unfold Generator.asks at hq
    rw [hq]
    refine (ends_forM (fun before s' => s.Leads P s' ∧ ∀ name o, (name, o) ∈ before →
      HasOperation s' g.toSetting q.fragments q.queryText name o)
      ⟨start, fun _ _ h => absurd h List.not_mem_nil⟩ ?_).imp ?_ fun _ h => h
    · rintro before ⟨name, o⟩ s₁ front ⟨leads, has⟩
      have mem : (name, o) ∈ q.operations := front.subset (by simp)
      refine (ends_generateOperation closed leads.sound g.toSetting q.fragments q.queryText name o
        fun x hx => classes x ⟨q, name, o, asked, mem, hx⟩).imp ?_ fun _ next => leads.trans next
      rintro - s₂ ⟨next, hasThis⟩
      refine ⟨leads.trans next, fun name' o' h => ?_⟩
      rcases List.mem_append.mp h with h | h
      · exact (has name' o' h).of_grows next.grows
      · cases List.mem_singleton.mp h
        exact hasThis
    · rintro - s' ⟨leads, has⟩
      exact ⟨leads, q, asked, has⟩

/-! ## Calls -/

/-- The session after calls, each with its own settings, whatever comes of each. -/
def after (s : Session) (calls : List (Generator × Declaration)) : Session :=
  calls.foldl (fun s call => ((call.1.generate call.2).outcome s).2) s

/-- A call leads on, whatever comes of it. -/
theorem leads_generate (closed : Closed P) (sound : s.Sound P) (g : Generator) (d : Declaration)
    (classes : ∀ x, Classes g d x → P x) : s.Leads P ((g.generate d).outcome s).2 := by
  have h := ends_generate closed sound g d classes
  unfold Run.Ends at h
  split at h
  · next eq =>
    rw [eq]
    exact h.1
  · next eq =>
    rw [eq]
    exact h

theorem leads_after (closed : Closed P) (sound : s.Sound P)
    (calls : List (Generator × Declaration))
    (classes : ∀ g d, (g, d) ∈ calls → ∀ x, Classes g d x → P x) :
    s.Leads P (after s calls) := by
  induction calls generalizing s with
  | nil => exact .refl sound
  | cons call rest ih =>
    have first := leads_generate closed sound call.1 call.2 (classes _ _ List.mem_cons_self)
    exact first.trans (ih first.sound fun g d h => classes g d (List.mem_cons_of_mem _ h))

/-- **Every session that calls lead to is sound**, and its records have any property that the
classes of the documents have and merging keeps. -/
theorem sound_after (closed : Closed P) (calls : List (Generator × Declaration))
    (classes : ∀ g d, (g, d) ∈ calls → ∀ x, Classes g d x → P x) : (after {} calls).Sound P :=
  (leads_after closed (sound_empty P) calls classes).sound

theorem closed_true : Closed fun _ => True :=
  ⟨fun _ => trivial, fun _ => trivial, fun _ _ _ _ _ _ _ => trivial⟩

/-- **The classes of every session depend on registered classes only, without a cycle**, whatever
calls have come before and wherever they have failed, so there is always an emission order. -/
theorem closed_acyclic (calls : List (Generator × Declaration)) :
    (∀ x ∈ (after {} calls).registry.records, ∀ d ∈ x.dependencies,
      ∃ y ∈ (after {} calls).registry.records, y.name = d) ∧
    (∀ name, ¬ Relation.TransGen (after {} calls).registry.DependsOn name name) ∧
    ∃ sorted, (after {} calls).registry.sorted = .ok sorted := by
  have sound := (sound_after closed_true calls fun _ _ _ _ _ => trivial).registry
  refine ⟨fun x hx d hd => ?_, sound.not_transGen, ?_⟩
  · obtain ⟨y, hy, hn, -⟩ := sound.has x hx d hd
    exact ⟨y, hy, hn⟩
  · obtain ⟨sorted, ok, -⟩ := sound.exists_sorted
    exact ⟨sorted, ok⟩

end QueryShape.Generation
