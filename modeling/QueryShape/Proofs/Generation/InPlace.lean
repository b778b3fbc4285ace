import Mathlib.Data.List.Forall2
import QueryShape.Proofs.Generation.Alike
import QueryShape.Proofs.Generation.Nesting

/-!
# Fragments written in place

A spread of a fragment means what an inline fragment means that has the condition and the selections
of the fragment, and the directives of the spread. A document that has such inline fragments in the
place of some spreads is generated from as the one with the spreads is, if no fragment is spread
inside itself.

* `Inlines`, `InlinesDocument`: some spreads are written in place, at any depth.
* `selectWithin_inlined`: a step into the one is a step into the other.
* `select_inlined`: so the two select the same.
* `generate_inlined`: and the same classes are registered, or the same error comes up.
-/

namespace QueryShape.Generation

open Document Record Relation Schema Validation

/-! ## Documents -/

mutual

/-- The second selection is the first one with some spreads of the fragments written in place. -/
inductive Inlines (fragments : List Fragment) : Selection → Selection → Prop
  | field {f : Field} {inner inner' : List Selection} (h : InlinesAll fragments inner inner') :
    Inlines fragments (.field f inner) (.field f inner')
  | inline {condition? : Option String} {directives : List Directive}
      {inner inner' : List Selection} (h : InlinesAll fragments inner inner') :
    Inlines fragments (.inline condition? directives inner) (.inline condition? directives inner')
  | spread (name : String) (directives : List Directive) :
    Inlines fragments (.spread name directives) (.spread name directives)
  | written {name : String} {directives : List Directive} {f : Fragment} {inner : List Selection}
      (named : fragmentNamed? fragments name = some f)
      (h : InlinesAll fragments f.selections inner) :
    Inlines fragments (.spread name directives) (.inline (some f.condition) directives inner)

/-- Some spreads are written in place in a selection set. -/
inductive InlinesAll (fragments : List Fragment) : List Selection → List Selection → Prop
  | nil : InlinesAll fragments [] []
  | cons {a a' : Selection} {rest rest' : List Selection} (h : Inlines fragments a a')
      (others : InlinesAll fragments rest rest') :
    InlinesAll fragments (a :: rest) (a' :: rest')

end

/-- Some spreads are written in place in a definition. -/
inductive InlinesDefinition (fragments : List Fragment) : Definition → Definition → Prop
  | operation (o : Operation) {selections : List Selection}
      (h : InlinesAll fragments o.selections selections) :
    InlinesDefinition fragments (.operation o) (.operation { o with selections })
  | fragment (f : Fragment) {selections : List Selection}
      (h : InlinesAll fragments f.selections selections) :
    InlinesDefinition fragments (.fragment f) (.fragment { f with selections })
  | other (d : Definition) : InlinesDefinition fragments d d

/-- The second document is the first one with some spreads of its fragments written in place. -/
def InlinesDocument (document document' : Document) : Prop :=
  List.Forall₂ (InlinesDefinition (fragments document)) document document'

/-- Nothing has to be written in place. -/
theorem InlinesAll.refl (fragments : List Fragment) (selections : List Selection) :
    InlinesAll fragments selections selections := by
  match selections with
  | [] => exact .nil
  | .field _ inner :: rest => exact .cons (.field (refl fragments inner)) (refl fragments rest)
  | .inline _ _ inner :: rest => exact .cons (.inline (refl fragments inner)) (refl fragments rest)
  | .spread .. :: rest => exact .cons (.spread _ _) (refl fragments rest)

theorem InlinesAll.isEmpty_eq {fragments : List Fragment} {selections selections' : List Selection}
    (h : InlinesAll fragments selections selections') :
    selections'.isEmpty = selections.isEmpty := by cases h <;> rfl

/-! ## Operations and fragments -/

/-- The second operation is the first one with some spreads written in place. -/
inductive InlinesOperation (fragments : List Fragment) : Operation → Operation → Prop
  | mk (o : Operation) {selections : List Selection}
      (h : InlinesAll fragments o.selections selections) :
    InlinesOperation fragments o { o with selections }

/-- The second fragment is the first one with some spreads written in place. -/
inductive InlinesFragment (fragments : List Fragment) : Fragment → Fragment → Prop
  | mk (f : Fragment) {selections : List Selection}
      (h : InlinesAll fragments f.selections selections) :
    InlinesFragment fragments f { f with selections }

variable {table table' : List Fragment} {document document' : Document}

theorem operations_inlined (h : InlinesDocument document document') :
    List.Forall₂ (InlinesOperation (fragments document)) (operations document)
      (operations document') := by
  refine List.rel_filterMap (fun d d' one => ?_) h
  cases one with
  | operation o h => exact .some (.mk o h)
  | fragment => exact .none
  | other d =>
    cases d with
    | operation o => exact .some (.mk o (.refl _ _))
    | _ => exact .none

theorem fragments_inlined (h : InlinesDocument document document') :
    List.Forall₂ (InlinesFragment (fragments document)) (fragments document)
      (fragments document') := by
  refine List.rel_filterMap (fun d d' one => ?_) h
  cases one with
  | operation => exact .none
  | fragment f h => exact .some (.mk f h)
  | other d =>
    cases d with
    | fragment f => exact .some (.mk f (.refl _ _))
    | _ => exact .none

/-- The fragments of one name are the same, with some spreads written in place. -/
theorem fragmentNamed?_inlined {all : List Fragment}
    (h : List.Forall₂ (InlinesFragment all) table table') (name : String) :
    Option.Rel (InlinesFragment all) (fragmentNamed? table name) (fragmentNamed? table' name) := by
  have reversed := List.rel_reverse h
  unfold fragmentNamed?
  generalize table.reverse = fs, table'.reverse = fs' at reversed
  induction reversed with
  | nil => exact .none
  | cons one _ ih =>
    cases one with
    | mk inner =>
      rw [List.find?_cons, List.find?_cons]
      dsimp only
      split
      · exact .some (.mk _ inner)
      · exact ih

/-! ## One step -/

variable {g : Setting}

section

variable {inside inside' : Place → List Selection → Members → OptionT Plan Members}

theorem foldlM_inlined {add add' : Members → Selection → OptionT Plan Members}
    {selections selections' : List Selection} (h : InlinesAll table selections selections')
    (same : ∀ {a a'}, Inlines table a a' → ∀ members, add' members a' = add members a)
    (members : Members) : selections'.foldlM add' members = selections.foldlM add members := by
  induction selections generalizing selections' members with
  | nil =>
    cases h
    rfl
  | cons a rest ih =>
    cases h with
    | cons one others =>
      rw [List.foldlM_cons, List.foldlM_cons, same one]
      exact congrArg _ (funext fun members => ih others members)

/-- Selection sets are gone through as those with the spreads are. -/
def SameInside (fragments : List Fragment)
    (inside inside' : Place → List Selection → Members → OptionT Plan Members) : Prop :=
  ∀ {selections selections'}, InlinesAll fragments selections selections' → ∀ p members,
    inside' p selections' members = inside p selections members

theorem addField_inlined (same : SameInside table inside inside') {a a' : Selection}
    (h : Inlines table a a') (p : Place) (members : Members) :
    addField inside' g p members a' = addField inside g p members a := by
  cases h with
  | field inner =>
    simp only [addField, conversionBy, inner.isEmpty_eq, same inner]
  | inline | spread | written => rfl

theorem addFragment_inlined (fragments : List.Forall₂ (InlinesFragment table) table table')
    (same : SameInside table inside inside') {a a' : Selection} (h : Inlines table a a') (p : Place)
    (members : Members) :
    addFragment inside' g table' p members a' = addFragment inside g table p members a := by
  cases h with
  | field => rfl
  | inline inner => simp only [addFragment, same inner]
  | spread name directives =>
    have one := fragmentNamed?_inlined fragments name
    simp only [addFragment]
    generalize fragmentNamed? table name = found, fragmentNamed? table' name = found' at one
    cases one with
    | none => rfl
    | some one =>
      cases one with
      | mk inner =>
        simp only [same inner]
        rfl
  | written named inner =>
    simp only [addFragment, named, same inner]
    rfl

theorem selectBy_inlined (fragments : List.Forall₂ (InlinesFragment table) table table')
    (same : SameInside table inside inside') {selections selections' : List Selection}
    (h : InlinesAll table selections selections') (p : Place) (members : Members) :
    selectBy inside' g table' p selections' members =
      selectBy inside g table p selections members := by
  have fields : ∀ members, selections'.foldlM (addField inside' g p) members =
      selections.foldlM (addField inside g p) members := by
    refine foldlM_inlined h fun one members => addField_inlined same one p members
  have others : ∀ members, selections'.foldlM (addFragment inside' g table' p) members =
      selections.foldlM (addFragment inside g table p) members :=
    foldlM_inlined h fun one members => addFragment_inlined fragments same one p members
  simp only [selectBy, fields, others]

end

/-- **Selections with spreads written in place are gone through alike**, to whatever depth. -/
theorem selectWithin_inlined (fragments : List.Forall₂ (InlinesFragment table) table table')
    (limit : Nat) :
    SameInside table (selectWithin g table limit) (selectWithin g table' limit) := by
  induction limit with
  | zero => exact fun _ _ _ => rfl
  | succ limit ih => exact fun h p members => selectBy_inlined fragments ih h p members

/-! ## Spreads that are left -/

variable {c : Context}

theorem mem_spreads_cons {name : String} {a : Selection} {rest : List Selection} :
    name ∈ spreads (a :: rest) ↔ name ∈ spreads [a] ∨ name ∈ spreads rest := by
  simp only [mem_spreads, List.exists_mem_cons_iff, List.not_mem_nil, false_and, exists_false,
    or_false]

theorem spreads_field (f : Field) (inner : List Selection) :
    spreads [.field f inner] = spreads inner := by
  rw [spreads, spreadsOfRest, spreadsOfRest, spreadsInside]
  rfl

theorem spreads_inline (condition? : Option String) (directives : List Directive)
    (inner : List Selection) : spreads [.inline condition? directives inner] = spreads inner := by
  rw [spreads, spreadsOfRest, spreadsOfRest, spreadsInside]
  rfl

theorem spreads_spread (name : String) (directives : List Directive) :
    spreads [.spread name directives] = [name] := by
  rw [spreads, spreadsOfRest, spreadsOfRest, spreadsInside]
  rfl

mutual

/-- A spread that is left was there, or it is inside a fragment that was spread there. -/
theorem spread_of_inlines {a a' : Selection} (h : Inlines (fragments c.document) a a')
    {name : String} (mem : name ∈ spreads [a']) :
    ∃ outer ∈ spreads [a], ReflTransGen (SpreadIn c) name outer := by
  cases h with
  | field inner =>
    rw [spreads_field] at mem ⊢
    exact spread_of_inlinesAll inner mem
  | inline inner =>
    rw [spreads_inline] at mem ⊢
    exact spread_of_inlinesAll inner mem
  | spread => exact ⟨name, mem, .refl⟩
  | written named inner =>
    rw [spreads_inline] at mem
    obtain ⟨outer, there, way⟩ := spread_of_inlinesAll inner mem
    exact ⟨_, spreads_spread _ _ ▸ List.mem_cons_self, way.tail ⟨_, named, there⟩⟩

theorem spread_of_inlinesAll {selections selections' : List Selection}
    (h : InlinesAll (fragments c.document) selections selections')
    {name : String} (mem : name ∈ spreads selections') :
    ∃ outer ∈ spreads selections, ReflTransGen (SpreadIn c) name outer := by
  cases h with
  | nil => exact ⟨name, mem, .refl⟩
  | cons one others =>
    rcases mem_spreads_cons.mp mem with mem | mem
    · obtain ⟨outer, there, way⟩ := spread_of_inlines one mem
      exact ⟨outer, mem_spreads_cons.mpr (Or.inl there), way⟩
    · obtain ⟨outer, there, way⟩ := spread_of_inlinesAll others mem
      exact ⟨outer, mem_spreads_cons.mpr (Or.inr there), way⟩

end

/-- Writing spreads in place leads to no fragment that is spread in itself. -/
theorem noFragmentInItself_inlined {s : Schema} (h : InlinesDocument document document')
    (acyclic : NoFragmentInItself ⟨s, document⟩) : NoFragmentInItself ⟨s, document'⟩ := by
  have step {inner outer : String} (spread : SpreadIn ⟨s, document'⟩ inner outer) :
      TransGen (SpreadIn ⟨s, document⟩) inner outer := by
    obtain ⟨f', known, mem⟩ := spread
    have one := fragmentNamed?_inlined (fragments_inlined h) outer
    rw [show fragmentNamed? (fragments document') outer = some f' from known] at one
    generalize named : fragmentNamed? (fragments document) outer = found at one
    cases one with
    | some one =>
      cases one with
      | mk inner =>
        obtain ⟨between, there, way⟩ := spread_of_inlinesAll (c := ⟨s, document⟩) inner mem
        exact .tail' way ⟨_, named, there⟩
  exact fun name loop => acyclic name (TransGen.closed (fun _ _ => step) _ _ loop)

/-! ## Selections -/

/-- **Selections with spreads written in place select the same.** Both are gone through to the end,
and each step into the one is a step into the other. -/
theorem select_inlined (h : InlinesDocument document document')
    (acyclic : NoFragmentInItself ⟨g.schema, document⟩) {selections selections' : List Selection}
    (all : InlinesAll (fragments document) selections selections') (p : Place) (members : Members) :
    select g (fragments document') p selections' members =
      select g (fragments document) p selections members := by
  obtain ⟨limit, ends⟩ := finishes_above acyclic selections
  obtain ⟨limit', ends'⟩ := finishes_above (noFragmentInItself_inlined h acyclic) selections'
  have same := selectWithin_inlined (g := g) (fragments_inlined h) (max limit limit') all p members
  refine (map_inj_right Option.some.inj).mp ?_
  rw [← ends _ (le_max_left _ _), ← ends' _ (le_max_right _ _), same]

/-! ## Operations -/

/-- **An operation with spreads written in place has the same classes.** -/
theorem generateOperation_inlined (h : InlinesDocument document document')
    (acyclic : NoFragmentInItself ⟨g.schema, document⟩) {o o' : Operation}
    (one : InlinesOperation (fragments document) o o') (queryText name : String) :
    generateOperation g (fragments document') queryText name o' =
      generateOperation g (fragments document) queryText name o := by
  cases one with
  | mk all =>
    have selected (p : Place) := select_inlined (g := g) h acyclic all p {}
    unfold generateOperation
    simp only [selected]
    rfl

theorem eq_map_of_namedOperations {named : List (String × Operation)}
    (h : namedOperations document = .ok named) :
    named = (operations document).map fun o => (o.name?.getD "", o) := by
  rw [← List.map_id named]
  refine map_eq_of_mapM h fun o x one => ?_
  split at one
  · next name isNamed =>
    split at one
    · cases one
      rw [isNamed]
      rfl
    · cases one
  · cases one

/-- The operations have the same names. -/
theorem namedOperations_inlined (h : InlinesDocument document document')
    {named named' : List (String × Operation)} (names : namedOperations document = .ok named)
    (names' : namedOperations document' = .ok named') :
    List.Forall₂ (fun x x' => x'.1 = x.1 ∧ InlinesOperation (fragments document) x.2 x'.2) named
      named' := by
  rw [eq_map_of_namedOperations names, eq_map_of_namedOperations names']
  refine List.rel_map (fun o o' one => ?_) (operations_inlined h)
  exact ⟨by cases one; rfl, one⟩

/-! ## Documents -/

/-- **A document is generated from alike with spreads of fragments written in place**, if no
fragment is spread inside itself and both documents can be asked for: from every session, with the
same result, be it an error, and the same records in the same order. Only the text that operations
send is that of the one or of the other document. -/
theorem generate_inlined {g : Generator} {d d' : Declaration}
    (read : readDocument (g.hooks.runBefore d) = .ok document)
    (read' : readDocument (g.hooks.runBefore d') = .ok document')
    (inlines : InlinesDocument document document')
    (acyclic : NoFragmentInItself ⟨g.schema, document⟩) {q q' : Request}
    (asked : g.asks d = .ok q) (asked' : g.asks d' = .ok q') (s : Session) :
    (g.generate d).AlikeFrom q.queryText q'.queryText (g.generate d') s s := by
  obtain ⟨_, named, again, names, rfl⟩ := exists_document_of_asks asked
  cases read.symm.trans again
  obtain ⟨_, named', again', names', rfl⟩ := exists_document_of_asks asked'
  cases read'.symm.trans again'
  unfold Run.AlikeFrom
  rw [outcome_generate asked, outcome_generate asked']
  refine alike_forM ?_ _ _ (.refl _ _ _ _)
  refine (namedOperations_inlined inlines names names').imp ?_
  rintro ⟨name, o⟩ ⟨_, o'⟩ ⟨rfl, one⟩
  dsimp only
  rw [generateOperation_inlined inlines acyclic one]
  exact alike_generateOperation _ _ _ _ o

/-- A generator for the schema with a type that leads back to itself. -/
def recursiveGenerator : Generator := { schema := recursiveSchema }

/-- A text with spreads, one with a directive. -/
def nestedText : String :=
  "query Qa{u{...F u{...F@include(if:true)}}}fragment F on U{...G}fragment G on U{a}"

/-- The text with that spread written in place, and the one inside the fragment. -/
def nestedTextInPlace : String :=
  "query Qa{u{...F u{...on U@include(if:true){...G}}}}fragment F on U{...on U{a}}fragment G on U{a}"

/-- The operation with a spread written in place. -/
def nestedOperationInPlace : Operation :=
  { nestedOperation with
    selections := [.field { name := "u" }
      [.spread "F" [], .field { name := "u" } [.inline (some "U") [included] [.spread "G" []]]]] }

/-- The document of the text with spreads written in place. -/
def nestedDocumentInPlace : Document :=
  [.operation nestedOperationInPlace,
   .fragment
    { name := "F", condition := "U"
      selections := [.inline (some "U") [] [.field { name := "a" } []]] },
   .fragment { name := "G", condition := "U", selections := [.field { name := "a" } []] }]

theorem validate_nestedInPlace :
    recursiveSchema.validate nestedDocumentInPlace = .complaints [] := by
  have read : (visits recursiveSchema nestedDocumentInPlace).all
      (fun v => (unreadAt? ⟨recursiveSchema, nestedDocumentInPlace⟩ v).isNone) = true := by cbv
  have silent : complaintsAt ⟨recursiveSchema, nestedDocumentInPlace⟩
      (visits recursiveSchema nestedDocumentInPlace) = [] := by cbv
  exact validate_of_silent isSound_recursiveSchema read silent

theorem inlines_nested : InlinesDocument nestedDocument nestedDocumentInPlace := by
  have f : fragmentNamed? (fragments nestedDocument) "F" =
      some { name := "F", condition := "U", selections := [.spread "G" []] } := rfl
  have g : fragmentNamed? (fragments nestedDocument) "G" =
      some { name := "G", condition := "U", selections := [.field { name := "a" } []] } := rfl
  have inF : InlinesAll (fragments nestedDocument) [.spread "G" []]
      [.inline (some "U") [] [.field { name := "a" } []]] :=
    .cons (.written g (.refl _ _)) .nil
  have inOperation : InlinesAll (fragments nestedDocument) nestedOperation.selections
      nestedOperationInPlace.selections :=
    .cons (.field (.cons (.spread _ _) (.cons (.field (.cons (.written f (.refl _ _)) .nil))
      .nil))) .nil
  exact .cons (.operation _ inOperation) (.cons (.fragment _ inF) (.cons (.other _) .nil))

/-- The two documents are generated from alike. -/
theorem generate_inlined_nested :
    readDocument (recursiveGenerator.hooks.runBefore { text := nestedText }) = .ok nestedDocument ∧
    readDocument (recursiveGenerator.hooks.runBefore { text := nestedTextInPlace }) =
      .ok nestedDocumentInPlace ∧
    InlinesDocument nestedDocument nestedDocumentInPlace ∧
    NoFragmentInItself ⟨recursiveGenerator.schema, nestedDocument⟩ ∧
    ∃ q q', recursiveGenerator.asks { text := nestedText } = .ok q ∧
      recursiveGenerator.asks { text := nestedTextInPlace } = .ok q' ∧
      (recursiveGenerator.generate { text := nestedText }).AlikeFrom q.queryText q'.queryText
        (recursiveGenerator.generate { text := nestedTextInPlace }) {} {} := by
  have read : readDocument (recursiveGenerator.hooks.runBefore { text := nestedText }) =
      .ok nestedDocument := by cbv
  have read' : readDocument (recursiveGenerator.hooks.runBefore { text := nestedTextInPlace }) =
      .ok nestedDocumentInPlace := by cbv
  have names : namedOperations nestedDocument = .ok [("Qa", nestedOperation)] := by cbv
  have names' : namedOperations nestedDocumentInPlace = .ok [("Qa", nestedOperationInPlace)] := by
    cbv
  have acyclic := noFragmentInItself_of_passes (passes_of_validate validate_nested).2
  have asked := asks_of_valid read names validate_nested
  have asked' := asks_of_valid read' names' validate_nestedInPlace
  exact ⟨read, read', inlines_nested, acyclic, _, _, asked, asked',
    generate_inlined read read' inlines_nested acyclic asked asked' {}⟩

end QueryShape.Generation
