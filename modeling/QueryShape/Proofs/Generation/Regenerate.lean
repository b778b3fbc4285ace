import QueryShape.Proofs.Generation.Alike
import QueryShape.Proofs.Generation.PlainNames
import QueryShape.Proofs.Generation.Recorded
import QueryShape.Proofs.Validation.Sent

/-!
# Generating from what is sent

The text that an operation sends is a document again, and generating from it gives what generating
from the first document gave. Generation passes over the type names that the text asks for in
addition, and they do not make a valid document invalid.

* `select_sent`: what is sent selects the same.
* `generateOperation_sent`: and an operation that is sent has the same classes.
* `regenerate`: the classes of the text that is sent are those of the document, record by record.
-/

namespace QueryShape.Generation

open Document Record Schema Session Validation

/-! ## Selections that are sent -/

/-- A field that is met, as it is sent. -/
def Site.sent (x : Site) : Site :=
  { x with fragments := x.fragments.map sentFragment, selections := sentUnder x.selections }

theorem fragmentNamed?_sent (fragments : List Fragment) (name : String) :
    fragmentNamed? (fragments.map sentFragment) name =
      (fragmentNamed? fragments name).map sentFragment := find?_sentFragment fragments name

theorem otherFragments_sent (fragments : List Fragment) (name : String) :
    otherFragments (fragments.map sentFragment) name =
      (otherFragments fragments name).map sentFragment := List.filter_map

theorem fieldSites_addTypenames (fragments : List Fragment) (p : Place)
    (selections : List Selection) :
    fieldSites (fragments.map sentFragment) p (addTypenames selections) =
      (fieldSites fragments p selections).map (·.map Site.sent) := by
  unfold fieldSites
  rw [addTypenames_eq_map, List.filterMap_map, List.map_filterMap]
  refine List.filterMap_congr fun a _ => ?_
  cases a with
  | field f inner =>
    rw [Function.comp_apply, addTypename_field]
    dsimp only
    split <;> rfl
  | spread => rfl
  | inline => rfl

theorem survey_missingTypename (s : Schema) (fragments : List Fragment) (p : Place)
    (selections : List Selection) :
    fieldSites fragments p (missingTypename selections) = [] ∧
      surveyFragments s fragments p (missingTypename selections) = [] := by
  unfold missingTypename
  split
  · exact ⟨rfl, by rw [surveyFragments]⟩
  · exact ⟨rfl, by rw [typenameSelection, surveyFragments, surveyFragments]⟩

theorem fieldSites_append (fragments : List Fragment) (p : Place)
    (first rest : List Selection) : fieldSites fragments p (first ++ rest) =
      fieldSites fragments p first ++ fieldSites fragments p rest := List.filterMap_append

theorem surveyFragments_append (s : Schema) (fragments : List Fragment) (p : Place)
    (first rest : List Selection) : surveyFragments s fragments p (first ++ rest) =
      surveyFragments s fragments p first ++ surveyFragments s fragments p rest := by
  induction first with
  | nil => rw [List.nil_append, surveyFragments, List.nil_append]
  | cons a first ih =>
    rw [List.cons_append, surveyFragments_cons, ih, surveyFragments_cons _ _ _ first,
      List.append_assoc]

theorem surveyFragments_addTypenames (s : Schema) (fragments : List Fragment) (p : Place)
    (selections : List Selection) :
    surveyFragments s (fragments.map sentFragment) p (addTypenames selections) =
      (surveyFragments s fragments p selections).map (·.map Site.sent) := by
  induction fragments, p, selections using surveyFragments.induct with
  | case1 => rw [addTypenames, surveyFragments, surveyFragments, List.map_nil]
  | case2 fragments p f inner rest ih =>
    rw [addTypenames, addTypename_field, surveyFragments, surveyFragments, ih]
  | case3 fragments p condition? directives inner rest ihInner ih =>
    rw [addTypenames, Selection.addTypename, surveyFragments_inline, surveyFragments_inline, ih,
      List.map_append]
    cases inlinePlace s p condition? directives with
    | error e => rfl
    | ok q =>
      dsimp only
      rw [survey, survey, List.map_append, ihInner q, fieldSites_addTypenames]
  | case4 fragments p name directives rest ihInner ih =>
    have sent := fragmentNamed?_sent fragments name
    rw [addTypenames, Selection.addTypename]
    obtain unknown | ⟨f, named⟩ := Option.eq_none_or_eq_some (fragmentNamed? fragments name)
    · rw [unknown] at sent
      rw [surveyFragments_unknown unknown, surveyFragments_unknown sent, ih]
      rfl
    · rw [named] at sent
      rw [surveyFragments_spread named, surveyFragments_spread sent, ih, List.map_append,
        otherFragments_sent]
      have place : spreadPlace s p (sentFragment f) directives = spreadPlace s p f directives := rfl
      rw [place]
      cases spreadPlace s p f directives with
      | error e => rfl
      | ok q =>
        dsimp only
        rw [survey, survey, List.map_append, sentFragment, ihInner f named q,
          fieldSites_addTypenames]

/-- The fields that selections select are met when they are sent. -/
theorem survey_addTypenames (s : Schema) (fragments : List Fragment) (p : Place)
    (selections : List Selection) :
    survey s (fragments.map sentFragment) p (addTypenames selections) =
      (survey s fragments p selections).map (·.map Site.sent) := by
  rw [survey, survey, fieldSites_addTypenames, surveyFragments_addTypenames, List.map_append]

/-- The type name that is added under a field is passed over. -/
theorem survey_sentUnder (s : Schema) (fragments : List Fragment) (p : Place)
    (selections : List Selection) :
    survey s (fragments.map sentFragment) p (sentUnder selections) =
      (survey s fragments p selections).map (·.map Site.sent) := by
  rw [← survey_addTypenames]
  by_cases none : selections = []
  · rw [none, sentUnder_nil, addTypenames]
  · have added := survey_missingTypename s (fragments.map sentFragment) p selections
    rw [sentUnder_eq none, survey, survey, fieldSites_append, surveyFragments_append, added.1,
      added.2, List.append_nil, List.append_nil]

variable {g : Setting}

theorem foldlM_congr {f f' : β → α → Plan β} {items : List α}
    (same : ∀ a ∈ items, ∀ b, f b a = f' b a) (b : β) : items.foldlM f b = items.foldlM f' b := by
  induction items generalizing b with
  | nil => rfl
  | cons a rest ih =>
    obtain ⟨here, others⟩ := List.forall_mem_cons.mp same
    rw [List.foldlM_cons, List.foldlM_cons, here]
    exact congrArg _ (funext fun b => ih others b)

/-- **What is sent selects the same**, under a field or not. -/
theorem select_sent (fragments : List Fragment) (selections : List Selection) (p : Place)
    (members : Members) :
    select g (fragments.map sentFragment) p (addTypenames selections) members =
        select g fragments p selections members ∧
      select g (fragments.map sentFragment) p (sentUnder selections) members =
        select g fragments p selections members := by
  induction fragments, selections using survey_induction generalizing p members with
  | step fragments selections ih =>
    have each : ∀ a ∈ survey g.schema fragments p selections, ∀ members,
        addSite g members (a.map Site.sent) = addSite g members a := by
      intro a ha members
      cases a with
      | error e => rfl
      | ok x =>
        have below (q : Place) := (ih g.schema p x ha q {}).2
        have converts (d : FieldDefinition) :
            fieldConversion g (x.fragments.map sentFragment) x.place x.field d
                (sentUnder x.selections) =
              fieldConversion g x.fragments x.place x.field d x.selections := by
          rw [fieldConversion, fieldConversion, isEmpty_sentUnder]
          simp only [below]
        change addSite g members (.ok x.sent) = addSite g members (.ok x)
        simp only [addSite, Site.sent, converts]
    have all : ((survey g.schema fragments p selections).map (·.map Site.sent)).foldlM (addSite g)
        members = (survey g.schema fragments p selections).foldlM (addSite g) members := by
      rw [List.foldlM_map]
      exact foldlM_congr each members
    rw [select_eq_foldlM, select_eq_foldlM, select_eq_foldlM, survey_addTypenames,
      survey_sentUnder]
    exact ⟨all, all⟩

/-! ## Operations that are sent -/

/-- **An operation that is sent has the same classes.** -/
theorem generateOperation_sent (fragments : List Fragment) (queryText name : String)
    (o : Operation) :
    generateOperation g (fragments.map sentFragment) queryText name (sentOperation o) =
      generateOperation g fragments queryText name o := by
  have selected (p : Place) : select g (fragments.map sentFragment) p (addTypenames o.selections)
      {} = select g fragments p o.selections {} := (select_sent fragments o.selections p {}).1
  unfold generateOperation
  simp only [sentOperation, selected]
  rfl

theorem mapM_map_of_mapM {ε α β γ δ : Type} {items : List α} {results : List β}
    {f : α → Except ε β} {f' : γ → Except ε δ} {change : α → γ} {changed : β → δ}
    (h : items.mapM f = .ok results)
    (each : ∀ a b, f a = .ok b → f' (change a) = .ok (changed b)) :
    (items.map change).mapM f' = .ok (results.map changed) := by
  induction items generalizing results with
  | nil =>
    rw [List.mapM_nil] at h
    cases h
    rfl
  | cons a rest ih =>
    rw [List.mapM_cons] at h
    obtain ⟨b, one, h⟩ := except_bind_eq_ok_iff.mp h
    obtain ⟨others, all, h⟩ := except_bind_eq_ok_iff.mp h
    cases h
    rw [List.map_cons, List.mapM_cons, each a b one, ih all]
    rfl

/-- The operations of what is sent have the same names. -/
theorem namedOperations_addTypename {document : Document} {named : List (String × Operation)}
    (h : namedOperations document = .ok named) :
    namedOperations (addTypename document) =
      .ok (named.map fun x => (x.1, sentOperation x.2)) := by
  unfold namedOperations at *
  rw [operations_addTypename]
  refine mapM_map_of_mapM h fun o x one => ?_
  unfold sentOperation
  dsimp only
  split at one
  · next name isNamed =>
    split at one
    · next isName =>
      cases one
      rw [isNamed]
      exact if_pos isName
    · cases one
  · cases one

/-! ## Documents that are accepted -/

variable {g : Generator} {d : Declaration} {document : Document} {q : Request}

/-- A document that is asked for has been checked. -/
theorem validate_of_asks (checks : g.validates = true) (asked : g.asks d = .ok q)
    (read : readDocument (g.hooks.runBefore d) = .ok document) :
    g.schema.validate document = .complaints [] := by
  unfold Generator.asks Generator.request at asked
  obtain ⟨document', read', asked⟩ := except_bind_eq_ok_iff.mp asked
  obtain ⟨named, -, asked⟩ := except_bind_eq_ok_iff.mp asked
  cases read.symm.trans read'
  rw [if_pos checks] at asked
  obtain ⟨done, checked, -⟩ := except_bind_eq_ok_iff.mp asked
  unfold checkDocument at checked
  split at checked
  · cases checked
  · cases checked
  · assumption
  · cases checked

/-- A document that is generated from has plain type names. -/
theorem plainDocument_of_succeeds (valid : IsValid ⟨g.schema, document⟩)
    (read : readDocument (g.hooks.runBefore d) = .ok document) (accepted : Succeeds {} g d) :
    PlainDocument document := by
  obtain ⟨q, asked, classes⟩ := hasOperations_of_succeeds (sound_empty _) accepted
  obtain ⟨document', named, read', names, rfl⟩ := exists_document_of_asks asked
  cases read.symm.trans read'
  refine plainDocument_of_crossed (g := g.toSetting) valid fun o ho => ?_
  have same : named.map Prod.snd = (operations document).map id := by
    refine map_eq_of_mapM names fun o x one => ?_
    split at one
    · split at one
      · exact (Except.ok.inj one) ▸ rfl
      · cases one
    · cases one
  rw [List.map_id] at same
  obtain ⟨x, mem, rfl⟩ := List.mem_map.mp (same ▸ ho)
  obtain ⟨root, members, r, isClass, -, -⟩ := classes x.1 x.2 mem
  exact crossed_of_isClassOf valid ho isClass

/-- The classes of operations send the text of their document. -/
theorem queryText_of_succeeds (asked : g.asks d = .ok q) {r : Root}
    (mem : .root r ∈ ((g.generate d).outcome {}).2.registry.records) :
    r.queryText = q.queryText := by
  have closed : Closed fun x => ∀ r, x = .root r → r.queryText = q.queryText :=
    ⟨nofun, nofun, nofun⟩
  have each : ∀ x, Classes g d x → ∀ r, x = .root r → r.queryText = q.queryText := by
    rintro x ⟨q', name, o, asked', -, classOf⟩ r rfl
    cases asked.symm.trans asked'
    cases classOf with
    | root isClass => exact isClass.queryText_eq
  exact (leads_generate closed (sound_empty _) g d each).sound.records _ mem r rfl

/-! ## Generating again -/

theorem runBefore_eq (unhooked : g.hooks.before = []) (d : Declaration) :
    g.hooks.runBefore d = d := by
  unfold Hooks.runBefore
  rw [unhooked]
  rfl

/-- What is asked for, as it is sent. -/
def Request.sent (q : Request) : Request where
  operations := q.operations.map fun x => (x.1, sentOperation x.2)
  fragments := q.fragments.map sentFragment
  queryText := q.queryText

/-- What is asked for by the text that is sent. -/
theorem asks_sent (made : IsMade g.schema) (checks : g.validates = true)
    (unhooked : g.hooks.before = []) (read : Document.read d.text = .ok document)
    (undone : Document.read (Document.print (addTypename document)) = .ok (addTypename document))
    (asked : g.asks d = .ok q) (accepted : Succeeds {} g d) (source : String) :
    g.asks { text := q.queryText, source } = .ok q.sent := by
  have isDocument : readDocument (g.hooks.runBefore d) = .ok document := by
    rw [runBefore_eq unhooked, readDocument, read]
  have valid := validate_of_asks checks asked isDocument
  have plain := plainDocument_of_succeeds (isValid_of_validate made valid) isDocument accepted
  obtain ⟨document', named, read', names, rfl⟩ := exists_document_of_asks asked
  cases isDocument.symm.trans read'
  have isSent : readDocument (g.hooks.runBefore
      { text := Document.print (addTypename document), source }) = .ok (addTypename document) := by
    rw [runBefore_eq unhooked, readDocument, undone]
  rw [asks_of_valid isSent (namedOperations_addTypename names)
    (validate_addTypename made plain valid), addTypename_addTypename, fragments_addTypename,
    Request.sent]

/-- **Generating from what is sent leads to the same session**, reports apart. -/
theorem alike_sent (asked : g.asks d = .ok q) {d' : Declaration}
    (again : g.asks d' = .ok q.sent) {s : Session}
    (accepted : (g.generate d).outcome {} = (.ok (), s)) :
    ∃ s', (g.generate d').outcome {} = (.ok (), s') ∧ s.Alike q.queryText q.queryText s' := by
  rw [outcome_generate asked] at accepted
  rw [outcome_generate again, Request.sent, List.forM_eq_forM, List.forM_map]
  simp only [generateOperation_sent]
  -- The two sources are reported before, and that is all that the sessions differ in.
  let each (x : String × Operation) : Run Unit :=
    generateOperation g.toSetting q.fragments q.queryText x.1 x.2
  have all : (q.operations.forM each).Alike q.queryText q.queryText (q.operations.forM each) :=
    alike_forM (List.forall₂_same.mpr fun x _ => alike_generateOperation _ _ _ x.1 x.2)
  let start : Session := { events := [.document (g.hooks.runBefore d).source] }
  obtain ⟨ends, alike⟩ := all _ _ (.refl _ _ start [.document (g.hooks.runBefore d').source])
  have accepted : (q.operations.forM each).outcome start = (.ok (), s) := accepted
  rw [accepted] at ends alike
  refine ⟨_, ?_, alike⟩
  exact Prod.ext ends rfl

/-- **A generator that checks documents and has no hooks on them, and that accepts a document, sends
the document with type names, accepts what it sends and registers the same classes for it.** To ask
for type names twice is to ask for them once, and it changes nothing but the selection sets that
belong to a field and do not ask for the type name themselves. The text that is sent has to be read
as the document that it was printed from. -/
theorem regenerate (made : IsMade g.schema) (checks : g.validates = true)
    (unhooked : g.hooks.before = []) (read : Document.read d.text = .ok document)
    (undone : Document.read (Document.print (addTypename document)) = .ok (addTypename document))
    {s : Session} (accepted : (g.generate d).outcome {} = (.ok (), s)) :
    (∀ r, .root r ∈ s.registry.records →
      r.queryText = Document.print (addTypename document)) ∧
    (∀ source, ∃ s', (g.generate { text := Document.print (addTypename document), source }).outcome
      {} = (.ok (), s') ∧ s'.registry = s.registry ∧ s'.imports = s.imports) ∧
    ∀ document, addTypename (addTypename document) = addTypename document ∧
      Appends document (addTypename document) := by
  have succeeds : Succeeds {} g d := by rw [Succeeds, accepted]
  obtain ⟨q, asked, -⟩ := hasOperations_of_succeeds (sound_empty _) succeeds
  have sent : q.queryText = Document.print (addTypename document) := by
    obtain ⟨document', named, read', -, rfl⟩ := exists_document_of_asks asked
    rw [runBefore_eq unhooked, readDocument, read] at read'
    cases read'
    rfl
  refine ⟨fun r mem => ?_, fun source => ?_, fun document =>
    ⟨addTypename_addTypename document, appends_addTypename document⟩⟩
  · rw [← sent, queryText_of_succeeds asked (r := r) (by rw [accepted]; exact mem)]
  · have again := asks_sent made checks unhooked read undone asked succeeds source
    obtain ⟨s', ends, same⟩ := alike_sent asked again accepted
    rw [sent] at ends
    exact ⟨s', ends, same.registry_eq, same.imports⟩

/-- The text that is sent for the document, which does not ask for the type name itself. -/
def mixedText : String :=
  "query Qa \x7b\n  u \x7b\n    ...F\n    ... on U \x7b\n      b\n    \x7d\n    __typename\n" ++
    "  \x7d\n\x7d\n\nfragment F on U \x7b\n  a\n\x7d"

theorem read_mixed : Document.read mixed.text = .ok mixedDocument := by cbv

theorem asks_mixed : ∃ text, definedGenerator.asks mixed = .ok
    { operations := [("Qa", mixedOperation)], fragments := fragments mixedDocument
      queryText := text } := by
  have read : readDocument (definedGenerator.hooks.runBefore mixed) = .ok mixedDocument := by
    rw [runBefore_eq rfl, readDocument, read_mixed]
  have names : namedOperations mixedDocument = .ok [("Qa", mixedOperation)] := by cbv
  exact ⟨_, asks_of_valid read names validate_mixed⟩

theorem generate_mixed : ∃ s, (definedGenerator.generate mixed).outcome {} = (.ok (), s) ∧
    "Qa" ∈ s.registry.records.map name := by
  obtain ⟨text, asked⟩ := asks_mixed
  have accepted : Succeeds {} definedGenerator mixed := by
    unfold Succeeds
    rw [outcome_generate asked]
    cbv
  have recorded : (((definedGenerator.generate mixed).outcome {}).2.registry.records.map
      name).contains "Qa" = true := by
    rw [outcome_generate asked]
    cbv
  exact ⟨_, outcome_eq_of_succeeds accepted, List.contains_iff_mem.mp recorded⟩

/-- The text is sent, and generating from it gives the same. -/
theorem regenerate_mixed : IsMade defined ∧ Document.read mixed.text = .ok mixedDocument ∧
    Document.print (addTypename mixedDocument) = mixedText ∧
    Document.read (Document.print (addTypename mixedDocument)) = .ok (addTypename mixedDocument) ∧
    ∃ s, (definedGenerator.generate mixed).outcome {} = (.ok (), s) ∧
      "Qa" ∈ s.registry.records.map name ∧
      (∀ r, .root r ∈ s.registry.records →
        r.queryText = Document.print (addTypename mixedDocument)) ∧
      (∀ source, ∃ s', (definedGenerator.generate
        { text := Document.print (addTypename mixedDocument), source }).outcome {} = (.ok (), s') ∧
        s'.registry = s.registry ∧ s'.imports = s.imports) ∧
      ∀ document, addTypename (addTypename document) = addTypename document ∧
        Appends document (addTypename document) := by
  have made : IsMade defined := Or.inl ⟨_, ofDocument_definitions⟩
  have printed : Document.print (addTypename mixedDocument) = mixedText := by decide +kernel
  have undone : Document.read (Document.print (addTypename mixedDocument)) =
      .ok (addTypename mixedDocument) := by
    rw [printed]
    cbv
  obtain ⟨s, accepted, recorded⟩ := generate_mixed
  exact ⟨made, read_mixed, printed, undone, s, accepted, recorded,
    regenerate made rfl rfl read_mixed undone accepted⟩

end QueryShape.Generation
