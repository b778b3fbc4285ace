import QueryShape.Proofs.Generation.PerType
import QueryShape.Proofs.Generation.Valid
import QueryShape.Proofs.Validation.Conflicts

/-!
# Type names in documents that are generated from

Generation has no accessor for the response key of type names, so a document that it succeeds for
has plain type names only under that key. It comes upon every field of the document, since every
fragment of a valid document is spread somewhere, and is gone into wherever it is spread.

* `Crossed`: generation goes through the selections.
* `Crossed.field`, `Crossed.inline`, `Crossed.spread`: from there it goes on into each of them.
* `plainDocument_of_crossed`: what it says of all operations and fragments.
-/

namespace QueryShape.Generation

open Document Record Schema Validation

/-! ## Selections that generation goes through -/

/-- All fields that are selected are read. -/
def ReadAll (g : Setting) (fragments : List Fragment) (p : Place) (selections : List Selection) :
    Prop :=
  ∀ a ∈ survey g.schema fragments p selections, ∃ x r, a = .ok x ∧
    readingOf g x.place x.field = .ok r ∧
    (x.conversion g r.definition).result = .ok r.conversion

theorem readAll_of_select {g : Setting} {fragments : List Fragment} {p : Place}
    {selections : List Selection} {before members : Members}
    (h : (select g fragments p selections before).result = .ok members) :
    ReadAll g fragments p selections := fun a ha =>
  have ⟨x, r, eq, reads, converts, _⟩ := (gathered_of_select h).read a ha
  ⟨x, r, eq, reads, converts⟩

/-- Generation goes through the selections of a valid document, at some place and with some of its
fragments. -/
def Crossed (g : Setting) (document : Document) (selections : List Selection) : Prop :=
  ∃ scope p fragments, Clean ⟨g.schema, document⟩ scope selections ∧
    Tracks g.schema scope p.owner ∧ Known fragments (Document.fragments document) ∧
    ReadAll g fragments p selections

variable {g : Setting} {document : Document} {selections inner : List Selection}

/-- The type name has neither arguments nor members to select. -/
theorem nil_of_isPlainTypename (valid : IsValid ⟨g.schema, document⟩) {f : Field}
    {owner d t scope} (good : GoodField ⟨g.schema, document⟩ owner f inner d t scope)
    (plain : f.isPlainTypename = true) :
    f.name = typenameField ∧ f.arguments = [] ∧ inner = [] := by
  unfold Field.isPlainTypename at plain
  simp only [Bool.and_eq_true, beq_iff_eq] at plain
  have name := plain.2
  have isField : d = typenameFieldDefinition := by
    have defined := good.defined
    rw [name] at defined
    exact (Except.ok.inj defined).symm
  subst isField
  have string : t = scalarType "String" := by
    have found := (type?_of_typeNamed good.named).1
    exact Option.some.inj (found.symm.trans (valid.made.type?_eq List.mem_cons_self))
  refine ⟨name, List.eq_nil_iff_forall_not_mem.mpr fun a ha => ?_, good.leaf (string ▸ rfl)⟩
  obtain ⟨v, hv, -⟩ := good.arguments a ha
  exact absurd hv List.not_mem_nil

/-- A field is the type name, or has another response key and is gone into. -/
theorem Crossed.field (valid : IsValid ⟨g.schema, document⟩)
    (crossed : Crossed g document selections) {f : Field} (mem : .field f inner ∈ selections) :
    (f.responseKey = typenameField → f.name = typenameField ∧ f.arguments = [] ∧ inner = []) ∧
      (inner = [] ∨ Crossed g document inner) := by
  obtain ⟨scope, p, fragments, clean, tracks, known, reads⟩ := crossed
  obtain ⟨d, t, scope', good⟩ := exists_field valid clean tracks mem
  by_cases plain : f.isPlainTypename = true
  · have nil := nil_of_isPlainTypename valid good plain
    exact ⟨fun _ => nil, Or.inl nil.2.2⟩
  · have isSite : .ok ⟨fragments, p, f, inner⟩ ∈ survey g.schema fragments p selections :=
      List.mem_append_left _ (mem_fieldSites.mpr ⟨rfl, rfl, by simpa using plain, mem⟩)
    obtain ⟨x, r, eq, reading, converts⟩ := reads _ isSite
    cases eq
    refine ⟨fun key => absurd key (responseKey_ne_typenameField reading), ?_⟩
    by_cases composite : t.kind.isComposite = true
    · have defined : d = r.definition :=
        Except.ok.inj (good.defined.symm.trans (readingOf_eq_ok_iff.mp reading).2.1)
      subst defined
      obtain ⟨members, ok, -, -⟩ := leaf_mem_steps converts good.named composite
      exact Or.inr ⟨scope', _, fragments, good.clean, (good.selected composite).2, known,
        readAll_of_select ok⟩
    · have output := good.output
      exact Or.inl (good.leaf (by
        cases kind : t.kind <;> simp_all [Kind.isComposite, Kind.isLeaf, Kind.isOutput]))

/-- An inline fragment is gone into. -/
theorem Crossed.inline (valid : IsValid ⟨g.schema, document⟩)
    (crossed : Crossed g document selections) {condition? : Option String}
    {directives : List Directive} (mem : .inline condition? directives inner ∈ selections) :
    Crossed g document inner := by
  obtain ⟨scope, p, fragments, clean, tracks, known, reads⟩ := crossed
  obtain ⟨q, scope', place, within, below⟩ := exists_inline valid clean tracks mem
  refine ⟨scope', q, fragments, below, within, known, fun a ha => reads a ?_⟩
  refine surveyFragments_subset g.schema fragments p mem ?_
  rw [surveyFragments_inline, place]
  exact List.mem_append_left _ ha

/-- A fragment that is spread is gone into. -/
theorem Crossed.spread (valid : IsValid ⟨g.schema, document⟩)
    (crossed : Crossed g document selections) {name : String} {directives : List Directive}
    (mem : .spread name directives ∈ selections) :
    ∃ f, (⟨g.schema, document⟩ : Context).fragment? name = some f ∧
      Crossed g document f.selections := by
  obtain ⟨scope, p, fragments, clean, tracks, known, reads⟩ := crossed
  obtain ⟨f, q, scope', isFragment, place, within, below⟩ := exists_spread valid clean p mem
  have surveyed := surveyFragments_subset g.schema fragments p mem
  refine ⟨f, isFragment, scope', q, otherFragments fragments name, below, within,
    (known_otherFragments fragments name).trans known, fun a ha => reads a (surveyed ?_)⟩
  obtain unknown | ⟨f', named⟩ := Option.eq_none_or_eq_some (fragmentNamed? fragments name)
  · rw [surveyFragments_unknown unknown] at surveyed
    obtain ⟨x, r, eq, -⟩ := reads _ (surveyed List.mem_cons_self)
    cases eq
  · have same : f' = f := Option.some.inj ((known name f' named).symm.trans isFragment)
    subst same
    rw [surveyFragments_spread named, place]
    exact List.mem_append_left _ ha

/-! ## What it says of them -/

mutual

theorem plainName_of_crossed (valid : IsValid ⟨g.schema, document⟩) {selections : List Selection}
    (crossed : Crossed g document selections) {a : Selection} (mem : a ∈ selections) :
    PlainName a := by
  cases a with
  | field f inner =>
    obtain ⟨isName, none | below⟩ := crossed.field valid mem
    · rw [PlainName, none, PlainNames]
      exact ⟨fun key => ⟨(isName key).1, (isName key).2.1, rfl⟩, trivial⟩
    · rw [PlainName]
      exact ⟨isName, plainNames_of_subset valid below (List.Subset.refl inner)⟩
  | spread =>
    rw [PlainName]
    trivial
  | inline condition? directives inner =>
    rw [PlainName]
    exact plainNames_of_subset valid (crossed.inline valid mem) (List.Subset.refl inner)

theorem plainNames_of_subset (valid : IsValid ⟨g.schema, document⟩) {selections : List Selection}
    (crossed : Crossed g document selections) {some : List Selection} (sub : some ⊆ selections) :
    PlainNames some := by
  cases some with
  | nil =>
    rw [PlainNames]
    trivial
  | cons first rest =>
    obtain ⟨here, others⟩ := List.cons_subset.mp sub
    rw [PlainNames]
    exact ⟨plainName_of_crossed valid crossed here, plainNames_of_subset valid crossed others⟩

end

/-- The fragment is gone through. -/
def CrossedFragment (g : Setting) (document : Document) (name : String) : Prop :=
  ∃ f, (⟨g.schema, document⟩ : Context).fragment? name = some f ∧ Crossed g document f.selections

theorem crossedFragment_of_spread (valid : IsValid ⟨g.schema, document⟩)
    (crossed : Crossed g document selections) {name : String}
    (isSpread : name ∈ selections.filterMap spreadOf?) : CrossedFragment g document name := by
  obtain ⟨a, mem, eq⟩ := List.mem_filterMap.mp isSpread
  cases a with
  | spread fragment directives =>
    cases eq
    exact crossed.spread valid mem
  | field => cases eq
  | inline => cases eq

mutual

theorem crossedFragment_of_mem_spreadsInside (valid : IsValid ⟨g.schema, document⟩)
    {selections : List Selection} (crossed : Crossed g document selections) {a : Selection}
    (mem : a ∈ selections) {name : String} (isSpread : name ∈ spreadsInside a) :
    CrossedFragment g document name := by
  cases a with
  | field f inner =>
    rw [spreadsInside, spreads, List.mem_append] at isSpread
    obtain ⟨-, none | below⟩ := crossed.field valid mem
    · rw [none, spreadsOfRest, List.filterMap_nil, or_self] at isSpread
      exact absurd isSpread List.not_mem_nil
    · exact isSpread.elim (crossedFragment_of_spread valid below)
        (crossedFragment_of_mem_spreadsOfRest valid below (List.Subset.refl inner))
  | spread =>
    rw [spreadsInside] at isSpread
    exact absurd isSpread List.not_mem_nil
  | inline condition? directives inner =>
    have below := crossed.inline valid mem
    rw [spreadsInside, spreads, List.mem_append] at isSpread
    exact isSpread.elim (crossedFragment_of_spread valid below)
      (crossedFragment_of_mem_spreadsOfRest valid below (List.Subset.refl inner))

theorem crossedFragment_of_mem_spreadsOfRest (valid : IsValid ⟨g.schema, document⟩)
    {selections : List Selection} (crossed : Crossed g document selections) {some : List Selection}
    (sub : some ⊆ selections) {name : String} (isSpread : name ∈ spreadsOfRest some) :
    CrossedFragment g document name := by
  cases some with
  | nil =>
    rw [spreadsOfRest] at isSpread
    exact absurd isSpread List.not_mem_nil
  | cons first rest =>
    obtain ⟨here, others⟩ := List.cons_subset.mp sub
    rw [spreadsOfRest, List.mem_append] at isSpread
    exact isSpread.elim (crossedFragment_of_mem_spreadsOfRest valid crossed others)
      (crossedFragment_of_mem_spreadsInside valid crossed here)

end

/-- What is spread inside selections that are gone through is gone through. -/
theorem crossedFragment_of_mem_spreads (valid : IsValid ⟨g.schema, document⟩)
    (crossed : Crossed g document selections) {name : String}
    (isSpread : name ∈ spreads selections) : CrossedFragment g document name := by
  rw [spreads, List.mem_append] at isSpread
  exact isSpread.elim (crossedFragment_of_spread valid crossed)
    (crossedFragment_of_mem_spreadsOfRest valid crossed (List.Subset.refl selections))

/-- What is reached from selections that are gone through is gone through. -/
theorem crossedFragment_of_mem_reachedFrom (valid : IsValid ⟨g.schema, document⟩) (limit : Nat)
    (seen : List String) (pending : List (List Selection))
    (crossed : ∀ selections ∈ pending, Crossed g document selections) {f : Fragment}
    (mem : f ∈ reachedFrom ⟨g.schema, document⟩ limit seen pending) :
    CrossedFragment g document f.name := by
  induction limit generalizing seen pending with
  | zero =>
    rw [reachedFrom] at mem
    exact absurd mem List.not_mem_nil
  | succ limit ih =>
    cases pending with
    | nil => exact absurd mem List.not_mem_nil
    | cons selections pending =>
      obtain ⟨here, others⟩ := List.forall_mem_cons.mp crossed
      rw [reachedFrom] at mem
      have found : ∀ f ∈ (((spreads selections).eraseDups).filter (!seen.contains ·)).filterMap
          (⟨g.schema, document⟩ : Context).fragment?,
          CrossedFragment g document f.name ∧ Crossed g document f.selections := by
        intro f hf
        obtain ⟨name, hn, known⟩ := List.mem_filterMap.mp hf
        have isSpread := List.mem_eraseDups.mp (List.mem_filter.mp hn).1
        obtain ⟨f', known', below⟩ := crossedFragment_of_mem_spreads valid here isSpread
        cases known.symm.trans known'
        exact ⟨(name_of_fragment? known).2 ▸ ⟨f, known, below⟩, below⟩
      rcases List.mem_append.mp mem with mem | mem
      · exact (found f mem).1
      · refine ih _ _ (fun selections hs => ?_) mem
        rcases List.mem_append.mp hs with hs | hs
        · obtain ⟨f', hf', rfl⟩ := List.mem_map.mp (List.mem_reverse.mp hs)
          exact (found f' hf').2
        · exact others selections hs

/-! ## Documents -/

/-- The selections of the operations are gone through. -/
def CrossedOperations (g : Setting) (document : Document) : Prop :=
  ∀ o ∈ operations document, Crossed g document o.selections

/-- Every fragment of a valid document is gone through. -/
theorem crossed_of_mem_fragments (valid : IsValid ⟨g.schema, document⟩)
    (crossed : CrossedOperations g document) {f : Fragment} (mem : f ∈ fragments document) :
    Crossed g document f.selections := by
  have isEnd : (⟨{}, .documentEnd⟩ : Visit) ∈ visits g.schema document :=
    List.mem_cons_of_mem _ (List.mem_append_right _ (List.mem_singleton.mpr rfl))
  have here := valid.passes _ isEnd noUnusedFragments (by simp [rulesBeforeOverlap])
  have used := List.filterMap_eq_nil_iff.mp here f mem
  split at used
  · next isUsed =>
    obtain ⟨o, ho, reached⟩ := List.mem_flatMap.mp (List.contains_iff_mem.mp isUsed)
    obtain ⟨f', hf', same⟩ := List.mem_map.mp reached
    obtain ⟨f'', known, below⟩ := crossedFragment_of_mem_reachedFrom valid _ [] [o.selections]
      (by simpa using crossed o ho) hf'
    have isIt := fragment?_of_mem valid.passes mem
    rw [← same] at isIt
    cases isIt.symm.trans known
    exact below
  · cases used

/-- **Generation succeeds for plain type names only.** -/
theorem plainDocument_of_crossed (valid : IsValid ⟨g.schema, document⟩)
    (crossed : CrossedOperations g document) : PlainDocument document where
  operations _ ho := plainNames_of_subset valid (crossed _ ho) (List.Subset.refl _)
  fragments _ hf :=
    plainNames_of_subset valid (crossed_of_mem_fragments valid crossed hf) (List.Subset.refl _)

/-- The selections of an operation that has its class are gone through. -/
theorem crossed_of_isClassOf (valid : IsValid ⟨g.schema, document⟩) {queryText name : String}
    {o : Operation} (mem : o ∈ operations document) {root : TypeDefinition} {members : Members}
    {r : Root} (h : IsClassOf g (fragments document) queryText name o root members r) :
    Crossed g document o.selections := by
  rcases rootType_cases valid.sound o with ⟨missing, -⟩ | ⟨root', rooted, tracks⟩
  · cases missing.symm.trans h.rooted
  · cases rooted.symm.trans h.rooted
    obtain ⟨index, passes⟩ := passes_operation valid mem
    unfold operationVisits operationBodyVisits at passes
    refine ⟨_, operationPlace name root, fragments document, clean_of_visits [index]
      fun v hv => passes v ?_, tracks, .refl _, readAll_of_select h.selected⟩
    simp only [List.mem_cons, List.mem_append]
    exact Or.inr (Or.inl (Or.inr (Or.inr hv)))

end QueryShape.Generation
