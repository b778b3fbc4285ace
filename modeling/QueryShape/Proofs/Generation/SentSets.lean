import QueryShape.Proofs.Generation.Regenerate
import QueryShape.Proofs.Generation.Sent

/-!
# The selection sets that are sent

The text that an operation sends has the selection sets of its document: that of an operation with
nothing added, and one under a field with the type name last, unless it asks for that itself.

* `openedBy_sent`: the selection sets that are sent, class by class.
* `asksAlways_sentUnder`: one under a field asks for the type name, and no directive may leave that
  out, unless the document asks for it only where a directive may.
* `isSome_typename_of_answers`: what asks in this way has the type name in every answer.
-/

namespace QueryShape.Generation

open Document Record

/-! ## The document that is sent -/

/-- **The text of what is asked for is the document of what is sent.** -/
theorem text_of_asks {g : Generator} {d : Declaration} {q : Request} (h : g.asks d = .ok q) :
    ∃ document, q.queryText = print document ∧
      namedOperations document = .ok q.sent.operations ∧
      Document.fragments document = q.sent.fragments := by
  obtain ⟨document, named, -, eq, rfl⟩ := exists_document_of_asks h
  exact ⟨addTypename document, rfl, namedOperations_addTypename eq,
    fragments_addTypename document⟩

variable {s : Schema} {fragments : List Fragment} {p q : Place} {f : Field}
  {selections inner : List Selection}

/-! ## What is selected -/

/-- What selections select, they select as they are sent. -/
theorem Selects.sent (h : Selects s fragments p selections q f inner) :
    Selects s (fragments.map sentFragment) p (addTypenames selections) q f (sentUnder inner) := by
  induction h with
  | field mem asks =>
    have sent := mem_addTypenames mem
    rw [addTypename_field] at sent
    exact .field sent asks
  | inline mem place _ ih =>
    have sent := mem_addTypenames mem
    unfold Selection.addTypename at sent
    exact .inline sent place ih
  | @spread _ _ _ _ _ _ name _ fragment mem named place _ ih =>
    have sent := mem_addTypenames mem
    unfold Selection.addTypename at sent
    have named' : fragmentNamed? (fragments.map sentFragment) name =
        some (sentFragment fragment) := by
      rw [fragmentNamed?_sent, named]
      rfl
    exact .spread sent named' place ih

/-- What is selected by selections that are sent, the selections select. -/
theorem exists_of_selects_sent {sent under : List Selection}
    (h : Selects s (fragments.map sentFragment) p sent q f under)
    (isSent : sent = addTypenames selections) :
    ∃ inner, under = sentUnder inner ∧ Selects s fragments p selections q f inner := by
  induction h generalizing selections with
  | field mem asks =>
    obtain ⟨inner, mem, eq⟩ := field_of_mem_addTypenames (isSent ▸ mem)
    exact ⟨inner, eq, .field mem asks⟩
  | inline mem place _ ih =>
    obtain ⟨under, mem, eq⟩ := inline_of_mem_addTypenames (isSent ▸ mem)
    obtain ⟨inner, eq', selected⟩ := ih eq
    exact ⟨inner, eq', .inline mem place selected⟩
  | spread mem named place _ ih =>
    have mem := spread_of_mem_addTypenames (isSent ▸ mem)
    rw [fragmentNamed?_sent] at named
    obtain ⟨original, found, rfl⟩ := Option.map_eq_some_iff.mp named
    obtain ⟨inner, eq, selected⟩ := ih rfl
    exact ⟨inner, eq, .spread mem found place selected⟩

theorem eq_of_mem_missingTypename {a : Selection} (h : a ∈ missingTypename selections) :
    a = typenameSelection := by
  unfold missingTypename at h
  split at h
  · cases h
  · exact List.mem_singleton.mp h

theorem addTypenames_subset_sentUnder (selections : List Selection) :
    addTypenames selections ⊆ sentUnder selections := by
  by_cases none : selections = []
  · simp [none, addTypenames]
  · rw [sentUnder_eq none]
    exact List.subset_append_left _ _

/-- The type name that is added selects nothing. -/
theorem Selects.of_sentUnder (h : Selects s fragments p (sentUnder selections) q f inner) :
    Selects s fragments p (addTypenames selections) q f inner := by
  by_cases none : selections = []
  · simpa [none, addTypenames] using h
  · rw [sentUnder_eq none] at h
    have own {a : Selection} (mem : a ∈ addTypenames selections ++ missingTypename selections)
        (other : a ≠ typenameSelection) : a ∈ addTypenames selections :=
      (List.mem_append.mp mem).resolve_right fun added => other (eq_of_mem_missingTypename added)
    cases h with
    | field mem asks =>
      refine .field (own mem ?_) asks
      rintro ⟨⟩
      cases asks
    | inline mem place next => exact .inline (own mem nofun) place next
    | spread mem named place next => exact .spread (own mem nofun) named place next

/-! ## Selection sets under fields -/

/-- The selection set stands under a composite field that is selected by the first selection set, or
by one under that. -/
def OpensUnder (g : Setting) (fragments : List Fragment) (p : Place) (selections : List Selection)
    (inside : Place) (own : List Selection) : Prop :=
  ∃ around outside place f definition t, Opens g fragments p selections around outside ∧
    Selects g.schema fragments around outside place f own ∧
    fieldDefinition g.schema place.owner f.name = .ok definition ∧
    typeNamed g.schema definition.type.bareName = .ok t ∧ t.kind.isComposite = true ∧
    inside = place.under g.schema f t

variable {g : Setting} {inside : Place} {own : List Selection}

/-- What is under a composite field inside is under one. -/
theorem OpensUnder.under {definition : FieldDefinition} {t : TypeDefinition}
    (selected : Selects g.schema fragments p selections q f inner)
    (field : fieldDefinition g.schema q.owner f.name = .ok definition)
    (type : typeNamed g.schema definition.type.bareName = .ok t)
    (composite : t.kind.isComposite = true)
    (h : OpensUnder g fragments (q.under g.schema f t) inner inside own) :
    OpensUnder g fragments p selections inside own := by
  obtain ⟨around, outside, place, f', definition', t', opens, last⟩ := h
  exact ⟨around, outside, place, f', definition', t',
    .under selected field type composite opens, last⟩

/-- A selection set that is opened is the first one, or stands under a field. -/
theorem opens_iff : Opens g fragments p selections inside own ↔
    inside = p ∧ own = selections ∨ OpensUnder g fragments p selections inside own := by
  constructor
  · intro h
    induction h with
    | here => exact .inl ⟨rfl, rfl⟩
    | under selected field type composite _ ih =>
      rcases ih with ⟨rfl, rfl⟩ | deeper
      · exact .inr ⟨_, _, _, _, _, _, .here _ _, selected, field, type, composite, rfl⟩
      · exact .inr (.under selected field type composite deeper)
  · rintro (⟨rfl, rfl⟩ | ⟨around, outside, place, f, definition, t, opens, selected, field, type,
      composite, rfl⟩)
    · exact .here _ _
    · induction opens with
      | here => exact .under selected field type composite (.here _ _)
      | under selected' field' type' composite' _ ih =>
        exact .under selected' field' type' composite' (ih selected)

/-- A selection set under a field of what is sent stands under that field in the document. -/
theorem exists_of_opensUnder_sent {sent all : List Selection}
    (h : Opens g (fragments.map sentFragment) p all inside sent)
    (isSent : all = addTypenames selections ∨ all = sentUnder selections) :
    inside = p ∧ sent = all ∨
      ∃ own, OpensUnder g fragments p selections inside own ∧ sent = sentUnder own := by
  induction h generalizing selections with
  | here => exact .inl ⟨rfl, rfl⟩
  | @under p place _ _ under _ f _ _ selected field type composite _ ih =>
    obtain ⟨inner, rfl, original⟩ : ∃ inner, under = sentUnder inner ∧
        Selects g.schema fragments p selections place f inner := by
      rcases isSent with rfl | rfl
      · exact exists_of_selects_sent selected rfl
      · exact exists_of_selects_sent selected.of_sentUnder rfl
    rcases ih (.inr rfl) with ⟨rfl, rfl⟩ | ⟨own, deeper, eq⟩
    · exact .inr ⟨inner, ⟨_, _, _, _, _, _, .here _ _, original, field, type, composite, rfl⟩, rfl⟩
    · exact .inr ⟨own, .under original field type composite deeper, eq⟩

/-- A selection set under a field is sent under that field. -/
theorem OpensUnder.sent (h : OpensUnder g fragments p selections inside own)
    {all : List Selection} (sub : addTypenames selections ⊆ all) :
    Opens g (fragments.map sentFragment) p all inside (sentUnder own) := by
  obtain ⟨around, outside, place, f, definition, t, opens, selected, field, type, composite, rfl⟩ :=
    h
  induction opens generalizing all with
  | here => exact .under (selected.sent.of_subset sub) field type composite (.here _ _)
  | under selected' field' type' composite' _ ih =>
    exact .under (selected'.sent.of_subset sub) field' type' composite'
      (ih (addTypenames_subset_sentUnder _) selected)

/-- **The selection sets that are sent are the first one and those under fields**, each of which
asks for the type name. -/
theorem opens_sent {sent : List Selection} :
    Opens g (fragments.map sentFragment) p (addTypenames selections) inside sent ↔
      inside = p ∧ sent = addTypenames selections ∨
        ∃ own, OpensUnder g fragments p selections inside own ∧ sent = sentUnder own := by
  constructor
  · exact fun h => exists_of_opensUnder_sent h (.inl rfl)
  · rintro (⟨rfl, rfl⟩ | ⟨own, under, rfl⟩)
    · exact .here _ _
    · exact under.sent (List.Subset.refl _)

/-! ## Selection sets of operations -/

/-- The selection set is that of an operation of the document itself. -/
def OfOperation (g : Generator) (q : Request) (p : Place) (own : List Selection) : Prop :=
  ∃ name o root, (name, o) ∈ q.operations ∧ rootType g.schema o = .ok root ∧
    p = operationPlace name root ∧ own = o.selections

/-- The selection set stands under a composite field of an operation of the document. -/
def UnderField (g : Generator) (q : Request) (p : Place) (own : List Selection) : Prop :=
  ∃ name o root, (name, o) ∈ q.operations ∧ rootType g.schema o = .ok root ∧
    OpensUnder g.toSetting q.fragments (operationPlace name root) o.selections p own

/-- **The selection sets that are sent are those of the document**, and those under fields ask for
the type name. -/
theorem openedBy_sent {g : Generator} {q : Request} {sent : List Selection} :
    OpenedBy g q.sent p sent ↔
      (∃ own, OfOperation g q p own ∧ sent = addTypenames own) ∨
        ∃ own, UnderField g q p own ∧ sent = sentUnder own := by
  constructor
  · rintro ⟨name, o, root, mem, rooted, opens⟩
    obtain ⟨⟨name, o⟩, ho, eq⟩ := List.mem_map.mp mem
    cases eq
    rcases opens_sent.mp opens with ⟨rfl, rfl⟩ | ⟨own, under, rfl⟩
    · exact .inl ⟨_, ⟨name, o, root, ho, rooted, rfl, rfl⟩, rfl⟩
    · exact .inr ⟨own, ⟨name, o, root, ho, rooted, under⟩, rfl⟩
  · rintro (⟨own, ⟨name, o, root, ho, rooted, rfl, rfl⟩, rfl⟩ |
      ⟨own, ⟨name, o, root, ho, rooted, under⟩, rfl⟩)
    · exact ⟨name, _, root, List.mem_map_of_mem ho, rooted, .here _ _⟩
    · exact ⟨name, _, root, List.mem_map_of_mem ho, rooted, under.sent (List.Subset.refl _)⟩

/-- What is selected under a composite field that is converted is something. -/
theorem selections_ne_nil {x : Site} {definition : FieldDefinition} {t : TypeDefinition}
    {c : Conversion} (h : (x.conversion g definition).result = .ok c)
    (type : typeNamed g.schema definition.type.bareName = .ok t)
    (composite : t.kind.isComposite = true) : x.selections ≠ [] := by
  intro none
  unfold Site.conversion at h
  rw [fieldConversion, type, Plan.ofExcept_ok, pure_bind, if_pos composite, none] at h
  cases h

/-- **In a selection set that has been gone through, something is selected under every composite
field.** -/
theorem Registered.ne_nil {session : Session}
    (registered : Registered session g fragments p selections)
    (selected : Selects g.schema fragments p selections q f inner) {definition : FieldDefinition}
    {t : TypeDefinition} (field : fieldDefinition g.schema q.owner f.name = .ok definition)
    (type : typeNamed g.schema definition.type.bareName = .ok t)
    (composite : t.kind.isComposite = true) : inner ≠ [] := by
  obtain ⟨left, members, -, known, ok, -⟩ := registered
  have gathered := gathered_of_select ok
  obtain ⟨x, hx, rfl, rfl, rfl, -⟩ := mem_survey_of_selects selected known gathered.sound
  obtain ⟨y, r, e, hr, converted, -⟩ := gathered.read _ hx
  cases e
  cases field.symm.trans (readingOf_eq_ok_iff.mp hr).2.1
  exact selections_ne_nil converted type composite

/-- What stands under a field has a class of its own, and is something. -/
theorem HasOperations.leaf_of_underField {session : Session} {g : Generator} {d : Declaration}
    {q : Request} (has : HasOperations session g d) (asked : g.asks d = .ok q)
    (under : UnderField g q p own) :
    own ≠ [] ∧ ∃ l, .leaf l ∈ session.registry.records ∧ l.name = p.className := by
  obtain ⟨name, o, root, ho, rooted, around, outside, place, f, definition, t, opens, selected,
    field, type, composite, rfl⟩ := under
  have registered := has.registered asked ⟨name, o, root, ho, rooted, opens⟩
  exact ⟨registered.ne_nil selected field type composite,
    (registered_under registered selected field type composite).2⟩

/-! ## The type name -/

/-- The selection asks for the type name under its plain key, and no directive may leave it out. -/
def alwaysTellsType : Selection → Bool
  | .field f _ => f.isPlainTypename && !mayLeaveOut f.directives
  | _ => false

/-- The selections themselves ask for the type name, and no directive may leave it out. -/
def asksAlways (selections : List Selection) : Bool := selections.any alwaysTellsType

theorem asksAlways_addTypenames (selections : List Selection) :
    asksAlways (addTypenames selections) = asksAlways selections := by
  unfold asksAlways
  rw [addTypenames_eq_map, List.any_map]
  congr 1
  funext a
  cases a with
  | field f inner => rw [Function.comp_apply, addTypename_field, alwaysTellsType, alwaysTellsType]
  | spread => rfl
  | inline => rfl

/-- **Under a field the type name is always asked for**, but if the document asks for it only where a
directive may leave it out. -/
theorem asksAlways_sentUnder (some : selections ≠ []) : asksAlways (sentUnder selections) =
    (!selections.any Selection.isPlainTypename || asksAlways selections) := by
  have both : asksAlways (sentUnder selections) =
      (asksAlways selections || asksAlways (missingTypename selections)) := by
    rw [sentUnder_eq some, ← asksAlways_addTypenames selections]
    exact List.any_append
  rw [both]
  unfold missingTypename
  by_cases asked : selections.any Selection.isPlainTypename = true
  · rw [if_pos asked, asked]
    exact Bool.or_false _
  · rw [if_neg asked, Bool.eq_false_of_not_eq_true asked]
    exact Bool.or_true _

/-- **Selections that always ask for the type name have it in every answer**, whatever conditions
hold. -/
theorem isSome_typename_of_answers {e : Execution} {object : TypeDefinition}
    {all : List Selection} {fields : List (String × Json)} (asks : asksAlways selections = true)
    (sub : selections ⊆ all) (answers : Answers e object all fields) :
    (fields.lookup typenameField).isSome = true := by
  obtain ⟨a, mem, tells⟩ := List.any_eq_true.mp asks
  cases a with
  | field f inner =>
    obtain ⟨plain, always⟩ : f.isPlainTypename = true ∧ mayLeaveOut f.directives = false := by
      simpa [alwaysTellsType] using tells
    have executes : Executes e.schema e.fragments (leavesIn e.truth) object all f inner :=
      .field (sub mem) (leavesIn_of_always always e.truth)
    obtain ⟨group, collected, -⟩ :=
      mem_collected_iff.mpr ⟨responseKey_of_isPlainTypename plain, executes⟩
    exact (answers.keys typenameField).mpr (List.mem_map.mpr ⟨_, collected, rfl⟩)
  | spread => cases tells
  | inline => cases tells

end QueryShape.Generation
