import QueryShape.Proofs.Generation.Traced
import QueryShape.Proofs.Naming.Identifier
import QueryShape.Proofs.Program.Resolution

/-!
# The names that classes, accessors and parameters get

All names of generated code come from names of schemas and documents. For each class of a session,
and each accessor and parameter of it, it is said when its name can be used.

* `usable_after`: which is mostly so, but not for names that too many underscores lead, and for
  classes that are named like reserved words.
* `unpassable_variable`: a variable of an accepted document has a parameter that no value can be
  passed to by its name.
-/

namespace QueryShape.Program

open Code Document Generation Naming Record Session Thing

/-! ## Names of documents -/

theorem isLed_of_isName {text : String} (h : IsName text) : IsLed text.toList :=
  (isName_iff.mp h).2

/-- The key and name of a field are names. -/
def FieldNamed (f : Field) : Prop := (∀ key, f.alias? = some key → IsName key) ∧ IsName f.name

theorem FieldNamed.responseKey {f : Field} (h : FieldNamed f) : IsName f.responseKey := by
  unfold Field.responseKey
  cases key : f.alias? with
  | none => exact h.2
  | some k => exact h.1 k key

variable {s : Schema} {fragments : List Fragment} {p q : Place} {selections inner : List Selection}
  {f : Field}

/-- What named selections select is named, and so is what is selected under it. -/
theorem named_of_selects (named : ∀ fragment ∈ fragments, AllNamed fragment.selections)
    (h : Selects s fragments p selections q f inner) :
    AllNamed selections → FieldNamed f ∧ AllNamed inner := by
  induction h with
  | field mem asks =>
    intro all
    have one := allNamed_iff.mp all _ mem
    exact ⟨⟨one.1, one.2.1⟩, one.2.2⟩
  | inline mem place next ih =>
    intro all
    exact ih (allNamed_iff.mp all _ mem)
  | spread mem found place next ih =>
    intro _
    exact ih (named _ (List.mem_reverse.mp (List.mem_of_find?_eq_some found)))

/-- The classes of what named selections open are named after that of the selections, which a
capital leads. -/
theorem named_of_opens {g : Setting} (named : ∀ fragment ∈ fragments, AllNamed fragment.selections)
    (h : Opens g fragments p selections q inner) :
    AllNamed selections → IsCapitalized p.className →
      AllNamed inner ∧ IsCapitalized q.className := by
  induction h with
  | here p selections => exact fun all capitalized => ⟨all, capitalized⟩
  | @under p q p' selections inner selections' f definition t selected field type composite _ ih =>
    intro all capitalized
    obtain ⟨⟨key, name⟩, allInner⟩ := named_of_selects named selected all
    refine ih allInner ?_
    rw [← selected.className_eq] at capitalized
    exact capitalized.leafClassName (fun k eq => isWordChar_of_isName (key k eq))
      (isWordChar_of_isName name)

variable {g : Generator} {d : Declaration} {r : Request}

theorem allNamed_of_asks (asked : g.asks d = .ok r) :
    (∀ name o, (name, o) ∈ r.operations →
      AllNamed o.selections ∧ isOperationName name = true) ∧
    ∀ fragment ∈ r.fragments, AllNamed fragment.selections := by
  obtain ⟨document, named, read, names, rfl⟩ := exists_document_of_asks asked
  have all := hasNames_of_readDocument read
  constructor
  · intro name o mem
    obtain ⟨isOperation, -, isName⟩ := of_mem_namedOperations names mem
    obtain ⟨definition, isDefinition, eq⟩ := List.mem_filterMap.mp isOperation
    cases definition with
    | operation o' =>
      cases eq
      exact ⟨(all _ isDefinition).2.2, isName⟩
    | _ => cases eq
  · intro fragment mem
    obtain ⟨definition, isDefinition, eq⟩ := List.mem_filterMap.mp mem
    cases definition with
    | fragment f =>
      cases eq
      exact all _ isDefinition
    | _ => cases eq

theorem named_of_openedBy (asked : g.asks d = .ok r) (opened : OpenedBy g r p selections) :
    AllNamed selections ∧ IsCapitalized p.className := by
  obtain ⟨operations, fragmentsNamed⟩ := allNamed_of_asks asked
  obtain ⟨name, o, root, mem, -, opens⟩ := opened
  obtain ⟨all, isName⟩ := operations name o mem
  exact named_of_opens fragmentsNamed opens all (isCapitalized_of_isOperationName isName)

/-- The fields that a document asks for are named. -/
theorem named_of_asksFor (h : AsksFor g d p f) : FieldNamed f := by
  obtain ⟨r, under, selections, inner, asked, opened, selected⟩ := h
  exact (named_of_selects (allNamed_of_asks asked).2 selected
    (named_of_openedBy asked opened).1).1

/-! ## Names of schemas -/

/-- The types of a schema and the fields of its input types have names of the query language. -/
structure SchemaNamed (s : Schema) : Prop where
  types : ∀ t ∈ s.types, IsName t.name
  fields : ∀ t ∈ s.types, ∀ field ∈ t.inputFields, IsName field.name

theorem isName_of_declares (named : SchemaNamed g.schema) {name : String} {type : TypeRef}
    (h : Declares g d name type) : IsName name := by
  cases h with
  | ofVariable asked mem declared => exact isName_of_asks asked mem _ declared
  | ofField found kind declared =>
    exact named.fields _ (List.mem_of_find?_eq_some found) _ declared

/-! ## Private names -/

/-- A name stays as it is inside a class unless it is private and the class has a name to put in
front of it. -/
theorem nameInside_eq_iff (className name : String) :
    nameInside className name = name ↔ ¬ IsPrivate name ∨ ∀ c ∈ className.toList, c = '_' := by
  have leads : name.startsWith "__" = true ↔ ['_', '_'] <+: name.toList :=
    String.startsWith_string_iff
  have ends : name.endsWith "__" = true ↔ ['_', '_'] <:+ name.toList := by
    rw [← String.endsWith_toSlice, String.Slice.endsWith_string_iff, String.copy_toSlice]
    rfl
  have nothing : (className.toList.dropWhile (· == '_')).isEmpty = true ↔
      ∀ c ∈ className.toList, c = '_' := by
    rw [List.isEmpty_iff, List.dropWhile_eq_nil_iff]
    simp
  unfold nameInside IsPrivate
  dsimp only
  rw [← leads, ← ends, ← nothing]
  split
  · next changed =>
    simp only [Bool.and_eq_true, Bool.not_eq_true'] at changed
    refine iff_of_false (fun same => ?_) (by simp [changed])
    have longer := congrArg String.length same
    simp only [String.length_append] at longer
    have one : "_".length = 1 := rfl
    omega
  · next kept =>
    refine iff_of_true rfl ?_
    simp only [Bool.and_eq_true, Bool.not_eq_true', not_and, Bool.not_eq_false] at kept
    by_cases isPrivate : name.startsWith "__" = true ∧ ¬ name.endsWith "__" = true
    · exact Or.inr (kept ⟨isPrivate.1, by simpa using isPrivate.2⟩)
    · exact Or.inl isPrivate

/-! ## Sessions -/

variable {calls : List (Generator × Declaration)} {x : Record}

/-- When the names of a class, its accessors and its parameters can be used. -/
structure NamesUsable (calls : List (Generator × Declaration)) (x : Record) : Prop where
  /-- The class of an operation, unless that is named like a constant. -/
  operation : x.kind = .root → (IsUsable x.name ↔ x.name ∉ ["False", "None", "True"])
  /-- The class of a selection. -/
  selection : x.kind = .leaf → IsUsable x.name
  /-- The class of a type, unless that is named like a reserved word. -/
  type : x.kind = .enum ∨ x.kind = .input → ∃ g d t, (g, d) ∈ calls ∧
    g.schema.type? t.name = some t ∧ x.name = typeClassName t.name ∧
    (IsUsable x.name ↔ t.name ∉ keywords)
  /-- An accessor, unless there is nothing in its response key to name it after. -/
  accessors : ∀ a ∈ accessorsOf x, ∃ g d p f, (g, d) ∈ calls ∧ AsksFor g d p f ∧
    p.className = x.name ∧ accessorName? f.responseKey = .ok a.name ∧
    (IsUsable a.name ↔ ¬ IsNameless f.responseKey)
  /-- A parameter, unless it is private, and so it is passed by its name. -/
  parameters : ∀ a ∈ parametersOf x, ∃ g d name type, (g, d) ∈ calls ∧ Declares g d name type ∧
    a.name = parameterName name ∧ (IsUsable a.name ↔ ¬ IsPrivate (snakeCase name)) ∧
    (passedName x.name a = a.name ↔ IsUsable a.name ∨ ∀ c ∈ x.name.toList, c = '_')

/-- The name of a class can be used as the kind of the class says. -/
theorem class_usable (named : ∀ g d, (g, d) ∈ calls → SchemaNamed g.schema)
    (h : NamedFrom calls x) :
    (x.kind = .root → (IsUsable x.name ↔ x.name ∉ ["False", "None", "True"])) ∧
    (x.kind = .leaf → IsUsable x.name) ∧
    (x.kind = .enum ∨ x.kind = .input → ∃ g d t, (g, d) ∈ calls ∧
      g.schema.type? t.name = some t ∧ x.name = typeClassName t.name ∧
      (IsUsable x.name ↔ t.name ∉ keywords)) := by
  cases h with
  | operation call asked mem =>
    refine ⟨fun _ => ?_, nofun, by rintro (kind | kind) <;> cases kind⟩
    exact isUsable_operation_iff ((allNamed_of_asks asked).1 _ _ mem).2
  | @selection g d q p selections l call asked opened under name_eq =>
    refine ⟨nofun, fun _ => ?_, by rintro (kind | kind) <;> cases kind⟩
    change IsUsable l.name
    rw [name_eq]
    refine isUsable_of_isCapitalized (named_of_openedBy asked opened).2 ?_
    obtain ⟨around, f, t, rfl⟩ := under
    exact underscore_mem_leafClassName _ _ _
  | @type g d t x call found kind name_eq =>
    refine ⟨fun root => ?_, fun leaf => ?_, fun _ => ⟨g, d, t, call, found, name_eq, ?_⟩⟩
    · rw [root] at kind
      rcases kind with kind | kind <;> cases kind
    · rw [leaf] at kind
      rcases kind with kind | kind <;> cases kind
    · have isName := (named g d call).types t (List.mem_of_find?_eq_some found)
      rw [name_eq]
      exact isUsable_typeClassName_iff (isWordChar_of_isName isName) (isLed_of_isName isName)

/-- The name of a class is a word that no digit leads. -/
theorem word_of_namedFrom (named : ∀ g d, (g, d) ∈ calls → SchemaNamed g.schema)
    (h : NamedFrom calls x) : IsWord x.name.toList ∧ IsLed x.name.toList := by
  cases h with
  | operation call asked mem =>
    have capitalized := isCapitalized_of_isOperationName ((allNamed_of_asks asked).1 _ _ mem).2
    exact ⟨capitalized.word, isLed_of_isCapitalized capitalized⟩
  | @selection g d q p selections l call asked opened under name_eq =>
    have capitalized := (named_of_openedBy asked opened).2
    change IsWord l.name.toList ∧ IsLed l.name.toList
    rw [name_eq]
    exact ⟨capitalized.word, isLed_of_isCapitalized capitalized⟩
  | @type g d t x call found kind name_eq =>
    have isName := (named g d call).types t (List.mem_of_find?_eq_some found)
    rw [name_eq]
    exact word_typeClassName (isWordChar_of_isName isName) (isLed_of_isName isName)

/-- **Which names of generated code can be used**, for all classes of all sessions. -/
theorem usable_after (calls : List (Generator × Declaration))
    (named : ∀ g d, (g, d) ∈ calls → SchemaNamed g.schema) :
    ∀ x ∈ (after {} calls).registry.records, NamesUsable calls x := by
  intro x hx
  have traced := traced_after calls x hx
  obtain ⟨operation, selection, type⟩ := class_usable named traced.named
  refine ⟨operation, selection, type, fun a ha => ?_, fun a ha => ?_⟩
  · obtain ⟨path, rest, paths⟩ := List.exists_cons_of_ne_nil (traced.allRead a ha)
    obtain ⟨g, d, p, f, r, call, asks, className, hr, name, -, -⟩ :=
      traced.read a.name path ⟨a, ha, rfl, paths ▸ List.mem_cons_self⟩
    have key := (named_of_asksFor asks).responseKey
    have accessor : accessorName? f.responseKey = .ok a.name := name ▸ accessorName?_of_readingOf hr
    exact ⟨g, d, p, f, call, asks, className, accessor,
      isUsable_accessor_iff (isWordChar_of_isName key) (isLed_of_isName key) accessor⟩
  · obtain ⟨g, d, pending, reserved, name, type, call, declares, -, t, c, -, -, -, rfl⟩ :=
      traced.taken a ha
    have isName := isName_of_declares (named g d call) declares
    have usable := isUsable_parameter_iff (isWordChar_of_isName isName) (isLed_of_isName isName)
    refine ⟨g, d, name, type, call, declares, rfl, usable, ?_⟩
    change nameInside x.name (parameterName name) = parameterName name ↔
      IsUsable (parameterName name) ∨ _
    unfold parameterName
    rw [nameInside_eq_iff, isPrivate_memberName_iff, usable]

theorem schemaNamed_listed : SchemaNamed listed where
  types := by
    have query : IsName "Query" := ⟨'Q', _, rfl, rfl, rfl⟩
    have int : IsName "Int" := ⟨'I', _, rfl, rfl, rfl⟩
    have string : IsName "String" := ⟨'S', _, rfl, rfl, rfl⟩
    intro t ht
    fin_cases ht
    · exact query
    · exact int
    · exact string
  fields := by
    intro t ht field declared
    fin_cases ht
    all_goals cases declared

theorem mem_records_listing {name : String} (h : name ∈ ["ids", "list", "__x"]) :
    .root (listingRoot name) ∈
      (after {} [(listedGenerator, listing name)]).registry.records := by
  obtain ⟨s, outcome, sorted, -⟩ := outcome_listing h
  have reached : after {} [(listedGenerator, listing name)] = s := congrArg Prod.snd outcome
  exact (classes_of_sorted (reached ▸ sorted)).2 _ List.mem_cons_self

theorem usable_after_listing :
    (∀ g d, (g, d) ∈ [(listedGenerator, listing "ids")] → SchemaNamed g.schema) ∧
    .root (listingRoot "ids") ∈ (after {} [(listedGenerator, listing "ids")]).registry.records ∧
    NamesUsable [(listedGenerator, listing "ids")] (.root (listingRoot "ids")) := by
  have named : ∀ g d, (g, d) ∈ [(listedGenerator, listing "ids")] → SchemaNamed g.schema := by
    intro g d call
    cases List.mem_singleton.mp call
    exact schemaNamed_listed
  have ids : "ids" ∈ ["ids", "list", "__x"] := List.mem_cons_self
  have mem := mem_records_listing ids
  exact ⟨named, mem, usable_after _ named _ mem⟩

/-- **A variable of an accepted document has a parameter that cannot be passed by its name**, but by
one that is made of the names of the class and the parameter. -/
theorem unpassable_variable :
    listedGenerator.validates = true ∧
    Succeeds (after {} []) listedGenerator (listing "__x") ∧
    Loaded ([] ++ [(listedGenerator, listing "__x")]) (listingBindings "__x") ∧
    (listingBindings "__x").lookup "Qa" =
      some (.generated (.root (listingRoot "__x")) (.tool .operationResult)) ∧
    (listingRoot "__x").parameters.map (·.name) = ["__x"] ∧ ¬ IsUsable "__x" ∧
    sentVariables (listingBindings "__x")
      (.generated (.root (listingRoot "__x")) (.tool .operationResult)) (listingRoot "__x")
      [("__x", .list [.int 1, .int 2])] = .error .wrongType ∧
    sentVariables (listingBindings "__x")
      (.generated (.root (listingRoot "__x")) (.tool .operationResult)) (listingRoot "__x")
      [("_Qa__x", .list [.int 1, .int 2])] = .ok [("__x", .list [.int 1, .int 2])] := by
  have x : "__x" ∈ ["ids", "list", "__x"] := by decide
  have isPrivate : IsPrivate "__x" := by decide
  refine ⟨rfl, succeeds_listing x, loaded_listing x, rfl, rfl, fun usable => ?_, ?_, ?_⟩
  · exact usable.shared isPrivate
  · unfold listingBindings listingRoot
    generalize (listingRequest "__x").queryText = text
    cbv
  · unfold listingBindings listingRoot
    generalize (listingRequest "__x").queryText = text
    cbv

end QueryShape.Program
