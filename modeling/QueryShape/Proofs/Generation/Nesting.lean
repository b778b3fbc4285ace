import QueryShape.Proofs.Generation.Valid

/-!
# Selection sets inside selection sets

Going through a selection set goes through those inside it: those under its fields, those of its
inline fragments, and those of the fragments that it spreads. The last are not parts of the first,
so a fragment that is spread inside itself is gone through without end.

`selectWithin` goes on for so many selection sets inside each other, with all fragments at hand
everywhere. It does not look whether a fragment is inside itself.

* `ends_selectWithin`: if no fragment is spread inside itself, the way down ends, after as many
  selection sets as the ranks of fragments and the sizes of their selection sets allow.
* `select_ends`: so it is gone to the end for every selection set, whatever the schema is, and gives
  what `select` gives.
-/

namespace QueryShape.Generation

open Document Record Relation Schema Search Validation

/-! ## Going down -/

section

variable (inside : Place → List Selection → Members → OptionT Plan Members) (g : Setting)

/-- The plan of a result that may be an error. -/
def given (result : Except GenerationError α) : OptionT Plan α := .lift (.ofExcept result)

/-- How the bare value of a field is converted, if selection sets are gone through as given. -/
def conversionBy (p : Place) (f : Field) (definition : FieldDefinition)
    (selections : List Selection) : OptionT Plan Conversion := do
  let t ← given (typeNamed g.schema definition.type.bareName)
  if t.kind.isComposite then
    if selections.isEmpty then given (.error (.missingSelection p.owner.name f.name))
    else
      let name := Naming.leafClassName p.className f.alias? f.name
      let types := g.schema.possibleTypes t
      let inner : Place := { className := name, owner := t, typenames := .ofList types }
      let members ← inside inner selections {}
      OptionT.lift (.step (.leaf
        { name, graphqlType := t.name, possibleTypes := types
          accessors := members.accessors, dependencies := members.dependencies }))
      return readByClass name
  else if t.kind = .input then
    given (.error (misplaced t ("field " ++ p.owner.name ++ "." ++ f.name)))
  else .lift (outputOf g t)

/-- The members with those of a selection that is a field. -/
def addField (p : Place) (members : Members) : Selection → OptionT Plan Members
  | .field f selections =>
    if f.isPlainTypename then return members
    else do
      let name ← given (accessorOf p f)
      let definition ← given (fieldDefinition g.schema p.owner f.name)
      let c ← conversionBy inside g p f definition selections
      return members.add name (pathOf p f definition.type c) c.dependency?
  | _ => return members

/-- The members with those of a selection that is a fragment. -/
def addFragment (fragments : List Fragment) (p : Place) (members : Members) :
    Selection → OptionT Plan Members
  | .field .. => return members
  | .inline condition? directives selections => do
    inside (← given (inlinePlace g.schema p condition? directives)) selections members
  | .spread name directives =>
    match fragmentNamed? fragments name with
    | none => given (.error (.unknownFragment name))
    | some f => do
      inside (← given (spreadPlace g.schema p f directives)) f.selections members

/-- The members of a selection set: those of its fields, then those of its fragments. -/
def selectBy (fragments : List Fragment) (p : Place) (selections : List Selection)
    (members : Members) : OptionT Plan Members := do
  let members ← selections.foldlM (addField inside g p) members
  selections.foldlM (addFragment inside g fragments p) members

end

/-- The members that a selection set adds to a class, if no more selection sets than the limit are
inside each other. -/
def selectWithin (g : Setting) (fragments : List Fragment) :
    (limit : Nat) → Place → List Selection → Members → OptionT Plan Members
  | 0 => fun _ _ _ => failure
  | limit + 1 => selectBy (selectWithin g fragments limit) g fragments

/-! ## Going to the end -/

variable {α β : Type}

/-- The first plan is not given up, and does what the second does. -/
def Finishes (x : OptionT Plan α) (p : Plan α) : Prop := x.run = some <$> p

theorem finishes_pure (a : α) : Finishes (pure a) (pure a) := rfl

theorem finishes_lift (p : Plan α) : Finishes (.lift p) p := by
  rw [Finishes, OptionT.run_lift, map_eq_pure_bind]

theorem finishes_given (result : Except GenerationError α) :
    Finishes (given result) (.ofExcept result) := finishes_lift _

theorem Finishes.bind {x : OptionT Plan α} {p : Plan α} {next : α → OptionT Plan β}
    {next' : α → Plan β} (h : Finishes x p) (each : ∀ a, Finishes (next a) (next' a)) :
    Finishes (x >>= next) (p >>= next') := by
  unfold Finishes at *
  rw [OptionT.run_bind, h]
  simp only [map_eq_pure_bind, bind_assoc, pure_bind, Option.elimM, Option.elim_some, each]

/-- What is done for the selection sets inside a selection set finishes. `outer` are all fragments,
and `fragments` those that are left. -/
structure FinishesInside (inside : Place → List Selection → Members → OptionT Plan Members)
    (g : Setting) (outer fragments : List Fragment) (selections : List Selection) : Prop where
  field : ∀ {f inner}, .field f inner ∈ selections → ∀ q members,
    Finishes (inside q inner members) (select g fragments q inner members)
  inline : ∀ {condition? directives inner}, .inline condition? directives inner ∈ selections →
    ∀ q members, Finishes (inside q inner members) (select g fragments q inner members)
  known : ∀ {name directives}, .spread name directives ∈ selections →
    fragmentNamed? fragments name = fragmentNamed? outer name
  spread : ∀ {name directives f}, .spread name directives ∈ selections →
    fragmentNamed? outer name = some f → ∀ q members, Finishes (inside q f.selections members)
      (select g (otherFragments fragments name) q f.selections members)

section

variable {inside : Place → List Selection → Members → OptionT Plan Members} {g : Setting}
  {outer fragments : List Fragment} {p : Place}

theorem FinishesInside.tail {a : Selection} {rest : List Selection}
    (h : FinishesInside inside g outer fragments (a :: rest)) :
    FinishesInside inside g outer fragments rest where
  field mem := h.field (List.mem_cons_of_mem _ mem)
  inline mem := h.inline (List.mem_cons_of_mem _ mem)
  known mem := h.known (List.mem_cons_of_mem _ mem)
  spread mem := h.spread (List.mem_cons_of_mem _ mem)

theorem finishes_conversionBy {f : Field} {definition : FieldDefinition} {inner : List Selection}
    (h : ∀ q members, Finishes (inside q inner members) (select g fragments q inner members)) :
    Finishes (conversionBy inside g p f definition inner)
      (fieldConversion g fragments p f definition inner) := by
  rw [fieldConversion]
  refine (finishes_given _).bind fun t => ?_
  split
  · split
    · exact finishes_given _
    · refine (h _ _).bind fun members => ?_
      exact (finishes_lift _).bind fun _ => finishes_pure _
  · split
    · exact finishes_given _
    · exact finishes_lift _

theorem finishes_fields {selections : List Selection}
    (h : FinishesInside inside g outer fragments selections) (members : Members) :
    Finishes (selections.foldlM (addField inside g p) members)
      (selectFields g fragments p selections members) := by
  induction selections generalizing members with
  | nil =>
    rw [selectFields]
    exact finishes_pure members
  | cons a rest ih =>
    rw [List.foldlM_cons]
    cases a with
    | spread =>
      simp only [selectFields, addField, pure_bind]
      exact ih h.tail members
    | inline =>
      simp only [selectFields, addField, pure_bind]
      exact ih h.tail members
    | field f inner =>
      rw [selectFields, addField]
      split
      · rw [pure_bind]
        exact ih h.tail members
      · simp only [bind_assoc, pure_bind]
        refine (finishes_given _).bind fun name => (finishes_given _).bind fun definition => ?_
        refine (finishes_conversionBy (h.field List.mem_cons_self)).bind fun c => ?_
        exact ih h.tail _

theorem finishes_fragments {selections : List Selection}
    (h : FinishesInside inside g outer fragments selections) (members : Members) :
    Finishes (selections.foldlM (addFragment inside g outer p) members)
      (selectFragments g fragments p selections members) := by
  induction selections generalizing members with
  | nil =>
    rw [selectFragments]
    exact finishes_pure members
  | cons a rest ih =>
    rw [List.foldlM_cons]
    cases a with
    | field => rw [selectFragments, addFragment, pure_bind]; exact ih h.tail members
    | inline condition? directives inner =>
      rw [selectFragments_inline, addFragment, bind_assoc]
      refine (finishes_given _).bind fun q => ?_
      exact (h.inline List.mem_cons_self q members).bind fun members => ih h.tail members
    | spread name directives =>
      have known := h.known List.mem_cons_self
      rw [addFragment]
      cases named : fragmentNamed? outer name with
      | none =>
        rw [selectFragments_unknown (known.trans named)]
        rfl
      | some f =>
        rw [selectFragments_spread (known.trans named), bind_assoc]
        refine (finishes_given _).bind fun q => ?_
        exact (h.spread List.mem_cons_self named q members).bind fun members => ih h.tail members

theorem finishes_selectBy {selections : List Selection}
    (h : FinishesInside inside g outer fragments selections) (members : Members) :
    Finishes (selectBy inside g outer p selections members)
      (select g fragments p selections members) := by
  rw [select]
  exact (finishes_fields h members).bind fun members => finishes_fragments h members

end

/-! ## Ranks -/

variable {c : Context}

/-- How many fragments are spread inside a fragment. -/
noncomputable def fragmentRank (c : Context) : String → Nat :=
  depth (fun outer inner => SpreadIn c inner outer) c.fragmentNames

theorem fragmentRank_lt (acyclic : NoFragmentInItself c) {inner outer : String}
    (h : SpreadIn c inner outer) (known : inner ∈ c.fragmentNames) :
    fragmentRank c inner < fragmentRank c outer := by
  refine depth_lt (fun name loop => acyclic name ?_) h known
  exact (transGen_swap (r := SpreadIn c)).mp loop

/-- All fragments of the document that the selections spread have lower ranks. -/
def RankedBelow (c : Context) (rank : Nat) (selections : List Selection) : Prop :=
  ∀ name ∈ spreads selections, name ∈ c.fragmentNames → fragmentRank c name < rank

/-- How many selection sets can be inside each other: each fragment that is gone into is of lower
rank than the one that it is spread in, and each other set is a part of the one around it. -/
noncomputable def nestingLimit (c : Context) (rank : Nat) (selections : List Selection) : Nat :=
  rank * sizeOf (fragments c.document) + sizeOf selections

variable {rank : Nat} {selections inner : List Selection}

theorem RankedBelow.of_subset (h : RankedBelow c rank selections)
    (sub : spreads inner ⊆ spreads selections) : RankedBelow c rank inner :=
  fun name mem => h name (sub mem)

theorem rankedBelow_all (c : Context) (selections : List Selection) :
    RankedBelow c (c.fragmentNames.length + 1) selections :=
  fun _ _ _ => Nat.lt_succ_of_le List.countP_le_length

/-- The spreads of a fragment are of lower rank than the fragment. -/
theorem rankedBelow_fragment (acyclic : NoFragmentInItself c) {name : String} {f : Fragment}
    (known : c.fragment? name = some f) : RankedBelow c (fragmentRank c name) f.selections :=
  fun _ mem => fragmentRank_lt acyclic ⟨f, known, mem⟩

theorem nestingLimit_field (c : Context) (rank : Nat) {f : Field}
    (mem : .field f inner ∈ selections) :
    nestingLimit c rank inner < nestingLimit c rank selections := by
  have smaller := List.sizeOf_lt_of_mem mem
  rw [Selection.field.sizeOf_spec] at smaller
  unfold nestingLimit
  omega

theorem nestingLimit_inline (c : Context) (rank : Nat) {condition? : Option String}
    {directives : List Directive} (mem : .inline condition? directives inner ∈ selections) :
    nestingLimit c rank inner < nestingLimit c rank selections := by
  have smaller := List.sizeOf_lt_of_mem mem
  rw [Selection.inline.sizeOf_spec] at smaller
  unfold nestingLimit
  omega

/-- A fragment is not a part of what spreads it, but its rank is lower. -/
theorem nestingLimit_spread (selections : List Selection) {below : Nat} (lower : below < rank)
    {f : Fragment} (mem : f ∈ fragments c.document) :
    nestingLimit c below f.selections < nestingLimit c rank selections := by
  have smaller := List.sizeOf_lt_of_mem mem
  have part : sizeOf f.selections < sizeOf f := by
    cases f
    simp only [Fragment.mk.sizeOf_spec]
    omega
  calc nestingLimit c below f.selections
      < below * sizeOf (fragments c.document) + sizeOf (fragments c.document) := by
        unfold nestingLimit
        omega
    _ = (below + 1) * sizeOf (fragments c.document) := (Nat.succ_mul _ _).symm
    _ ≤ rank * sizeOf (fragments c.document) := Nat.mul_le_mul_right _ lower
    _ ≤ nestingLimit c rank selections := Nat.le_add_right _ _

/-! ## All selection sets -/

/-- **The way through a selection set ends** after as many selection sets as the limit allows, if no
fragment is spread inside itself. -/
theorem ends_selectWithin (g : Setting) (acyclic : NoFragmentInItself c) {limit rank : Nat}
    {rest : List Fragment} {selections : List Selection} (there : Available c rest selections)
    (ranked : RankedBelow c rank selections) (enough : nestingLimit c rank selections ≤ limit)
    (p : Place) (members : Members) :
    Finishes (selectWithin g (fragments c.document) limit p selections members)
      (select g rest p selections members) := by
  induction limit generalizing rank rest selections p members with
  | zero =>
    have : 0 < sizeOf selections := by cases selections <;> simp +arith
    unfold nestingLimit at enough
    omega
  | succ limit ih =>
    refine finishes_selectBy ⟨fun mem q members => ?_, fun mem q members => ?_,
      fun {name _} mem => ?_, fun {name _ f} mem named q members => ?_⟩ members
    · have sub := spreads_field_subset mem
      have := nestingLimit_field c rank mem
      exact ih (there.of_subset sub) (ranked.of_subset sub) (by omega) q members
    · have sub := spreads_inline_subset mem
      have := nestingLimit_inline c rank mem
      exact ih (there.of_subset sub) (ranked.of_subset sub) (by omega) q members
    · exact there name (mem_spreads.mpr ⟨_, mem, Or.inl rfl⟩) name .refl
    · have known := (name_of_fragment? (c := c) named).1
      have lower : fragmentRank c name < rank :=
        ranked name (mem_spreads.mpr ⟨_, mem, Or.inl rfl⟩)
          (List.mem_map.mpr ⟨f, name_of_fragment? (c := c) named⟩)
      have := nestingLimit_spread selections lower known
      exact ih (there.inside acyclic mem named) (rankedBelow_fragment acyclic named) (by omega) q
        members

/-- No selection set of the document needs more than some limit. -/
theorem finishes_above (acyclic : NoFragmentInItself c) (selections : List Selection) :
    ∃ limit, ∀ n ≥ limit, ∀ g p members,
      Finishes (selectWithin g (fragments c.document) n p selections members)
        (select g (fragments c.document) p selections members) := by
  refine ⟨nestingLimit c (c.fragmentNames.length + 1) selections, fun n enough g p members => ?_⟩
  exact ends_selectWithin g acyclic (available_all _ selections) (rankedBelow_all _ selections)
    enough p members

/-- **Every selection set of a document is gone through to the end, whatever the schema and the
names are, if no fragment is spread inside itself**, and validation sees to that. A fragment may be
spread many times, and fields may lead back to types that have been met. -/
theorem select_ends (s : Schema) (document : Document) :
    (s.validate document = .complaints [] → NoFragmentInItself ⟨s, document⟩) ∧
    (NoFragmentInItself ⟨s, document⟩ → ∀ selections, ∃ limit, ∀ n ≥ limit, ∀ g p members,
      (selectWithin g (fragments document) n p selections members).run =
        some <$> select g (fragments document) p selections members) :=
  ⟨fun valid => noFragmentInItself_of_passes (passes_of_validate valid).2, finishes_above⟩

/-- A schema with a type that leads back to itself. -/
def recursiveSchema : Schema := withStandardTypes
  { types := completeTypes
      [.type { name := "Query", body := .object [] [{ name := "u", type := .named "U" }] },
       .type { name := "U"
               body := .object [] [{ name := "a", type := .named "String" },
                 { name := "u", type := .named "U" }] }]
    directives := standardDirectives
    query? := some "Query" }

/-- The directive that selects what it stands on. -/
def included : Directive := { name := "include", arguments := [⟨"if", .boolean true⟩] }

/-- An operation that spreads a fragment twice. -/
def nestedOperation : Operation where
  kind := .query
  name? := some "Qa"
  selections := [.field { name := "u" }
    [.spread "F" [], .field { name := "u" } [.spread "F" [included]]]]

/-- A document with the operation, where the fragment spreads another one. -/
def nestedDocument : Document :=
  [.operation nestedOperation,
   .fragment { name := "F", condition := "U", selections := [.spread "G" []] },
   .fragment { name := "G", condition := "U", selections := [.field { name := "a" } []] }]

theorem isSound_recursiveSchema : recursiveSchema.isSound = true := by cbv

theorem validate_nested : recursiveSchema.validate nestedDocument = .complaints [] := by
  have read : (visits recursiveSchema nestedDocument).all
      (fun v => (unreadAt? ⟨recursiveSchema, nestedDocument⟩ v).isNone) = true := by cbv
  have silent : complaintsAt ⟨recursiveSchema, nestedDocument⟩
      (visits recursiveSchema nestedDocument) = [] := by cbv
  exact validate_of_silent isSound_recursiveSchema read silent

/-- The selections of the operation are gone through to the end. -/
theorem select_ends_nested : recursiveSchema.validate nestedDocument = .complaints [] ∧
    NoFragmentInItself ⟨recursiveSchema, nestedDocument⟩ ∧
    ∃ limit, ∀ n ≥ limit, ∀ g p members,
      (selectWithin g (fragments nestedDocument) n p nestedOperation.selections members).run =
        some <$> select g (fragments nestedDocument) p nestedOperation.selections members := by
  have ends := select_ends recursiveSchema nestedDocument
  exact ⟨validate_nested, ends.1 validate_nested, ends.2 (ends.1 validate_nested) _⟩

/-- A fragment that is spread in itself is gone into without end. -/
theorem selectWithin_of_itself (g : Setting) {fragments : List Fragment} {name : String}
    {f : Fragment} (named : fragmentNamed? fragments name = some f)
    (itself : f.selections = [.spread name []]) {t : TypeDefinition}
    (found : g.schema.type? f.condition = some t) (composite : t.kind.isComposite = true)
    (limit : Nat) (p : Place) (members : Members) :
    (selectWithin g fragments limit p [.spread name []] members).run = pure none := by
  induction limit generalizing p members with
  | zero => rfl
  | succ limit ih =>
    obtain ⟨q, place, -⟩ := exists_inFragment g.schema p [] composite
    have there : spreadPlace g.schema p f [] = .ok q := by
      unfold spreadPlace
      rw [typeNamed_of_type? found]
      exact place
    simp only [selectWithin, selectBy, List.foldlM_cons, List.foldlM_nil, addField, addFragment,
      pure_bind, bind_pure, named, there, itself]
    exact ih q members

end QueryShape.Generation
