import QueryShape.Proofs.Naming.Pascal
import QueryShape.Proofs.Program.InputObjects
import QueryShape.Proofs.Program.Usable

/-!
# Parameters that are told apart

A parameter is named after a variable or an input field in snake case, and passed under the name
that this has inside the class. An operation is refused if two of its variables give one name. The
fields of an input type are not looked at for that.

* `nameInside_eq_nameInside_iff`: when two names are one inside a class.
* `distinct_parameters`: when the parameters of a class have different names, and are passed under
  different names.
* `clashing_fields`: two fields of an accepted input type have one parameter.
-/

namespace QueryShape.Program

open Code Document Generation Naming Record Session

/-! ## Names inside classes -/

/-- A name that becomes another inside a class gets the name of the class in front, without the
underscores that lead that, and an underscore. -/
theorem toList_nameInside {className name : String} (changed : nameInside className name ≠ name) :
    ∃ c rest, className.toList.dropWhile (· == '_') = c :: rest ∧ c ≠ '_' ∧
      (nameInside className name).toList = '_' :: c :: (rest ++ name.toList) := by
  have owned : className.toList.dropWhile (· == '_') ≠ [] := fun none =>
    changed ((nameInside_eq_iff className name).mpr (Or.inr (by simpa using none)))
  obtain ⟨c, rest, owner⟩ := List.exists_cons_of_ne_nil owned
  have head := List.head?_dropWhile_not (· == '_') className.toList
  rw [owner] at head
  refine ⟨c, rest, owner, by simpa using head, ?_⟩
  unfold nameInside at changed ⊢
  dsimp only at changed ⊢
  split
  · simp [owner]
  · next kept => exact absurd (if_neg kept) changed

/-- A name that is private to a class becomes one that is not. -/
theorem nameInside_nameInside (className name : String) :
    nameInside className (nameInside className name) = nameInside className name := by
  by_cases kept : nameInside className name = name
  · rw [kept, kept]
  · obtain ⟨c, rest, -, other, chars⟩ := toList_nameInside kept
    rw [nameInside_eq_iff]
    left
    rintro ⟨leads, -⟩
    rw [chars] at leads
    exact other (List.cons_prefix_cons.mp (List.cons_prefix_cons.mp leads).2).1.symm

/-- **Two names are one inside a class** if they are one, or one becomes the other. -/
theorem nameInside_eq_nameInside_iff (className a b : String) :
    nameInside className a = nameInside className b ↔
      a = b ∨ nameInside className a = b ∨ nameInside className b = a := by
  constructor
  · intro same
    by_cases keptA : nameInside className a = a
    · exact Or.inr (Or.inr (same.symm.trans keptA))
    by_cases keptB : nameInside className b = b
    · exact Or.inr (Or.inl (same.trans keptB))
    obtain ⟨c, rest, owner, -, charsA⟩ := toList_nameInside keptA
    obtain ⟨c', rest', owner', -, charsB⟩ := toList_nameInside keptB
    cases owner.symm.trans owner'
    rw [same, charsB] at charsA
    left
    simpa [String.toList_inj] using charsA.symm
  · rintro (rfl | rfl | rfl)
    · rfl
    · rw [nameInside_nameInside]
    · rw [nameInside_nameInside]

/-! ## Parameters of operations -/

theorem isSmall_parameterName {name : String} (h : IsName name) :
    IsSmall (parameterName name).toList := by
  have snake : IsSmall (snakeCase name).toList := by
    unfold snakeCase
    rw [String.toList_ofList]
    exact isSmall_snakeChars (isWordChar_of_isName h)
  unfold parameterName memberName
  split
  · have mark : IsSmall "_".toList := by decide
    rw [String.toList_append]
    exact List.forall_mem_append.mpr ⟨snake, mark⟩
  · exact snake

/-- A parameter does not become another name of a parameter inside a class that a capital leads. -/
theorem eq_of_nameInside_eq {className a b : String} (capital : IsCapitalized className)
    (small : IsSmall b.toList) (same : nameInside className a = b) : a = b := by
  by_contra differ
  have changed : nameInside className a ≠ a := fun kept => differ (kept.symm.trans same)
  obtain ⟨c, rest, owner, -, chars⟩ := toList_nameInside changed
  obtain ⟨d, tail, isClass, upper⟩ := capital.capital
  have other := (isUpper_spec (capital.word d (isClass ▸ List.mem_cons_self)) upper).2
  -- no underscore leads the class, so what the name becomes has the capital of the class
  have first : c = d := by
    rw [isClass, List.dropWhile_cons_of_neg (by simpa using other)] at owner
    exact (List.cons.inj owner).1.symm
  subst first
  have mem : c ∈ b.toList := by
    rw [← same, chars]
    exact List.mem_cons_of_mem _ List.mem_cons_self
  obtain ⟨isWord, lower⟩ := small c mem
  exact absurd upper (by simp [(toUpper_spec isWord lower other).1])

/-- Each parameter of an operation has a name of its own, and is passed under one of its own. -/
theorem distinct_of_rootFrom {g : Generator} {d : Declaration} {q : Request} {s : Session}
    {name : String} {o : Operation} {r : Root} (asked : g.asks d = .ok q)
    (mem : (name, o) ∈ q.operations) (isRoot : RootFrom g q s name o r) :
    (r.parameters.map (·.name)).Nodup ∧ (r.parameters.map (passedName r.name)).Nodup := by
  obtain ⟨root, members, isClass, -⟩ := isRoot.made
  have capital : IsCapitalized r.name := by
    rw [isClass.name_eq]
    exact isCapitalized_of_isOperationName ((allNamed_of_asks asked).1 _ _ mem).2
  have small : ∀ p ∈ r.parameters, IsSmall p.name.toList := by
    intro p hp
    obtain ⟨v, declared, -, t, c, -, -, -, rfl⟩ := exists_of_mem_forall₂ isRoot.parameters hp
    exact isSmall_parameterName (isName_of_asks asked mem v declared)
  refine ⟨isRoot.distinct, ?_⟩
  have distinct := isRoot.distinct
  unfold List.Nodup at distinct ⊢
  rw [List.pairwise_map] at distinct ⊢
  refine distinct.imp_of_mem fun hp hp' differ same => differ ?_
  rcases (nameInside_eq_nameInside_iff _ _ _).mp same with eq | becomes | becomes
  · exact eq
  · exact eq_of_nameInside_eq capital (small _ hp') becomes
  · exact (eq_of_nameInside_eq capital (small _ hp) becomes).symm

/-! ## Parameters of input types -/

/-- Two input fields give one parameter: in snake case, they are one name for a member. -/
def OneParameter (a b : InputValue) : Prop := SameMember (snakeCase a.name) (snakeCase b.name)

/-- The parameter of one input field becomes that of the other inside the class. -/
def BecomesParameter (className : String) (a b : InputValue) : Prop :=
  nameInside className (parameterName a.name) = parameterName b.name

/-- The class has the fields of the input type as its parameters, each under its own name, exactly
if no two fields give one parameter, and they are passed under names of their own exactly if none
becomes another inside the class besides. -/
structure TellsApart (t : TypeDefinition) (i : Input) : Prop where
  name_eq : i.name = typeClassName t.name
  fields : i.arguments.map (·.graphqlName) = t.inputFields.map (·.name)
  names : (i.arguments.map (·.name)).Nodup ↔ t.inputFields.Pairwise fun a b => ¬ OneParameter a b
  passed : (i.arguments.map (passedName i.name)).Nodup ↔ t.inputFields.Pairwise fun a b =>
    ¬ OneParameter a b ∧ ¬ BecomesParameter i.name a b ∧ ¬ BecomesParameter i.name b a

theorem tellsApart {g : Setting} {s : Session} {pending reserved : List String}
    {t : TypeDefinition} {i : Input} (name_eq : i.name = typeClassName t.name)
    (parameters : List.Forall₂ (fun (field : InputValue) p =>
      ParameterFrom g s pending reserved field.name field.type p) t.inputFields i.arguments) :
    TellsApart t i := by
  have one (a b : InputValue) : parameterName a.name = parameterName b.name ↔ OneParameter a b :=
    memberName_eq_iff _ _
  have names : i.arguments.map (·.name) = t.inputFields.map fun field => parameterName field.name :=
    map_eq_of_forall₂ parameters fun field p ⟨_, _, _, _, _, _, eq⟩ => eq ▸ rfl
  have passed : i.arguments.map (passedName i.name) =
      t.inputFields.map fun field => nameInside i.name (parameterName field.name) :=
    map_eq_of_forall₂ parameters fun field p ⟨_, _, _, _, _, _, eq⟩ => eq ▸ rfl
  refine ⟨name_eq, ?_, ?_, ?_⟩
  · exact map_eq_of_forall₂ parameters fun field p ⟨_, _, _, _, _, _, eq⟩ => eq ▸ rfl
  · rw [names]
    unfold List.Nodup
    rw [List.pairwise_map]
    simp only [ne_eq, one]
  · rw [passed]
    unfold List.Nodup
    rw [List.pairwise_map]
    simp only [ne_eq, nameInside_eq_nameInside_iff, one, not_or, BecomesParameter]

/-- **When the parameters of classes are told apart.** Those of an operation have different names,
and are passed under different names. Those of an input type do exactly if no two of its fields give
one parameter, which is not looked at when the class is made. -/
theorem distinct_parameters (calls : List (Generator × Declaration)) :
    (∀ r, .root r ∈ (after {} calls).registry.records →
      (r.parameters.map (·.name)).Nodup ∧ (r.parameters.map (passedName r.name)).Nodup) ∧
    ∀ i, .input i ∈ (after {} calls).registry.records → ∃ g d t, (g, d) ∈ calls ∧
      g.schema.type? t.name = some t ∧ t.kind = .input ∧ TellsApart t i := by
  constructor
  · intro r registered
    obtain ⟨g, d, s, call, makes⟩ := exists_makes_after calls registered nofun
    cases makes with
    | root asked mem isRoot => exact distinct_of_rootFrom asked mem isRoot
  · intro i registered
    obtain ⟨g, d, s, call, makes⟩ := exists_makes_after calls registered nofun
    cases makes with
    | input pending found kind parameters =>
      exact ⟨g, d, _, call, found, kind, tellsApart rfl parameters⟩

/-! ## Fields with one parameter -/

/-- An input type with two fields that give one parameter. -/
def clashingType : TypeDefinition where
  name := "In"
  body := .input [{ name := "aB", type := .named "Int" }, { name := "a_b", type := .named "Int" }]

/-- A schema with the type. -/
def clashingSchema : Schema where
  types :=
    [{ name := "Query"
       body := .object []
         [{ name := "a"
            arguments := [{ name := "x", type := .named "In" }]
            type := .named "String" }] },
     clashingType, { name := "Int", body := .scalar }, { name := "String", body := .scalar }]
  query? := some "Query"

/-- A generator for the schema that checks documents. -/
def clashingGenerator : Generator := { schema := clashingSchema }

/-- The parameter that a number is passed as. -/
def clashingParameter (field : String) : Parameter where
  name := "a_b"
  graphqlName := field
  signature := .optional (.bare "int")
  serializer := .hole
  isOptional := true

/-- The class of the type. -/
def clashingInput : Input where
  name := "In"
  graphqlType := "In"
  arguments := [clashingParameter "aB", clashingParameter "a_b"]

section Validation

open Validation

theorem validate_clashing :
    clashingGenerator.schema.validate collectionDocument = .complaints [] := by
  change clashingSchema.validate collectionDocument = _
  have sound : clashingSchema.isSound = true := by cbv
  have read : (visits clashingSchema collectionDocument).all
      (fun v => (unreadAt? ⟨clashingSchema, collectionDocument⟩ v).isNone) = true := by cbv
  have silent : complaintsAt ⟨clashingSchema, collectionDocument⟩
      (visits clashingSchema collectionDocument) = [] := by
    unfold complaintsAt
    generalize comparisonLimit (visits clashingSchema collectionDocument) = limit
    cbv
  exact validate_of_silent sound read silent

end Validation

theorem outcome_clashing : ∃ s : Session,
    (clashingGenerator.generate collection).outcome {} = (.ok (), s) ∧
      .input clashingInput ∈ s.registry.records := by
  have read : readDocument (clashingGenerator.hooks.runBefore collection) =
      .ok collectionDocument := by cbv
  have names : namedOperations collectionDocument = .ok [("Qa", collectionOperation)] := by cbv
  have asked : clashingGenerator.asks collection = .ok collectionRequest :=
    asks_of_valid read names validate_clashing
  have operations : collectionRequest.operations = [("Qa", collectionOperation)] := rfl
  have fragments : collectionRequest.fragments = [] := rfl
  rw [outcome_generate asked, operations, fragments]
  generalize collectionRequest.queryText = text
  refine ⟨_, Prod.ext ?_ rfl, List.mem_of_getElem? (i := 0) ?_⟩
  · cbv
  · cbv

/-- **Two fields of an input type have one parameter.** The document is accepted, and the class of
the type gets a parameter twice, so that no module with it can be run. -/
theorem clashing_fields :
    clashingGenerator.validates = true ∧ Succeeds {} clashingGenerator collection ∧
    .input clashingInput ∈ (after {} [(clashingGenerator, collection)]).registry.records ∧
    clashingInput.arguments.map (·.graphqlName) = ["aB", "a_b"] ∧
    clashingInput.arguments.map (·.name) = ["a_b", "a_b"] ∧
    ¬ ∃ bindings, Loaded [(clashingGenerator, collection)] bindings := by
  obtain ⟨s, outcome, mem⟩ := outcome_clashing
  have reached : after {} [(clashingGenerator, collection)] = s := congrArg Prod.snd outcome
  refine ⟨rfl, congrArg Prod.fst outcome, reached ▸ mem, rfl, rfl, ?_⟩
  rintro ⟨bindings, loaded⟩
  have distinct := loaded.distinct _ (reached ▸ mem)
  exact (List.nodup_cons.mp distinct).1 List.mem_cons_self

end QueryShape.Program
