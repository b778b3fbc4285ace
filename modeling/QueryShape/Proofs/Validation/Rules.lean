import QueryShape.Proofs.Schema.Fields
import QueryShape.Proofs.Validation.Context
import QueryShape.Proofs.Validation.Passing

/-!
# Rules about what is sent

At a place of a document every rule says the same when the document asks for type names in
addition, and at the places of the new type names no rule says anything.

* `rule_sent`: what the rules say at a place.
* `rule_added`: what they say of a new type name.
* `complaintsAt_eq_nil_iff`: no rule says anything anywhere, and no two fields conflict.
-/

namespace QueryShape.Validation

open Document Schema

/-- All rules that look at one place at a time. -/
def placeRules : List Rule := rulesBeforeOverlap ++ rulesAfterOverlap

/-- The rule says the same of a place when the document is sent. -/
def Keeps (rule : Rule) : Prop :=
  ∀ (c : Context) (scope : Scope) (x x' : Site), SentSite x x' →
    rule c.sent ⟨scope, x'⟩ = rule c ⟨scope, x⟩

/-! ## Definitions -/

/-- What definitions without selections are read for stays. -/
theorem filterMap_addTypename {read : Definition → Option α}
    (same : ∀ d, read d.addTypename = read d) (document : Document) :
    (addTypename document).filterMap read = document.filterMap read := by
  unfold addTypename
  rw [List.filterMap_map]
  exact List.filterMap_congr fun d _ => same d

theorem keeps_executableDefinitions : Keeps executableDefinitions := by
  intro c scope x x' site
  cases site with
  | other =>
    cases x with
    | documentStart => exact filterMap_addTypename (fun d => by cases d <;> rfl) c.document
    | _ => rfl
  | _ => rfl

theorem keeps_knownTypeNames : Keeps knownTypeNames := by
  intro c scope x x' site
  cases site with
  | other =>
    cases x with
    | typeName name =>
      unfold knownTypeNames Context.sent
      dsimp only
      rw [filterMap_addTypename fun d => by cases d <;> rfl]
    | _ => rfl
  | _ => rfl

theorem keeps_uniqueOperationNames : Keeps uniqueOperationNames := by
  intro c scope x x' site
  cases site with
  | other => cases x <;> first | rfl | contradiction
  | operation index o =>
    have named (name : String) :
        ((operations (c.document.take index)).map sentOperation).any (·.name? == some name) =
          (operations (c.document.take index)).any (·.name? == some name) := List.any_map
    unfold uniqueOperationNames
    dsimp only
    rw [take_sent, operations_addTypename]
    simp only [named]
    rfl
  | _ => rfl

theorem keeps_loneAnonymousOperation : Keeps loneAnonymousOperation := by
  intro c scope x x' site
  cases site with
  | other => cases x <;> first | rfl | contradiction
  | operation index o =>
    unfold loneAnonymousOperation Context.sent
    dsimp only
    rw [operations_addTypename, List.length_map, sentOperation]
  | _ => rfl

theorem keeps_uniqueFragmentNames : Keeps uniqueFragmentNames := by
  intro c scope x x' site
  cases site with
  | other => cases x <;> first | rfl | contradiction
  | fragment index f =>
    unfold uniqueFragmentNames
    dsimp only
    rw [take_sent, fragments_addTypename, List.any_map]
    rfl
  | _ => rfl

theorem keeps_singleFieldSubscriptions : Keeps singleFieldSubscriptions := by
  intro c scope x x' site
  cases site with
  | other => cases x <;> first | rfl | contradiction
  | operation index o =>
    unfold singleFieldSubscriptions
    dsimp only
    rw [topFields_sent]
    cases topFields c o with
    | error => rfl
    | ok groups =>
      have first (g : Collected) : (sentCollected g).2.head?.any (·.1.name.startsWith "__") =
          g.2.head?.any (·.1.name.startsWith "__") := by
        unfold sentCollected
        rw [List.head?_map, Option.any_map]
      simp only [Except.map, List.length_map, List.filterMap_map, Function.comp_def, first]
      rfl
  | _ => rfl

/-! ## Fragments -/

theorem keeps_knownFragmentNames : Keeps knownFragmentNames := by
  intro c scope x x' site
  cases site with
  | other =>
    cases x with
    | spread name directives =>
      unfold knownFragmentNames
      dsimp only
      rw [fragment?_sent, Option.isSome_map]
    | _ => rfl
  | _ => rfl

theorem keeps_possibleFragmentSpreads : Keeps possibleFragmentSpreads := by
  intro c scope x x' site
  cases site with
  | other =>
    cases x with
    | spread name directives =>
      unfold possibleFragmentSpreads
      dsimp only
      rw [fragment?_sent, Option.map_map]
      rfl
    | _ => rfl
  | _ => rfl

theorem keeps_noUnusedFragments : Keeps noUnusedFragments := by
  intro c scope x x' site
  cases site with
  | other =>
    cases x with
    | documentEnd =>
      have used (o : Operation) :
          (reachedFragments c.sent (sentOperation o).selections).map (·.name) =
            (reachedFragments c o.selections).map (·.name) := by
        rw [sentOperation, reachedFragments_sent, List.map_map]
        rfl
      unfold noUnusedFragments
      dsimp only
      rw [Context.sent, operations_addTypename, fragments_addTypename, ← Context.sent,
        List.flatMap_map, List.filterMap_map]
      simp only [used]
      rfl
    | _ => rfl
  | _ => rfl

theorem keeps_noFragmentCycles : Keeps noFragmentCycles := by
  intro c scope x x' site
  cases site with
  | other => cases x <;> first | rfl | contradiction
  | fragment index f =>
    unfold noFragmentCycles
    dsimp only
    rw [take_sent, fragments_addTypename, List.length_map, cyclesOf_sent]
  | _ => rfl

theorem keeps_maxIntrospectionDepth : Keeps maxIntrospectionDepth := by
  intro c scope x x' site
  cases site with
  | other => cases x <;> first | rfl | contradiction
  | field f selections =>
    have count : (fragments c.sent.document).length = (fragments c.document).length := by
      unfold Context.sent
      rw [fragments_addTypename, List.length_map]
    unfold maxIntrospectionDepth
    dsimp only
    rw [← addTypename_field, goesTooDeep_sent, count]
  | _ => rfl

/-! ## Fields -/

theorem keeps_scalarLeafs : Keeps scalarLeafs := by
  intro c scope x x' site
  cases site with
  | other => cases x <;> rfl
  | field f selections =>
    unfold scalarLeafs
    cases scope.type? with
    | none => rfl
    | some type =>
      dsimp only
      rw [isEmpty_sentUnder]
      rfl
  | _ => rfl

theorem keeps_fieldsOnCorrectType : Keeps fieldsOnCorrectType := by
  intro c scope x x' site
  cases site with
  | other => cases x <;> rfl
  | field f selections =>
    unfold fieldsOnCorrectType
    cases scope.parent? <;> cases scope.field? <;> rfl
  | _ => rfl

/-! ## Variables -/

theorem keeps_noUndefinedVariables : Keeps noUndefinedVariables := by
  intro c scope x x' site
  cases site with
  | other => cases x <;> first | rfl | contradiction
  | operationEnd o =>
    unfold noUndefinedVariables
    dsimp only
    rw [variableUses_sent]
    rfl
  | _ => rfl

theorem keeps_noUnusedVariables : Keeps noUnusedVariables := by
  intro c scope x x' site
  cases site with
  | other => cases x <;> first | rfl | contradiction
  | operationEnd o =>
    unfold noUnusedVariables
    dsimp only
    rw [variableUses_sent]
    rfl
  | _ => rfl

theorem keeps_variablesInAllowedPosition : Keeps variablesInAllowedPosition := by
  intro c scope x x' site
  cases site with
  | other => cases x <;> first | rfl | contradiction
  | operationEnd o =>
    unfold variablesInAllowedPosition
    dsimp only
    rw [variableUses_sent]
    rfl
  | _ => rfl

/-! ## Directives -/

theorem directivesOf_sent (c : Context) : directivesOf c.sent = directivesOf c := by
  unfold directivesOf Context.sent directiveDefinitions
  dsimp only
  rw [filterMap_addTypename fun d => by cases d <;> rfl]

theorem directivesAt_sent {x x' : Site} (site : SentSite x x') :
    directivesAt x' = directivesAt x := by
  cases site <;> rfl

theorem keeps_uniqueDirectivesPerLocation : Keeps uniqueDirectivesPerLocation := by
  intro c scope x x' site
  have again (seen : List String) (list : List Directive) :
      usedAgain c.sent seen list = usedAgain c seen list := by
    induction list generalizing seen with
    | nil => rfl
    | cons d rest ih => simp only [usedAgain, directivesOf_sent, ih]
  unfold uniqueDirectivesPerLocation
  dsimp only
  rw [directivesAt_sent site, again]

theorem keeps_knownDirectives : Keeps knownDirectives := by
  intro c scope x x' site
  unfold knownDirectives
  rw [directivesOf_sent]
  cases site <;> rfl

theorem keeps_knownArgumentNames : Keeps knownArgumentNames := by
  intro c scope x x' site
  unfold knownArgumentNames
  rw [directivesOf_sent]
  cases site <;> rfl

theorem keeps_providedRequiredArguments : Keeps providedRequiredArguments := by
  intro c scope x x' site
  unfold providedRequiredArguments
  rw [directivesOf_sent]
  cases site <;> rfl

/-! ## All rules -/

/-- **Every rule says the same of a place** when the document asks for type names. -/
theorem rule_sent : ∀ rule ∈ placeRules, Keeps rule := by
  simp only [placeRules, rulesBeforeOverlap, rulesAfterOverlap, List.cons_append, List.nil_append,
    List.forall_mem_cons]
  refine ⟨keeps_executableDefinitions, keeps_uniqueOperationNames, keeps_loneAnonymousOperation,
    keeps_singleFieldSubscriptions, keeps_knownTypeNames, ?fragmentsOnCompositeTypes,
    ?variablesAreInputTypes, keeps_scalarLeafs, keeps_fieldsOnCorrectType,
    keeps_uniqueFragmentNames, keeps_knownFragmentNames, keeps_noUnusedFragments,
    keeps_possibleFragmentSpreads, keeps_noFragmentCycles, ?uniqueVariableNames, keeps_noUndefinedVariables,
    keeps_noUnusedVariables, keeps_knownDirectives, keeps_uniqueDirectivesPerLocation,
    keeps_knownArgumentNames, ?uniqueArgumentNames, ?valuesOfCorrectType,
    keeps_providedRequiredArguments, keeps_variablesInAllowedPosition, ?uniqueInputFieldNames,
    keeps_maxIntrospectionDepth, fun _ h => absurd h List.not_mem_nil⟩
  -- the other rules look neither at the document around nor at selections
  all_goals
    intro c scope x x' site
    cases site <;> rfl

/-! ## New type names -/

/-- Where a type name is added its field is known, if anything is. -/
theorem field?_added (s : Schema) (scope : Scope) :
    let inner := (scope.selecting s).onField s typenameHead
    (inner.parent? = none ∧ inner.field? = none) ∨ inner.field? = some typenameFieldDefinition := by
  dsimp only
  cases parent : (scope.selecting s).parent? with
  | none => exact Or.inl ⟨parent, by simp only [Scope.onField, parent, Option.bind_none]⟩
  | some t =>
    have composite : t.kind.isComposite = true := by
      obtain ⟨type, -, isParent⟩ := Option.bind_eq_some_iff.mp parent
      obtain ⟨found, -, isParent⟩ := Option.bind_eq_some_iff.mp isParent
      split at isParent
      · next composite => exact Option.some.inj isParent ▸ composite
      · cases isParent
    refine Or.inr ?_
    have field : fieldOf? s t typenameHead.name = some typenameFieldDefinition := by
      have isName : typenameHead.name = typenameField := rfl
      unfold fieldOf?
      rw [if_pos isName, if_pos composite]
    simp only [Scope.onField, parent, Option.bind_some, field]

/-- A type name has no members to select. -/
theorem type?_added (made : IsMade s) (scope : Scope) {type : TypeRef}
    (h : ((scope.selecting s).onField s typenameHead).type? = some type) :
    s.bareKind Kind.isLeaf type = true := by
  have string : s.type? "String" = some (scalarType "String") := made.type?_eq List.mem_cons_self
  have leaf : s.bareKind Kind.isLeaf typenameFieldDefinition.type = true := by
    change (s.kind? "String").any Kind.isLeaf = true
    rw [kind?, string]
    rfl
  obtain ⟨d, field, resolved⟩ := Option.bind_eq_some_iff.mp h
  rcases field?_added s scope with ⟨-, none⟩ | known
  · cases none.symm.trans field
  · cases known.symm.trans field
    unfold resolveKind? at resolved
    split at resolved
    · exact Option.some.inj resolved ▸ leaf
    · cases resolved

/-- **No rule says anything of a type name that is added.** -/
theorem rule_added {c : Context} (made : IsMade c.schema) (scope : Scope) :
    ∀ rule ∈ placeRules,
      rule c ⟨(scope.selecting c.schema).onField c.schema typenameHead, .field typenameHead []⟩
        = [] ∧
      rule c ⟨(scope.selecting c.schema).onField c.schema typenameHead, .fieldEnd typenameHead⟩
        = [] := by
  have field := field?_added c.schema scope
  have leaf (type : TypeRef) := @type?_added c.schema made scope type
  generalize (scope.selecting c.schema).onField c.schema typenameHead = inner at *
  have silent : ([] : List String) = [] ∧ ([] : List String) = [] := ⟨rfl, rfl⟩
  simp only [placeRules, rulesBeforeOverlap, rulesAfterOverlap, List.cons_append, List.nil_append,
    List.forall_mem_cons]
  refine ⟨silent, silent, silent, silent, silent, silent, silent, ⟨?scalarLeafs, rfl⟩,
    ⟨?fieldsOnCorrectType, rfl⟩, silent, silent, silent, silent, silent, silent, silent, silent,
    silent, silent, silent, silent, ?valuesOfCorrectType, ⟨rfl, ?providedRequiredArguments⟩, silent,
    silent, silent, fun _ h => absurd h List.not_mem_nil⟩
  case scalarLeafs =>
    unfold scalarLeafs
    cases type : inner.type? with
    | none => rfl
    | some type' => simp only [leaf type' type, List.isEmpty_nil, if_true]
  case fieldsOnCorrectType =>
    unfold fieldsOnCorrectType
    rcases field with ⟨parent, none⟩ | known
    · simp only [parent, none]
    · cases inner.parent? <;> simp only [known]
  case valuesOfCorrectType =>
    unfold valuesOfCorrectType
    exact ⟨ite_self _, ite_self _⟩
  case providedRequiredArguments =>
    unfold providedRequiredArguments
    rcases field with ⟨-, none⟩ | known
    · simp only [none, Option.map_none, Option.getD_none, List.filterMap_nil]
    · simp only [known]
      rfl

/-! ## Silence -/

/-- There are no complaints if no rule has one anywhere, and no two fields conflict. -/
theorem complaintsAt_eq_nil_iff {c : Context} {places : List Visit} :
    complaintsAt c places = [] ↔ (∀ v ∈ places, ∀ rule ∈ placeRules, rule c v = []) ∧
      ∀ words ∈ ((overlapComplaints c (comparisonLimit places) places).run {}).1, words = [] := by
  have same := length_overlapComplaints c (comparisonLimit places) places {}
  unfold complaintsAt
  generalize ((overlapComplaints c (comparisonLimit places) places).run {}).1 = found at *
  have firsts : (places.zip found).map Prod.fst = places := List.map_fst_zip same.ge
  have seconds : (places.zip found).map Prod.snd = found := List.map_snd_zip same.le
  have each (p : Visit × List String) :
      rulesBeforeOverlap.flatMap (fun rule => rule c p.1) ++ p.2 ++
          rulesAfterOverlap.flatMap (fun rule => rule c p.1) = [] ↔
        (∀ rule ∈ placeRules, rule c p.1 = []) ∧ p.2 = [] := by
    unfold placeRules
    rw [List.append_eq_nil_iff, List.append_eq_nil_iff, List.flatMap_eq_nil_iff,
      List.flatMap_eq_nil_iff, List.forall_mem_append]
    tauto
  simp only [List.flatMap_eq_nil_iff, each, forall_and]
  refine and_congr ?_ ?_
  · conv_rhs => rw [← firsts, List.forall_mem_map]
  · conv_rhs => rw [← seconds, List.forall_mem_map]

/-- **No rule says anything of what is sent**, if none does of the document. -/
theorem rule_sent_eq_nil {c : Context} (made : IsMade c.schema)
    (silent : ∀ v ∈ visits c.schema c.document, ∀ rule ∈ placeRules, rule c v = []) :
    ∀ v ∈ visits c.schema c.sent.document, ∀ rule ∈ placeRules, rule c.sent v = [] := by
  intro v hv rule mem
  obtain ⟨scope, x'⟩ := v
  rcases (sentVisits_visits c.schema c.document).exists_of_mem hv with ⟨x, isPlace, site⟩ | added
  · rw [rule_sent rule mem c scope x x' site]
    exact silent _ isPlace rule mem
  · obtain ⟨outer, rfl, here⟩ := added
    have none := rule_added (c := c.sent) made outer rule mem
    rcases here with rfl | rfl
    · exact none.1
    · exact none.2

/-- The conditions of what is sent can be read. -/
theorem unreadAt?_sent (c : Context) {x x' : Site} (site : SentSite x x') (scope : Scope) :
    unreadAt? c.sent ⟨scope, x'⟩ = unreadAt? c ⟨scope, x⟩ := by
  cases site with
  | other => cases x <;> first | rfl | contradiction
  | operation index o =>
    unfold unreadAt?
    dsimp only
    rw [topFields_sent]
    cases topFields c o <;> rfl
  | _ => rfl

end QueryShape.Validation
