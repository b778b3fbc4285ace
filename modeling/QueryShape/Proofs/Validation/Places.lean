import QueryShape.Proofs.Document.Typename
import QueryShape.Validation.Check

/-!
# The places of a document that asks for type names

A document has all its places when it is sent, in the same order and with the same scopes. New are
the places of the type names that are asked for in addition.

* `SentVisits`: the places of one list are those of the other as they are sent, with new ones
  between them.
* `sentVisits_visits`: so are the places of a document.
-/

namespace QueryShape.Validation

open Document

/-! ## Places as they are sent -/

/-- The place has selections in it, or belongs to what has. -/
def Site.holdsSelections : Site → Bool
  | .operation .. | .operationEnd _ | .fragment .. | .selectionSet .. | .field .. => true
  | _ => false

/-- The second site is the first as it is sent. -/
inductive SentSite : Site → Site → Prop
  | other {x : Site} (other : x.holdsSelections = false) : SentSite x x
  | operation (index : Nat) (o : Operation) :
      SentSite (.operation index o) (.operation index (sentOperation o))
  | operationEnd (o : Operation) : SentSite (.operationEnd o) (.operationEnd (sentOperation o))
  | fragment (index : Nat) (f : Fragment) :
      SentSite (.fragment index f) (.fragment index (sentFragment f))
  | field (f : Field) (selections : List Selection) :
      SentSite (.field f selections) (.field f (sentUnder selections))
  | set (path : List Nat) (selections : List Selection) :
      SentSite (.selectionSet path selections) (.selectionSet path (addTypenames selections))
  | setUnder (path : List Nat) (selections : List Selection) :
      SentSite (.selectionSet path selections) (.selectionSet path (sentUnder selections))

/-- The field that is added. -/
def typenameHead : Field := { name := typenameField }

/-- The second places are the first as they are sent, with those of new type names. -/
inductive SentVisits (s : Schema) : List Visit → List Visit → Prop
  | nil : SentVisits s [] []
  | kept {scope : Scope} {x x' : Site} {places sent : List Visit} (site : SentSite x x')
      (rest : SentVisits s places sent) :
      SentVisits s (⟨scope, x⟩ :: places) (⟨scope, x'⟩ :: sent)
  | added {scope : Scope} {places sent : List Visit} (rest : SentVisits s places sent) :
      SentVisits s places (⟨(scope.selecting s).onField s typenameHead, .field typenameHead []⟩ ::
        ⟨(scope.selecting s).onField s typenameHead, .fieldEnd typenameHead⟩ :: sent)

variable {s : Schema} {places sent rest restSent : List Visit} {c : Scope} {path : List Nat}

theorem SentVisits.append (h : SentVisits s places sent) (h' : SentVisits s rest restSent) :
    SentVisits s (places ++ rest) (sent ++ restSent) := by
  induction h with
  | nil => exact h'
  | kept site _ ih => exact .kept site ih
  | added _ ih => exact .added ih

/-! ## Places without selections -/

/-- No place of the list holds selections. -/
def HoldsNone (places : List Visit) : Prop := ∀ v ∈ places, v.site.holdsSelections = false

theorem HoldsNone.sentVisits (h : HoldsNone places) : SentVisits s places places := by
  induction places with
  | nil => exact .nil
  | cons v rest ih =>
    obtain ⟨here, others⟩ := List.forall_mem_cons.mp h
    exact .kept (.other here) (ih others)

theorem holdsNone_nil : HoldsNone [] := fun _ h => absurd h List.not_mem_nil

theorem HoldsNone.cons {v : Visit} (here : v.site.holdsSelections = false) (h : HoldsNone places) :
    HoldsNone (v :: places) := List.forall_mem_cons.mpr ⟨here, h⟩

theorem HoldsNone.append (h : HoldsNone places) (h' : HoldsNone rest) :
    HoldsNone (places ++ rest) := List.forall_mem_append.mpr ⟨h, h'⟩

theorem holdsNone_flatMap {items : List α} {f : α → List Visit}
    (each : ∀ a ∈ items, HoldsNone (f a)) : HoldsNone (items.flatMap f) := by
  intro v hv
  obtain ⟨a, ha, hv⟩ := List.mem_flatMap.mp hv
  exact each a ha v hv

theorem holdsNone_map {items : List α} {f : α → Visit}
    (each : ∀ a ∈ items, (f a).site.holdsSelections = false) : HoldsNone (items.map f) := by
  intro v hv
  obtain ⟨a, ha, rfl⟩ := List.mem_map.mp hv
  exact each a ha

mutual

theorem holdsNone_valueVisits (s : Schema) (c : Scope) (value : Value) :
    HoldsNone (valueVisits s c value) := by
  cases value with
  | list items =>
    rw [valueVisits]
    exact (holdsNone_itemVisits s _ items).cons rfl
  | object fields =>
    rw [valueVisits]
    exact (holdsNone_fieldVisits s _ [] fields).cons rfl
  | _ => exact holdsNone_nil.cons rfl

theorem holdsNone_itemVisits (s : Schema) (c : Scope) (items : List Value) :
    HoldsNone (itemVisits s c items) := by
  cases items with
  | nil => exact holdsNone_nil
  | cons first rest =>
    rw [itemVisits]
    exact (holdsNone_valueVisits s c first).append (holdsNone_itemVisits s c rest)

theorem holdsNone_fieldVisits (s : Schema) (c : Scope) (earlier : List String)
    (fields : List (String × Value)) : HoldsNone (fieldVisits s c earlier fields) := by
  cases fields with
  | nil => exact holdsNone_nil
  | cons first rest =>
    obtain ⟨key, value⟩ := first
    rw [fieldVisits]
    exact ((holdsNone_valueVisits s _ value).append
      (holdsNone_fieldVisits s c (key :: earlier) rest)).cons rfl

end

theorem holdsNone_argumentVisits (s : Schema) (c : Scope) (a : Argument) :
    HoldsNone (argumentVisits s c a) := (holdsNone_valueVisits s _ a.value).cons rfl

theorem holdsNone_directiveVisits (s : Schema) (c : Scope) (place : String)
    (directives : List Directive) : HoldsNone (directiveVisits s c place directives) :=
  holdsNone_flatMap fun _ _ => HoldsNone.cons rfl <|
    (holdsNone_flatMap fun a _ => holdsNone_argumentVisits s _ a).append (holdsNone_nil.cons rfl)

theorem holdsNone_variableVisits (s : Schema) (c : Scope) (v : Variable) :
    HoldsNone (variableVisits s c v) := by
  unfold variableVisits
  exact (((holdsNone_nil.cons rfl).cons rfl).append
    (holdsNone_flatMap fun value _ => holdsNone_valueVisits s _ value)).append
    (holdsNone_directiveVisits s _ _ v.directives)

theorem holdsNone_inputValueVisits (s : Schema) (place : String) (v : InputValue) :
    HoldsNone (inputValueVisits s place v) :=
  HoldsNone.cons rfl <| HoldsNone.cons rfl <|
    (holdsNone_flatMap fun value _ => holdsNone_valueVisits s _ value).append
      (holdsNone_directiveVisits s _ _ v.directives)

theorem holdsNone_fieldDefinitionVisits (s : Schema) (f : FieldDefinition) :
    HoldsNone (fieldDefinitionVisits s f) :=
  HoldsNone.cons rfl <| (holdsNone_flatMap fun v _ => holdsNone_inputValueVisits s _ v).append <|
    HoldsNone.cons rfl (holdsNone_directiveVisits s _ _ f.directives)

theorem holdsNone_typeVisits (s : Schema) (earlier : List String) (t : TypeDefinition) :
    HoldsNone (typeVisits s earlier t) := by
  unfold typeVisits
  have directives := holdsNone_directiveVisits s definitionScope (typePlace t.body) t.directives
  have names (types : List String) :
      HoldsNone (types.map fun n => typeNameVisit (.named n)) := holdsNone_map fun _ _ => rfl
  have fields (list : List FieldDefinition) : HoldsNone (list.flatMap (fieldDefinitionVisits s)) :=
    holdsNone_flatMap fun f _ => holdsNone_fieldDefinitionVisits s f
  refine HoldsNone.cons rfl ?_
  dsimp only
  split
  · exact directives
  · exact ((names _).append directives).append (fields _)
  · exact ((names _).append directives).append (fields _)
  · exact directives.append (names _)
  · exact directives.append (holdsNone_flatMap fun v _ =>
      HoldsNone.cons rfl (holdsNone_directiveVisits s _ _ v.directives))
  · exact directives.append (holdsNone_flatMap fun v _ => holdsNone_inputValueVisits s _ v)

theorem holdsNone_schemaVisits (s : Schema) (earlier : List String) (d : SchemaDefinition) :
    HoldsNone (schemaVisits s earlier d) :=
  HoldsNone.cons rfl <| (holdsNone_directiveVisits s _ _ d.directives).append
    (holdsNone_map fun _ _ => rfl)

/-! ## Selections -/

theorem selectionListVisits_append (s : Schema) (c : Scope) (path : List Nat) (position : Nat)
    (first rest : List Selection) : selectionListVisits s c path position (first ++ rest) =
      selectionListVisits s c path position first ++
        selectionListVisits s c path (position + first.length) rest := by
  induction first generalizing position with
  | nil => simp [selectionListVisits]
  | cons a first ih =>
    rw [List.cons_append, selectionListVisits, selectionListVisits, ih, List.append_assoc,
      List.length_cons, Nat.add_assoc, Nat.add_comm 1]

/-- The places of a selection set are its own and those of its selections. -/
theorem selectionSetVisits_eq {selections : List Selection} (some : selections ≠ []) (s : Schema)
    (c : Scope) (path : List Nat) : selectionSetVisits s c path selections =
      ⟨c.selecting s, .selectionSet path selections⟩ ::
        selectionListVisits s (c.selecting s) path 0 selections := by
  cases selections with
  | nil => exact absurd rfl some
  | cons first rest => rw [selectionSetVisits, selectionListVisits]

/-- The places of a type name that is added to a selection set. -/
theorem sentVisits_missingTypename (s : Schema) (c : Scope) (path : List Nat) (position : Nat)
    (selections : List Selection) : SentVisits s []
      (selectionListVisits s (c.selecting s) path position (missingTypename selections)) := by
  unfold missingTypename
  split
  · rw [selectionListVisits]
    exact .nil
  · rw [selectionListVisits, selectionListVisits, typenameSelection, selectionVisits,
      selectionSetVisits]
    exact .added .nil

mutual

theorem sentVisits_selection (s : Schema) (c : Scope) (path : List Nat) (a : Selection) :
    SentVisits s (selectionVisits s c path a) (selectionVisits s c path a.addTypename) := by
  cases a with
  | field f inner =>
    rw [addTypename_field, selectionVisits, selectionVisits]
    have before := (holdsNone_flatMap fun a (_ : a ∈ f.arguments) =>
      holdsNone_argumentVisits s (c.onField s f) a).append
      (holdsNone_directiveVisits s (c.onField s f) "FIELD" f.directives)
    exact .kept (.field f inner) ((before.sentVisits.append
      (sentVisits_under s (c.onField s f) path inner)).append (holdsNone_nil.cons rfl).sentVisits)
  | spread fragment directives =>
    rw [Selection.addTypename, selectionVisits]
    exact ((holdsNone_directiveVisits s c _ directives).cons rfl).sentVisits
  | inline condition? directives inner =>
    rw [Selection.addTypename, selectionVisits, selectionVisits]
    have before : HoldsNone
        (condition?.toList.map (⟨c.onInline s condition?, .typeName ·⟩) ++
          directiveVisits s (c.onInline s condition?) "INLINE_FRAGMENT" directives) :=
      (holdsNone_map fun _ _ => rfl).append (holdsNone_directiveVisits s _ _ directives)
    exact .kept (.other rfl) (before.sentVisits.append
      (sentVisits_set s (c.onInline s condition?) path inner))

theorem sentVisits_list (s : Schema) (c : Scope) (path : List Nat) (position : Nat)
    (selections : List Selection) : SentVisits s (selectionListVisits s c path position selections)
      (selectionListVisits s c path position (addTypenames selections)) := by
  cases selections with
  | nil =>
    rw [addTypenames, selectionListVisits]
    exact .nil
  | cons first rest =>
    rw [addTypenames, selectionListVisits, selectionListVisits]
    exact (sentVisits_selection s c (position :: path) first).append
      (sentVisits_list s c path (position + 1) rest)

theorem sentVisits_set (s : Schema) (c : Scope) (path : List Nat) (selections : List Selection) :
    SentVisits s (selectionSetVisits s c path selections)
      (selectionSetVisits s c path (addTypenames selections)) := by
  cases selections with
  | nil =>
    rw [addTypenames, selectionSetVisits]
    exact .nil
  | cons first rest =>
    have sent := SentSite.set path (first :: rest)
    rw [addTypenames] at sent ⊢
    rw [selectionSetVisits, selectionSetVisits]
    exact .kept sent ((sentVisits_selection s (c.selecting s) (0 :: path) first).append
      (sentVisits_list s (c.selecting s) path 1 rest))

theorem sentVisits_under (s : Schema) (c : Scope) (path : List Nat) (selections : List Selection) :
    SentVisits s (selectionSetVisits s c path selections)
      (selectionSetVisits s c path (sentUnder selections)) := by
  cases selections with
  | nil =>
    rw [sentUnder_nil, selectionSetVisits]
    exact .nil
  | cons first rest =>
    have some : first :: rest ≠ [] := List.cons_ne_nil first rest
    have sent := SentSite.setUnder path (first :: rest)
    rw [selectionSetVisits_eq some, selectionSetVisits_eq (fun h => some (sentUnder_eq_nil.mp h))]
    refine .kept sent ?_
    rw [sentUnder_eq some, selectionListVisits_append, addTypenames, selectionListVisits,
      selectionListVisits]
    have each := (sentVisits_selection s (c.selecting s) (0 :: path) first).append
      (sentVisits_list s (c.selecting s) path (0 + 1) rest)
    have all := each.append (sentVisits_missingTypename s c path
      (0 + (first.addTypename :: addTypenames rest).length) (first :: rest))
    rwa [List.append_nil] at all

end

/-! ## Documents -/

theorem sentVisits_operationBody (s : Schema) (index : Nat) (o : Operation) :
    SentVisits s (operationBodyVisits s index o) (operationBodyVisits s index (sentOperation o)) :=
  (holdsNone_directiveVisits s (operationScope s o) _ o.directives).sentVisits.append
    (sentVisits_set s (operationScope s o) [index] o.selections)

theorem sentVisits_operation (s : Schema) (index : Nat) (o : Operation) :
    SentVisits s (operationVisits s index o) (operationVisits s index (sentOperation o)) := by
  have parameters : HoldsNone (o.parameters.flatMap (variableVisits s (operationScope s o))) :=
    holdsNone_flatMap fun v _ => holdsNone_variableVisits s _ v
  exact .kept (.operation index o) ((parameters.sentVisits.append
    (sentVisits_operationBody s index o)).append (.kept (.operationEnd o) .nil))

theorem sentVisits_fragment (s : Schema) (index : Nat) (f : Fragment) :
    SentVisits s (fragmentVisits s index f) (fragmentVisits s index (sentFragment f)) :=
  .kept (.fragment index f) <| .kept (.other rfl) <|
    (holdsNone_directiveVisits s _ _ f.directives).sentVisits.append
      (sentVisits_set s _ [index] f.selections)

theorem directivesOn_addTypename (document : Document) (type? : Option String) :
    directivesOn (addTypename document) type? = directivesOn document type? := by
  unfold directivesOn addTypename
  rw [List.flatMap_map]
  refine List.flatMap_congr fun d _ => ?_
  cases d <;> rfl

theorem sentVisits_definition (s : Schema) (before : Document) (index : Nat) (d : Definition) :
    SentVisits s (definitionVisits s before index d)
      (definitionVisits s (addTypename before) index d.addTypename) := by
  cases d with
  | operation o => exact sentVisits_operation s index o
  | fragment f => exact sentVisits_fragment s index f
  | schema d =>
    change SentVisits s (schemaVisits s (directivesOn before none) d)
      (schemaVisits s (directivesOn (addTypename before) none) d)
    rw [directivesOn_addTypename]
    exact (holdsNone_schemaVisits s _ d).sentVisits
  | type t =>
    change SentVisits s (typeVisits s (directivesOn before (some t.name)) t)
      (typeVisits s (directivesOn (addTypename before) (some t.name)) t)
    rw [directivesOn_addTypename]
    exact (holdsNone_typeVisits s _ t).sentVisits
  | directive d =>
    exact (holdsNone_flatMap fun v _ => holdsNone_inputValueVisits s _ v).sentVisits

theorem sentVisits_definitions (s : Schema) (before : Document) (index : Nat)
    (document : Document) : SentVisits s (definitionListVisits s before index document)
      (definitionListVisits s (addTypename before) index (addTypename document)) := by
  induction document generalizing before index with
  | nil => exact .nil
  | cons d rest ih =>
    have split : addTypename (before ++ [d]) = addTypename before ++ [d.addTypename] :=
      List.map_append
    exact (sentVisits_definition s before index d).append (split ▸ ih (before ++ [d]) (index + 1))

/-- **A document has its places when it is sent**, and those of new type names. -/
theorem sentVisits_visits (s : Schema) (document : Document) :
    SentVisits s (visits s document) (visits s (addTypename document)) :=
  .kept (.other rfl) <|
    (sentVisits_definitions s [] 0 document).append (.kept (.other rfl) .nil)

/-! ## What is the same -/

/-- A place that is sent is one of the others, or that of a new type name. -/
theorem SentVisits.exists_of_mem (h : SentVisits s places sent) {v : Visit} (mem : v ∈ sent) :
    (∃ x, ⟨v.scope, x⟩ ∈ places ∧ SentSite x v.site) ∨
      ∃ scope : Scope, v.scope = (scope.selecting s).onField s typenameHead ∧
        (v.site = .field typenameHead [] ∨ v.site = .fieldEnd typenameHead) := by
  induction h with
  | nil => exact absurd mem List.not_mem_nil
  | kept site _ ih =>
    rcases List.mem_cons.mp mem with rfl | mem
    · exact Or.inl ⟨_, List.mem_cons_self, site⟩
    · exact (ih mem).imp_left fun ⟨x, hx, sent⟩ => ⟨x, List.mem_cons_of_mem _ hx, sent⟩
  | @added scope _ _ _ ih =>
    rcases List.mem_cons.mp mem with rfl | mem
    · exact Or.inr ⟨scope, rfl, Or.inl rfl⟩
    · rcases List.mem_cons.mp mem with rfl | mem
      · exact Or.inr ⟨scope, rfl, Or.inr rfl⟩
      · exact ih mem

/-- New type names begin no levels. -/
theorem SentVisits.comparisonLimit_eq (h : SentVisits s places sent) :
    comparisonLimit sent = comparisonLimit places := by
  have same : sent.countP beginsLevel = places.countP beginsLevel := by
    induction h with
    | nil => rfl
    | @kept scope x x' _ _ site _ ih =>
      have here : beginsLevel ⟨scope, x'⟩ = beginsLevel ⟨scope, x⟩ := by cases site <;> rfl
      rw [List.countP_cons, List.countP_cons, ih, here]
    | added _ ih => simpa [List.countP_cons, beginsLevel] using ih
  unfold comparisonLimit
  rw [same]

/-- New type names use no variables. -/
theorem SentVisits.uses_eq (h : SentVisits s places sent) :
    sent.filterMap useAt? = places.filterMap useAt? := by
  induction h with
  | nil => rfl
  | @kept scope x x' _ _ site _ ih =>
    have here : useAt? ⟨scope, x'⟩ = useAt? ⟨scope, x⟩ := by cases site <;> rfl
    rw [List.filterMap_cons, List.filterMap_cons, here, ih]
  | added _ ih => simpa [List.filterMap_cons, useAt?] using ih

end QueryShape.Validation
