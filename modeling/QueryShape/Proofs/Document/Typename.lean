import Mathlib.Data.List.Forall2
import QueryShape.Document.Typename

/-!
# Documents that ask for type names

What asking for type names does to the parts of a document.

* `field_of_mem_addTypenames` and the theorems next to it: what is sent, selection by selection.
* `operations_addTypename`, `fragments_addTypename`: the operations and fragments that are sent.
* `addTypename_addTypename`: a document that asks for type names already stays as it is.
* `appends_addTypename`: nothing else is changed than `Appends` says.
-/

namespace QueryShape.Document

/-! ## What is sent -/

/-- The selections under a field as they are sent. -/
def sentUnder : List Selection → List Selection
  | [] => []
  | first :: rest => withTypename (addTypenames (first :: rest))

theorem addTypename_field (f : Field) (inner : List Selection) :
    (Selection.field f inner).addTypename = .field f (sentUnder inner) := by
  cases inner with
  | nil => rw [Selection.addTypename, sentUnder]
  | cons first rest => rw [Selection.addTypename, sentUnder]

theorem mem_addTypenames {a : Selection} {selections : List Selection} (h : a ∈ selections) :
    a.addTypename ∈ addTypenames selections := by
  induction selections with
  | nil => exact absurd h List.not_mem_nil
  | cons first rest ih =>
    unfold addTypenames
    rcases List.mem_cons.mp h with rfl | h
    · exact List.mem_cons_self
    · exact List.mem_cons_of_mem _ (ih h)

theorem exists_of_mem_addTypenames {a : Selection} {selections : List Selection}
    (h : a ∈ addTypenames selections) : ∃ b ∈ selections, a = b.addTypename := by
  induction selections with
  | nil =>
    unfold addTypenames at h
    exact absurd h List.not_mem_nil
  | cons first rest ih =>
    unfold addTypenames at h
    rcases List.mem_cons.mp h with rfl | h
    · exact ⟨first, List.mem_cons_self, rfl⟩
    · obtain ⟨b, mem, eq⟩ := ih h
      exact ⟨b, List.mem_cons_of_mem _ mem, eq⟩

/-- A field that is sent is one of the selections. -/
theorem field_of_mem_addTypenames {f : Field} {under selections : List Selection}
    (h : .field f under ∈ addTypenames selections) :
    ∃ inner, .field f inner ∈ selections ∧ under = sentUnder inner := by
  obtain ⟨b, mem, eq⟩ := exists_of_mem_addTypenames h
  cases b with
  | field f' inner =>
    rw [addTypename_field] at eq
    cases eq
    exact ⟨inner, mem, rfl⟩
  | inline => cases eq
  | spread => cases eq

theorem inline_of_mem_addTypenames {condition? : Option String} {directives : List Directive}
    {under selections : List Selection}
    (h : .inline condition? directives under ∈ addTypenames selections) :
    ∃ inner, .inline condition? directives inner ∈ selections ∧ under = addTypenames inner := by
  obtain ⟨b, mem, eq⟩ := exists_of_mem_addTypenames h
  cases b with
  | field f inner =>
    rw [addTypename_field] at eq
    cases eq
  | inline condition? directives inner =>
    cases eq
    exact ⟨inner, mem, rfl⟩
  | spread => cases eq

theorem spread_of_mem_addTypenames {name : String} {directives : List Directive}
    {selections : List Selection} (h : .spread name directives ∈ addTypenames selections) :
    .spread name directives ∈ selections := by
  obtain ⟨b, mem, eq⟩ := exists_of_mem_addTypenames h
  cases b with
  | field f inner =>
    rw [addTypename_field] at eq
    cases eq
  | inline => cases eq
  | spread =>
    cases eq
    exact mem

/-- A fragment as it is sent. -/
def sentFragment (f : Fragment) : Fragment := { f with selections := addTypenames f.selections }

/-- An operation as it is sent. -/
def sentOperation (o : Operation) : Operation :=
  { o with selections := addTypenames o.selections }

theorem operations_addTypename (document : Document) :
    operations (addTypename document) = (operations document).map sentOperation := by
  unfold operations addTypename
  rw [List.filterMap_map, List.map_filterMap]
  refine List.filterMap_congr fun a _ => ?_
  cases a <;> rfl

theorem fragments_addTypename (document : Document) :
    fragments (addTypename document) = (fragments document).map sentFragment := by
  unfold fragments addTypename
  rw [List.filterMap_map, List.map_filterMap]
  refine List.filterMap_congr fun a _ => ?_
  cases a <;> rfl

/-- A fragment is found among those that are sent as before. -/
theorem find?_sentFragment (list : List Fragment) (name : String) :
    (list.map sentFragment).reverse.find? (·.name == name) =
      (list.reverse.find? (·.name == name)).map sentFragment := by
  rw [← List.map_reverse, List.find?_map]
  rfl

/-! ## Plain type names -/

/-- What asks for the type name under its plain key has that key. -/
theorem responseKey_of_isPlainTypename {f : Field} (plain : f.isPlainTypename = true) :
    f.responseKey = typenameField := by
  unfold Field.isPlainTypename at plain
  rw [Bool.and_eq_true, Option.isNone_iff_eq_none, beq_iff_eq] at plain
  unfold Field.responseKey
  rw [plain.1]
  exact plain.2

theorem addTypenames_eq_map (selections : List Selection) :
    addTypenames selections = selections.map Selection.addTypename := by
  induction selections with
  | nil => rw [addTypenames, List.map_nil]
  | cons first rest ih => rw [addTypenames, List.map_cons, ih]

theorem isPlainTypename_addTypename (a : Selection) :
    a.addTypename.isPlainTypename = a.isPlainTypename := by
  cases a with
  | field f inner =>
    rw [addTypename_field]
    rfl
  | spread => rfl
  | inline => rfl

theorem any_isPlainTypename_addTypenames (selections : List Selection) :
    (addTypenames selections).any Selection.isPlainTypename =
      selections.any Selection.isPlainTypename := by
  rw [addTypenames_eq_map, List.any_map]
  exact congrArg (selections.any ·) (funext isPlainTypename_addTypename)

/-- What is added to a selection set under a field. -/
def missingTypename (selections : List Selection) : List Selection :=
  if selections.any Selection.isPlainTypename then [] else [typenameSelection]

/-- A selection set under a field is sent with the type name last, unless it is asked for. -/
theorem sentUnder_eq {selections : List Selection} (some : selections ≠ []) :
    sentUnder selections = addTypenames selections ++ missingTypename selections := by
  cases selections with
  | nil => exact absurd rfl some
  | cons first rest =>
    rw [sentUnder, withTypename, missingTypename, any_isPlainTypename_addTypenames]
    split
    · exact (List.append_nil _).symm
    · rfl

@[simp]
theorem sentUnder_nil : sentUnder [] = [] := rfl

@[simp]
theorem sentUnder_eq_nil {selections : List Selection} :
    sentUnder selections = [] ↔ selections = [] := by
  constructor
  · intro h
    by_contra some
    rw [sentUnder_eq some, addTypenames_eq_map, List.append_eq_nil_iff, List.map_eq_nil_iff] at h
    exact some h.1
  · rintro rfl
    rfl

theorem isEmpty_sentUnder (selections : List Selection) :
    (sentUnder selections).isEmpty = selections.isEmpty := by
  rw [Bool.eq_iff_iff, List.isEmpty_iff, List.isEmpty_iff, sentUnder_eq_nil]

/-- What is sent asks for the type name under every field. -/
theorem any_isPlainTypename_sentUnder {selections : List Selection} (some : selections ≠ []) :
    (sentUnder selections).any Selection.isPlainTypename = true := by
  rw [sentUnder_eq some, List.any_append, any_isPlainTypename_addTypenames]
  unfold missingTypename
  by_cases asked : selections.any Selection.isPlainTypename = true
  · rw [asked, Bool.true_or]
  · rw [if_neg asked]
    exact Bool.or_eq_true_iff.mpr (Or.inr rfl)

/-! ## Sending what is sent -/

theorem addTypename_typenameSelection : typenameSelection.addTypename = typenameSelection := by
  unfold typenameSelection
  rw [addTypename_field, sentUnder_nil]

theorem addTypenames_append (first rest : List Selection) :
    addTypenames (first ++ rest) = addTypenames first ++ addTypenames rest := by
  rw [addTypenames_eq_map, addTypenames_eq_map, addTypenames_eq_map, List.map_append]

theorem addTypenames_missingTypename (selections : List Selection) :
    addTypenames (missingTypename selections) = missingTypename selections := by
  unfold missingTypename
  split
  · rw [addTypenames]
  · rw [addTypenames, addTypenames, addTypename_typenameSelection]

/-- Selections that stay as they are, stay so under a field as well, once the type name is there. -/
theorem sentUnder_sentUnder {selections : List Selection}
    (stays : addTypenames (addTypenames selections) = addTypenames selections) :
    sentUnder (sentUnder selections) = sentUnder selections := by
  by_cases none : selections = []
  · rw [none, sentUnder_nil, sentUnder_nil]
  · have some : sentUnder selections ≠ [] := fun h => none (sentUnder_eq_nil.mp h)
    have asked : missingTypename (sentUnder selections) = [] :=
      if_pos (any_isPlainTypename_sentUnder none)
    rw [sentUnder_eq some, asked, List.append_nil, sentUnder_eq none, addTypenames_append, stays,
      addTypenames_missingTypename]

mutual

theorem addTypename_addTypename_selection (a : Selection) :
    a.addTypename.addTypename = a.addTypename := by
  cases a with
  | field f inner =>
    rw [addTypename_field, addTypename_field,
      sentUnder_sentUnder (addTypenames_addTypenames inner)]
  | spread => rfl
  | inline condition? directives inner =>
    rw [Selection.addTypename, Selection.addTypename, addTypenames_addTypenames inner]

theorem addTypenames_addTypenames (selections : List Selection) :
    addTypenames (addTypenames selections) = addTypenames selections := by
  cases selections with
  | nil => rw [addTypenames, addTypenames]
  | cons first rest =>
    rw [addTypenames, addTypenames, addTypename_addTypename_selection first,
      addTypenames_addTypenames rest]

end

/-- **A document that asks for type names already stays as it is.** -/
theorem addTypename_addTypename (document : Document) :
    addTypename (addTypename document) = addTypename document := by
  unfold addTypename
  rw [List.map_map]
  refine List.map_congr_left fun d _ => ?_
  cases d with
  | operation o => exact congrArg _ (congrArg _ (addTypenames_addTypenames o.selections))
  | fragment f => exact congrArg _ (congrArg _ (addTypenames_addTypenames f.selections))
  | schema | type | directive => rfl

/-! ## Nothing else -/

mutual

/-- The second selection is the first, with the type name at the end of every selection set that
belongs to a field and does not ask for it itself. -/
inductive AppendsSelection : Selection → Selection → Prop
  | leaf (f : Field) : AppendsSelection (.field f []) (.field f [])
  | field {f : Field} {inner inner' : List Selection} (some : inner ≠ [])
      (each : AppendsEach inner inner') :
      AppendsSelection (.field f inner) (.field f (inner' ++ missingTypename inner))
  | spread (fragment : String) (directives : List Directive) :
      AppendsSelection (.spread fragment directives) (.spread fragment directives)
  | inline {condition? : Option String} {directives : List Directive}
      {inner inner' : List Selection} (each : AppendsEach inner inner') :
      AppendsSelection (.inline condition? directives inner)
        (.inline condition? directives inner')

/-- So are the selections, one by one. -/
inductive AppendsEach : List Selection → List Selection → Prop
  | nil : AppendsEach [] []
  | cons {a a' : Selection} {rest rest' : List Selection} (first : AppendsSelection a a')
      (others : AppendsEach rest rest') : AppendsEach (a :: rest) (a' :: rest')

end

/-- Type names are appended in operations and fragments, and all else is the same. -/
inductive AppendsDefinition : Definition → Definition → Prop
  | operation {o : Operation} {selections : List Selection}
      (each : AppendsEach o.selections selections) :
      AppendsDefinition (.operation o) (.operation { o with selections })
  | fragment {f : Fragment} {selections : List Selection}
      (each : AppendsEach f.selections selections) :
      AppendsDefinition (.fragment f) (.fragment { f with selections })
  | schema (d : SchemaDefinition) : AppendsDefinition (.schema d) (.schema d)
  | type (t : TypeDefinition) : AppendsDefinition (.type t) (.type t)
  | directive (d : DirectiveDefinition) : AppendsDefinition (.directive d) (.directive d)

/-- The second document is the first, with the type name at the end of every selection set that
belongs to a field and does not ask for it itself. -/
def Appends (document document' : Document) : Prop :=
  List.Forall₂ AppendsDefinition document document'

mutual

theorem appends_selection (a : Selection) : AppendsSelection a a.addTypename := by
  cases a with
  | field f inner =>
    rw [addTypename_field]
    by_cases none : inner = []
    · rw [none, sentUnder_nil]
      exact .leaf f
    · rw [sentUnder_eq none]
      exact .field none (appends_each inner)
  | spread fragment directives => exact .spread fragment directives
  | inline condition? directives inner =>
    rw [Selection.addTypename]
    exact .inline (appends_each inner)

theorem appends_each (selections : List Selection) :
    AppendsEach selections (addTypenames selections) := by
  cases selections with
  | nil =>
    rw [addTypenames]
    exact .nil
  | cons first rest =>
    rw [addTypenames]
    exact .cons (appends_selection first) (appends_each rest)

end

/-- **Type names are put at the end of selection sets, and nothing else is changed.** -/
theorem appends_addTypename (document : Document) :
    Appends document (addTypename document) := by
  unfold Appends addTypename
  rw [List.forall₂_map_right_iff, List.forall₂_same]
  intro d _
  cases d with
  | operation o => exact .operation (appends_each o.selections)
  | fragment f => exact .fragment (appends_each f.selections)
  | schema d => exact .schema d
  | type t => exact .type t
  | directive d => exact .directive d

end QueryShape.Document
