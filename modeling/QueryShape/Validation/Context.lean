import QueryShape.Validation.Visit

/-!
# What rules know of a document

A rule looks at one place of a document and at the document around it: its fragments by name, the
fragments that an operation reaches, and the uses of variables under way.

Fragments are reached through the spreads of a selection set. Those of the set itself come first,
then those of the sets inside it, the last of these first.
-/

namespace QueryShape.Validation

open Document

/-- A document that is being checked against a schema. -/
structure Context where
  schema : Schema
  document : Document

/-- A rule: its complaints about a place. -/
abbrev Rule := Context → Visit → List String

namespace Context

/-- The fragment with a name, the last if there are several. -/
def fragment? (c : Context) (name : String) : Option Fragment :=
  (fragments c.document).reverse.find? (·.name == name)

end Context

/-! ## Spreads -/

/-- The fragment that a selection spreads. -/
def spreadOf? : Selection → Option String
  | .spread fragment _ => some fragment
  | _ => none

mutual

/-- The fragments spread in the selection sets inside a selection. -/
def spreadsInside : Selection → List String
  | .field _ selections => spreads selections
  | .spread .. => []
  | .inline _ _ selections => spreads selections

/-- The fragments spread in a selection set and the sets inside it. -/
def spreads (selections : List Selection) : List String :=
  selections.filterMap spreadOf? ++ spreadsOfRest selections

/-- The fragments spread in the sets inside the selections, the last selection first. -/
def spreadsOfRest : List Selection → List String
  | [] => []
  | selection :: rest => spreadsOfRest rest ++ spreadsInside selection

end

/-- The fragments reached from the sets still to be visited, the last of these first. Each fragment
is visited once, so there are no more steps than fragments and sets to begin with. -/
def reachedFrom (c : Context) : (limit : Nat) → (seen : List String) →
    (pending : List (List Selection)) → List Fragment
  | 0, _, _ => []
  | _, _, [] => []
  | limit + 1, seen, selections :: pending =>
    let new := ((spreads selections).eraseDups).filter (!seen.contains ·)
    let found := new.filterMap c.fragment?
    found ++ reachedFrom c limit (seen ++ new) ((found.map (·.selections)).reverse ++ pending)

/-- The fragments that a selection set reaches. -/
def reachedFragments (c : Context) (selections : List Selection) : List Fragment :=
  reachedFrom c ((fragments c.document).length + 1) [] [selections]

/-! ## Uses of variables -/

/-- A use of a variable: where the value of a type is expected. -/
structure VariableUse where
  name : String
  type? : Option TypeRef
  outer? : Option TypeRef
  hasDefault : Bool

/-- The use of a variable that a place is. -/
def useAt? (v : Visit) : Option VariableUse :=
  match v.site with
  | .value (.variable name) =>
    some ⟨name, v.scope.input?, v.scope.outerInput?, v.scope.hasDefault⟩
  | _ => none

/-- The uses of variables in an operation and the fragments it reaches. -/
def variableUses (c : Context) (o : Operation) : List VariableUse :=
  (operationBodyVisits c.schema 0 o ++
    (reachedFragments c o.selections).flatMap (fragmentVisits c.schema 0)).filterMap useAt?

/-- The first members of groups of equal ones that have more than one. -/
def repeated (names : List String) : List String :=
  names.eraseDups.filter fun n => 1 < names.count n

/-- The words after a complaint about an operation, if it has a name. -/
def inOperation (words : String) (o : Operation) : String :=
  match o.name? with
  | some name => words ++ "'" ++ name ++ "'."
  | none => "."

end QueryShape.Validation
