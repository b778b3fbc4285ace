import QueryShape.Document.Printer
import QueryShape.Validation.Context
import QueryShape.Validation.Suggestion

/-!
# Rules of operations and variables

What can stand in a document of operations, how operations are told apart, and how their variables
are declared and used.
-/

namespace QueryShape.Validation

open Document

/-! ## Definitions and operations -/

/-- All definitions are operations or fragments. -/
def executableDefinitions : Rule := fun c v =>
  match v.site with
  | .documentStart =>
    c.document.filterMap fun
      | .schema _ => some "The schema definition is not executable."
      | .type t => some ("The '" ++ t.name ++ "' definition is not executable.")
      | .directive d => some ("The '" ++ d.name ++ "' definition is not executable.")
      | _ => none
  | _ => []

/-- No two operations have one name. -/
def uniqueOperationNames : Rule := fun c v =>
  match v.site with
  | .operation index o =>
    match o.name? with
    | some name =>
      if (operations (c.document.take index)).any (·.name? == some name) then
        ["There can be only one operation named '" ++ name ++ "'."]
      else []
    | none => []
  | _ => []

/-- A nameless operation stands alone. -/
def loneAnonymousOperation : Rule := fun c v =>
  match v.site with
  | .operation _ o =>
    if o.name?.isNone && 1 < (operations c.document).length then
      ["This anonymous operation must be the only defined operation."]
    else []
  | _ => []

/-! ## Variables -/

/-- Variables have input types. -/
def variablesAreInputTypes : Rule := fun c v =>
  match v.site with
  | .variable d =>
    match c.schema.kind? d.type.bareName with
    | some kind =>
      if kind.isInput then []
      else ["Variable '$" ++ d.name ++ "' cannot be non-input type '" ++ d.type.text ++ "'."]
    | none => []
  | _ => []

/-- No two variables of an operation have one name. -/
def uniqueVariableNames : Rule := fun _ v =>
  match v.site with
  | .operation _ o =>
    (repeated (o.parameters.map (·.name))).map fun n =>
      "There can be only one variable named '$" ++ n ++ "'."
  | _ => []

/-- Variables that are used are declared. -/
def noUndefinedVariables : Rule := fun c v =>
  match v.site with
  | .operationEnd o =>
    (variableUses c o).filterMap fun use =>
      if o.parameters.any (·.name == use.name) then none
      else some ("Variable '$" ++ use.name ++ "' is not defined" ++ inOperation " by operation " o)
  | _ => []

/-- Variables that are declared are used. -/
def noUnusedVariables : Rule := fun c v =>
  match v.site with
  | .operationEnd o =>
    let used := (variableUses c o).map (·.name)
    o.parameters.filterMap fun d =>
      if used.contains d.name then none
      else some ("Variable '$" ++ d.name ++ "' is never used" ++ inOperation " in operation " o)
  | _ => []

/-- A variable of a type can be used where another type is expected: it refines that type, or does
so where a default makes up for a missing value. -/
def allowsUse (s : Schema) (d : Variable) (expected : TypeRef) (hasDefault : Bool) : Bool :=
  match expected, Schema.isNonNull d.type with
  | .nonNull base, false =>
    (d.default?.any (!Schema.isNull ·) || hasDefault) && s.refines d.type base
  | _, _ => s.refines d.type expected

/-- The complaints about the use of a declared variable. -/
def misuses (s : Schema) (d : Variable) (use : VariableUse) (expected : TypeRef) : List String :=
  (if allowsUse s d expected use.hasDefault then []
    else ["Variable '$" ++ d.name ++ "' of type '" ++ d.type.text ++
      "' used in position expecting type '" ++ expected.text ++ "'."]) ++
  match use.outer? with
  | some outer =>
    if (s.type? outer.bareName).any (·.isOneOf) && !Schema.isNonNull d.type then
      ["Variable '$" ++ d.name ++ "' is of type '" ++ d.type.text ++
        "' but must be non-nullable to be used for OneOf Input Object '" ++ outer.bareName ++ "'."]
    else []
  | none => []

/-- Variables are used where their types are expected. -/
def variablesInAllowedPosition : Rule := fun c v =>
  match v.site with
  | .operationEnd o =>
    (variableUses c o).flatMap fun use =>
      match o.parameters.reverse.find? (·.name == use.name), use.type? with
      | some d, some expected =>
        if (resolve? c.schema d.type).isSome then misuses c.schema d use expected else []
      | _, _ => []
  | _ => []

end QueryShape.Validation
