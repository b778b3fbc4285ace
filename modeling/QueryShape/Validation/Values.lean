import QueryShape.Document.Printer
import QueryShape.Validation.Context
import QueryShape.Validation.Suggestion

/-!
# Rules of values

A value has the type that its place expects. A list or object that stands where no list or object
is expected is judged as a whole, and nothing inside it is looked at.
-/

namespace QueryShape.Validation

open Document

/-- A value as complaints show it. -/
def shownValue (value : Value) : String := .ofList (printValue value)

/-- The complaint about a value of another type than expected. -/
def otherType (expected : TypeRef) (value : Value) : String :=
  "Expected value of type '" ++ expected.text ++ "', found " ++ shownValue value ++ "."

/-- The complaint about a value that is none of a scalar or enum type. -/
def leafComplaint (t : TypeDefinition) (expected : TypeRef) (value : Value) : String :=
  match t.kind with
  | .enum =>
    match value with
    | .enum name =>
      "Value '" ++ name ++ "' does not exist in '" ++ t.name ++ "' enum." ++
        didYouMean (suggestions name t.values) "the enum value"
    | _ =>
      "Enum '" ++ t.name ++ "' cannot represent non-enum value: " ++ shownValue value ++ "." ++
        didYouMean (suggestions (shownValue value) t.values) "the enum value"
  | _ =>
    match t.name, value with
    | "Int", .int _ =>
      "Int cannot represent non 32-bit signed integer value: " ++ shownValue value
    | "Int", _ => "Int cannot represent non-integer value: " ++ shownValue value
    | "Float", _ => "Float cannot represent non numeric value: " ++ shownValue value
    | "String", _ => "String cannot represent a non string value: " ++ shownValue value
    | "Boolean", _ => "Boolean cannot represent a non boolean value: " ++ shownValue value
    | "ID", _ => "ID cannot represent a non-string and non-integer value: " ++ shownValue value
    | _, _ => otherType expected value

/-- The complaints about a value that stands where a type is expected. -/
def checkValue (s : Schema) (expected? : Option TypeRef) (value : Value) : List String :=
  match expected? with
  | none => []
  | some expected =>
    match s.type? expected.bareName with
    | some t =>
      if t.kind.isLeaf then
        if Schema.leafAdmits t value then [] else [leafComplaint t expected value]
      else [otherType expected value]
    | none => []

/-- The complaints about the fields of an input object that are not given, and about the number of
those that are where it has to be one. -/
def checkFields (s : Schema) (t : TypeDefinition) (fields : List (String × Value)) :
    List String :=
  (t.inputFields.filterMap fun f =>
    if s.isRequired f && !fields.any (·.1 == f.name) then
      some ("Field '" ++ t.name ++ "." ++ f.name ++ "' of required type '" ++ f.type.text ++
        "' was not provided.")
    else none) ++
  if t.isOneOf then
    match (fields.map (·.1)).eraseDups with
    | [key] =>
      if (fields.reverse.lookup key).any Schema.isNull then
        ["Field '" ++ t.name ++ "." ++ key ++ "' must be non-null."]
      else []
    | _ => ["OneOf Input Object '" ++ t.name ++ "' must specify exactly one key."]
  else []

/-- Values have the types that their places expect. -/
def valuesOfCorrectType : Rule := fun c v =>
  if v.scope.settled then []
  else
    match v.site with
    | .value (.variable _) => []
    | .value .null =>
      match v.scope.input? with
      | some (.nonNull base) => [otherType (.nonNull base) .null]
      | _ => []
    | .value (.list items) =>
      if isList v.scope.outerInput? then [] else checkValue c.schema v.scope.input? (.list items)
    | .value (.object fields) =>
      match v.scope.input?.bind (fun type => c.schema.type? type.bareName) with
      | some t =>
        if t.kind == .input then checkFields c.schema t fields
        else checkValue c.schema v.scope.input? (.object fields)
      | none => []
    | .value value => checkValue c.schema v.scope.input? value
    | .objectField key _ =>
      match v.scope.input?, v.scope.outerInput?.bind (fun type => c.schema.type? type.bareName) with
      | none, some t =>
        if t.kind == .input then
          ["Field '" ++ key ++ "' is not defined by type '" ++ t.name ++ "'." ++
            didYouMean (suggestions key (t.inputFields.map (·.name)))]
        else []
      | _, _ => []
    | _ => []

/-- The fields of an object value are given once. -/
def uniqueInputFieldNames : Rule := fun _ v =>
  match v.site with
  | .objectField key earlier =>
    if earlier.contains key then ["There can be only one input field named '" ++ key ++ "'."]
    else []
  | _ => []

end QueryShape.Validation
