import QueryShape.Json.Basic
import QueryShape.Schema.OfDocument

/-!
# Schemas from introspection

`Schema.ofIntrospection` makes a schema of the answer to a full introspection query. The types and
their members come in the order of the answer. Directives are those that the answer lists, and no
others.

The answer is read in this order: the types by name and kind, the roots, the directives, and then
the members of each type. What is missing first is the fault.
-/

namespace QueryShape

open Document

/-- Why an answer is no schema. -/
inductive IntrospectionFault
  /-- Something is missing that a full answer has. -/
  | incomplete
  /-- An object has no such key. -/
  | missingKey (key : String)
  /-- A value is not the object it should be. -/
  | notAnObject
  /-- A default is a text that is no value. -/
  | syntaxFault (text : String) (fault : SyntaxFault)
  deriving Repr

namespace Schema

/-- A result of reading an answer. -/
abbrev Answer := Except IntrospectionFault

/-! ## Members of objects -/

/-- The value under a key that may be absent. Null is as good as absent. -/
def optionalMember (json : Json) (key : String) : Answer (Option Json) :=
  match json with
  | .object fields =>
    match fields.lookup key with
    | some .null => .ok none
    | other => .ok other
  | _ => .error .notAnObject

/-- The value under a key that must be there. -/
def member (json : Json) (key : String) : Answer Json :=
  match json with
  | .object fields =>
    match fields.lookup key with
    | some value => .ok value
    | none => .error (.missingKey key)
  | _ => .error .incomplete

/-- The items of a list. -/
def listItems : Json → Answer (List Json)
  | .array items => .ok items
  | _ => .error .incomplete

/-- The items of the list under a key that a full answer has. -/
def memberList (json : Json) (key : String) : Answer (List Json) := do
  match ← optionalMember json key with
  | some list => listItems list
  | none => throw .incomplete

/-- The name under the key for it. -/
def nameOf (json : Json) : Answer String := do
  match ← member json "name" with
  | .string text => return text
  | _ => throw .incomplete

/-! ## Type references -/

/-- A type reference, of which the marks nest up to a limit. -/
def referenceOf (s : Schema) : (limit : Nat) → Json → Answer TypeRef
  | 0, _ => .error .incomplete
  | limit + 1, json => do
    let kind? ← optionalMember json "kind"
    match kind?.bind Json.string? with
    | some "LIST" =>
      match ← optionalMember json "ofType" with
      | some item => return .list (← referenceOf s limit item)
      | none => throw .incomplete
    | some "NON_NULL" =>
      match ← optionalMember json "ofType" with
      | some base =>
        match ← referenceOf s limit base with
        | .nonNull _ => throw .incomplete
        | type => return .nonNull type
      | none => throw .incomplete
    | _ =>
      match (← optionalMember json "name").bind Json.string? with
      | some name => if (s.type? name).isSome then return .named name else throw .incomplete
      | none => throw .incomplete

/-- How deep type references may nest. -/
def referenceDepth : Nat := 1000

/-- The name of a type of a given kind. -/
def namedOf (s : Schema) (kind : Kind) (json : Json) : Answer String := do
  match ← referenceOf s referenceDepth json with
  | .named name => if s.kind? name = some kind then return name else throw .incomplete
  | _ => throw .incomplete

/-! ## Fields, arguments and values -/

/-- The directives that stand for a reason of deprecation. -/
def deprecationOf (json : Json) : Answer (List Directive) := do
  return match ← optionalMember json "deprecationReason" with
    | some _ => [⟨"deprecated", []⟩]
    | none => []

/-- An argument or input field. -/
def inputValueOf (s : Schema) (json : Json) : Answer InputValue := do
  let name ← nameOf json
  let type ← referenceOf s referenceDepth (← member json "type")
  if !s.bareKind Kind.isInput type then throw .incomplete
  let default? ←
    match (← optionalMember json "defaultValue").bind Json.string? with
    | some text =>
      match readValue text with
      | .ok value => pure (some value)
      | .error fault => throw (.syntaxFault text fault)
    | none => pure none
  return { name, type, default?, directives := ← deprecationOf json }

/-- A field of an object or interface type. -/
def fieldOf (s : Schema) (json : Json) : Answer FieldDefinition := do
  let name ← nameOf json
  let type ← referenceOf s referenceDepth (← member json "type")
  if !s.bareKind Kind.isOutput type then throw .incomplete
  let arguments ← (← memberList json "args").mapM (inputValueOf s)
  return { name, type, arguments }

/-- Members by name, a later one in the place of an earlier one of the same name. -/
def byName (nameOf : α → String) (members : List α) : List α :=
  (Json.distinctFields (members.map fun m => (nameOf m, m))).map (·.2)

/-! ## Types -/

/-- A type by name and kind, with what is known of it without the other types. -/
def typeOutline (json : Json) : Answer TypeDefinition := do
  let name ← nameOf json
  match standardType? name with
  | some standard => return standard
  | none =>
    let body ←
      match (← optionalMember json "kind").bind Json.string? with
      | some "SCALAR" => pure .scalar
      | some "OBJECT" => pure (.object [] [])
      | some "INTERFACE" => pure (.interface [] [])
      | some "UNION" => do
        let _ ← memberList json "possibleTypes"
        pure (.union [])
      | some "ENUM" => do
        let values ← (← memberList json "enumValues").mapM nameOf
        pure (.enum (byName id values |>.map fun value => { name := value }))
      | some "INPUT_OBJECT" => do
        let _ ← memberList json "inputFields"
        pure (.input [])
      | _ => throw .incomplete
    let oneOf := (← optionalMember json "isOneOf") matches some (.bool true)
    return { name, body, directives := if oneOf then [⟨"oneOf", []⟩] else [] }

/-- The interfaces of a type. An interface may leave them out. -/
def interfacesOf (s : Schema) (json : Json) (kind : Kind) : Answer (List String) := do
  match ← optionalMember json "interfaces" with
  | some list => (← listItems list).mapM (namedOf s .interface)
  | none => if kind = .interface then return [] else throw .incomplete

/-- A type with its members. -/
def completeType (s : Schema) (json : Json) (outline : TypeDefinition) :
    Answer TypeDefinition := do
  if (standardType? outline.name).isSome then return outline
  let body ←
    match outline.body with
    | .object .. => do
      let interfaces ← interfacesOf s json .object
      let fields ← (← memberList json "fields").mapM (fieldOf s)
      pure (.object interfaces (byName (·.name) fields))
    | .interface .. => do
      let interfaces ← interfacesOf s json .interface
      let fields ← (← memberList json "fields").mapM (fieldOf s)
      pure (.interface interfaces (byName (·.name) fields))
    | .union _ => do
      pure (.union (← (← memberList json "possibleTypes").mapM (namedOf s .object)))
    | .input _ => do
      let fields ← (← memberList json "inputFields").mapM (inputValueOf s)
      pure (.input (byName (·.name) fields))
    | body => pure body
  return { outline with body }

/-! ## The schema of an answer -/

/-- A directive. -/
def directiveOf (s : Schema) (json : Json) : Answer DirectiveDefinition := do
  let arguments ← memberList json "args"
  let locations ← memberList json "locations"
  let name ← nameOf json
  let repeatable := (← optionalMember json "isRepeatable") matches some (.bool true)
  let arguments ← arguments.mapM (inputValueOf s)
  return { name, arguments, repeatable, locations := locations.filterMap Json.string? }

/-- A root type. -/
def rootOf (s : Schema) (json : Json) (key : String) : Answer (Option String) := do
  match ← optionalMember json key with
  | some type => some <$> namedOf s .object type
  | none => return none

/-- The schema that an answer describes under its key for it. -/
def ofDescription (json : Json) : Answer Schema := do
  let types ← listItems (← member json "types")
  let outlines ← types.mapM typeOutline
  let described := byName (fun (t : Json × TypeDefinition) => t.2.name) (types.zip outlines)
  let outline : Schema := { types := described.map (·.2) }
  let query? ← rootOf outline json "queryType"
  let mutation? ← rootOf outline json "mutationType"
  let subscription? ← rootOf outline json "subscriptionType"
  let directives ←
    match ← optionalMember json "directives" with
    | some list => (← listItems list).mapM (directiveOf outline)
    | none => pure []
  let complete ← described.mapM fun t => completeType outline t.1 t.2
  return withStandardTypes { types := complete, directives, query?, mutation?, subscription? }

/-- The schema of a saved answer: the answer itself, or an envelope with the answer as its data. -/
def ofIntrospection (json : Json) : Answer Schema := do
  if !json.isObject then throw .notAnObject
  let answer := (json.get? "data").getD json
  match answer.get? "__schema" with
  | some description =>
    if description.isObject then ofDescription description else throw .incomplete
  | none => throw .incomplete

end Schema

end QueryShape
