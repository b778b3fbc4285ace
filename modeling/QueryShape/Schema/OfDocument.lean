import QueryShape.Document.Reader
import QueryShape.Schema.Rules

/-!
# Schemas from type definitions

`Schema.ofDocument` makes a schema of a document: the types that the document defines, with their
extensions, in its order; then the standard types that are in use. Where no schema definition says
otherwise, the root types are those named for the operation kinds.

A document that breaks a rule of type definitions has no schema, nor has one in which a type stands
in a place that its kind has no values for.
-/

namespace QueryShape

open Document

/-- Why there is no schema. -/
inductive SchemaFault
  /-- The text is no document. -/
  | syntaxFault (fault : SyntaxFault)
  /-- The definitions break rules. -/
  | brokenRules (rules : List Schema.DefinitionRule)
  /-- A type has members of the wrong kind, or an unknown root. -/
  | misplacedType
  deriving Repr

namespace Schema

/-! ## Definitions and extensions together -/

/-- A type body with what an extension adds. -/
def extendBody : TypeBody → TypeBody → TypeBody
  | .object interfaces fields, .object moreInterfaces moreFields =>
    .object (interfaces ++ moreInterfaces) (fields ++ moreFields)
  | .interface interfaces fields, .interface moreInterfaces moreFields =>
    .interface (interfaces ++ moreInterfaces) (fields ++ moreFields)
  | .union members, .union more => .union (members ++ more)
  | .enum values, .enum more => .enum (values ++ more)
  | .input fields, .input more => .input (fields ++ more)
  | body, _ => body

/-- A type with what an extension adds. -/
def extendType (t extension : TypeDefinition) : TypeDefinition :=
  { t with
    directives := t.directives ++ extension.directives
    body := extendBody t.body extension.body }

/-- The types that a document defines, complete. A standard type stays as it is. -/
def completeTypes (document : Document) : List TypeDefinition :=
  (definedTypes document).map fun t =>
    match standardType? t.name with
    | some standard => standard
    | none =>
      ((typeDefinitions document).filter fun e => e.isExtension && e.name == t.name).foldl
        extendType t

/-! ## Standard types in use -/

/-- The names of the types that a type definition refers to. -/
def referredTypes (t : TypeDefinition) : List String :=
  t.interfaces ++ t.members ++
    (t.fields.flatMap fun f => f.type.bareName :: f.arguments.map (·.type.bareName)) ++
    t.inputFields.map (·.type.bareName)

/-- A schema with the standard types that its definitions, its directives and introspection refer
to. -/
def withStandardTypes (s : Schema) : Schema :=
  let referred := (s.types ++ introspectionTypes).flatMap referredTypes ++
    s.directives.flatMap fun d => d.arguments.map (·.type.bareName)
  let scalars := standardScalars.filter referred.contains
  let missing := (scalars.map scalarType ++ introspectionTypes).filter fun t =>
    !s.types.any (·.name == t.name)
  { s with types := s.types ++ missing }

/-! ## Kinds in their places -/

/-- The types of an input value can be given. -/
def inputsFit (s : Schema) (values : List InputValue) : Bool :=
  values.all fun v => s.bareKind Kind.isInput v.type

/-- The types that a definition refers to have the kinds that their places ask for. -/
def membersFit (s : Schema) (t : TypeDefinition) : Bool :=
  t.interfaces.all (fun name => s.kind? name == some .interface) &&
    t.members.all (fun name => s.kind? name == some .object) &&
    t.fields.all (fun f => s.bareKind Kind.isOutput f.type && s.inputsFit f.arguments) &&
    s.inputsFit t.inputFields

/-- The roots are types of the schema. -/
def rootsFit (s : Schema) : Bool :=
  [s.query?, s.mutation?, s.subscription?].all fun root? => root?.all fun r => (s.type? r).isSome

/-- All types of a schema are in places that have values for their kinds. -/
def fits (s : Schema) : Bool :=
  s.types.all s.membersFit && s.directives.all (fun d => s.inputsFit d.arguments) && s.rootsFit

/-! ## The schema of a document -/

/-- The root types that a document gives. -/
def rootsOf (document : Document) (types : List TypeDefinition) (kind : OperationKind)
    (standardName : String) : Option String :=
  let definitions := schemaDefinitions document
  let given? := (definitions.flatMap (·.roots)).reverse.lookup kind
  if definitions.any (!·.isExtension) then given?
  else if types.any (·.name == standardName) then some standardName
  else given?

/-- The schema of a document, or why there is none. -/
def ofDocument (document : Document) : Except SchemaFault Schema :=
  match brokenRules document with
  | [] =>
    let types := completeTypes document
    let own := directiveDefinitions document
    let schema : Schema := withStandardTypes
      { types
        directives := own ++ standardDirectives.filter fun d => !own.any (·.name == d.name)
        query? := rootsOf document types .query "Query"
        mutation? := rootsOf document types .mutation "Mutation"
        subscription? := rootsOf document types .subscription "Subscription" }
    if schema.fits then .ok schema else .error .misplacedType
  | rules => .error (.brokenRules rules)

/-- The schema of a text of type definitions, or why there is none. -/
def ofText (text : String) : Except SchemaFault Schema :=
  match Document.read text with
  | .ok document => ofDocument document
  | .error fault => .error (.syntaxFault fault)

end Schema

end QueryShape
