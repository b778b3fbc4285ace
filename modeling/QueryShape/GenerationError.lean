import QueryShape.Literal
import QueryShape.Schema.Basic

/-!
# Why generation fails

`GenerationError` lists the causes for which no code is generated, and `message` puts one in words.
-/

namespace QueryShape

open Document

/-- What a record of generated code describes. -/
inductive RecordKind
  | root
  | leaf
  | input
  | enum
  deriving DecidableEq, Repr, Inhabited

/-- What messages call a kind of record. -/
def RecordKind.label : RecordKind → String
  | .root => "RootClass"
  | .leaf => "LeafClass"
  | .input => "InputClass"
  | .enum => "EnumClass"

/-- Why two records of one name exclude each other. -/
inductive Clash
  /-- The name may be taken only once. -/
  | taken
  /-- The records are not both selections. -/
  | kinds (existing incoming : RecordKind)
  /-- The selections are on different types. -/
  | types (existing incoming : String)
  deriving DecidableEq, Repr, Inhabited

/-- A clash in words. -/
def Clash.words : Clash → String
  | .taken => "class is already defined"
  | .kinds existing incoming =>
    "already defined as " ++ existing.label ++ ", cannot merge " ++ incoming.label
  | .types existing incoming => "selected on " ++ existing ++ " and on " ++ incoming

/-- What messages call a kind of type. -/
def Kind.label : Kind → String
  | .scalar => "GraphQLScalarType"
  | .enum => "GraphQLEnumType"
  | .object => "GraphQLObjectType"
  | .interface => "GraphQLInterfaceType"
  | .union => "GraphQLUnionType"
  | .input => "GraphQLInputObjectType"

/-- A type as messages show it, given the kind of its bare type. -/
def shownType (kind : Kind) : TypeRef → String
  | .named name => "<" ++ kind.label ++ " " ++ Literal.shown name ++ ">"
  | .list item => "<GraphQLList " ++ shownType kind item ++ ">"
  | .nonNull base => "<GraphQLNonNull " ++ shownType kind base ++ ">"

/-- A type and its kind as messages name them: a bare type by its name. -/
def namedType (kind : Kind) (type : TypeRef) : String :=
  match type with
  | .named name => name ++ " (" ++ kind.label ++ ")"
  | .list _ => shownType kind type ++ " (GraphQLList)"
  | .nonNull _ => shownType kind type ++ " (GraphQLNonNull)"

/-- A cause for which no code is generated. -/
inductive GenerationError
  /-- An operation has no name, or one that no class can have. -/
  | invalidOperationName (name? : Option String)
  /-- A type has no field of the name. -/
  | unresolvableField (type field : String)
  /-- A type is of a kind that cannot stand where it does. -/
  | unsupportedKind (kind : Kind) (type : TypeRef) (place? : Option String)
  /-- The schema has no type that is named so. -/
  | unknownType (written : String)
  /-- Generated code has no name for the converter of a scalar. -/
  | unusableConverter (scalar shown : String)
  /-- A generated name hides one that is needed. -/
  | reservedName (name owner : String)
  /-- A document cannot be read, or breaks the rules of the schema. -/
  | invalidDocument (source : String) (complaints : List String)
  /-- The text of a document ends inside an escape. -/
  | cutEscape
  /-- Two records of one name exclude each other. -/
  | redefinition (name : String) (clash : Clash)
  /-- Records depend on each other in a cycle. -/
  | cycle (names : List String)
  /-- A record depends on names that no record has. -/
  | undefinedDependencies (name : String) (missing : List String)
  /-- The schema has no root type for an operation. -/
  | missingRoot (kind : OperationKind)
  /-- No fragment has the name. -/
  | unknownFragment (name : String)
  /-- A field of a composite type selects nothing. -/
  | missingSelection (type field : String)
  /-- The text of a module is no code. -/
  | invalidModule (file : String)
  /-- The schema is not sound. -/
  | unsoundSchema
  /-- A condition of a subscription cannot be read. -/
  | unreadCondition (words : String)
  deriving DecidableEq, Repr, Inhabited

/-- A cause in words. -/
def GenerationError.message : GenerationError → String
  | .invalidOperationName name? =>
    "Operation names must be valid Python class names starting with an uppercase letter (got " ++
      (name?.map Literal.shown).getD "None" ++ ")"
  | .unresolvableField type field => "No field definition for " ++ type ++ "." ++ field
  | .unsupportedKind kind type place? =>
    "Unhandled GraphQL type kind: " ++ namedType kind type ++
      ((place?.map (" in " ++ ·)).getD "")
  | .unknownType written => "Unknown GraphQL type: " ++ written
  | .unusableConverter scalar shown =>
    "Expected the converter for scalar " ++ scalar ++
      " to be an importable module-level class (got " ++ shown ++ ")"
  | .reservedName name owner =>
    "Generated name " ++ Literal.shown name ++ " on " ++ owner ++ " collides with a reserved name"
  | .invalidDocument source complaints =>
    "Invalid query document " ++ source ++ ": " ++ "; ".intercalate complaints
  | .cutEscape => "string index out of range"
  | .redefinition name clash => "Attempting to redefine class " ++ name ++ ": " ++ clash.words
  | .cycle names =>
    "Dependency cycle between generated classes: " ++ " -> ".intercalate names
  | .undefinedDependencies name missing =>
    name ++ " depends on undefined classes: " ++ ", ".intercalate missing
  | .missingRoot kind => "Schema does not define a " ++ kind.text ++ " root type"
  | .unknownFragment name => "Unknown fragment: " ++ name
  | .missingSelection type field => "Field " ++ type ++ "." ++ field ++ " needs a selection set"
  | .invalidModule file => "Generated invalid Python for " ++ file
  | .unsoundSchema => "The schema is not sound"
  | .unreadCondition words => words

end QueryShape
