import QueryShape.Schema.Basic

/-!
# What every schema has

The standard scalars and directives, the types of introspection, and the three fields that can be
selected without being defined: the type name anywhere, the schema and a type by name on the query
type.
-/

namespace QueryShape.Schema

open Document

/-! ## Scalars and directives -/

/-- The names of the standard scalars. -/
def standardScalars : List String := ["Int", "Float", "String", "Boolean", "ID"]

/-- A standard scalar. -/
def scalarType (name : String) : TypeDefinition := { name, body := .scalar }

/-- A type that is not null. -/
def required (name : String) : TypeRef := .nonNull (.named name)

/-- A list of such, itself and its items not null. -/
def requiredList (name : String) : TypeRef := .nonNull (.list (required name))

/-- The condition of a directive that leaves a selection out. -/
def condition : InputValue := { name := "if", type := required "Boolean" }

/-- The places of a directive that leaves a selection out. -/
def selectionPlaces : List String := ["FIELD", "FRAGMENT_SPREAD", "INLINE_FRAGMENT"]

/-- The standard directives. -/
def standardDirectives : List DirectiveDefinition :=
  [{ name := "include", arguments := [condition], locations := selectionPlaces },
   { name := "skip", arguments := [condition], locations := selectionPlaces },
   { name := "deprecated"
     arguments :=
       [{ name := "reason", type := .named "String"
          default? := some (.string "No longer supported" false) }]
     locations :=
       ["FIELD_DEFINITION", "ARGUMENT_DEFINITION", "INPUT_FIELD_DEFINITION", "ENUM_VALUE",
        "DIRECTIVE_DEFINITION"] },
   { name := "specifiedBy", arguments := [{ name := "url", type := required "String" }]
     locations := ["SCALAR"] },
   { name := "oneOf", locations := ["INPUT_OBJECT"] }]

/-! ## Introspection -/

/-- The argument that asks for deprecated members too. -/
def includeDeprecated : InputValue :=
  { name := "includeDeprecated", type := .named "Boolean", default? := some (.boolean false) }

/-- A field without arguments. -/
def plainField (name : String) (type : TypeRef) : FieldDefinition := { name, type }

/-- A field that leaves deprecated members out unless asked for them. -/
def membersField (name : String) (type : TypeRef) : FieldDefinition :=
  { name, type, arguments := [includeDeprecated] }

/-- The fields that say whether and why a member is deprecated. -/
def deprecationFields : List FieldDefinition :=
  [plainField "isDeprecated" (required "Boolean"), plainField "deprecationReason" (.named "String")]

/-- The fields that name and describe a member. -/
def namingFields : List FieldDefinition :=
  [plainField "name" (required "String"), plainField "description" (.named "String")]

/-- An object type of introspection. -/
def introspectionObject (name : String) (fields : List FieldDefinition) : TypeDefinition :=
  { name, body := .object [] fields }

/-- An enum of introspection. -/
def introspectionEnum (name : String) (values : List String) : TypeDefinition :=
  { name, body := .enum (values.map fun value => { name := value }) }

/-- The types of introspection. -/
def introspectionTypes : List TypeDefinition :=
  [introspectionObject "__Schema"
     [plainField "description" (.named "String"),
      plainField "types" (requiredList "__Type"),
      plainField "queryType" (required "__Type"),
      plainField "mutationType" (.named "__Type"),
      plainField "subscriptionType" (.named "__Type"),
      membersField "directives" (requiredList "__Directive")],
   introspectionObject "__Directive"
     (namingFields ++
       [plainField "isRepeatable" (required "Boolean"),
        plainField "locations" (requiredList "__DirectiveLocation"),
        membersField "args" (requiredList "__InputValue")] ++ deprecationFields),
   introspectionEnum "__DirectiveLocation"
     ["QUERY", "MUTATION", "SUBSCRIPTION", "FIELD", "FRAGMENT_DEFINITION", "FRAGMENT_SPREAD",
      "INLINE_FRAGMENT", "VARIABLE_DEFINITION", "SCHEMA", "SCALAR", "OBJECT", "FIELD_DEFINITION",
      "ARGUMENT_DEFINITION", "INTERFACE", "UNION", "ENUM", "ENUM_VALUE", "INPUT_OBJECT",
      "INPUT_FIELD_DEFINITION", "DIRECTIVE_DEFINITION"],
   introspectionObject "__Type"
     [plainField "kind" (required "__TypeKind"),
      plainField "name" (.named "String"),
      plainField "description" (.named "String"),
      plainField "specifiedByURL" (.named "String"),
      membersField "fields" (.list (required "__Field")),
      plainField "interfaces" (.list (required "__Type")),
      plainField "possibleTypes" (.list (required "__Type")),
      membersField "enumValues" (.list (required "__EnumValue")),
      membersField "inputFields" (.list (required "__InputValue")),
      plainField "ofType" (.named "__Type"),
      plainField "isOneOf" (.named "Boolean")],
   introspectionObject "__Field"
     (namingFields ++
       [membersField "args" (requiredList "__InputValue"), plainField "type" (required "__Type")] ++
       deprecationFields),
   introspectionObject "__InputValue"
     (namingFields ++
       [plainField "type" (required "__Type"), plainField "defaultValue" (.named "String")] ++
       deprecationFields),
   introspectionObject "__EnumValue" (namingFields ++ deprecationFields),
   introspectionEnum "__TypeKind"
     ["SCALAR", "OBJECT", "INTERFACE", "UNION", "ENUM", "INPUT_OBJECT", "LIST", "NON_NULL"]]

/-- The standard type with a name. -/
def standardType? (name : String) : Option TypeDefinition :=
  if name ∈ standardScalars then some (scalarType name)
  else introspectionTypes.find? (·.name == name)

/-! ## Fields that need no definition -/

/-- The field for the name of an object's type. -/
def typenameFieldDefinition : FieldDefinition := plainField typenameField (required "String")

/-- The fields of introspection on the query type. -/
def rootFields : List FieldDefinition :=
  [plainField "__schema" (required "__Schema"),
   { name := "__type", type := .named "__Type"
     arguments := [{ name := "name", type := required "String" }] }]

end QueryShape.Schema
