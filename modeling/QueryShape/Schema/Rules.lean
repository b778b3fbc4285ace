import QueryShape.Validation.Visit

/-!
# Rules of type definitions

What a document of type definitions has to keep to before a schema is made of it. `brokenRules`
lists the rules that a document breaks; a schema is made only of a document that breaks none.
-/

namespace QueryShape.Schema

open Document Validation

/-- A rule of type definitions. -/
inductive DefinitionRule
  | oneSchemaDefinition
  | distinctRootKinds
  | distinctTypes
  | distinctEnumValues
  | distinctFields
  | distinctArgumentDefinitions
  | distinctDirectives
  | knownTypes
  | knownDirectives
  | singleDirectives
  | extendsDefinedType
  | knownDirectiveArguments
  | distinctArguments
  | distinctObjectFields
  | requiredDirectiveArguments
  deriving DecidableEq, Repr

/-- All rules. -/
def DefinitionRule.all : List DefinitionRule :=
  [.oneSchemaDefinition, .distinctRootKinds, .distinctTypes, .distinctEnumValues, .distinctFields,
   .distinctArgumentDefinitions, .distinctDirectives, .knownTypes, .knownDirectives,
   .singleDirectives, .extendsDefinedType, .knownDirectiveArguments, .distinctArguments,
   .distinctObjectFields, .requiredDirectiveArguments]

/-! ## Parts of a document -/

/-- No member of the list comes twice. -/
def distinct [BEq α] : List α → Bool
  | [] => true
  | a :: rest => !rest.contains a && distinct rest

/-- The schema definitions and extensions of a document. -/
def schemaDefinitions (document : Document) : List SchemaDefinition :=
  document.filterMap fun | .schema d => some d | _ => none

/-- The type definitions and extensions of a document. -/
def typeDefinitions (document : Document) : List TypeDefinition :=
  document.filterMap fun | .type t => some t | _ => none

/-- The directive definitions of a document. -/
def directiveDefinitions (document : Document) : List DirectiveDefinition :=
  document.filterMap fun | .directive d => some d | _ => none

/-- The types that a document defines, extensions left out. -/
def definedTypes (document : Document) : List TypeDefinition :=
  (typeDefinitions document).filter (!·.isExtension)

/-- The directives that can be used in a document: its own, and the standard ones that it does not
define itself. -/
def usableDirectives (document : Document) : List DirectiveDefinition :=
  let own := directiveDefinitions document
  own.reverse ++ standardDirectives.filter fun d => !own.any (·.name == d.name)

/-- The names of the members of a type with a name, over its definition and extensions. -/
def memberNames (document : Document) (members : TypeBody → List String) (name : String) :
    List String :=
  (typeDefinitions document).flatMap fun t => if t.name = name then members t.body else []

/-- The names of the values of an enum. -/
def valueNames : TypeBody → List String
  | .enum values => values.map (·.name)
  | _ => []

/-- The names of the fields of a type. -/
def fieldNames : TypeBody → List String
  | .object _ fields | .interface _ fields => fields.map (·.name)
  | .input fields => fields.map (·.name)
  | _ => []

/-- The arguments of each field of a type. -/
def fieldArguments : TypeBody → List (List InputValue)
  | .object _ fields | .interface _ fields => fields.map (·.arguments)
  | _ => []

/-! ## The rules -/

/-- The directives of a place are used once, unless they can be repeated. -/
def usesOnce (directives : List DirectiveDefinition) (used : List Directive)
    (earlier : List String) : Bool :=
  let single (name : String) : Bool :=
    (directives.find? (·.name == name)).any (!·.repeatable)
  distinct ((used.map (·.name) ++ earlier.filter fun n => used.any (·.name == n)).filter single)

/-- The directives on a place. -/
def directivesAt : Site → List Directive × List String
  | .operation _ o => (o.directives, [])
  | .fragment _ f => (f.directives, [])
  | .definitionPart directives earlier => (directives, earlier)
  | .variable v => (v.directives, [])
  | .field f _ => (f.directives, [])
  | .spread _ directives => (directives, [])
  | .inline _ directives => (directives, [])
  | _ => ([], [])

/-- The document keeps to a rule; `places` are its places. -/
def keepsTo (document : Document) (places : List Visit) : DefinitionRule → Bool
  | .oneSchemaDefinition =>
    ((schemaDefinitions document).filter (!·.isExtension)).length ≤ 1
  | .distinctRootKinds =>
    distinct ((schemaDefinitions document).flatMap fun d => d.roots.map (·.1))
  | .distinctTypes => distinct ((definedTypes document).map (·.name))
  | .distinctEnumValues =>
    (typeDefinitions document).all fun t => distinct (memberNames document valueNames t.name)
  | .distinctFields =>
    (typeDefinitions document).all fun t => distinct (memberNames document fieldNames t.name)
  | .distinctArgumentDefinitions =>
    ((typeDefinitions document).flatMap (fun t => fieldArguments t.body) ++
      (directiveDefinitions document).map (·.arguments)).all fun arguments =>
        distinct (arguments.map (·.name))
  | .distinctDirectives => distinct ((directiveDefinitions document).map (·.name))
  | .knownTypes =>
    places.all fun v =>
      match v.site with
      | .typeName name =>
        (definedTypes document).any (·.name == name) ||
          (v.scope.inTypeDefinition && (standardType? name).isSome)
      | _ => true
  | .knownDirectives =>
    places.all fun v =>
      match v.site with
      | .directive d place =>
        ((usableDirectives document).find? (·.name == d.name)).any (·.locations.contains place)
      | _ => true
  | .singleDirectives =>
    places.all fun v =>
      usesOnce (usableDirectives document) (directivesAt v.site).1 (directivesAt v.site).2
  | .extendsDefinedType =>
    ((typeDefinitions document).filter (·.isExtension)).all fun t =>
      ((definedTypes document).reverse.find? (·.name == t.name)).any (·.kind == t.kind)
  | .knownDirectiveArguments =>
    places.all fun v =>
      match v.site with
      | .directive d _ =>
        ((usableDirectives document).find? (·.name == d.name)).all fun definition =>
          d.arguments.all fun a => definition.arguments.any (·.name == a.name)
      | _ => true
  | .distinctArguments =>
    places.all fun v =>
      match v.site with
      | .directive d _ => distinct (d.arguments.map (·.name))
      | .field f _ => distinct (f.arguments.map (·.name))
      | _ => true
  | .distinctObjectFields =>
    places.all fun v =>
      match v.site with
      | .objectField key earlier => !earlier.contains key
      | _ => true
  | .requiredDirectiveArguments =>
    places.all fun v =>
      match v.site with
      | .directive d _ =>
        ((usableDirectives document).find? (·.name == d.name)).all fun definition =>
          definition.arguments.all fun v =>
            !isNonNull v.type || v.default?.isSome || d.arguments.any (·.name == v.name)
      | _ => true

/-- The rules that a document breaks. -/
def brokenRules (document : Document) : List DefinitionRule :=
  let places := visits {} document
  DefinitionRule.all.filter fun rule => !keepsTo document places rule

end QueryShape.Schema
