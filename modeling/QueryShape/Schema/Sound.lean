import QueryShape.Schema.OfDocument

/-!
# Sound schemas

A schema can be made and still make no sense: it has no query type, a type has no members, a type
does not have the fields of the interfaces it says it implements, an input object needs itself.
`isSound` tells such schemas from those that queries are checked against.
-/

namespace QueryShape.Schema

open Document

/-- A name that is not reserved for introspection. -/
def isFreeName (name : String) : Bool :=
  match name.toList with
  | '_' :: '_' :: _ => false
  | _ => true

/-- The member is marked as deprecated, with the standard reason or one of its own. -/
def isDeprecated (directives : List Directive) : Bool :=
  (directives.find? (·.name == "deprecated")).any fun d =>
    (d.arguments.find? (·.name == "reason")).all fun a => !isNull a.value

/-! ## Roots and directives -/

/-- The root type of an operation kind is an object, if there is one. -/
def rootIsObject (s : Schema) (kind : OperationKind) : Bool :=
  (s.root? kind).all fun name => s.kind? name == some .object

/-- The arguments of a field or directive are well named and can be given, and none that must be
given is deprecated. -/
def argumentsSound (s : Schema) (arguments : List InputValue) : Bool :=
  arguments.all fun a =>
    isFreeName a.name && s.bareKind Kind.isInput a.type &&
      !(s.isRequired a && isDeprecated a.directives)

/-- A directive is well named and has sound arguments. -/
def directiveSound (s : Schema) (d : DirectiveDefinition) : Bool :=
  isFreeName d.name && s.argumentsSound d.arguments

/-! ## Fields and interfaces -/

/-- A type has fields, all well named, with values and sound arguments. -/
def fieldsSound (s : Schema) (t : TypeDefinition) : Bool :=
  !t.fields.isEmpty && t.fields.all fun f =>
    isFreeName f.name && s.bareKind Kind.isOutput f.type && s.argumentsSound f.arguments

/-- A field can stand for the field of an interface: its type refines that field's, it has the
same arguments, and others only where they need not be given. -/
def fieldImplements (s : Schema) (field interfaceField : FieldDefinition) : Bool :=
  s.refines field.type interfaceField.type &&
    (interfaceField.arguments.all fun a =>
      (field.arguments.find? (·.name == a.name)).any (·.type == a.type)) &&
    field.arguments.all fun a =>
      interfaceField.arguments.any (·.name == a.name) || !s.isRequired a

/-- A type has the fields of an interface and implements the interfaces above that. -/
def implements (s : Schema) (t above : TypeDefinition) : Bool :=
  above.interfaces.all t.interfaces.contains &&
    above.fields.all fun f => (t.field? f.name).any (s.fieldImplements · f)

/-- A type implements the interfaces it names, each named once, itself not among them. -/
def interfacesSound (s : Schema) (t : TypeDefinition) : Bool :=
  distinct t.interfaces && !t.interfaces.contains t.name &&
    t.interfaces.all fun name => (s.type? name).any (s.implements t)

/-! ## Unions, enums and input objects -/

/-- A union has members, all different object types. -/
def membersSound (s : Schema) (t : TypeDefinition) : Bool :=
  !t.members.isEmpty && distinct t.members &&
    t.members.all fun name => s.kind? name == some .object

/-- An enum has values, all well named. -/
def valuesSound (t : TypeDefinition) : Bool :=
  !t.values.isEmpty && t.values.all isFreeName

/-- An input object has sound fields; those of which one has to be given may be null and have no
default. -/
def inputFieldsSound (s : Schema) (t : TypeDefinition) : Bool :=
  !t.inputFields.isEmpty && s.argumentsSound t.inputFields &&
    (!t.isOneOf || t.inputFields.all fun f => !isNonNull f.type && !s.hasDefault f)

/-- The input objects that a value of an input object cannot be without. -/
def neededInputs (s : Schema) (name : String) : List String :=
  ((s.type? name).map (·.inputFields)).getD [] |>.filterMap fun f =>
    match f.type with
    | .nonNull (.named needed) => if s.kind? needed = some .input then some needed else none
    | _ => none

/-- The input objects needed by some, in a number of steps. -/
def neededWithin (s : Schema) : (steps : Nat) → List String → List String
  | 0, names => names
  | steps + 1, names =>
    let more := (names.flatMap s.neededInputs).filter (!names.contains ·)
    neededWithin s steps (names ++ more).eraseDups

/-- No input object needs itself. -/
def inputsEnd (s : Schema) (t : TypeDefinition) : Bool :=
  !(neededWithin s s.types.length (s.neededInputs t.name)).contains t.name

/-! ## Schemas -/

/-- The members of a type make sense. -/
def typeSound (s : Schema) (t : TypeDefinition) : Bool :=
  ((introspectionTypes.any (·.name == t.name)) || isFreeName t.name) &&
    match t.body with
    | .scalar => true
    | .object .. | .interface .. => s.fieldsSound t && s.interfacesSound t
    | .union _ => s.membersSound t
    | .enum _ => valuesSound t
    | .input _ => s.inputFieldsSound t && s.inputsEnd t

/-- Queries can be checked against the schema. -/
def isSound (s : Schema) : Bool :=
  s.query?.isSome && [OperationKind.query, .mutation, .subscription].all s.rootIsObject &&
    s.directives.all s.directiveSound && s.types.all s.typeSound

end QueryShape.Schema
