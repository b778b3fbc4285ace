import QueryShape.Document.Basic

/-!
# Schemas

A schema is the list of its type definitions, extensions included in the types they extend, with
its directives and the names of its root types. Types refer to each other by name.

* `type?` and the look-ups after it find a definition by name.
* `possibleTypes` are the object types that a value of a type can have: the type itself, the members
  of a union, or the objects that implement an interface, in the order of the schema.
* `refines` is the order of types: what refines a type can stand in its place.
-/

namespace QueryShape

open Document

/-- The kind of a type. -/
inductive Kind
  | scalar
  | enum
  | object
  | interface
  | union
  | input
  deriving DecidableEq, Repr, Inhabited

/-- A value of the kind has fields to select, or members that do. -/
def Kind.isComposite (k : Kind) : Bool := k == .object || k == .interface || k == .union

/-- A value of the kind can be given to a field or variable. -/
def Kind.isInput (k : Kind) : Bool := k == .scalar || k == .enum || k == .input

/-- A value of the kind can be the value of a field. -/
def Kind.isOutput (k : Kind) : Bool := k != .input

/-- The values of the kind are selected as they are. -/
def Kind.isLeaf (k : Kind) : Bool := k == .scalar || k == .enum

/-- The kind of the type that a definition defines. -/
def Document.TypeBody.kind : TypeBody → Kind
  | .scalar => .scalar
  | .object .. => .object
  | .interface .. => .interface
  | .union _ => .union
  | .enum _ => .enum
  | .input _ => .input

/-- The kind of the type that is defined. -/
def Document.TypeDefinition.kind (t : TypeDefinition) : Kind := t.body.kind

/-- The interfaces that the type says it implements. -/
def Document.TypeDefinition.interfaces (t : TypeDefinition) : List String :=
  match t.body with
  | .object interfaces _ | .interface interfaces _ => interfaces
  | _ => []

/-- The fields that can be selected on the type. -/
def Document.TypeDefinition.fields (t : TypeDefinition) : List FieldDefinition :=
  match t.body with
  | .object _ fields | .interface _ fields => fields
  | _ => []

/-- The fields of an input type. -/
def Document.TypeDefinition.inputFields (t : TypeDefinition) : List InputValue :=
  match t.body with
  | .input fields => fields
  | _ => []

/-- The members of a union. -/
def Document.TypeDefinition.members (t : TypeDefinition) : List String :=
  match t.body with
  | .union members => members
  | _ => []

/-- The values of an enum. -/
def Document.TypeDefinition.values (t : TypeDefinition) : List String :=
  match t.body with
  | .enum values => values.map (·.name)
  | _ => []

/-- The field of a type with a name. -/
def Document.TypeDefinition.field? (t : TypeDefinition) (name : String) : Option FieldDefinition :=
  t.fields.find? (·.name == name)

/-- Exactly one field of the input type has to be given. -/
def Document.TypeDefinition.isOneOf (t : TypeDefinition) : Bool :=
  t.kind == .input && t.directives.any (·.name == "oneOf")

/-- A schema. -/
structure Schema where
  types : List TypeDefinition := []
  directives : List DirectiveDefinition := []
  query? : Option String := none
  mutation? : Option String := none
  subscription? : Option String := none
  deriving Repr, Inhabited

namespace Schema

/-! ## Look-ups -/

/-- The type with a name. -/
def type? (s : Schema) (name : String) : Option TypeDefinition :=
  s.types.find? (·.name == name)

/-- The kind of the type with a name. -/
def kind? (s : Schema) (name : String) : Option Kind :=
  (s.type? name).map (·.kind)

/-- The directive with a name. -/
def directive? (s : Schema) (name : String) : Option DirectiveDefinition :=
  s.directives.find? (·.name == name)

/-- The root type of an operation kind. -/
def root? (s : Schema) : OperationKind → Option String
  | .query => s.query?
  | .mutation => s.mutation?
  | .subscription => s.subscription?

/-- The name under a type's lists and marks is of a kind with the property. -/
def bareKind (s : Schema) (property : Kind → Bool) (type : TypeRef) : Bool :=
  (s.kind? type.bareName).any property

/-! ## Possible types -/

/-- The object types that implement an interface, in the order of the schema. -/
def implementations (s : Schema) (interface : String) : List String :=
  s.types.flatMap fun t =>
    if t.kind == .object then (t.interfaces.filter (· == interface)).map fun _ => t.name else []

/-- The object types that a value of an interface or union can have. -/
def abstractMembers (s : Schema) (t : TypeDefinition) : List String :=
  if t.kind == .union then t.members else s.implementations t.name

/-- The object types that a value of a composite type can have. -/
def possibleTypes (s : Schema) (t : TypeDefinition) : List String :=
  if t.kind == .object then [t.name] else s.abstractMembers t

/-- The type is one of those that an interface or union stands for. -/
def hasMember (abstract member : TypeDefinition) : Bool :=
  match abstract.kind with
  | .union => member.name ∈ abstract.members
  | .interface => member.interfaces.contains abstract.name
  | _ => false

/-- Some object type is among the possible types of both. -/
def overlaps (s : Schema) (a b : TypeDefinition) : Bool :=
  if a.name = b.name then true
  else if a.kind == .interface || a.kind == .union then
    if b.kind == .interface || b.kind == .union then
      (s.abstractMembers a).any (s.abstractMembers b).contains
    else hasMember a b
  else if b.kind == .interface || b.kind == .union then hasMember b a
  else false

/-! ## The order of types -/

/-- A value of the first type can stand where the second is expected. -/
def refines (s : Schema) : TypeRef → TypeRef → Bool
  | .nonNull a, .nonNull b => s.refines a b
  | .nonNull a, b => s.refines a b
  | _, .nonNull _ => false
  | .list a, .list b => s.refines a b
  | .list _, _ => false
  | _, .list _ => false
  | .named a, .named b =>
    a == b ||
      match s.type? a, s.type? b with
      | some ta, some tb =>
        (ta.kind == .object || ta.kind == .interface) && hasMember tb ta
      | _, _ => false

end Schema

end QueryShape
