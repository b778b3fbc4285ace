import QueryShape.Schema.Standard

/-!
# Constants of a type

`Schema.admits` says whether a value written in a document is a value of a type. A single value can
stand for a list of one, an unknown field of an input object is not looked at, and a field that is
left out needs a default or may be null.

A default counts only if it is a value of its own type, which can depend on the defaults of other
input types; `hasDefault` follows them no further than the schema has input fields.
-/

namespace QueryShape.Schema

open Document

/-- The number that the digits of an integer write. -/
def integer (digits : String) : Int :=
  match digits.toList with
  | '-' :: rest => -(rest.foldl (fun n c => 10 * n + (c.toNat - 0x30)) 0 : Nat)
  | cs => (cs.foldl (fun n c => 10 * n + (c.toNat - 0x30)) 0 : Nat)

/-- The integer has at most thirty-two bits. -/
def fitsInt (n : Int) : Bool := -2147483648 ≤ n && n ≤ 2147483647

/-- The value is one of a scalar or enum type, as it is written. Scalars of the schema's own take
any value. -/
def leafAdmits (t : TypeDefinition) (value : Value) : Bool :=
  match t.kind with
  | .enum =>
    match value with
    | .enum name => t.values.contains name
    | _ => false
  | .scalar =>
    match t.name, value with
    | "Int", .int digits => fitsInt (integer digits)
    | "Int", _ => false
    | "Float", .int _ | "Float", .float _ => true
    | "Float", _ => false
    | "String", .string .. => true
    | "String", _ => false
    | "Boolean", .boolean _ => true
    | "Boolean", _ => false
    | "ID", .string .. | "ID", .int _ => true
    | "ID", _ => false
    | _, _ => true
  | _ => false

/-- The type without a non-null mark. -/
def nullable : TypeRef → TypeRef
  | .nonNull base => base
  | type => type

/-- The type has a non-null mark. -/
def isNonNull : TypeRef → Bool
  | .nonNull _ => true
  | _ => false

/-- The value is the constant null. -/
def isNull : Value → Bool
  | .null => true
  | _ => false

/-- The members of an input object are there, or may be left out. -/
def coversFields (hasDefault : InputValue → Bool) (t : TypeDefinition)
    (given : List (String × Bool)) : Bool :=
  t.inputFields.all fun f =>
    match given.reverse.lookup f.name with
    | some admitted => admitted
    | none => hasDefault f || !isNonNull f.type

/-- Exactly one field is given, and not as null. -/
def givesOne (t : TypeDefinition) (fields : List (String × Value)) : Bool :=
  match fields.filter fun f => t.inputFields.any (·.name == f.1) with
  | [(_, value)] => !isNull value
  | _ => false

mutual

/-- The value is one of a type, given which input fields have defaults. -/
def admitsWith (s : Schema) (hasDefault : InputValue → Bool) : Value → TypeRef → Bool
  | .null, type => !isNonNull type
  | .variable _, _ => false
  | .list items, type =>
    match nullable type with
    | .list item => admitsItems s hasDefault items item
    | base => (s.type? base.bareName).any (leafAdmits · (.list items))
  | .object fields, type =>
    match s.type? type.bareName with
    | some t =>
      if t.kind == .input then
        coversFields hasDefault t (admittedFields s hasDefault t fields) &&
          (!t.isOneOf || givesOne t fields)
      else leafAdmits t (.object fields)
    | none => false
  | value, type => (s.type? type.bareName).any (leafAdmits · value)

/-- All items of a list are values of the item type. -/
def admitsItems (s : Schema) (hasDefault : InputValue → Bool) : List Value → TypeRef → Bool
  | [], _ => true
  | value :: rest, item =>
    admitsWith s hasDefault value item && admitsItems s hasDefault rest item

/-- Which fields of an object are values of the types of the input fields they name. -/
def admittedFields (s : Schema) (hasDefault : InputValue → Bool) (t : TypeDefinition) :
    List (String × Value) → List (String × Bool)
  | [] => []
  | (key, value) :: rest =>
    let admitted := match t.inputFields.find? (·.name == key) with
      | some f => admitsWith s hasDefault value f.type
      | none => true
    (key, admitted) :: admittedFields s hasDefault t rest

end

/-- The input value has a default of its own type, defaults being followed up to a limit. -/
def hasDefaultWithin (s : Schema) : (limit : Nat) → InputValue → Bool
  | 0, _ => false
  | limit + 1, v => v.default?.any fun value => admitsWith s (hasDefaultWithin s limit) value v.type

/-- The number of input fields of a schema. -/
def inputFieldCount (s : Schema) : Nat :=
  (s.types.flatMap (·.inputFields)).length

/-- The input value has a default of its own type. -/
def hasDefault (s : Schema) (v : InputValue) : Bool :=
  s.hasDefaultWithin (s.inputFieldCount + 1) v

/-- The value is one of a type. -/
def admits (s : Schema) (value : Value) (type : TypeRef) : Bool :=
  admitsWith s s.hasDefault value type

/-- The input value must be given: it is not null and has no default. -/
def isRequired (s : Schema) (v : InputValue) : Bool :=
  isNonNull v.type && !s.hasDefault v

end QueryShape.Schema
