import QueryShape.Code.Decoder
import QueryShape.GenerationError
import QueryShape.NameSet

/-!
# Records of generated classes

A record describes one class of generated code: the result of an operation (`Root`), the values
selected under a field (`Leaf`), an input type or an enum.

A result has accessors. An accessor reads its value along one of several paths, each for some of
the types that the object can have.
-/

namespace QueryShape.Record

open Code Document

/-- One way to read a value, for objects of the given types. -/
structure Path where
  signature : Signature
  decoder : Decoder
  /-- The types of the fragments that lead to the selection. -/
  fragmentTypes : List String := []
  typenames : NameSet := ∅
  deriving DecidableEq, Repr, Inhabited

/-- A member of a result, with all paths that can give its value. -/
structure Accessor where
  name : String
  paths : List Path
  deriving DecidableEq, Repr, Inhabited

/-- A variable of an operation, or a field of an input type, as a parameter. -/
structure Parameter where
  name : String
  graphqlName : String
  signature : Signature
  /-- How the value is sent, over the placeholder. -/
  serializer : Expr
  dependency? : Option String := none
  /-- The parameter may be left out. -/
  isOptional : Bool := false
  deriving DecidableEq, Repr, Inhabited

/-- The values selected under a field. -/
structure Leaf where
  name : String
  graphqlType : String
  possibleTypes : List String
  accessors : List Accessor := []
  dependencies : NameSet := ∅
  deriving DecidableEq, Repr, Inhabited

/-- The result of an operation. -/
structure Root where
  name : String
  operationName : String
  operationKind : OperationKind
  graphqlType : String
  possibleTypes : List String
  queryText : String
  parameters : List Parameter := []
  accessors : List Accessor := []
  dependencies : NameSet := ∅
  deriving DecidableEq, Repr, Inhabited

/-- An input type. -/
structure Input where
  name : String
  graphqlType : String
  arguments : List Parameter := []
  dependencies : NameSet := ∅
  deriving DecidableEq, Repr, Inhabited

/-- An enum type. -/
structure Enum where
  name : String
  graphqlType : String
  values : List String
  dependencies : NameSet := ∅
  deriving DecidableEq, Repr, Inhabited

end QueryShape.Record

namespace QueryShape

/-- The description of one generated class. -/
inductive Record
  | root (root : Record.Root)
  | leaf (leaf : Record.Leaf)
  | input (input : Record.Input)
  | enum (enum : Record.Enum)
  deriving DecidableEq, Repr, Inhabited

namespace Record

/-- The name of the class. -/
def name : Record → String
  | .root r => r.name
  | .leaf r => r.name
  | .input r => r.name
  | .enum r => r.name

/-- The type of the schema that the class stands for. -/
def graphqlType : Record → String
  | .root r => r.graphqlType
  | .leaf r => r.graphqlType
  | .input r => r.graphqlType
  | .enum r => r.graphqlType

/-- The classes that have to stand before the class. -/
def dependencies : Record → NameSet
  | .root r => r.dependencies
  | .leaf r => r.dependencies
  | .input r => r.dependencies
  | .enum r => r.dependencies

/-- What the record describes. -/
def kind : Record → RecordKind
  | .root _ => .root
  | .leaf _ => .leaf
  | .input _ => .input
  | .enum _ => .enum

end Record

end QueryShape
