/-!
# Documents

The syntax tree of a document of the query language. A document is a list of definitions:
operations and fragments, which queries consist of, and type definitions, which schemas consist of.

A field without a selection set has the empty list of selections; the grammar has no empty
selection set.
-/

namespace QueryShape

/-! ## Types and values -/

/-- A reference to a type: a name under lists and non-null marks. -/
inductive TypeRef
  | named (name : String)
  | list (item : TypeRef)
  | nonNull (base : TypeRef)
  deriving DecidableEq, Repr, Inhabited

/-- The name under all lists and marks. -/
def TypeRef.bareName : TypeRef → String
  | .named name => name
  | .list item => item.bareName
  | .nonNull base => base.bareName

/-- The reference as documents write it. -/
def TypeRef.text : TypeRef → String
  | .named name => name
  | .list item => "[" ++ item.text ++ "]"
  | .nonNull base => base.text ++ "!"

namespace Document

/-- A value in a document. Numbers keep the text they are written with. -/
inductive Value
  | variable (name : String)
  | int (digits : String)
  | float (digits : String)
  | string (text : String) (block : Bool)
  | boolean (value : Bool)
  | null
  | enum (name : String)
  | list (items : List Value)
  | object (fields : List (String × Value))
  deriving Repr, Inhabited

/-- A name with a value: an argument of a field or a directive. -/
structure Argument where
  name : String
  value : Value
  deriving Repr, Inhabited

/-- A directive and its arguments. -/
structure Directive where
  name : String
  arguments : List Argument
  deriving Repr, Inhabited

/-! ## Selections -/

/-- A field of a selection set, apart from the selections under it. -/
structure Field where
  alias? : Option String := none
  name : String
  arguments : List Argument := []
  directives : List Directive := []
  deriving Repr, Inhabited

/-- The key of the response object that holds the field's value. -/
def Field.responseKey (f : Field) : String :=
  f.alias?.getD f.name

/-- The field that asks for the name of the object's type. -/
def typenameField : String := "__typename"

/-- Asks for the name of the object's type under the key of that name. -/
def Field.isPlainTypename (f : Field) : Bool :=
  f.alias?.isNone && f.name == typenameField

/-- A member of a selection set. -/
inductive Selection
  | field (head : Field) (selections : List Selection)
  | spread (fragment : String) (directives : List Directive)
  | inline (condition? : Option String) (directives : List Directive)
      (selections : List Selection)
  deriving Repr, Inhabited

/-- The directives on a selection itself. -/
def Selection.directives : Selection → List Directive
  | .field head _ => head.directives
  | .spread _ directives => directives
  | .inline _ directives _ => directives

/-! ## Operations and fragments -/

/-- What an operation does. -/
inductive OperationKind
  | query
  | mutation
  | subscription
  deriving DecidableEq, Repr, Inhabited

/-- The keyword of an operation kind. -/
def OperationKind.text : OperationKind → String
  | .query => "query"
  | .mutation => "mutation"
  | .subscription => "subscription"

/-- The operation kind of a keyword. -/
def OperationKind.ofText? (text : String) : Option OperationKind :=
  if text = "query" then some .query
  else if text = "mutation" then some .mutation
  else if text = "subscription" then some .subscription
  else none

/-- A variable of an operation. -/
structure Variable where
  description? : Option Value := none
  name : String
  type : TypeRef
  default? : Option Value := none
  directives : List Directive := []
  deriving Repr, Inhabited

/-- An operation with its variables and its selection set. -/
structure Operation where
  description? : Option Value := none
  kind : OperationKind
  name? : Option String := none
  parameters : List Variable := []
  directives : List Directive := []
  selections : List Selection
  deriving Repr, Inhabited

/-- A named selection set on a type. -/
structure Fragment where
  description? : Option Value := none
  name : String
  condition : String
  directives : List Directive := []
  selections : List Selection
  deriving Repr, Inhabited

/-! ## Type definitions -/

/-- An argument of a field or directive, or a field of an input type. -/
structure InputValue where
  description? : Option Value := none
  name : String
  type : TypeRef
  default? : Option Value := none
  directives : List Directive := []
  deriving Repr, Inhabited

/-- A field of an object or interface type. -/
structure FieldDefinition where
  description? : Option Value := none
  name : String
  arguments : List InputValue := []
  type : TypeRef
  directives : List Directive := []
  deriving Repr, Inhabited

/-- A value of an enum type. -/
structure EnumValue where
  description? : Option Value := none
  name : String
  directives : List Directive := []
  deriving Repr, Inhabited

/-- What a type definition says beyond the name and directives, by the kind of the type. -/
inductive TypeBody
  | scalar
  | object (interfaces : List String) (fields : List FieldDefinition)
  | interface (interfaces : List String) (fields : List FieldDefinition)
  | union (members : List String)
  | enum (values : List EnumValue)
  | input (fields : List InputValue)
  deriving Repr, Inhabited

/-- The keyword that begins the definition of a type. -/
def TypeBody.keyword : TypeBody → String
  | .scalar => "scalar"
  | .object .. => "type"
  | .interface .. => "interface"
  | .union _ => "union"
  | .enum _ => "enum"
  | .input _ => "input"

/-- The definition of a type, or an extension of one. -/
structure TypeDefinition where
  description? : Option Value := none
  isExtension : Bool := false
  name : String
  directives : List Directive := []
  body : TypeBody
  deriving Repr, Inhabited

/-- The root types of a schema, or an extension of them. -/
structure SchemaDefinition where
  description? : Option Value := none
  isExtension : Bool := false
  directives : List Directive := []
  roots : List (OperationKind × String) := []
  deriving Repr, Inhabited

/-- The definition of a directive. -/
structure DirectiveDefinition where
  description? : Option Value := none
  name : String
  arguments : List InputValue := []
  repeatable : Bool := false
  locations : List String := []
  deriving Repr, Inhabited

/-! ## Definitions -/

/-- A definition of a document. -/
inductive Definition
  | operation (operation : Operation)
  | fragment (fragment : Fragment)
  | schema (schema : SchemaDefinition)
  | type (type : TypeDefinition)
  | directive (directive : DirectiveDefinition)
  deriving Repr, Inhabited

/-- The operation, of a definition that is one. -/
def Definition.operation? : Definition → Option Operation
  | .operation o => some o
  | _ => none

/-- The fragment, of a definition that is one. -/
def Definition.fragment? : Definition → Option Fragment
  | .fragment f => some f
  | _ => none

/-- The operations of a document, in order. -/
def operations (definitions : List Definition) : List Operation :=
  definitions.filterMap Definition.operation?

/-- The fragments of a document, in order. -/
def fragments (definitions : List Definition) : List Fragment :=
  definitions.filterMap Definition.fragment?

end Document

/-- A document: its definitions, in order. -/
abbrev Document := List Document.Definition

end QueryShape
