import QueryShape.Schema.Constant

/-!
# Walking a document

`visits` lists the places of a document in the order in which a reader meets them, each with what
the schema says about it: the type selected on, the field and its type, the type that a value is
expected to have. A rule of validation looks at one place at a time.

Places that enclose others come before them. The fields, directives and operations also have a
place after all that they enclose.
-/

namespace QueryShape.Validation

open Document

/-- A place of a document. -/
inductive Site
  | documentStart
  | documentEnd
  /-- An operation, at its index in the document. -/
  | operation (index : Nat) (operation : Operation)
  | operationEnd (operation : Operation)
  /-- A fragment, at its index in the document. -/
  | fragment (index : Nat) (fragment : Fragment)
  /-- Part of a type definition, with the directives on it and those that earlier parts of the
  same definition have. -/
  | definitionPart (directives : List Directive) (earlier : List String)
  | variable (definition : Variable)
  /-- A selection set. Its path tells it from every other selection set of the document. -/
  | selectionSet (path : List Nat) (selections : List Selection)
  | field (field : Field) (selections : List Selection)
  | fieldEnd (field : Field)
  | spread (fragment : String) (directives : List Directive)
  | inline (condition? : Option String) (directives : List Directive)
  | argument (argument : Argument)
  | directive (directive : Directive) (place : String)
  | directiveEnd (directive : Directive)
  | typeName (name : String)
  | value (value : Value)
  /-- A field of an object value, with the keys before it. -/
  | objectField (key : String) (earlier : List String)

/-- What the schema says about a place. -/
structure Scope where
  /-- The type of the value that is being selected. -/
  type? : Option TypeRef := none
  /-- The type whose fields are being selected. -/
  parent? : Option TypeDefinition := none
  /-- The definition of the field around. -/
  field? : Option FieldDefinition := none
  /-- The directive around, and its definition. -/
  inDirective : Bool := false
  directive? : Option DirectiveDefinition := none
  /-- The definition of the argument around. -/
  argument? : Option InputValue := none
  /-- The types expected of the values around, innermost first. -/
  inputs : List (Option TypeRef) := []
  /-- A default stands in where the value is not given. -/
  hasDefault : Bool := false
  /-- A value around has been judged as a whole. -/
  settled : Bool := false
  /-- The place is part of a type definition. -/
  inTypeDefinition : Bool := false

/-- The type expected of the value. -/
def Scope.input? (c : Scope) : Option TypeRef := c.inputs.head?.join

/-- The type expected of the value around. -/
def Scope.outerInput? (c : Scope) : Option TypeRef := (c.inputs.drop 1).head?.join

/-- A place and what the schema says about it. -/
structure Visit where
  scope : Scope
  site : Site

/-! ## Types of a schema -/

/-- The reference, if the schema has the type it names. -/
def resolve? (s : Schema) (type : TypeRef) : Option TypeRef :=
  if (s.type? type.bareName).isSome then some type else none

/-- The reference, if the schema has the type it names and the kind of that has the property. -/
def resolveKind? (s : Schema) (property : Kind → Bool) (type : TypeRef) : Option TypeRef :=
  if s.bareKind property type then some type else none

/-- The definition of the type that is under a reference, if it has members to select. -/
def compositeOf? (s : Schema) (type? : Option TypeRef) : Option TypeDefinition := do
  let t ← s.type? (← type?).bareName
  if t.kind.isComposite then some t else none

/-- The field that a name selects on a type. -/
def fieldOf? (s : Schema) (parent : TypeDefinition) (name : String) : Option FieldDefinition :=
  if name = typenameField then
    if parent.kind.isComposite then some Schema.typenameFieldDefinition else none
  else
    let introspection? :=
      if s.query? = some parent.name then Schema.rootFields.find? (·.name == name) else none
    introspection? <|> parent.field? name

/-! ## Values -/

/-- The scope inside a list value. -/
def Scope.inList (c : Scope) (s : Schema) : Scope :=
  let type? := c.input?.map Schema.nullable
  let item? := match type? with
    | some (.list item) => some item
    | other => other
  { c with inputs := item?.bind (resolveKind? s Kind.isInput) :: c.inputs, hasDefault := false }

/-- The scope of a field of an object value. -/
def Scope.inObjectField (c : Scope) (s : Schema) (key : String) : Scope :=
  let field? : Option InputValue := do
    let t ← s.type? (← c.input?).bareName
    t.inputFields.find? (·.name == key)
  { c with
    inputs := field?.bind (fun f => resolveKind? s Kind.isInput f.type) :: c.inputs
    hasDefault := field?.any s.hasDefault }

/-- The type is a list, a non-null mark aside. -/
def isList (type? : Option TypeRef) : Bool :=
  match type?.map Schema.nullable with
  | some (.list _) => true
  | _ => false

/-- The type under lists and marks is an input type with fields. -/
def isInputObject (s : Schema) (type? : Option TypeRef) : Bool :=
  type?.any (s.bareKind (· == .input))

mutual

/-- The places of a value. -/
def valueVisits (s : Schema) (c : Scope) : Value → List Visit
  | .list items =>
    let inner := c.inList s
    ⟨inner, .value (.list items)⟩ ::
      itemVisits s { inner with settled := c.settled || !isList c.input? } items
  | .object fields =>
    ⟨c, .value (.object fields)⟩ ::
      fieldVisits s { c with settled := c.settled || !isInputObject s c.input? } [] fields
  | value => [⟨c, .value value⟩]

/-- The places of the items of a list. -/
def itemVisits (s : Schema) (c : Scope) : List Value → List Visit
  | [] => []
  | value :: rest => valueVisits s c value ++ itemVisits s c rest

/-- The places of the fields of an object. -/
def fieldVisits (s : Schema) (c : Scope) (earlier : List String) :
    List (String × Value) → List Visit
  | [] => []
  | (key, value) :: rest =>
    let inner := c.inObjectField s key
    ⟨inner, .objectField key earlier⟩ ::
      (valueVisits s inner value ++ fieldVisits s c (key :: earlier) rest)

end

/-! ## Arguments and directives -/

/-- The places of an argument of the directive or field around. -/
def argumentVisits (s : Schema) (c : Scope) (a : Argument) : List Visit :=
  let arguments? := c.directive?.map (·.arguments) <|> c.field?.map (·.arguments)
  let argument? := arguments?.bind (·.find? (·.name == a.name))
  let inner : Scope :=
    { c with
      argument?
      inputs := argument?.bind (fun v => resolveKind? s Kind.isInput v.type) :: c.inputs
      hasDefault := argument?.any s.hasDefault }
  ⟨inner, .argument a⟩ :: valueVisits s inner a.value

/-- The places of directives. -/
def directiveVisits (s : Schema) (c : Scope) (place : String) (directives : List Directive) :
    List Visit :=
  directives.flatMap fun d =>
    let inner : Scope := { c with inDirective := true, directive? := s.directive? d.name }
    ⟨inner, .directive d place⟩ ::
      (d.arguments.flatMap (argumentVisits s inner) ++ [⟨inner, .directiveEnd d⟩])

/-! ## Selections -/

/-- The scope in which a selection set on the type at hand selects. -/
def Scope.selecting (c : Scope) (s : Schema) : Scope :=
  { c with parent? := compositeOf? s c.type? }

/-- The scope of a field. -/
def Scope.onField (c : Scope) (s : Schema) (f : Field) : Scope :=
  let field? := c.parent?.bind fun parent => fieldOf? s parent f.name
  { c with field?, type? := field?.bind fun d => resolveKind? s Kind.isOutput d.type }

/-- The scope of a fragment on a type. -/
def Scope.onCondition (c : Scope) (s : Schema) (condition : String) : Scope :=
  { c with type? := resolveKind? s Kind.isOutput (.named condition) }

/-- The scope of a fragment that may leave its type as it is. -/
def Scope.onInline (c : Scope) (s : Schema) (condition? : Option String) : Scope :=
  match condition? with
  | some condition => c.onCondition s condition
  | none => { c with type? := c.type?.map fun t => .named t.bareName }

mutual

/-- The places of a selection. -/
def selectionVisits (s : Schema) (c : Scope) (path : List Nat) : Selection → List Visit
  | .field f selections =>
    let inner := c.onField s f
    ⟨inner, .field f selections⟩ ::
      (f.arguments.flatMap (argumentVisits s inner) ++
        directiveVisits s inner "FIELD" f.directives ++
        selectionSetVisits s inner path selections ++ [⟨inner, .fieldEnd f⟩])
  | .spread fragment directives =>
    ⟨c, .spread fragment directives⟩ :: directiveVisits s c "FRAGMENT_SPREAD" directives
  | .inline condition? directives selections =>
    let inner := c.onInline s condition?
    ⟨inner, .inline condition? directives⟩ ::
      (condition?.toList.map (⟨inner, .typeName ·⟩) ++
        directiveVisits s inner "INLINE_FRAGMENT" directives ++
        selectionSetVisits s inner path selections)

/-- The places of a selection set, if there is one. -/
def selectionSetVisits (s : Schema) (c : Scope) (path : List Nat) : List Selection → List Visit
  | [] => []
  | first :: rest =>
    let inner := c.selecting s
    ⟨inner, .selectionSet path (first :: rest)⟩ ::
      (selectionVisits s inner (0 :: path) first ++ selectionListVisits s inner path 1 rest)

/-- The places of the selections of a selection set, from a position on. -/
def selectionListVisits (s : Schema) (c : Scope) (path : List Nat) (position : Nat) :
    List Selection → List Visit
  | [] => []
  | selection :: rest =>
    selectionVisits s c (position :: path) selection ++
      selectionListVisits s c path (position + 1) rest

end

/-! ## Operations and fragments -/

/-- The directive place of an operation kind. -/
def operationPlace : OperationKind → String
  | .query => "QUERY"
  | .mutation => "MUTATION"
  | .subscription => "SUBSCRIPTION"

/-- The places of a variable of an operation. -/
def variableVisits (s : Schema) (c : Scope) (v : Variable) : List Visit :=
  let inner : Scope :=
    { c with inputs := resolveKind? s Kind.isInput v.type :: c.inputs, hasDefault := false }
  [⟨inner, .variable v⟩, ⟨inner, .typeName v.type.bareName⟩] ++
    v.default?.toList.flatMap (valueVisits s inner) ++
    directiveVisits s inner "VARIABLE_DEFINITION" v.directives

/-- The scope of an operation. -/
def operationScope (s : Schema) (o : Operation) : Scope :=
  { type? := (s.root? o.kind).bind fun name => resolveKind? s (· == .object) (.named name) }

/-- The places of an operation apart from its variables, at an index of the document. -/
def operationBodyVisits (s : Schema) (index : Nat) (o : Operation) : List Visit :=
  let c := operationScope s o
  directiveVisits s c (operationPlace o.kind) o.directives ++
    selectionSetVisits s c [index] o.selections

/-- The places of an operation, at an index of the document. -/
def operationVisits (s : Schema) (index : Nat) (o : Operation) : List Visit :=
  let c := operationScope s o
  ⟨c, .operation index o⟩ ::
    (o.parameters.flatMap (variableVisits s c) ++ operationBodyVisits s index o ++
      [⟨c, .operationEnd o⟩])

/-- The places of a fragment, at an index of the document. -/
def fragmentVisits (s : Schema) (index : Nat) (f : Fragment) : List Visit :=
  let c := ({} : Scope).onCondition s f.condition
  [⟨c, .fragment index f⟩, ⟨c, .typeName f.condition⟩] ++
    directiveVisits s c "FRAGMENT_DEFINITION" f.directives ++
    selectionSetVisits s c [index] f.selections

/-! ## Type definitions -/

/-- The scope of a type definition. -/
def definitionScope : Scope := { inTypeDefinition := true }

/-- The place of a type reference in a type definition. -/
def typeNameVisit (type : TypeRef) : Visit := ⟨definitionScope, .typeName type.bareName⟩

/-- The places of the directives on a part of a type definition. -/
def partVisits (s : Schema) (place : String) (directives : List Directive) : List Visit :=
  directiveVisits s definitionScope place directives

/-- The places of an argument or input field. -/
def inputValueVisits (s : Schema) (place : String) (v : InputValue) : List Visit :=
  ⟨definitionScope, .definitionPart v.directives []⟩ :: typeNameVisit v.type ::
    (v.default?.toList.flatMap (valueVisits s definitionScope) ++ partVisits s place v.directives)

/-- The places of a field of an object or interface type. -/
def fieldDefinitionVisits (s : Schema) (f : FieldDefinition) : List Visit :=
  ⟨definitionScope, .definitionPart f.directives []⟩ ::
    (f.arguments.flatMap (inputValueVisits s "ARGUMENT_DEFINITION") ++
      typeNameVisit f.type :: partVisits s "FIELD_DEFINITION" f.directives)

/-- The directive place of a type definition. -/
def typePlace : TypeBody → String
  | .scalar => "SCALAR"
  | .object .. => "OBJECT"
  | .interface .. => "INTERFACE"
  | .union _ => "UNION"
  | .enum _ => "ENUM"
  | .input _ => "INPUT_OBJECT"

/-- The places of a type definition. Its definitions and extensions before it have the given
directives. -/
def typeVisits (s : Schema) (earlier : List String) (t : TypeDefinition) : List Visit :=
  let directives := partVisits s (typePlace t.body) t.directives
  let names (types : List String) : List Visit := types.map fun n => typeNameVisit (.named n)
  ⟨definitionScope, .definitionPart t.directives earlier⟩ ::
    match t.body with
    | .scalar => directives
    | .object interfaces fields | .interface interfaces fields =>
      names interfaces ++ directives ++ fields.flatMap (fieldDefinitionVisits s)
    | .union members => directives ++ names members
    | .enum values =>
      directives ++ values.flatMap fun v =>
        ⟨definitionScope, .definitionPart v.directives []⟩ :: partVisits s "ENUM_VALUE" v.directives
    | .input fields =>
      let place := if t.isExtension then "ARGUMENT_DEFINITION" else "INPUT_FIELD_DEFINITION"
      directives ++ fields.flatMap (inputValueVisits s place)

/-- The places of a schema definition. -/
def schemaVisits (s : Schema) (earlier : List String) (d : SchemaDefinition) : List Visit :=
  ⟨definitionScope, .definitionPart d.directives earlier⟩ ::
    (partVisits s "SCHEMA" d.directives ++ d.roots.map fun r => typeNameVisit (.named r.2))

/-- The names of the directives on the schema, or on the type with a name, in a document. -/
def directivesOn (document : Document) (type? : Option String) : List String :=
  document.flatMap fun
    | .schema d => if type?.isNone then d.directives.map (·.name) else []
    | .type t => if type? = some t.name then t.directives.map (·.name) else []
    | _ => []

/-! ## Documents -/

/-- The places of a definition after others, at an index of the document. -/
def definitionVisits (s : Schema) (before : Document) (index : Nat) : Definition → List Visit
  | .operation o => operationVisits s index o
  | .fragment f => fragmentVisits s index f
  | .schema d => schemaVisits s (directivesOn before none) d
  | .type t => typeVisits s (directivesOn before (some t.name)) t
  | .directive d => d.arguments.flatMap (inputValueVisits s "ARGUMENT_DEFINITION")

/-- The places of the definitions from an index on. -/
def definitionListVisits (s : Schema) (before : Document) (index : Nat) : Document → List Visit
  | [] => []
  | definition :: rest =>
    definitionVisits s before index definition ++
      definitionListVisits s (before ++ [definition]) (index + 1) rest

/-- The places of a document. -/
def visits (s : Schema) (document : Document) : List Visit :=
  ⟨{}, .documentStart⟩ :: (definitionListVisits s [] 0 document ++ [⟨{}, .documentEnd⟩])

end QueryShape.Validation
