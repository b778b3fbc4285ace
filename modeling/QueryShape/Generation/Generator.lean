import QueryShape.Document.Printer
import QueryShape.Document.Reader
import QueryShape.Document.Typename
import QueryShape.Generation.Select
import QueryShape.Hooks
import QueryShape.Validation.Check

/-!
# Generating from documents

`generate` reads a document and registers the classes of its operations, one after the other. The
names of all operations are looked at first, then the document is checked against the schema, if it
is to be. An error leaves what has been registered before it.

The text that an operation sends is the whole document, with type names asked for.
-/

namespace QueryShape.Generation

open Document Record

/-- What code is generated with. -/
structure Generator extends Setting where
  /-- Documents are checked against the schema. -/
  validates : Bool := true
  hooks : Hooks := {}

/-! ## Operations -/

/-- The root type of an operation. -/
def rootType (s : Schema) (o : Operation) : Except GenerationError TypeDefinition :=
  match (s.root? o.kind).bind s.type? with
  | some t => .ok t
  | none => .error (.missingRoot o.kind)

/-- The first name that the list has a second time. -/
def firstRepeated? : (seen : List String) → List String → Option String
  | _, [] => none
  | seen, name :: rest => if name ∈ seen then some name else firstRepeated? (name :: seen) rest

/-- The parameter of a variable. -/
def variableParameter (g : Setting) (owner : String) (v : Variable) : Run Parameter := do
  if (g.schema.type? v.type.bareName).isNone then throw (.unknownType v.type.text)
  parameter g [] owner operationParameters v.name v.type

/-- Register the classes of an operation with a name. -/
def generateOperation (g : Setting) (fragments : List Fragment) (queryText name : String)
    (o : Operation) : Run Unit := do
  let root ← rootType g.schema o
  let parameters ← o.parameters.mapM (variableParameter g name)
  match firstRepeated? [] (parameters.map (·.name)) with
  | some repeated => throw (.reservedName repeated name)
  | none => pure ()
  let place : Place := { className := name, owner := root, typenames := .ofList [root.name] }
  let members ← (select g fragments place o.selections {}).run
  register (.root
    { name, operationName := name, operationKind := o.kind, graphqlType := root.name
      possibleTypes := [root.name], queryText, parameters, accessors := members.accessors
      dependencies := members.dependencies ∪ .ofList (parameters.filterMap (·.dependency?)) })

/-! ## Documents -/

/-- The document of a text. -/
def readDocument (d : Declaration) : Except GenerationError Document :=
  match Document.read d.text with
  | .ok document => .ok document
  | .error .cutEscape => .error .cutEscape
  | .error fault => .error (.invalidDocument d.source [fault.message])

/-- The operations of a document with their names, if every name can be that of a class. -/
def namedOperations (document : Document) : Except GenerationError (List (String × Operation)) :=
  (operations document).mapM fun o =>
    match o.name? with
    | some name =>
      if Naming.isOperationName name then .ok (name, o)
      else .error (.invalidOperationName (some name))
    | none => .error (.invalidOperationName none)

/-- Check a document against the schema. -/
def checkDocument (s : Schema) (d : Declaration) (document : Document) :
    Except GenerationError Unit :=
  match s.validate document with
  | .unsoundSchema => .error .unsoundSchema
  | .unreadCondition words => .error (.unreadCondition words)
  | .complaints [] => .ok ()
  | .complaints list => .error (.invalidDocument d.source list)

/-- What a document asks for: its operations by name, its fragments, and the text to send. -/
structure Request where
  operations : List (String × Operation)
  fragments : List Fragment
  queryText : String

/-- What the document of a declaration asks for, if it may be asked. -/
def Generator.request (g : Generator) (d : Declaration) : Except GenerationError Request := do
  let document ← readDocument d
  let operations ← namedOperations document
  if g.validates then checkDocument g.schema d document
  return { operations, fragments := Document.fragments document
           queryText := Document.print (addTypename document) }

/-- Register the classes of the operations of a declaration. -/
def Generator.generate (g : Generator) (declaration : Declaration) : Run Unit := do
  let d := g.hooks.runBefore declaration
  report (.document d.source)
  match g.request d with
  | .ok r =>
    r.operations.forM fun (name, o) =>
      generateOperation g.toSetting r.fragments r.queryText name o
  | .error e => throw e

end QueryShape.Generation
