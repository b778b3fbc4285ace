import QueryShape.Generation.Output
import QueryShape.Program.Evaluate

/-!
# Running a module

A module that holds the classes of a run is run from its top: it imports the supporting names, then
what converters need, then makes the classes. `load` gives what the names stand for at its end, or
the fault that stops it.
-/

namespace QueryShape.Program

open Code Record

/-! ## Imports -/

/-- The names that every module imports. -/
def supporting : Bindings :=
  [("Any", .tool .signature), ("Dict", .tool .signature), ("List", .tool .signature),
   ("Optional", .tool .signature), ("Union", .tool .signature), ("cast", .tool .cast),
   ("GraphQLExecutor", .tool .signature), ("GraphQLEnum", .tool .enum),
   ("InputObject", .tool .inputObject), ("OperationResult", .tool .operationResult),
   ("QueryResult", .tool .queryResult), ("ScalarValue", .tool .signature),
   ("UnexpectedTypenameError", .tool .unexpectedTypename)]

/-- The modules that have the types of values. -/
def typeModules : List String := ["datetime", "decimal", "typing", "uuid"]

/-- The module and the name that a line imports. -/
def importOfLine? (line : String) : Option (String × String) :=
  match (line.toList.splitOn ' ').map String.ofList with
  | ["from", module, "import", name] => some (module, name)
  | _ => none

/-- What a module has under a name. -/
def imported (modules : Converter.Modules) (module name : String) : Except Fault Thing :=
  if module ∈ typeModules then .ok (.tool .signature)
  else match modules.lookup module with
    | some converters => .ok (.imported converters name)
    | none => .error .missingModule

/-- The bindings after a line that imports a name. -/
def afterImport (modules : Converter.Modules) (bindings : Bindings) (line : String) :
    Except Fault Bindings :=
  match importOfLine? line with
  | some (module, name) => do return (name, ← imported modules module name) :: bindings
  | none => .error .invalidCode

/-! ## Classes -/

/-- The name of the class that the class of a record is made on. -/
def baseName : Record → String
  | .root _ => "OperationResult"
  | .leaf _ => "QueryResult"
  | .input _ => "InputObject"
  | .enum _ => "GraphQLEnum"

/-- The parameters of a class, passed by name. -/
def parametersOf : Record → List Parameter
  | .root r => r.parameters
  | .input r => r.arguments
  | _ => []

/-- The name by which a parameter of a class is passed. -/
def passedName (className : String) (p : Parameter) : String := nameInside className p.name

/-- A name that no parameter can have. -/
def unusableParameter : String := "__debug__"

/-- A class can be written: no two of its parameters have the same name. -/
def canBeWritten (r : Record) : Bool :=
  let names := (parametersOf r).map (passedName r.name)
  decide names.Nodup && !names.contains unusableParameter

/-- What comes of calling a thing with a method. -/
def decorate (t : Thing) (tool : Tool) : Except Fault Unit :=
  match t with
  | .tool other => if other = tool then .ok () else .error .wrongType
  | .generated (.enum _) _ => if t.ancestor? = some .enum then .error .wrongValue
    else .error .wrongType
  | _ => .error .wrongType

/-- The thing that a name stands for. -/
def Bindings.find (bindings : Bindings) (name : String) : Except Fault Thing :=
  (bindings.thing? name).elim (.error .unboundName) .ok

/-- Make the accessors of a class. One that is named like the tool that makes accessors hides it
from those after it. -/
def makeAccessors (bindings : Bindings) : (hidden : Bool) → List Accessor → Except Fault Unit
  | _, [] => .ok ()
  | hidden, a :: rest => do
    if hidden then throw .wrongType
    decorate (← bindings.find "property") .property
    makeAccessors bindings (a.name == "property") rest

/-- Make the members of an enum class: no two of one name, and none that classes have already. -/
def makeMembers (base : Thing) (e : Record.Enum) : Except Fault Unit :=
  if base.ancestor? ≠ some .enum then .ok ()
  else
    let names := (enumMembers e).map (·.1)
    if !decide names.Nodup then .error .wrongType
    else if names.contains "mro" then .error .wrongValue
    else .ok ()

/-- A class can be made on another, unless that is the class of an enum type. -/
def makeBase (base : Thing) : Except Fault Unit :=
  match base with
  | .generated (.enum _) _ =>
    if base.ancestor? = some .enum then .error .wrongType else .ok ()
  | _ => .ok ()

/-- The bindings after a class. -/
def afterClass (bindings : Bindings) (record : Record) : Except Fault Bindings := do
  let base ← bindings.find (baseName record)
  makeBase base
  match record with
  | .root r =>
    decorate (← bindings.find "classmethod") .classMethod
    makeAccessors bindings false r.accessors
  | .leaf r => makeAccessors bindings false r.accessors
  | .enum e => makeMembers base e
  | .input _ => pure ()
  return (record.name, .generated record base) :: bindings

/-! ## Modules -/

/-- What the names of a module stand for that holds the classes, with the given lines of imports. -/
def run (modules : Converter.Modules) (imports : List String) (classes : List Record) :
    Except Fault Bindings := do
  if !classes.all canBeWritten then throw .invalidCode
  classes.foldlM afterClass (← imports.foldlM (afterImport modules) supporting)

/-- What the names of the module of a session stand for, if it can be run. -/
def load (modules : Converter.Modules) (s : Generation.Session) :
    Except GenerationError (Except Fault Bindings) := do
  let _ ← s.contents {}
  return run modules s.imports.toList (← s.registry.sorted)

end QueryShape.Program
