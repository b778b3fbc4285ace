import QueryShape.Generation.Session
import QueryShape.Grammar.Statement
import QueryShape.Module.Layout

/-!
# What a run gives

The records of a run as one module, or as a package with a module for each class. No text is given
that is not a module.
-/

namespace QueryShape.Generation

open QueryShape.Module

/-- The text, if it is a module; the file is named otherwise. -/
def checked (file text : String) : Except GenerationError String :=
  if Grammar.isModule text then .ok text else .error (.invalidModule file)

/-- The name that messages have for a module without a file. -/
def unnamedFile : String := "<generated>"

/-- The module that holds all classes of a run. -/
def Session.contents (s : Session) (t : Templates) : Except GenerationError String := do
  let classes ← s.registry.sorted
  checked unnamedFile (moduleText t classes s.imports.toList [])

/-- The module of one class. -/
structure ClassFile where
  className : String
  kind : RecordKind
  dependencies : NameSet
  code : String

/-- The file of a class. -/
def fileOf (className : String) : String := Naming.moduleName className ++ ".py"

/-- The module of a class. -/
def Session.classFile (s : Session) (t : Templates) (r : Record) :
    Except GenerationError ClassFile := do
  let localImports := NameSet.ofList (r.dependencies.toList.map classImport)
  let text := moduleText t [r] s.imports.toList localImports.toList
  return { className := r.name, kind := r.kind, dependencies := r.dependencies
           code := ← checked (fileOf r.name) text }

/-- The modules of all classes of a run, each after those it depends on. -/
def Session.classFiles (s : Session) (t : Templates) : Except GenerationError (List ClassFile) := do
  (← s.registry.sorted).mapM (s.classFile t)

/-- The name of the module of a package. -/
def packageFile : String := "__init__.py"

/-- The module of the package that holds the classes. -/
def packageOf (t : Templates) (classNames : List String) : Except GenerationError String :=
  checked packageFile (packageText t classNames)

/-- The module of the package of a run. -/
def Session.package (s : Session) (t : Templates) : Except GenerationError String := do
  packageOf t ((← s.registry.sorted).map Record.name)

end QueryShape.Generation
