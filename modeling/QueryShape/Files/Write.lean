import QueryShape.Files.Tree
import QueryShape.Generation.Output
import QueryShape.Hooks

/-!
# Writing code

The classes of a run are written as one module, or as a package with a module for each class. No
module is written before all of them have a text; the module of the package comes last, so the
others are there already when that one has none.
-/

namespace QueryShape.Files

open Generation

/-- Why code is not written. -/
inductive WriteFault
  | file (fault : FileFault)
  | generation (error : GenerationError)

/-- What has been written: the tree after it, and the paths of the files in order. -/
structure Written where
  tree : Tree
  paths : List String := []
  deriving Inhabited

/-- A computation that writes files and may fail. What has been written stays. -/
abbrev Writing := ExceptT WriteFault (StateM Written)

/-- A result as that of a computation. -/
def ofResult (toFault : ε → WriteFault) (result : Except ε α) : Writing α :=
  match result with
  | .ok a => pure a
  | .error e => throw (toFault e)

/-- Make a folder, unless it is there. -/
def makeFolder (route : Route) : Writing Unit := do
  let tree := (← get).tree
  if !tree.isFolder route then
    let tree ← ofResult .file (tree.makeFolder route)
    modify fun w => { w with tree }

/-- Write a file, as the hooks leave it. -/
def writeFile (hooks : Hooks) (path text : String) : Writing Unit := do
  let tree := (← get).tree
  let tree ← ofResult .file (tree.write (tree.routeOf path) (hooks.runAfter (lastName path) text))
  modify fun w => { w with tree, paths := w.paths ++ [path] }

/-- Write the classes of a run as one module. -/
def writeModule (s : Session) (templates : Module.Templates) (hooks : Hooks) (output : String) :
    Writing Unit := do
  let path := plainPath output
  makeFolder ((← get).tree.routeOf path).dropLast
  writeFile hooks path (← ofResult .generation (s.contents templates))

/-- Write the classes of a run as a package. -/
def writePackage (s : Session) (templates : Module.Templates) (hooks : Hooks) (output : String) :
    Writing Unit := do
  let folder := plainPath output
  makeFolder ((← get).tree.routeOf folder)
  let path (name : String) := if folder = "." then name else join folder name
  for f in ← ofResult .generation (s.classFiles templates) do
    writeFile hooks (path (fileOf f.className)) f.code
  writeFile hooks (path packageFile) (← ofResult .generation (s.package templates))

end QueryShape.Files
