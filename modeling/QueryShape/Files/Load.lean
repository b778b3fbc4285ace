import QueryShape.Document.Location
import QueryShape.Files.Tree
import QueryShape.Hooks
import QueryShape.Json.Reader
import QueryShape.Module.Layout
import QueryShape.Schema.OfIntrospection

/-!
# What is read from files

Documents and type definitions are the files with certain extensions, below a folder or alone, in
the order of their paths. A schema is in files of type definitions, which are read as one document,
or in a JSON file with the answer to an introspection query. Templates are the files of a folder
that have the names of templates.
-/

namespace QueryShape.Files

open Document

/-! ## Documents -/

/-- The ends of the names of the files that documents are in. -/
def documentEndings : List String := [".graphql", ".graphqls", ".gql"]

/-- A path is that of a file that a document is in. -/
def isDocumentPath (path : String) : Bool := documentEndings.any fun e => path.endsWith e

/-- The paths of the documents at a path, in order. -/
def documentPaths (t : Tree) (path : String) : List String :=
  let found := if (t.at? path).isSome then [path] else t.below path
  (found.filter isDocumentPath).mergeSort (· ≤ ·)

/-- The documents at a path, each with the path that it is read from. -/
def declarations (t : Tree) (path : String) : Except FileFault (List Declaration) :=
  (documentPaths t path).mapM fun p => do return { text := ← t.text p, source := p }

/-! ## Schemas -/

/-- Why no schema can be read from files. -/
inductive SourceFault
  | file (fault : FileFault)
  /-- A file is no document. -/
  | syntaxFault (text : String) (fault : SyntaxFault)
  /-- The type definitions make no schema. -/
  | schema (fault : SchemaFault)
  /-- A file is not JSON. -/
  | notJson
  /-- An answer is no schema. -/
  | introspection (fault : IntrospectionFault)

/-- What comes of reading a schema. -/
structure SchemaSource where
  result : Except SourceFault Schema
  /-- The name of the file read last. -/
  file : String := ""
  /-- The number of documents, once all are read. -/
  documents? : Option Nat := none

/-- Read documents as one, after those of the definitions given. -/
def readDefinitions (t : Tree) (documents : Nat) :
    (file : String) → List Definition → List String → SchemaSource
  | file, definitions, [] =>
    { result := (Schema.ofDocument definitions).mapError .schema, file
      documents? := some documents }
  | _, definitions, path :: rest =>
    let file := lastName path
    match t.text path with
    | .error fault => { result := .error (.file fault), file }
    | .ok text =>
      match Document.read text with
      | .error fault => { result := .error (.syntaxFault text fault), file }
      | .ok more => readDefinitions t documents file (definitions ++ more) rest

/-- The schema that an answer in a JSON file describes. -/
def readAnswer (t : Tree) (path : String) : Except SourceFault Schema := do
  match Json.read? (← (t.text path).mapError .file) with
  | some json => (Schema.ofIntrospection json).mapError .introspection
  | none => throw .notJson

/-- The schema at a path. -/
def schemaAt (t : Tree) (path : String) : SchemaSource :=
  if (t.at? path).isSome && path.endsWith ".json" then
    { result := readAnswer t path, file := lastName path }
  else
    match documentPaths t path with
    | [] => { result := .error (.file .missing) }
    | paths => readDefinitions t paths.length "" [] paths

/-! ## Templates -/

/-- The plain texts of the templates in a folder, if there is one. -/
def templatesAt (t : Tree) (folder : String) : Module.Templates :=
  let template? (name : String) : Option String :=
    if t.hasFolder folder then
      match t.text (join folder name) with
      | .ok text => some (Module.ofTemplateFile text)
      | .error _ => none
    else none
  { root? := template? "root_class.py.j2", leaf? := template? "leaf_class.py.j2"
    input? := template? "input_class.py.j2", enum? := template? "enum_class.py.j2"
    module? := template? "module.py.j2", package? := template? "package_init.py.j2" }

end QueryShape.Files
