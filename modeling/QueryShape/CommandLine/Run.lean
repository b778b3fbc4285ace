import QueryShape.CommandLine.Help
import QueryShape.CommandLine.Options
import QueryShape.Files.Write
import QueryShape.Generation.Generator

/-!
# A run of the command line

`run` does what the arguments ask for, on a tree of files. It tells what it does in notices; some of
them only a verbose run shows. A fault ends the run: some faults are told in words, and the others
are left to the caller.
-/

namespace QueryShape.CommandLine

open Files Generation

/-! ## Notices -/

/-- What a run tells. -/
inductive Notice
  | unpacking (archive : String)
  | unpackedTo (folder : String)
  | readingSchema
  /-- A file of type definitions cannot be read. -/
  | brokenDocument (file : String)
  | buildingSchema (documents : Nat)
  | generating
  | noDocuments (path : String)
  | document (source : String)
  | event (event : Event)
  | documents (count : Nat)
  | classes (count : Nat)
  | wrote (classes : Nat) (path : String)
  | done (files : Nat) (folder : String)
  | failure (words : String)
  deriving DecidableEq, Repr

/-- A line of the log. -/
def logLine (level topic words : String) : String :=
  level ++ " gql_typegen.core." ++ topic ++ ": " ++ words

/-- An event as a line of the log. -/
def eventLine : Event → String
  | .document source => logLine "INFO" "generator" ("Generating classes for " ++ source)
  | .registered kind name =>
    logLine "DEBUG" "registry" ("Registered " ++ kind.label ++ " " ++ name)
  | .merged name => logLine "DEBUG" "registry" ("Merged selections into " ++ name)
  | .converting scalar path =>
    logLine "DEBUG" "resolver" ("Converting scalar " ++ scalar ++ " with " ++ path)

namespace Notice

/-- Only a verbose run shows the notice. -/
def isVerbose : Notice → Bool
  | .unpackedTo _ | .buildingSchema _ | .document _ | .event _ | .documents _ | .classes _
  | .wrote .. => true
  | _ => false

/-- A notice in words. -/
def words : Notice → String
  | .unpacking archive => "Extracting archive " ++ archive ++ "..."
  | .unpackedTo folder => "  Extracted to: " ++ folder
  | .readingSchema => "Parsing schema..."
  | .brokenDocument file => logLine "ERROR" "parser" ("Error parsing " ++ file)
  | .buildingSchema n =>
    logLine "DEBUG" "parser" ("Building schema from " ++ toString n ++ " file(s)")
  | .generating => "Generating code..."
  | .noDocuments path =>
    logLine "WARNING" "parser" ("No query documents found at " ++ path)
  | .document source => "  " ++ source
  | .event e => eventLine e
  | .documents n => "  Documents: " ++ toString n
  | .classes n => "  Classes: " ++ toString n
  | .wrote n path =>
    logLine "INFO" "generator" ("Wrote " ++ toString n ++ " classes to " ++ path)
  | .done n folder => "Done! Generated " ++ toString n ++ " file(s) in " ++ folder
  | .failure words => "Error: " ++ words

end Notice

/-! ## Faults -/

/-- Why a run ends. -/
inductive RunFault
  | usage (fault : UsageFault)
  | relativeConverter
  | generation (error : GenerationError)
  | source (fault : SourceFault)
  | file (fault : FileFault)
  /-- An archive is none. -/
  | badArchive
  /-- An archive is not one of tapes, or is one, which cannot be unpacked. -/
  | badTapeArchive
  /-- An archive is of no kind that is known. -/
  | unknownArchive

/-- A fault in words, if the run tells it. -/
def RunFault.told? : RunFault → Option String
  | .generation .cutEscape | .generation .unsoundSchema => none
  | .generation e => some e.message
  | .source (.syntaxFault text (.malformed words left)) =>
    some (Document.SyntaxFault.report text (.malformed words left))
  | .source (.introspection (.syntaxFault text (.malformed words left))) =>
    some (Document.SyntaxFault.report text (.malformed words left))
  | _ => none

/-! ## The state of a run -/

/-- What a run has done so far. -/
structure Progress where
  tree : Tree
  notices : List Notice := []
  /-- What the run writes to its standard output. -/
  output : String := ""

/-- A run, which may end in a fault and keeps what it has done. -/
abbrev Running := ExceptT RunFault (StateM Progress)

/-- Tell something. -/
def tell (notice : Notice) : Running Unit :=
  modify fun p => { p with notices := p.notices ++ [notice] }

/-- A result as that of a run. -/
def need (toFault : ε → RunFault) (result : Except ε α) : Running α :=
  match result with
  | .ok a => pure a
  | .error e => throw (toFault e)

/-! ## Schemas -/

/-- The ends of the names of archives. -/
def archiveEndings : List String := [".zip", ".tar.gz", ".tgz"]

/-- A name is that of an archive. -/
def isArchiveName (name : String) : Bool :=
  let lower := String.ofList (name.toList.map Char.toLower)
  archiveEndings.any fun e => lower.endsWith e

/-- The members of an archive, by what its name says that it is. -/
def membersOf (name : String) (content : Content) :
    Except RunFault (List (String × Option String)) :=
  if name.endsWith ".zip" && name != ".zip" then
    match content with
    | .archive members => .ok members
    | _ => .error .badArchive
  else if name.endsWith ".tar.gz" || name.endsWith ".tgz" then .error .badTapeArchive
  else .error .unknownArchive

/-- The tree and the path that a schema is read from: an archive is unpacked before. -/
def schemaPlace (temporary path : String) : Running (Tree × String) := do
  let t := (← get).tree
  let route := (t.resolve? path).getD []
  let name := route.getLastD ""
  match t.file? route with
  | some content =>
    if isArchiveName name then
      tell (.unpacking name)
      let members ← need id (membersOf name content)
      tell (.unpackedTo temporary)
      return (unpack (t.routeOf temporary) members, temporary)
    else return (t, routePath route)
  | none => return (t, routePath route)

/-- Read the schema. -/
def readSchema (temporary path : String) : Running Schema := do
  let (t, path) ← schemaPlace temporary path
  tell .readingSchema
  let source := schemaAt t path
  match source.result with
  | .error (.syntaxFault _ _) => tell (.brokenDocument source.file)
  | _ => pure ()
  if let some n := source.documents? then tell (.buildingSchema n)
  need .source source.result

/-! ## Generating -/

/-- The documents at a path. -/
def readDocuments (path : String) : Running (List Declaration) := do
  let found ← need .file (declarations (← get).tree path)
  if found.isEmpty then tell (.noDocuments path)
  return found

/-- Generate from a document, going on from a session. -/
def generateFrom (g : Generator) (s : Session) (d : Declaration) : Running Session := do
  tell (.document d.source)
  let (result, after) := (g.generate d).run.run s
  (after.events.drop s.events.length).forM fun e => tell (.event e)
  need .generation result
  return after

/-- Write what a session has to a path. -/
def writeTo (o : Options) (hooks : Hooks) (templates : Module.Templates) (s : Session)
    (output : String) : Running Unit := do
  let tree := (← get).tree
  let path := routePath (tree.routeOf output)
  let write := if o.split then writePackage else writeModule
  let (result, written) := (write s templates hooks path).run.run { tree }
  modify fun p => { p with tree := written.tree }
  let toFault : WriteFault → RunFault
    | .file fault => .file fault
    | .generation e => .generation e
  need toFault result
  tell (.wrote s.registry.records.length path)
  tell (.done written.paths.length path)

/-- The name that hooks are given for standard output. -/
def standardOutput : String := "<stdout>"

/-- Generate what options ask for. -/
def generateAll (temporary : String) (o : Options) : Running Unit := do
  let schema ← readSchema temporary o.schema
  let hooks : Hooks := match o.header? with
    | some header => if header.isEmpty then {} else Hooks.addAfter {} (Hooks.header header)
    | none => {}
  let g : Generator :=
    { schema, converters := o.converters, validates := o.validates, hooks }
  tell .generating
  let found := (← o.queries.mapM readDocuments).flatten
  let s ← found.foldlM (generateFrom g) {}
  tell (.documents found.length)
  tell (.classes s.registry.records.length)
  let templates := (o.templateDir?.map (templatesAt (← get).tree)).getD {}
  match o.output? with
  | none =>
    let text ← need .generation (s.contents templates)
    modify fun p => { p with output := hooks.runAfter standardOutput text }
  | some output => writeTo o hooks templates s output

/-! ## Reports -/

/-- What comes of a run. -/
structure Report where
  exitCode : Nat
  output : String := ""
  notices : List Notice := []
  fault? : Option RunFault := none
  tree : Tree

/-- The report of a run that a fault has ended or that has come to its end. -/
def reportOf (verbose : Bool) (result : Except RunFault Unit) (p : Progress) : Report :=
  let shown := p.notices.filter fun n => verbose || !n.isVerbose
  match result with
  | .ok _ => { exitCode := 0, output := p.output, notices := shown, tree := p.tree }
  | .error fault =>
    let told := (fault.told?.map Notice.failure).toList
    { exitCode := 1, notices := shown ++ told, fault? := some fault, tree := p.tree }

/-- Do what arguments ask for, with the modules that converters are found in and a folder that
archives can be unpacked to. -/
def run (modules : Converter.Modules) (temporary : String) (tree : Tree) (arguments : List String) :
    Report :=
  let misused (fault : UsageFault) : Report :=
    { exitCode := 2, fault? := some (.usage fault), tree }
  match commandOf arguments with
  | .error fault => misused fault
  | .ok .help => { exitCode := 0, output := programHelp, tree }
  | .ok .version => { exitCode := 0, output := versionText, tree }
  | .ok (.generate given) =>
    match Options.ofGiven tree modules given with
    | .error (.usage fault) => misused fault
    | .error .help => { exitCode := 0, output := generateHelp, tree }
    | .error .relativeConverter => { exitCode := 1, fault? := some .relativeConverter, tree }
    | .ok o =>
      let (result, p) := (generateAll temporary o).run.run { tree }
      reportOf o.verbose result p

end QueryShape.CommandLine
