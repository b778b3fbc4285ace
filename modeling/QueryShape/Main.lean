import QueryShape.CommandLine.Run
import QueryShape.Files.Archive

/-!
# The program

What the arguments name is read from the file system into a tree. `CommandLine.run` works on the
tree, and what is new in it afterwards is written to the file system. Nothing is decided here.
-/

namespace QueryShape

open Files CommandLine

/-! ## Reading -/

/-- What a file with these bytes holds. -/
def contentOf (bytes : ByteArray) : Content :=
  match String.fromUTF8? bytes with
  | some text => .text text
  | none => ((Archive.membersIn? bytes).map Content.archive).getD .other

/-- The tree with the file or folder at a route, and with what a folder has below it. -/
partial def gather (t : Tree) (route : Route) : IO Tree := do
  let path := (← IO.currentDir) / routePath route
  if t.folders.contains route || (t.file? route).isSome then return t
  else if ← path.isDir then
    let entries ← path.readDir
    entries.foldlM (fun t entry => gather t (route ++ [entry.fileName]))
      { t with folders := route :: t.folders }
  else if ← path.pathExists then
    let content := contentOf (← IO.FS.readBinFile path)
    return { t with files := (route, content) :: t.files }
  else return t

/-- The tree with the folder at a route, or with a file there that is not looked into. -/
def glance (t : Tree) (route : Route) : IO Tree := do
  let path := (← IO.currentDir) / routePath route
  if t.isFolder route || (t.file? route).isSome then return t
  else if ← path.isDir then return { t with folders := route :: t.folders }
  else if ← path.pathExists then return { t with files := (route, .other) :: t.files }
  else return t

/-- The routes that a path passes through. -/
def routesOn (t : Tree) (path : String) : List Route :=
  let parts := names path
  (List.range (parts.length + 1)).map fun n => t.routeOf ("/".intercalate (parts.take n))

/-- The paths that options name: those that are read, and those that are only passed through. -/
def pathsOf (arguments : List String) : List String × List String :=
  match commandOf arguments with
  | .ok (.generate given) =>
    ([Choice.schema, .queries, .templateDir].flatMap given.values, given.values .output)
  | _ => ([], [])

/-- The tree of what arguments name. -/
def treeFor (arguments : List String) : IO Tree := do
  let (read, passed) := pathsOf arguments
  let start : Tree := { here := (names (← IO.currentDir).toString).filter (· != "") }
  let found ← read.foldlM (fun t path => gather t (start.routeOf path)) start
  ((read ++ passed).flatMap (routesOn start)).foldlM glance found

/-! ## Writing -/

/-- Write the folders and files of a tree that another does not have. -/
def save (before after : Tree) : IO Unit := do
  for route in after.folders.reverse do
    unless before.folders.contains route do
      IO.FS.createDirAll (routePath route)
  for (route, content) in after.files do
    match content with
    | .text text =>
      unless before.file? route = some content do
        IO.FS.writeFile (routePath route) text
    | _ => pure ()

/-- The words of a fault that a run has not told. -/
def untold : RunFault → Option String
  | .usage fault => some ("Error: " ++ fault.words)
  | fault => if fault.told?.isNone then some "Error: the files cannot be used" else none

end QueryShape

/-- Do what the arguments ask for. -/
def main (arguments : List String) : IO UInt32 := do
  let before ← QueryShape.treeFor arguments
  let modules := [QueryShape.Converter.standardEntry]
  let report := QueryShape.CommandLine.run modules "/tmp/unpacked" before arguments
  QueryShape.save before report.tree
  for notice in report.notices do
    IO.eprintln notice.words
  for words in (report.fault?.bind QueryShape.untold).toList do
    IO.eprintln words
  IO.print report.output
  return UInt32.ofNat report.exitCode
