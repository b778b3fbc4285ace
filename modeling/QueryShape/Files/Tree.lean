import QueryShape.Text.LineEnds

/-!
# Trees of files

A tree has files and folders, each under the names on the way to it, and a current folder. A path is
a text; `Tree.resolve?` follows it from the current folder, or from the top if it begins there.

* `Tree.text`: what a file says, with line ends of one kind.
* `Tree.below`: the files below a folder, each with the path that leads to it.
* `Tree.makeFolder`, `Tree.write`: the tree with one more folder or file.
-/

namespace QueryShape.Files

/-- What a file holds. -/
inductive Content
  | text (text : String)
  /-- An archive of files, by the paths that it has for them, each with its text if it has one. -/
  | archive (members : List (String × Option String))
  /-- What is neither. -/
  | other
  deriving DecidableEq, Repr, Inhabited

/-- The names on the way to a file or folder. -/
abbrev Route := List String

/-- Files and folders. -/
structure Tree where
  files : List (Route × Content) := []
  folders : List Route := []
  /-- The current folder. -/
  here : Route := []
  deriving Inhabited

/-- Why something cannot be done with a file. -/
inductive FileFault
  | missing
  /-- There is a folder in the place of a file. -/
  | isFolder
  /-- There is a file in the place of a folder. -/
  | notFolder
  /-- There is a file where a folder is to be made. -/
  | taken
  /-- The file holds no text. -/
  | notText
  deriving DecidableEq, Repr

/-! ## Paths -/

/-- The names of a path, with those that lead nowhere. -/
def names (path : String) : List String := (path.toList.splitOn '/').map .ofList

/-- The path begins at the top. -/
def isAbsolute (path : String) : Bool := path.startsWith "/"

/-- The last name of a path. -/
def lastName (path : String) : String := (names path).getLastD ""

/-- A path in its plain form: without names that lead nowhere. -/
def plainPath (path : String) : String :=
  let kept := (names path).filter fun n => n != "" && n != "."
  let joined := "/".intercalate kept
  if isAbsolute path then "/" ++ joined else if kept.isEmpty then "." else joined

/-- A path with one more name. -/
def join (path name : String) : String :=
  if path.isEmpty then name else if path.endsWith "/" then path ++ name else path ++ "/" ++ name

/-- The path of a route from the top. -/
def routePath (route : Route) : String := "/" ++ "/".intercalate route

namespace Tree

variable (t : Tree)

/-! ## Looking -/

/-- The file at the end of a route. -/
def file? (route : Route) : Option Content := t.files.lookup route

/-- There is a folder at the end of a route. -/
def isFolder (route : Route) : Bool :=
  route.isEmpty || route.isPrefixOf t.here || t.folders.any route.isPrefixOf ||
    t.files.any fun f => route.isPrefixOf f.1 && route != f.1

/-- The route after one more name of a path, if the way goes on from there. -/
def follow (route : Route) (name : String) : Option Route :=
  if !t.isFolder route then none
  else if name = "" ∨ name = "." then some route
  else if name = ".." then some route.dropLast
  else some (route ++ [name])

/-- The route of a path, if its way is there up to the last name. -/
def resolve? (path : String) : Option Route :=
  if path.isEmpty then none
  else (names path).foldlM t.follow (if isAbsolute path then [] else t.here)

/-- The route that a path writes, whether there is anything on the way or not. -/
def routeOf (path : String) : Route :=
  (names path).foldl (fun route name =>
    if name = "" ∨ name = "." then route
    else if name = ".." then route.dropLast
    else route ++ [name]) (if isAbsolute path then [] else t.here)

/-- The file of a path. -/
def at? (path : String) : Option Content := (t.resolve? path).bind t.file?

/-- There is a folder at a path. -/
def hasFolder (path : String) : Bool := (t.resolve? path).any t.isFolder

/-- There is a file or folder at a path. -/
def has (path : String) : Bool := (t.at? path).isSome || t.hasFolder path

/-- The files below a folder, each with the path that leads to it. -/
def below (path : String) : List String :=
  match t.resolve? path with
  | some route =>
    if t.isFolder route then
      t.files.filterMap fun f =>
        if route.isPrefixOf f.1 then some (join path ("/".intercalate (f.1.drop route.length)))
        else none
    else []
  | none => []

/-! ## Reading -/

/-- What the file of a path says. -/
def text (path : String) : Except FileFault String :=
  match t.at? path with
  | some (.text s) => .ok (.ofList (Text.unifyLineEnds s.toList))
  | some _ => .error .notText
  | none => .error (if t.hasFolder path then .isFolder else .missing)

/-! ## Writing -/

/-- The tree with a folder, and with those on the way to it. -/
def makeFolder (route : Route) : Except FileFault Tree :=
  if (t.file? route).isSome then .error .taken
  else if t.files.any fun f => f.1.isPrefixOf route then .error .notFolder
  else .ok { t with folders := route :: t.folders }

/-- The tree with a file, which takes the place of one that is there. -/
def write (route : Route) (text : String) : Except FileFault Tree :=
  if t.isFolder route then .error .isFolder
  else
    let others := t.files.filter (·.1 != route)
    .ok { t with files := others ++ [(route, .text text)] }

end Tree

/-! ## Archives -/

/-- The tree of the members of an archive, below a folder. What would lead out of it is left out of
their paths. -/
def unpack (folder : Route) (members : List (String × Option String)) : Tree :=
  members.foldl (fun t (path, text?) =>
    let route := folder ++ (names path).filter fun n => n != "" && n != "." && n != ".."
    let content := (text?.map Content.text).getD .other
    if path.endsWith "/" then { t with folders := route :: t.folders }
    else { t with files := t.files.filter (·.1 != route) ++ [(route, content)] })
    { folders := [folder] }

end QueryShape.Files
