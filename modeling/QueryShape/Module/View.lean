import QueryShape.Record.Basic

/-!
# The body of an accessor

An accessor with several ways looks at the type of the object and takes the first way that is good
for it. A way that is good for all types that are left is taken without looking, so an object of a
type unknown to the schema is read like one of them. A type that no way is good for reads as
nothing, and then an unknown type is an error.
-/

namespace QueryShape.Module

open Code Record

/-- A part of the body of an accessor. -/
inductive Branch
  /-- Do the statements. -/
  | always (statements : List Statement)
  /-- Do the statements for an object of one of the types. -/
  | ofTypes (names : List String) (statements : List Statement)
  /-- An object of any type that gets here is an error. -/
  | unexpected (className : String)
  deriving DecidableEq, Repr

/-- The ways that an accessor takes. -/
structure Dispatch where
  branches : List Branch := []
  /-- What the ways give, each once. -/
  signatures : List String := []
  /-- The types that no way is good for. -/
  left : List String := []
  deriving DecidableEq, Repr

/-- The ways of an accessor for the types that are left. -/
def dispatch : (left : List String) → List Path → Dispatch
  | left, [] => { left }
  | left, path :: rest =>
    let here := left.filter (· ∈ path.typenames)
    let signature := path.signature.text
    if here.isEmpty then dispatch left rest
    else if here.length = left.length then
      { branches := [.always path.decoder.statements], signatures := [signature] }
    else
      let others := dispatch (left.filter (!here.contains ·)) rest
      { others with
        branches := .ofTypes here path.decoder.statements :: others.branches
        signatures := signature :: others.signatures.filter (· ≠ signature) }

/-- What an accessor gives, nothing included. -/
def Dispatch.signature (d : Dispatch) : String :=
  match d.signatures with
  | [] => "None"
  | [signature] => if d.left.isEmpty then signature else optionalText signature
  | signatures =>
    let union := "Union[" ++ ", ".intercalate signatures ++ "]"
    if d.left.isEmpty then union else optionalText union

/-- The whole body of an accessor of a class. -/
def Dispatch.body (d : Dispatch) (className : String) : List Branch :=
  if !d.left.isEmpty then
    d.branches ++ [.ofTypes d.left [.return .nothing], .unexpected className]
  else if d.branches.isEmpty then [.always [.return .nothing]]
  else d.branches

/-- An accessor as a class has it. -/
structure View where
  name : String
  signature : String
  body : List Branch
  deriving DecidableEq, Repr

/-- An accessor of a class for objects of the given types. -/
def view (className : String) (possibleTypes : List String) (accessor : Accessor) : View :=
  let d := dispatch possibleTypes accessor.paths
  { name := accessor.name, signature := d.signature, body := d.body className }

/-! ## Text -/

/-- Type names as a set of generated code. -/
def typenameSet (names : List String) : String :=
  "\x7b" ++ ", ".intercalate (names.map Literal.ascii) ++ "\x7d"

/-- The lines of a part of the body. -/
def Branch.lines : Branch → List String
  | .always statements => statements.flatMap Statement.lines
  | .ofTypes names statements =>
    ("if self.typename in " ++ typenameSet names ++ ":") ::
      (statements.flatMap Statement.lines).map ("    " ++ ·)
  | .unexpected className =>
    ["raise UnexpectedTypenameError(" ++ Literal.ascii className ++ ", self.typename)"]

/-- The lines of the body of an accessor. -/
def View.lines (v : View) : List String := v.body.flatMap Branch.lines

end QueryShape.Module
