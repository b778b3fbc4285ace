import QueryShape.Code.Placeholder

/-!
# Expressions of generated code

The expressions that accessors and serializers consist of. `Expr.text` writes one; `Expr.fill` puts
an expression in place of the placeholder.

An expression that is given as text is kept as such.
-/

namespace QueryShape.Code

/-- An expression of generated code. -/
inductive Expr
  /-- A variable, or a name of the module. -/
  | name (name : String)
  /-- The value that stands for nothing. -/
  | nothing
  /-- A member of a value. -/
  | member (of : Expr) (name : String)
  /-- The value under a key that has to be there. -/
  | entry (of : Expr) (key : String)
  /-- The value under a key, or nothing. -/
  | entryOrNothing (of : Expr) (key : String)
  /-- A call with one argument. -/
  | call (function argument : Expr)
  /-- A call of a member without arguments. -/
  | send (receiver : Expr) (method : String)
  /-- A value taken to be of a type. -/
  | cast (type : String) (value : Expr)
  /-- Nothing if the subject is nothing, the value otherwise. -/
  | unlessNothing (subject value : Expr)
  /-- The list of the values for each item of the source. -/
  | forEach (value : Expr) (item : String) (source : Expr)
  /-- An expression as it was given. -/
  | verbatim (text : String)
  deriving DecidableEq, Repr, Inhabited

namespace Expr

/-- The placeholder. -/
def hole : Expr := .name placeholder

/-- A name with its members, as written with points between them. -/
def ofPath (path : String) : Expr :=
  match (path.toList.splitOn '.').map String.ofList with
  | first :: members => members.foldl .member (.name first)
  | [] => .name path

/-- An expression as generated code has it. -/
def text : Expr → String
  | .name n => n
  | .nothing => "None"
  | .member e n => e.text ++ "." ++ n
  | .entry e key => e.text ++ "[\"" ++ key ++ "\"]"
  | .entryOrNothing e key => e.text ++ ".get(\"" ++ key ++ "\")"
  | .call f x => f.text ++ "(" ++ x.text ++ ")"
  | .send e method => e.text ++ "." ++ method ++ "()"
  | .cast type e => "cast(" ++ type ++ ", " ++ e.text ++ ")"
  | .unlessNothing subject value => "None if " ++ subject.text ++ " is None else " ++ value.text
  | .forEach value item source =>
    "[" ++ value.text ++ " for " ++ item ++ " in " ++ source.text ++ "]"
  | .verbatim text => text

/-- The expression is the placeholder alone. -/
def isHole : Expr → Bool
  | .name n => n == placeholder
  | .verbatim text => text == placeholder
  | _ => false

/-- An expression with another in place of the placeholder. Texts that it holds are filled as
well. -/
def fill : Expr → (replacement : Expr) → Expr
  | .name n, r => if n = placeholder then r else .name n
  | .nothing, _ => .nothing
  | .member e n, r => .member (e.fill r) (Code.fill n r.text)
  | .entry e key, r => .entry (e.fill r) (Code.fill key r.text)
  | .entryOrNothing e key, r => .entryOrNothing (e.fill r) (Code.fill key r.text)
  | .call f x, r => .call (f.fill r) (x.fill r)
  | .send e method, r => .send (e.fill r) (Code.fill method r.text)
  | .cast type e, r => .cast (Code.fill type r.text) (e.fill r)
  | .unlessNothing subject value, r => .unlessNothing (subject.fill r) (value.fill r)
  | .forEach value item source, r =>
    .forEach (value.fill r) (Code.fill item r.text) (source.fill r)
  | .verbatim text, r => .verbatim (Code.fill text r.text)

end Expr

/-! ## Statements -/

/-- A statement that ends an accessor, or may end it. -/
inductive Statement
  /-- Return nothing if the subject is nothing. -/
  | returnIfNothing (subject : Expr)
  | return (value : Expr)
  deriving DecidableEq, Repr, Inhabited

/-- The lines of a statement. -/
def Statement.lines : Statement → List String
  | .returnIfNothing subject => ["if " ++ subject.text ++ " is None:", "    return None"]
  | .return value => ["return " ++ value.text]

end QueryShape.Code
