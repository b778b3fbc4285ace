import QueryShape.Code.Signature
import QueryShape.Code.Expr

/-!
# Decoders

A decoder says how a value of a response becomes a value of the program, layer by layer. It turns
into one expression, or into the statements of an accessor, where a missing value returns at once.

The items of a list are bound to names: the placeholder for the innermost list, so that the bare
conversion applies to them, and numbered names for the lists around it.
-/

namespace QueryShape.Code

/-- How a value of a response is converted. -/
inductive Decoder
  /-- Convert the bare value; the access is given where the placeholder is not bound. -/
  | convert (template : Expr) (access? : Option Expr)
  /-- Nothing for a missing value, which inside a list leaves the other items. -/
  | guard (subject : Expr) (inList : Bool) (body : Decoder)
  /-- Convert every item of a list. -/
  | each (source : Expr) (item : String) (body : Decoder)
  deriving DecidableEq, Repr, Inhabited

namespace Decoder

/-- The name for the items of a list with the given number of lists inside. -/
def itemName (inside : Int) : String :=
  if inside = 0 then placeholder else "inner_value" ++ toString inside

/-- The decoder for layers, outermost first. `arrays` is the number of list layers among them and
`level` the number of lists around. -/
def build (template : Expr) : (layers : List Layer) → (access : Expr) → (arrays : Int) →
    (level : Nat) → Decoder
  | [], access, _, level => .convert template (if level = 0 then some access else none)
  | .array :: rest, source, arrays, level =>
    let item := itemName (arrays - 1)
    .each source item (build template rest (.name item) (arrays - 1) (level + 1))
  | .nilable :: rest, access, arrays, level =>
    .guard access (0 < level) (build template rest access arrays level)

/-- The decoder as one expression. -/
def toExpr : Decoder → Expr
  | .convert template none => template
  | .convert template (some access) => template.fill access
  | .guard subject _ body => .unlessNothing subject body.toExpr
  | .each source item body => .forEach body.toExpr item source

/-- The decoder as the statements of an accessor. -/
def statements : Decoder → List Statement
  | .guard subject false body => .returnIfNothing subject :: body.statements
  | decoder => [.return decoder.toExpr]

end Decoder

end QueryShape.Code
