import QueryShape.Code.Signature
import QueryShape.Code.Expr

/-!
# Encoders

An encoder says how a value of the program becomes a value of a request, layer by layer. It turns
into an expression over the placeholder. Layers that change nothing are left out: a missing value
stays as it is where the value under the layer does, and a list of unchanged items is copied.
-/

namespace QueryShape.Code

/-- How a value of the program is converted. -/
inductive Encoder
  | convert (template : Expr)
  /-- A missing value stays missing. -/
  | ifPresent (body : Encoder)
  /-- Convert every item of a list. -/
  | each (item : String) (body : Encoder)
  deriving DecidableEq, Repr, Inhabited

namespace Encoder

/-- The encoder for layers, outermost first. The items of the lists have numbered names, counted
from the outermost list on. -/
def build (template : Expr) (stem : String) : (number : Nat) → List Layer → Encoder
  | _, [] => .convert template
  | number, .array :: rest =>
    .each (stem ++ toString number) (build template stem (number + 1) rest)
  | number, .nilable :: rest => .ifPresent (build template stem number rest)

/-- The encoder for layers, outermost first. -/
def ofLayers (template : Expr) (stem : String) (layers : List Layer) : Encoder :=
  build template stem 1 layers

/-- The encoder as an expression over the placeholder. -/
def toExpr : Encoder → Expr
  | .convert template => template
  | .ifPresent body =>
    let inner := body.toExpr
    if inner.isHole then inner else .unlessNothing .hole inner
  | .each item body =>
    let inner := body.toExpr
    if inner.isHole then .call (.name "list") .hole
    else .forEach (inner.fill (.name item)) item .hole

end Encoder

end QueryShape.Code
