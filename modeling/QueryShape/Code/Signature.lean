import QueryShape.Document.Basic

/-!
# Layers and signatures

A type reference is a bare type under layers: a layer for lists, and a layer for values that may be
missing wherever no non-null mark stands. `layers` lists them, outermost first, and
`Signature.wrap` puts them on the signature of the bare type.
-/

namespace QueryShape.Code

/-- A layer around a bare type. -/
inductive Layer
  /-- The value may be missing. -/
  | nilable
  /-- The value is a list. -/
  | array
  deriving DecidableEq, Repr, Inhabited

/-- The layers of a type reference; the outermost value is there for sure if it is marked. -/
def layersUnder (marked : Bool) : TypeRef → List Layer
  | .nonNull base => layersUnder true base
  | .list item => (if marked then [] else [.nilable]) ++ .array :: layersUnder false item
  | .named _ => if marked then [] else [.nilable]

/-- The layers of a type reference, outermost first. -/
def layers (type : TypeRef) : List Layer := layersUnder false type

/-- The number of list layers. -/
def arrayDepth (layers : List Layer) : Nat := layers.count .array

/-- A value may be missing altogether. -/
def mayBeMissing (layers : List Layer) : Bool := layers.head? == some .nilable

/-- The signature of a value in generated code. -/
inductive Signature
  | bare (text : String)
  | optional (of : Signature)
  | list (of : Signature)
  deriving DecidableEq, Repr, Inhabited

namespace Signature

/-- A signature as generated code has it. -/
def text : Signature → String
  | .bare text => text
  | .optional a => "Optional[" ++ a.text ++ "]"
  | .list a => "List[" ++ a.text ++ "]"

/-- A signature under a layer. -/
def under : Layer → Signature → Signature
  | .nilable, a => .optional a
  | .array, a => .list a

/-- A signature under layers, outermost first. -/
def wrap (layers : List Layer) (a : Signature) : Signature :=
  layers.foldr under a

end Signature

/-- A signature text that also admits nothing, with no second mark on one that does already. -/
def optionalText (text : String) : String :=
  if text.startsWith "Optional[" then text else "Optional[" ++ text ++ "]"

end QueryShape.Code
