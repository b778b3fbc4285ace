import QueryShape.Document.Basic

/-!
# Asking for type names

`Document.addTypename` makes every selection set under a field ask for the name of the object's
type, in last place, unless it does so already. The selection sets of operations, fragments and
inline fragments are left as they are.
-/

namespace QueryShape.Document

/-- The selection asks for the type name under its plain key. -/
def Selection.isPlainTypename : Selection → Bool
  | .field head _ => head.isPlainTypename
  | _ => false

/-- The selection that asks for the type name. -/
def typenameSelection : Selection := .field { name := typenameField } []

/-- A selection set under a field, asking for the type name. -/
def withTypename (selections : List Selection) : List Selection :=
  if selections.any Selection.isPlainTypename then selections
  else selections ++ [typenameSelection]

mutual

/-- A selection in which every selection set under a field asks for the type name. -/
def Selection.addTypename : Selection → Selection
  | .field head [] => .field head []
  | .field head (first :: rest) => .field head (withTypename (addTypenames (first :: rest)))
  | .spread fragment directives => .spread fragment directives
  | .inline condition? directives selections =>
    .inline condition? directives (addTypenames selections)

/-- Selections in which every selection set under a field asks for the type name. -/
def addTypenames : List Selection → List Selection
  | [] => []
  | selection :: rest => selection.addTypename :: addTypenames rest

end

/-- A definition in which every selection set under a field asks for the type name. -/
def Definition.addTypename : Definition → Definition
  | .operation o => .operation { o with selections := addTypenames o.selections }
  | .fragment f => .fragment { f with selections := addTypenames f.selections }
  | definition => definition

/-- A document in which every selection set under a field asks for the type name. -/
def addTypename (document : Document) : Document :=
  document.map Definition.addTypename

end QueryShape.Document
