import QueryShape.Validation.Context
import QueryShape.Validation.Suggestion

/-!
# Rules of fields

Fields that are selected are defined on the type they are selected on, and have a selection of
their own just where their values have fields.
-/

namespace QueryShape.Validation

open Document

/-- Fields with members have a selection and other fields have none. -/
def scalarLeafs : Rule := fun c v =>
  match v.site, v.scope.type? with
  | .field f selections, some type =>
    if c.schema.bareKind Kind.isLeaf type then
      if selections.isEmpty then []
      else ["Field '" ++ f.name ++ "' must not have a selection since type '" ++ type.text ++
        "' has no subfields."]
    else if selections.isEmpty then
      ["Field '" ++ f.name ++ "' of type '" ++ type.text ++
        "' must have a selection of subfields. Did you mean '" ++ f.name ++ " \x7b ... \x7d'?"]
    else []
  | _, _ => []

/-! ## Types that have the field -/

/-- How often a type has a field among the members of another: a member once, an interface once for
each member that implements it. -/
structure FieldOwner where
  type : TypeDefinition
  uses : Nat

/-- Count a use of a type. -/
def countOwner (owners : List FieldOwner) (t : TypeDefinition) : List FieldOwner :=
  if owners.any (·.type.name == t.name) then
    owners.map fun o => if o.type.name == t.name then { o with uses := o.uses + 1 } else o
  else owners ++ [⟨t, 1⟩]

/-- The members of an interface or union that have a field, and their interfaces that have it. -/
def fieldOwners (s : Schema) (t : TypeDefinition) (field : String) : List FieldOwner :=
  let members := (s.abstractMembers t).filterMap s.type? |>.filter fun m => (m.field? field).isSome
  members.foldl (fun owners m =>
    ((m.interfaces.filterMap s.type?).filter fun i => (i.field? field).isSome).foldl countOwner
      (countOwner owners m)) []

/-- The order in which owners are suggested: used more often, then interfaces before their members,
then by name. -/
def ownerBefore (a b : FieldOwner) : Bool :=
  if a.uses ≠ b.uses then b.uses < a.uses
  else if a.type.kind == .interface && Schema.hasMember a.type b.type then true
  else if b.type.kind == .interface && Schema.hasMember b.type a.type then false
  else (naturalCompare a.type.name b.type.name).isLE

/-- The types to suggest a fragment on. -/
def suggestedTypes (s : Schema) (t : TypeDefinition) (field : String) : List String :=
  if t.kind == .interface || t.kind == .union then
    ((fieldOwners s t field).mergeSort ownerBefore).map (·.type.name)
  else []

/-- Fields are defined on the types they are selected on. -/
def fieldsOnCorrectType : Rule := fun c v =>
  match v.site, v.scope.parent?, v.scope.field? with
  | .field f _, some parent, none =>
    let types := suggestedTypes c.schema parent f.name
    let hint :=
      if types.isEmpty then didYouMean (suggestions f.name (parent.fields.map (·.name)))
      else didYouMean types "to use an inline fragment on"
    ["Cannot query field '" ++ f.name ++ "' on type '" ++ parent.name ++ "'." ++ hint]
  | _, _, _ => []

end QueryShape.Validation
