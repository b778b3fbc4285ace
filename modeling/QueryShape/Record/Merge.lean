import QueryShape.Record.Basic

/-!
# Merging records

Selections of one name on one type are one class. Merging keeps what is there in its order and adds
what is new at the end: accessors by name, paths of an accessor by equality.
-/

namespace QueryShape.Record

/-- The paths of the first list, and after them those of the second that are not there yet. -/
def mergePaths (existing incoming : List Path) : List Path :=
  incoming.foldl (fun paths path => if path ∈ paths then paths else paths ++ [path]) existing

/-- The accessor with the paths of another added. -/
def Accessor.merge (existing incoming : Accessor) : Accessor :=
  { existing with paths := mergePaths existing.paths incoming.paths }

/-- Accessors with one more, merged into the one of its name if there is one. -/
def addAccessor (accessors : List Accessor) (accessor : Accessor) : List Accessor :=
  if accessors.any (·.name == accessor.name) then
    accessors.map fun a => if a.name == accessor.name then a.merge accessor else a
  else accessors ++ [accessor]

/-- Accessors of one name put in one place, the last of them standing for all. -/
def distinctAccessors (accessors : List Accessor) : List Accessor :=
  accessors.foldl (fun all accessor =>
    if all.any (·.name == accessor.name) then
      all.map fun a => if a.name == accessor.name then accessor else a
    else all ++ [accessor]) []

/-- The accessors of two lists, by name. -/
def mergeAccessors (existing incoming : List Accessor) : List Accessor :=
  incoming.foldl addAccessor (distinctAccessors existing)

/-- Two selections of one name as one. -/
def Leaf.merge (existing incoming : Leaf) : Except GenerationError Leaf :=
  if incoming.graphqlType = existing.graphqlType then
    .ok { existing with
      accessors := mergeAccessors existing.accessors incoming.accessors
      dependencies := existing.dependencies ∪ incoming.dependencies }
  else
    .error (.redefinition existing.name (.types existing.graphqlType incoming.graphqlType))

/-- Two records of one name as one, if both are selections. -/
def merge : (existing incoming : Record) → Except GenerationError Record
  | .leaf existing, .leaf incoming => return .leaf (← existing.merge incoming)
  | existing, incoming =>
    .error (.redefinition existing.name (.kinds existing.kind incoming.kind))

end QueryShape.Record
