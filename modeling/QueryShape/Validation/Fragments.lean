import QueryShape.Validation.Context
import QueryShape.Validation.Suggestion

/-!
# Rules of fragments

Fragments have names of their own, stand on composite types, are used, do not spread themselves,
and are spread only where some object can be of both types. Introspection goes no deeper than a few
lists.
-/

namespace QueryShape.Validation

open Document

/-! ## Names and conditions -/

/-- No two fragments have one name. -/
def uniqueFragmentNames : Rule := fun c v =>
  match v.site with
  | .fragment index f =>
    if (fragments (c.document.take index)).any (·.name == f.name) then
      ["There can be only one fragment named '" ++ f.name ++ "'."]
    else []
  | _ => []

/-- Fragments that are spread are defined. -/
def knownFragmentNames : Rule := fun c v =>
  match v.site with
  | .spread name _ =>
    if (c.fragment? name).isSome then [] else ["Unknown fragment '" ++ name ++ "'."]
  | _ => []

/-- The type with the name is known and has no members to select. -/
def isOtherThanComposite (c : Context) (name : String) : Bool :=
  (c.schema.kind? name).any (!·.isComposite)

/-- Fragments have conditions on composite types. -/
def fragmentsOnCompositeTypes : Rule := fun c v =>
  match v.site with
  | .inline (some condition) _ =>
    if isOtherThanComposite c condition then
      ["Fragment cannot condition on non composite type '" ++ condition ++ "'."]
    else []
  | .fragment _ f =>
    if isOtherThanComposite c f.condition then
      ["Fragment '" ++ f.name ++ "' cannot condition on non composite type '" ++ f.condition ++
        "'."]
    else []
  | _ => []

/-- Types that are named are known. -/
def knownTypeNames : Rule := fun c v =>
  match v.site with
  | .typeName name =>
    let own := c.document.filterMap fun
      | .type t => if t.isExtension then none else some t.name
      | _ => none
    let known := c.schema.types.map (·.name) ++ own
    let standard := Schema.standardScalars ++ Schema.introspectionTypes.map (·.name)
    if known.contains name || (v.scope.inTypeDefinition && standard.contains name) then []
    else
      let options := if v.scope.inTypeDefinition then standard ++ known else known
      ["Unknown type '" ++ name ++ "'." ++ didYouMean (suggestions name options)]
  | _ => []

/-! ## Use -/

/-- Fragments that are defined are used. -/
def noUnusedFragments : Rule := fun c v =>
  match v.site with
  | .documentEnd =>
    let used := (operations c.document).flatMap fun o =>
      (reachedFragments c o.selections).map (·.name)
    (fragments c.document).filterMap fun f =>
      if used.contains f.name then none else some ("Fragment '" ++ f.name ++ "' is never used.")
  | _ => []

/-- A spread has members in common with the type it stands on. -/
def possibleFragmentSpreads : Rule := fun c v =>
  match v.site with
  | .inline _ _ =>
    match compositeOf? c.schema v.scope.type?, v.scope.parent? with
    | some t, some parent =>
      if c.schema.overlaps t parent then []
      else ["Fragment cannot be spread here as objects of type '" ++ parent.name ++
        "' can never be of type '" ++ t.name ++ "'."]
    | _, _ => []
  | .spread name _ =>
    let condition? := (c.fragment? name).map fun f => TypeRef.named f.condition
    match compositeOf? c.schema condition?, v.scope.parent? with
    | some t, some parent =>
      if c.schema.overlaps t parent then []
      else ["Fragment '" ++ name ++ "' cannot be spread here as objects of type '" ++ parent.name ++
        "' can never be of type '" ++ t.name ++ "'."]
    | _, _ => []
  | _ => []

/-! ## Cycles -/

/-- What is known while cycles are looked for: the fragments already looked at. -/
abbrev Visited := List String

/-- The complaint about a fragment that spreads itself by way of others. -/
def cycleComplaint (name : String) (via : List String) : String :=
  "Cannot spread fragment '" ++ name ++ "' within itself" ++
    if via.isEmpty then "."
    else " via " ++ ", ".intercalate (via.map fun n => "'" ++ n ++ "'") ++ "."

mutual

/-- The complaints about the cycles through a fragment. `path` holds the spreads that lead to it,
`starts` where on the path each fragment under way began. -/
def cyclesFrom (c : Context) : (limit : Nat) → (path : List String) →
    (starts : List (String × Nat)) → Visited → Fragment → List String × Visited
  | 0, _, _, visited, _ => ([], visited)
  | limit + 1, path, starts, visited, f =>
    if visited.contains f.name then ([], visited)
    else
      cyclesThrough c limit path ((f.name, path.length) :: starts) (f.name :: visited)
        (spreads f.selections)

/-- The complaints about the cycles through spreads of a fragment. -/
def cyclesThrough (c : Context) : (limit : Nat) → (path : List String) →
    (starts : List (String × Nat)) → Visited → List String → List String × Visited
  | _, _, _, visited, [] => ([], visited)
  | limit, path, starts, visited, name :: rest =>
    let (here, visited) :=
      match starts.lookup name with
      | some start => ([cycleComplaint name (path.drop start)], visited)
      | none =>
        match c.fragment? name with
        | some f => cyclesFrom c limit (path ++ [name]) starts visited f
        | none => ([], visited)
    let (others, visited) := cyclesThrough c limit path starts visited rest
    (here ++ others, visited)

end

/-- The complaints about cycles, fragment by fragment. Each fragment is looked at once. -/
def cyclesOf (c : Context) : List (List String) :=
  let all := fragments c.document
  (all.foldl (fun (found, visited) f =>
    let (complaints, visited) := cyclesFrom c (all.length + 1) [] [] visited f
    (found ++ [complaints], visited)) ([], [])).1

/-- No fragment spreads itself. -/
def noFragmentCycles : Rule := fun c v =>
  match v.site with
  | .fragment index _ => ((cyclesOf c)[(fragments (c.document.take index)).length]?).getD []
  | _ => []

/-! ## Introspection -/

/-- How many lists of introspection may nest, less one. -/
def introspectionLists : Nat := 3

/-- The fields of introspection that are lists of types or lead to them. -/
def listFields : List String := ["fields", "interfaces", "possibleTypes", "inputFields"]

mutual

/-- A selection goes too deep into introspection, below a number of lists. -/
def goesTooDeep (c : Context) (limit : Nat) (underWay : List String) (depth : Nat) :
    Selection → Bool
  | .field f selections =>
    let depth := if listFields.contains f.name then depth + 1 else depth
    (listFields.contains f.name && introspectionLists ≤ depth) ||
      anyTooDeep c limit underWay depth selections
  | .inline _ _ selections => anyTooDeep c limit underWay depth selections
  | .spread name _ =>
    match limit, c.fragment? name with
    | limit + 1, some f =>
      !underWay.contains name && anyTooDeep c limit (name :: underWay) depth f.selections
    | _, _ => false
termination_by selection => (limit, sizeOf selection)

/-- Some selection goes too deep. -/
def anyTooDeep (c : Context) (limit : Nat) (underWay : List String) (depth : Nat) :
    List Selection → Bool
  | [] => false
  | selection :: rest =>
    goesTooDeep c limit underWay depth selection || anyTooDeep c limit underWay depth rest
termination_by selections => (limit, sizeOf selections)

end

/-- Introspection does not go deep. -/
def maxIntrospectionDepth : Rule := fun c v =>
  match v.site with
  | .field f selections =>
    if (f.name = "__schema" ∨ f.name = "__type") ∧
        goesTooDeep c (fragments c.document).length [] 0 (.field f selections) then
      ["Maximum introspection depth exceeded"]
    else []
  | _ => []

end QueryShape.Validation
