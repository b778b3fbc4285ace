import QueryShape.Schema.Basic

/-!
# Collecting fields

`collectFields` lists the fields that a selection set selects on an object type, grouped by response
key, as an executor of the query language does: through inline fragments and spreads whose
conditions the type meets, each fragment once, leaving out what a directive excludes.

Whether a selection is excluded can depend on what is not known, so the caller decides, and may
fail.
-/

namespace QueryShape.Document

/-- A field and the selections under it, as collected. -/
abbrev Collected := String × List (Field × List Selection)

/-- Put a field with the others of its response key. -/
def addCollected (groups : List Collected) (f : Field) (selections : List Selection) :
    List Collected :=
  if groups.any (·.1 == f.responseKey) then
    groups.map fun g => if g.1 == f.responseKey then (g.1, g.2 ++ [(f, selections)]) else g
  else groups ++ [(f.responseKey, [(f, selections)])]

/-- An object type meets the condition of a fragment. -/
def meetsCondition (s : Schema) (object : TypeDefinition) (condition : String) : Bool :=
  condition == object.name ||
    (s.type? condition).any fun t =>
      (t.kind == .interface || t.kind == .union) && Schema.hasMember t object

/-- The state of collecting: the groups so far and the fragments that have been spread. -/
structure Collecting where
  groups : List Collected := []
  seen : List String := []

mutual

/-- Collect a selection. Fragments are gone into up to a limit. -/
def collectSelection (s : Schema) (fragments : List Fragment)
    (includes : List Directive → Except ε Bool) (object : TypeDefinition) (limit : Nat)
    (state : Collecting) : Selection → Except ε Collecting
  | .field f selections => do
    if ← includes f.directives then
      return { state with groups := addCollected state.groups f selections }
    return state
  | .inline condition? directives selections => do
    if (← includes directives) && condition?.all (meetsCondition s object) then
      collectSelections s fragments includes object limit state selections
    else return state
  | .spread name directives => do
    if state.seen.contains name then return state
    if !(← includes directives) then return state
    let state := { state with seen := name :: state.seen }
    match limit, fragments.reverse.find? (·.name == name) with
    | limit + 1, some f =>
      if meetsCondition s object f.condition then
        collectSelections s fragments includes object limit state f.selections
      else return state
    | _, _ => return state
termination_by selection => (limit, sizeOf selection)

/-- Collect selections, in order. -/
def collectSelections (s : Schema) (fragments : List Fragment)
    (includes : List Directive → Except ε Bool) (object : TypeDefinition) (limit : Nat)
    (state : Collecting) : List Selection → Except ε Collecting
  | [] => .ok state
  | selection :: rest => do
    let state ← collectSelection s fragments includes object limit state selection
    collectSelections s fragments includes object limit state rest
termination_by selections => (limit, sizeOf selections)

end

/-- The fields that a selection set selects on an object type, by response key. Each fragment is
gone into once, so their number is limit enough. -/
def collectFields (s : Schema) (fragments : List Fragment)
    (includes : List Directive → Except ε Bool) (object : TypeDefinition)
    (selections : List Selection) : Except ε (List Collected) := do
  return (← collectSelections s fragments includes object fragments.length {} selections).groups

end QueryShape.Document
