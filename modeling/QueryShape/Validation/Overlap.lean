import QueryShape.Document.Printer
import QueryShape.Validation.Context
import QueryShape.Validation.Suggestion

/-!
# Fields that share a response key

Fields with one response key are merged into one value, so they have to be the same field with the
same arguments, and the sets selected under them have to merge in turn. Where the two can never
stand on one object only their types are compared.

Sets are compared with each other and with the fragments they spread. What has been compared is
kept for the whole document, so no pair of fragments and no pair of a set and a fragment is looked
at twice with the same outcome.
-/

namespace QueryShape.Validation

open Document

/-! ## Sets of fields -/

/-- A field as it is compared: the type it is selected on, its own type, and the path of the set
under it. -/
structure Member where
  parent? : Option TypeDefinition
  field : Field
  type? : Option TypeRef
  path : List Nat
  selections : List Selection

/-- The fields of a selection set by response key, and the fragments it spreads. Inline fragments
are part of the set. -/
structure FieldSet where
  path : List Nat
  groups : List (String × List Member)
  spreads : List String

mutual

/-- The fields and spreads of a selection, in order. -/
def selectionMembers (s : Schema) (parent? : Option TypeDefinition) (path : List Nat) :
    Selection → List (Member ⊕ String)
  | .field f selections =>
    [.inl ⟨parent?, f, (parent?.bind (·.field? f.name)).map (·.type), path, selections⟩]
  | .spread fragment _ => [.inr fragment]
  | .inline condition? _ selections =>
    let type? := match condition? with
      | some condition => s.type? condition
      | none => parent?
    selectionListMembers s type? path 0 selections

/-- The fields and spreads of selections from a position on. -/
def selectionListMembers (s : Schema) (parent? : Option TypeDefinition) (path : List Nat)
    (position : Nat) : List Selection → List (Member ⊕ String)
  | [] => []
  | selection :: rest =>
    selectionMembers s parent? (position :: path) selection ++
      selectionListMembers s parent? path (position + 1) rest

end

/-- The set of the selections at a path. -/
def FieldSet.ofSelections (s : Schema) (parent? : Option TypeDefinition) (path : List Nat)
    (selections : List Selection) : FieldSet :=
  let parts := selectionListMembers s parent? path 0 selections
  let members := parts.filterMap Sum.getLeft?
  let keys := (members.map (·.field.responseKey)).eraseDups
  { path
    groups := keys.map fun key => (key, members.filter (·.field.responseKey == key))
    spreads := (parts.filterMap Sum.getRight?).eraseDups }

/-! ## Conflicts -/

/-- Why two fields cannot be merged. -/
inductive Reason
  | differentFields (first second : String)
  | differingArguments
  | conflictingTypes (first second : TypeRef)
  | subfields (conflicts : List (String × Reason))

/-- A response key, and why its fields cannot be merged. -/
abbrev Conflict := String × Reason

mutual

/-- A reason in words. -/
def Reason.words : Reason → String
  | .differentFields first second => "'" ++ first ++ "' and '" ++ second ++ "' are different fields"
  | .differingArguments => "they have differing arguments"
  | .conflictingTypes first second =>
    "they return conflicting types '" ++ first.text ++ "' and '" ++ second.text ++ "'"
  | .subfields conflicts => " and ".intercalate (subfieldWords conflicts)

/-- Conflicts of the fields under a field, each in words. -/
def subfieldWords : List (String × Reason) → List String
  | [] => []
  | (key, reason) :: rest =>
    ("subfields '" ++ key ++ "' conflict because " ++ reason.words) :: subfieldWords rest

end

mutual

/-- A value with the fields of all objects in it in natural order. -/
def sortedValue : Value → Value
  | .list items => .list (sortedItems items)
  | .object fields =>
    .object ((sortedFields fields).mergeSort fun a b => naturalCompare a.1 b.1 != .gt)
  | value => value

/-- Values with the fields of all objects in them in natural order. -/
def sortedItems : List Value → List Value
  | [] => []
  | value :: rest => sortedValue value :: sortedItems rest

/-- Fields of an object with the fields of all objects in them in natural order. -/
def sortedFields : List (String × Value) → List (String × Value)
  | [] => []
  | (key, value) :: rest => (key, sortedValue value) :: sortedFields rest

end

/-- Two fields have the same arguments, in any order. -/
def sameArguments (a b : Field) : Bool :=
  a.arguments.length == b.arguments.length &&
    a.arguments.all fun x =>
      (b.arguments.reverse.find? (·.name == x.name)).any fun y =>
        printValue (sortedValue x.value) == printValue (sortedValue y.value)

/-- Values of the two types have different shapes. -/
def typesConflict (s : Schema) : TypeRef → TypeRef → Bool
  | .list a, .list b => typesConflict s a b
  | .list _, _ => true
  | _, .list _ => true
  | .nonNull a, .nonNull b => typesConflict s a b
  | .nonNull _, _ => true
  | _, .nonNull _ => true
  | .named a, .named b =>
    ((s.kind? a).any Kind.isLeaf || (s.kind? b).any Kind.isLeaf) && a != b

/-- No object is of both types. -/
def neverTogether (a? b? : Option TypeDefinition) : Bool :=
  match a?, b? with
  | some a, some b => a.kind == .object && b.kind == .object && a.name != b.name
  | _, _ => false

/-- The conflict of two fields themselves, the sets under them apart. -/
def ownConflict? (s : Schema) (exclusive : Bool) (a b : Member) : Option Reason :=
  if !exclusive && a.field.name != b.field.name then
    some (.differentFields a.field.name b.field.name)
  else if !exclusive && !sameArguments a.field b.field then some .differingArguments
  else match a.type?, b.type? with
    | some ta, some tb => if typesConflict s ta tb then some (.conflictingTypes ta tb) else none
    | _, _ => none

/-! ## What has been compared -/

/-- What has been compared so far. A pair comes with whether its members were taken never to stand
on one object; such a comparison leaves more to be found by one that does not take them so. -/
structure Compared where
  sets : List FieldSet := []
  fragmentPairs : List ((String × String) × Bool) := []
  setPairs : List ((List Nat × String) × Bool) := []

/-- A pair has been compared as strictly as now. -/
def isCompared [BEq α] (pairs : List (α × Bool)) (exclusive : Bool) (pair : α) : Bool :=
  (pairs.lookup pair).any fun before => exclusive || !before

/-- The pair of two names in either order. -/
def unordered (a b : String) : String × String := if a < b then (a, b) else (b, a)

/-- The set of the selections at a path. Each is read once, for the type it is first met with. -/
def readSet (s : Schema) (parent? : Option TypeDefinition) (path : List Nat)
    (selections : List Selection) : StateM Compared FieldSet := do
  match (← get).sets.find? (·.path == path) with
  | some set => return set
  | none =>
    let set := FieldSet.ofSelections s parent? path selections
    modify fun state => { state with sets := set :: state.sets }
    return set

/-- The set of a fragment. -/
def readFragment? (c : Context) (name : String) : StateM Compared (Option FieldSet) := do
  let indexed := c.document.zipIdx.filterMap fun (definition, index) =>
    definition.fragment?.map fun f => (f, index)
  match indexed.reverse.find? (·.1.name == name) with
  | some (f, index) =>
    return some (← readSet c.schema (c.schema.type? f.condition) [index] f.selections)
  | none => return none

/-- Note that a set has been compared with a fragment; false if it had been before. -/
def noteSet (exclusive : Bool) (set : FieldSet) (fragment : String) : StateM Compared Bool :=
  modifyGet fun state =>
    let pair := (set.path, fragment)
    if isCompared state.setPairs exclusive pair then (false, state)
    else (true, { state with setPairs := (pair, exclusive) :: state.setPairs })

/-- Note that two fragments have been compared; false if they had been before. -/
def noteFragments (exclusive : Bool) (a b : String) : StateM Compared Bool :=
  modifyGet fun state =>
    let pair := unordered a b
    if isCompared state.fragmentPairs exclusive pair then (false, state)
    else (true, { state with fragmentPairs := (pair, exclusive) :: state.fragmentPairs })

/-! ## Comparing -/

/-- Two things to compare. -/
inductive Comparison
  | members (key : String) (a b : Member)
  /-- The fields of two sets, without what they spread. -/
  | sets (a b : FieldSet)
  /-- The fields of a set with all that a fragment selects. -/
  | setWithFragment (a : FieldSet) (fragment : String)
  /-- All that two fragments select. -/
  | fragments (a b : String)
  /-- All that two sets select. -/
  | wholeSets (a b : FieldSet)

/-- The comparisons of the fields of two sets under the same key. -/
def pairsBetween (a b : FieldSet) : List Comparison :=
  a.groups.flatMap fun (key, members) =>
    members.flatMap fun x => ((b.groups.lookup key).getD []).map fun y => .members key x y

/-- The comparisons that all of two sets comes down to. -/
def partsOfWholes (a b : FieldSet) : List Comparison :=
  .sets a b ::
    (b.spreads.map (.setWithFragment a) ++ a.spreads.map (.setWithFragment b) ++
      a.spreads.flatMap fun x => b.spreads.map fun y => .fragments x y)

mutual

/-- The conflicts that a comparison finds. -/
def conflictsOf (c : Context) :
    (limit : Nat) → (exclusive : Bool) → Comparison → StateM Compared (List Conflict)
  | 0, _, _ => return []
  | limit + 1, exclusive, .members key a b => do
    let exclusive := exclusive || neverTogether a.parent? b.parent?
    match ownConflict? c.schema exclusive a b with
    | some reason => return [(key, reason)]
    | none =>
      if a.selections.isEmpty || b.selections.isEmpty then return []
      let typeOf (m : Member) := m.type?.bind fun t => c.schema.type? t.bareName
      let first ← readSet c.schema (typeOf a) a.path a.selections
      let second ← readSet c.schema (typeOf b) b.path b.selections
      let conflicts ← conflictsOf c limit exclusive (.wholeSets first second)
      return if conflicts.isEmpty then [] else [(key, .subfields conflicts)]
  | limit + 1, exclusive, .sets a b => conflictsOfAll c limit exclusive (pairsBetween a b)
  | limit + 1, exclusive, .setWithFragment a name => do
    if !(← noteSet exclusive a name) then return []
    match ← readFragment? c name with
    | some b =>
      if a.path == b.path then return []
      conflictsOfAll c limit exclusive (.sets a b :: b.spreads.map (.setWithFragment a))
    | none => return []
  | limit + 1, exclusive, .fragments a b => do
    if a == b then return []
    if !(← noteFragments exclusive a b) then return []
    match ← readFragment? c a, ← readFragment? c b with
    | some first, some second =>
      conflictsOfAll c limit exclusive
        (.sets first second ::
          (second.spreads.map (.fragments a) ++ first.spreads.map (.fragments · b)))
    | _, _ => return []
  | limit + 1, exclusive, .wholeSets a b => conflictsOfAll c limit exclusive (partsOfWholes a b)
termination_by limit => (limit, 0)

/-- The conflicts that several comparisons find, in order. -/
def conflictsOfAll (c : Context) (limit : Nat) (exclusive : Bool) :
    List Comparison → StateM Compared (List Conflict)
  | [] => return []
  | comparison :: rest => do
    let here ← conflictsOf c limit exclusive comparison
    return here ++ (← conflictsOfAll c limit exclusive rest)
termination_by comparisons => (limit, comparisons.length + 1)

end

/-- The comparisons of all pairs of a list, each pair once. -/
def pairsWithin (key : String) : List Member → List Comparison
  | [] => []
  | a :: rest => rest.map (.members key a) ++ pairsWithin key rest

/-- The comparisons of fragments spread together in a set, and of each with the set. -/
def spreadsWithin (set : FieldSet) : List String → List Comparison
  | [] => []
  | name :: rest =>
    .setWithFragment set name :: (rest.map (.fragments name) ++ spreadsWithin set rest)

/-- The comparisons of a set with itself. -/
def comparisonsWithin (set : FieldSet) : List Comparison :=
  (set.groups.flatMap fun (key, members) => pairsWithin key members) ++
    spreadsWithin set set.spreads

/-- A place that a level of a document begins at. -/
def beginsLevel (v : Visit) : Bool :=
  match v.site with
  | .selectionSet .. | .fragment .. => true
  | _ => false

/-- More steps than comparisons can nest: between two fragments or a set and a fragment that have
not been compared yet lie no more than the levels of a document, with three steps for each. -/
def comparisonLimit (visits : List Visit) : Nat :=
  let size := 3 * visits.countP beginsLevel + 3
  4 * size * size * size

/-- The complaint about a conflict. -/
def Conflict.complaint (conflict : Conflict) : String :=
  "Fields '" ++ conflict.1 ++ "' conflict because " ++ conflict.2.words ++
    ". Use different aliases on the fields to fetch both if this was intentional."

/-- The complaints about the sets at the places of a document, in order. -/
def overlapComplaints (c : Context) (limit : Nat) :
    List Visit → StateM Compared (List (List String))
  | [] => return []
  | v :: rest => do
    let here ← match v.site with
      | .selectionSet path selections => do
        let set ← readSet c.schema v.scope.parent? path selections
        conflictsOfAll c limit false (comparisonsWithin set)
      | _ => pure []
    return here.map Conflict.complaint :: (← overlapComplaints c limit rest)

end QueryShape.Validation
