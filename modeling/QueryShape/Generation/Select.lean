import QueryShape.Code.Decoder
import QueryShape.Generation.Resolve
import QueryShape.Schema.Standard

/-!
# From selections to accessors

`select` goes through the selection set of a class. Each field becomes a way to read the value of
an accessor; fields come first, then what fragments select, in order. A fragment narrows the types
for which a way is good to those that meet its condition, and a field that a directive may leave
out, or that stands in a fragment that one may leave out, is read as possibly missing.

The values of a composite field are read by a class of their own, which is named after the field.

A fragment is not gone into again inside itself, so the fragments that are left and the size of the
selection bound the way.
-/

namespace QueryShape.Generation

open Code Document Record

/-! ## Types -/

/-- The object types that a value of a type can have, if the type has members to select. -/
def objectTypes (s : Schema) (t : TypeDefinition) : Except GenerationError (List String) :=
  if t.kind.isComposite then .ok (s.possibleTypes t) else .error (misplaced t "a selection set")

/-- The definition of a field of a type. Every type can be asked for its name, and the root type of
queries for the schema. -/
def fieldDefinition (s : Schema) (owner : TypeDefinition) (name : String) :
    Except GenerationError FieldDefinition :=
  let own? :=
    if name = typenameField then some Schema.typenameFieldDefinition else owner.field? name
  let introspection? :=
    if s.query? = some owner.name then Schema.rootFields.find? (·.name == name) else none
  match own? <|> introspection? with
  | some f => .ok f
  | none => .error (.unresolvableField owner.name name)

/-- The type with a name. -/
def typeNamed (s : Schema) (name : String) : Except GenerationError TypeDefinition :=
  match s.type? name with
  | some t => .ok t
  | none => .error (.unknownType name)

/-! ## Places -/

/-- Where a selection stands. -/
structure Place where
  /-- The class that gets the accessors. -/
  className : String
  /-- The type that is selected on. -/
  owner : TypeDefinition
  /-- The types of objects that the selection is for. -/
  typenames : NameSet
  /-- The types of the fragments around, inside the class. -/
  fragmentTypes : List String := []
  /-- A fragment around may be left out. -/
  isConditional : Bool := false

/-- The directives that may leave out what they stand on. -/
def conditionalDirectives : List String := ["include", "skip"]

/-- A directive may leave out what it stands on. -/
def mayLeaveOut (directives : List Directive) : Bool :=
  directives.any fun d => conditionalDirectives.contains d.name

/-- The place inside a fragment on a type. -/
def Place.inFragment (p : Place) (s : Schema) (t : TypeDefinition) (directives : List Directive) :
    Except GenerationError Place := do
  return { p with
    owner := t
    typenames := p.typenames ∩ .ofList (← objectTypes s t)
    fragmentTypes := p.fragmentTypes ++ [t.name]
    isConditional := p.isConditional || mayLeaveOut directives }

/-! ## Accessors -/

/-- The accessors of a class, and the classes that have to stand before it. -/
structure Members where
  accessors : List Accessor := []
  dependencies : NameSet := ∅
  deriving Inhabited

/-- The members with one more way to read an accessor. -/
def Members.add (m : Members) (name : String) (path : Path) (dependency? : Option String) :
    Members where
  accessors := addAccessor m.accessors { name, paths := [path] }
  dependencies := (dependency?.map m.dependencies.insert).getD m.dependencies

/-- The accessor of a field. -/
def accessorOf (p : Place) (f : Field) : Except GenerationError String :=
  match Naming.accessorName? f.responseKey with
  | .ok name => .ok name
  | .error name => .error (.reservedName name p.className)

/-- The value of a field in a response, which may be missing where it may be left out. -/
def accessOf (mayBeLeftOut : Bool) (f : Field) : Expr :=
  let raw : Expr := .member (.name "self") "raw_result"
  if mayBeLeftOut then .entryOrNothing raw f.responseKey else .entry raw f.responseKey

/-- The layers of a field's value, where a field that may be left out may be missing. -/
def layersOf (mayBeLeftOut : Bool) (type : TypeRef) : List Layer :=
  let layers := Code.layers type
  if mayBeLeftOut && !mayBeMissing layers then .nilable :: layers else layers

/-- The way to read a field at a place, given how its bare value is converted. -/
def pathOf (p : Place) (f : Field) (type : TypeRef) (c : Conversion) : Path :=
  let mayBeLeftOut := p.isConditional || mayLeaveOut f.directives
  let layers := layersOf mayBeLeftOut type
  { signature := c.signature.wrap layers
    decoder := .build c.template layers (accessOf mayBeLeftOut f) (arrayDepth layers) 0
    fragmentTypes := p.fragmentTypes
    typenames := p.typenames }

/-- The conversion of composite values by a class. -/
def readByClass (name : String) : Conversion :=
  { signature := .bare name, template := .call (.name name) .hole, dependency? := some name }

/-! ## Selections -/

/-- The fragment with a name, the last if there are several. -/
def fragmentNamed? (fragments : List Fragment) (name : String) : Option Fragment :=
  fragments.reverse.find? (·.name == name)

/-- The fragments other than those with a name. -/
def otherFragments (fragments : List Fragment) (name : String) : List Fragment :=
  fragments.filter (·.name != name)

theorem otherFragments_lt {fragments : List Fragment} {name : String} {f : Fragment}
    (h : fragmentNamed? fragments name = some f) :
    (otherFragments fragments name).length < fragments.length := by
  have mem := List.mem_of_find?_eq_some h
  have isNamed : (f.name == name) = true := by
    have := List.find?_some h
    exact this
  refine List.length_filter_lt_length_iff_exists.2 ⟨f, List.mem_reverse.1 mem, ?_⟩
  simpa using isNamed

mutual

/-- The members that a selection set adds to a class: those of its fields, then those of its
fragments. -/
def select (g : Setting) (fragments : List Fragment) (p : Place) (selections : List Selection)
    (members : Members) : Plan Members := do
  selectFragments g fragments p selections (← selectFields g fragments p selections members)
termination_by (fragments.length, sizeOf selections, 1)

/-- The members that the fields of a selection set add to a class. -/
def selectFields (g : Setting) (fragments : List Fragment) (p : Place) :
    List Selection → Members → Plan Members
  | [], members => return members
  | .field f selections :: rest, members =>
    if f.isPlainTypename then selectFields g fragments p rest members
    else do
      let name ← .ofExcept (accessorOf p f)
      let definition ← .ofExcept (fieldDefinition g.schema p.owner f.name)
      let c ← fieldConversion g fragments p f definition selections
      selectFields g fragments p rest
        (members.add name (pathOf p f definition.type c) c.dependency?)
  | .spread .. :: rest, members | .inline .. :: rest, members =>
    selectFields g fragments p rest members
termination_by selections => (fragments.length, sizeOf selections, 0)

/-- How the bare value of a field is converted. -/
def fieldConversion (g : Setting) (fragments : List Fragment) (p : Place) (f : Field)
    (definition : FieldDefinition) (selections : List Selection) : Plan Conversion := do
  let t ← .ofExcept (typeNamed g.schema definition.type.bareName)
  if t.kind.isComposite then
    if selections.isEmpty then .fail (.missingSelection p.owner.name f.name)
    else
      let name := Naming.leafClassName p.className f.alias? f.name
      let types := g.schema.possibleTypes t
      let inner : Place := { className := name, owner := t, typenames := .ofList types }
      let members ← select g fragments inner selections {}
      .step (.leaf
        { name, graphqlType := t.name, possibleTypes := types
          accessors := members.accessors, dependencies := members.dependencies })
      return readByClass name
  else if t.kind = .input then .fail (misplaced t ("field " ++ p.owner.name ++ "." ++ f.name))
  else outputOf g t
termination_by (fragments.length, sizeOf selections, 2)

/-- The members that the fragments of a selection set add to a class. -/
def selectFragments (g : Setting) (fragments : List Fragment) (p : Place) :
    List Selection → Members → Plan Members
  | [], members => return members
  | .field .. :: rest, members => selectFragments g fragments p rest members
  | .inline condition? directives selections :: rest, members => do
    let t ← .ofExcept <| match condition? with
      | some condition => typeNamed g.schema condition
      | none => .ok p.owner
    let inner ← .ofExcept (p.inFragment g.schema t directives)
    selectFragments g fragments p rest (← select g fragments inner selections members)
  | .spread name directives :: rest, members =>
    match h : fragmentNamed? fragments name with
    | none => .fail (.unknownFragment name)
    | some fragment => do
      let t ← .ofExcept (typeNamed g.schema fragment.condition)
      let inner ← .ofExcept (p.inFragment g.schema t directives)
      have := otherFragments_lt h
      selectFragments g fragments p rest
        (← select g (otherFragments fragments name) inner fragment.selections members)
termination_by selections => (fragments.length, sizeOf selections, 0)

end

end QueryShape.Generation
