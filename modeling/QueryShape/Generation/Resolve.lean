import QueryShape.Code.Encoder
import QueryShape.Generation.Session

/-!
# Resolving bare types

How the values of scalar, enum and input types are read and sent, and which classes that needs.

* `outputOf` and `leafInputOf` are plans, since scalars and enums do not hold other types.
* `inputOf` goes through the fields of input types. A type is gone through once. Types that refer
  back to one that is being gone through do not wait for it, so what is registered has an order;
  with every type on the way there are fewer left, which ends the way.
-/

namespace QueryShape.Generation

open Code Document

/-- How values of a bare type are converted. -/
structure Conversion where
  signature : Signature
  /-- The conversion, over the placeholder. -/
  template : Expr
  /-- The class that has to stand before those that convert. -/
  dependency? : Option String := none

/-- What stays the same during a run. -/
structure Setting where
  schema : Schema
  converters : Converters := .initial

/-! ## Scalars and enums -/

/-- The conversion of a scalar with a converter, which is called by the given method. -/
def convertedBy (scalar : String) (c : Converter) (method : String) : Plan Conversion :=
  match c.importableFrom? with
  | none => .fail (.unusableConverter scalar c.shown)
  | some module => do
    let imports := Converter.referenceLine module c.path ::
      if c.importLine.isEmpty then [] else [c.importLine]
    .step (.converter scalar c.path imports)
    return { signature := .bare c.signature
             template := .call (.member (.ofPath c.path) method) .hole }

/-- The types of generated code for the standard scalars and for large integers. -/
def scalarSignatures : List (String × String) :=
  [("Boolean", "bool"), ("Int", "int"), ("Float", "float"), ("String", "str"), ("ID", "str"),
   ("BigInt", "int")]

/-- The scalars whose values are converted by calling their type. -/
def calledScalars : List String := ["Float", "BigInt"]

/-- The signature of the values of a scalar that nothing is known of. -/
def unknownScalar : String := "ScalarValue"

/-- How the values of a scalar are read. -/
def scalarOutput (g : Setting) (scalar : String) : Plan Conversion :=
  match g.converters.find? scalar with
  | some c => convertedBy scalar c "deserialize"
  | none =>
    let type := (scalarSignatures.lookup scalar).getD unknownScalar
    let template := if scalar ∈ calledScalars then .call (.name type) .hole else .cast type .hole
    return { signature := .bare type, template }

/-- How the values of a scalar are sent. -/
def scalarInput (g : Setting) (scalar : String) : Plan Conversion :=
  match g.converters.find? scalar with
  | some c => convertedBy scalar c "serialize"
  | none =>
    return { signature := .bare ((scalarSignatures.lookup scalar).getD unknownScalar)
             template := .hole }

/-- The class of an enum type. -/
def enumClass (t : TypeDefinition) : Plan String := do
  .step (.enum t)
  return Naming.typeClassName t.name

/-- The error for a type that is of the wrong kind for a place. -/
def misplaced (t : TypeDefinition) (place : String) : GenerationError :=
  .unsupportedKind t.kind (.named t.name) (some place)

/-- How the values of a scalar or enum type are read. -/
def outputOf (g : Setting) (t : TypeDefinition) : Plan Conversion :=
  match t.kind with
  | .scalar => scalarOutput g t.name
  | .enum => do
    let name ← enumClass t
    return { signature := .bare name
             template := .call (.member (.name name) "deserialize") .hole
             dependency? := some name }
  | _ => .fail (misplaced t "an output field")

/-- The conversion of values that know how they are sent, of a class. -/
def sentByClass (name : String) : Conversion :=
  { signature := .bare name, template := .send .hole "serialize", dependency? := some name }

/-! ## Parameters -/

/-- The parameter names that an operation's method takes itself. -/
def operationParameters : List String := ["cls", "executor"]

/-- The parameter names that the class of an input type takes itself. -/
def inputParameters : List String := ["self", "serialize"]

/-- The parameter of a variable or input field of a type, given how the bare type is converted.
It does not depend on a class that is still being gone through. -/
def parameterOf (pending : List String) (name graphqlName : String) (type : TypeRef)
    (c : Conversion) : Record.Parameter :=
  let layers := Code.layers type
  { name, graphqlName
    signature := c.signature.wrap layers
    serializer := (Encoder.ofLayers c.template name layers).toExpr
    dependency? := c.dependency?.filter (· ∉ pending)
    isOptional := mayBeMissing layers }

/-- The name of the parameter of a variable or input field. -/
def parameterName (graphqlName : String) : String :=
  Naming.memberName (Naming.snakeCase graphqlName)

/-! ## Input types -/

/-- The types of a schema whose classes are not being gone through. -/
def unvisited (s : Schema) (pending : List String) : Nat :=
  s.types.countP fun t => Naming.typeClassName t.name ∉ pending

theorem unvisited_lt {s : Schema} {pending : List String} {t : TypeDefinition} (ht : t ∈ s.types)
    (new : Naming.typeClassName t.name ∉ pending) :
    unvisited s (Naming.typeClassName t.name :: pending) < unvisited s pending := by
  unfold unvisited
  generalize s.types = types at ht
  induction types with
  | nil => cases ht
  | cons first rest ih =>
    have le : rest.countP (fun u => decide (Naming.typeClassName u.name ∉
          Naming.typeClassName t.name :: pending)) ≤
        rest.countP (fun u => decide (Naming.typeClassName u.name ∉ pending)) :=
      List.countP_mono_left fun u _ h => by simp_all
    rcases List.mem_cons.1 ht with rfl | h
    · rw [List.countP_cons_of_neg (by simp), List.countP_cons_of_pos (by simpa using new)]
      omega
    · have := ih h
      rw [List.countP_cons, List.countP_cons]
      by_cases hf : Naming.typeClassName first.name ∈ Naming.typeClassName t.name :: pending
      · rw [if_neg fun h => absurd hf (of_decide_eq_true h)]
        split <;> omega
      · have hf' : Naming.typeClassName first.name ∉ pending := fun h => hf (.tail _ h)
        rw [if_pos (decide_eq_true hf), if_pos (decide_eq_true hf')]
        omega

mutual

/-- Register the class of an input type, with all classes that its fields need, and give its name.
The classes in `pending` are being gone through. -/
def inputClass (g : Setting) (pending : List String) (t : TypeDefinition)
    (ht : t ∈ g.schema.types) : Run String := do
  let name := Naming.typeClassName t.name
  if new : name ∈ pending then return name
  else
    have := unvisited_lt ht new
    if name ∈ (← get).inputs then return name
    let arguments ← inputParametersOf g (name :: pending) name t.inputFields
    register (.input
      { name, graphqlType := t.name, arguments
        dependencies := .ofList (arguments.filterMap (·.dependency?)) })
    modify fun s => { s with inputs := s.inputs ++ [name] }
    return name
termination_by (unvisited g.schema pending, 0)
decreasing_by
  exact Prod.Lex.left _ _ this

/-- The parameters of the fields of an input type. -/
def inputParametersOf (g : Setting) (pending : List String) (owner : String) :
    List InputValue → Run (List Record.Parameter)
  | [] => return []
  | field :: rest => do
    let parameter ← parameter g pending owner inputParameters field.name field.type
    return parameter :: (← inputParametersOf g pending owner rest)
termination_by fields => (unvisited g.schema pending, fields.length + 2)

/-- The parameter of a variable or input field, which is not to have one of the given names. -/
def parameter (g : Setting) (pending : List String) (owner : String) (reserved : List String)
    (graphqlName : String) (type : TypeRef) : Run Record.Parameter := do
  let name := parameterName graphqlName
  if name ∈ reserved then throw (.reservedName name owner)
  match h : g.schema.type? type.bareName with
  | some t =>
    let c ← inputOf g pending t (List.mem_of_find?_eq_some h)
    return parameterOf pending name graphqlName type c
  | none => throw (.unknownType type.bareName)
termination_by (unvisited g.schema pending, 2)

/-- How the values of a scalar, enum or input type are sent. -/
def inputOf (g : Setting) (pending : List String) (t : TypeDefinition)
    (ht : t ∈ g.schema.types) : Run Conversion := do
  match t.kind with
  | .scalar => (scalarInput g t.name).run
  | .enum => return sentByClass (← (enumClass t).run)
  | .input => return sentByClass (← inputClass g pending t ht)
  | _ => throw (misplaced t "an input value")
termination_by (unvisited g.schema pending, 1)

end

/-- Do something with the type of a name. -/
def withType (s : Schema) (name : String) (use : (t : TypeDefinition) → t ∈ s.types → Run α) :
    Run α :=
  match h : s.type? name with
  | some t => use t (List.mem_of_find?_eq_some h)
  | none => throw (.unknownType name)

/-- How the values of the type of a name are sent. -/
def inputOfName (g : Setting) (name : String) : Run Conversion :=
  withType g.schema name (inputOf g [])

/-- Register the class of the input type of a name, and give its name. -/
def inputClassOfName (g : Setting) (name : String) : Run String :=
  withType g.schema name (inputClass g [])

end QueryShape.Generation
