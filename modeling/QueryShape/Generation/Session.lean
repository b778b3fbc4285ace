import QueryShape.Generation.Plan
import QueryShape.Naming
import QueryShape.Registry.Basic

/-!
# The state of a run

A session holds what a run has registered so far: the records, the types that have classes of their
own, and the imports that converters need. What is done to it stays done when a later step fails.

`Plan.run` does the steps of a plan, in order, up to the first that fails.
-/

namespace QueryShape.Generation

open Document

/-- What a run reports while it goes on. -/
inductive Event
  /-- A document is gone through. -/
  | document (source : String)
  | registered (kind : RecordKind) (name : String)
  | merged (name : String)
  | converting (scalar path : String)
  deriving DecidableEq, Repr

/-- The state of a run. -/
structure Session where
  registry : Registry := ∅
  /-- The enum types that have a class. -/
  enums : List String := []
  /-- The classes of input types. -/
  inputs : List String := []
  imports : NameSet := ∅
  /-- What the run has reported, in order. -/
  events : List Event := []
  deriving Inhabited

/-- A computation on the state of a run that may fail and keeps the state when it does. -/
abbrev Run := ExceptT GenerationError (StateM Session)

/-- Report an event. -/
def report (event : Event) : Run Unit :=
  modify fun s => { s with events := s.events ++ [event] }

/-- Register a record under a name that no other has. -/
def register (record : Record) : Run Unit := do
  match (← get).registry.add record with
  | .ok registry =>
    report (.registered record.kind record.name)
    modify fun s => { s with registry }
  | .error e => throw e

/-- Register a record, merging it into the one of its name. -/
def registerOrMerge (record : Record) : Run Unit := do
  let before := (← get).registry
  match before.merge record with
  | .ok (registry, merged) =>
    report (if before.contains record.name then .merged merged.name
      else .registered record.kind record.name)
    modify fun s => { s with registry }
  | .error e => throw e

/-! ## Enums -/

/-- The members that every enum class has already. -/
def enumMembers : List String := ["serialize", "deserialize"]

/-- An enum class cannot have a member for the value. -/
def isReservedValue (value : String) : Bool :=
  value ∈ enumMembers || (value.startsWith "_" && value.endsWith "_")

/-- Register the class of an enum type, unless the type has one. -/
def registerEnum (t : TypeDefinition) : Run Unit := do
  if t.name ∈ (← get).enums then return
  let name := Naming.typeClassName t.name
  match t.values.find? isReservedValue with
  | some value => throw (.reservedName value name)
  | none =>
    register (.enum { name, graphqlType := t.name, values := t.values })
    modify fun s => { s with enums := s.enums ++ [t.name] }

/-! ## Running plans -/

/-- Do a step. -/
def Step.run : Step → Run Unit
  | .enum type => registerEnum type
  | .converter scalar path imports => do
    report (.converting scalar path)
    modify fun s => { s with imports := s.imports ∪ .ofList imports }
  | .leaf record => registerOrMerge (.leaf record)

/-- Do the steps of a plan, up to the first that fails, and give its result. -/
def Plan.run (p : Plan α) : Run α := do
  p.steps.forM Step.run
  liftExcept p.result
where
  /-- A result as that of a computation. -/
  liftExcept : Except GenerationError α → Run α
    | .ok a => return a
    | .error e => throw e

end QueryShape.Generation
