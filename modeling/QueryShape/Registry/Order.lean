import QueryShape.Record.Basic

/-!
# Emission order

`Record.sort` puts records into an order in which each stands after all it depends on.

The order is built in rounds. The first round holds the records without dependencies, in their
order. When a record is emitted, those of its dependents that wait for nothing else join the next
round. Before that `findCycle` looks for a cycle: it goes from every record along its dependents,
depth first, and the first way that comes back to a record on it is the cycle.
-/

namespace QueryShape

/-- The names that wait for others, each once, with what it waits for. -/
abbrev Waiting := List (String × NameSet)

namespace Waiting

/-- What a name waits for. -/
def dependencies (g : Waiting) (name : String) : NameSet :=
  (g.lookup name).getD ∅

/-- The names that wait for a name, in order. -/
def dependents (g : Waiting) (name : String) : List String :=
  (g.filter (name ∈ ·.2)).map (·.1)

/-! ## Cycles -/

/-- The part of a way, nearest first, from a name on it to its end and back to the name. -/
def cycleOn (way : List String) (name : String) : List String :=
  name :: (way.takeWhile (· ≠ name)).reverse ++ [name]

/-- Go on from the end of a way, nearest first, to the given names and from there. The result is a
cycle or the names that have been seen. No way is longer than there are names. -/
def explore (g : Waiting) : (limit : Nat) → (way seen next : List String) →
    Except (List String) (List String)
  | _, _, seen, [] => .ok seen
  | limit, way, seen, name :: rest =>
    if name ∈ seen then
      if name ∈ way then .error (cycleOn way name) else explore g limit way seen rest
    else
      match limit with
      | 0 => .ok seen
      | limit + 1 => do
        let seen ← explore g limit (name :: way) (name :: seen) (g.dependents name)
        explore g (limit + 1) way seen rest
termination_by limit _ _ next => (limit, next.length)

/-- The first cycle that is found, if there is one. -/
def findCycle (g : Waiting) : Option (List String) :=
  match explore g g.length [] [] (g.map (·.1)) with
  | .error cycle => some cycle
  | .ok _ => none

/-! ## Rounds -/

/-- The names that need not wait once the given ones are emitted, one after the other, after those
that have been emitted before. -/
def released (g : Waiting) : (emitted ready : List String) → List String
  | _, [] => []
  | emitted, name :: rest =>
    let emitted := name :: emitted
    (g.dependents name).filter (fun n => (g.dependencies n).toList.all (· ∈ emitted)) ++
      released g emitted rest

/-- The rounds from one on. There are no more than names. -/
def rounds (g : Waiting) : (limit : Nat) → (emitted ready : List String) → List (List String)
  | 0, _, _ => []
  | _, _, [] => []
  | limit + 1, emitted, ready =>
    ready :: rounds g limit (ready.reverse ++ emitted) (released g emitted ready)

/-- The names, each after all it waits for. -/
def order (g : Waiting) : List String :=
  (rounds g (g.length + 1) [] ((g.filter (·.2.toList.isEmpty)).map (·.1))).flatten

end Waiting

namespace Record

/-- Records in order, a later one taking the place of an earlier one of its name. -/
def distinctByName (records : List Record) : List Record :=
  records.foldl (fun all r =>
    if all.any (·.name == r.name) then all.map fun x => if x.name == r.name then r else x
    else all ++ [r]) []

/-- What a record depends on and no record is. -/
def missingFrom (records : List Record) (r : Record) : List String :=
  r.dependencies.toList.filter fun d => !records.any (·.name == d)

/-- The records in an order in which each stands after all it depends on. -/
def sort (records : List Record) : Except GenerationError (List Record) :=
  let records := distinctByName records
  match records.find? fun r => !(missingFrom records r).isEmpty with
  | some r => .error (.undefinedDependencies r.name (missingFrom records r))
  | none =>
    let waiting : Waiting := records.map fun r => (r.name, r.dependencies)
    match waiting.findCycle with
    | some cycle => .error (.cycle cycle)
    | none => .ok (waiting.order.filterMap fun n => records.find? (·.name == n))

end Record

end QueryShape
