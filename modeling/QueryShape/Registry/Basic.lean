import QueryShape.Record.Merge
import QueryShape.Registry.Order

/-!
# The registry of records

A registry holds the records of a run in the order in which their names were first taken. No two
have one name.
-/

namespace QueryShape

/-- Records in the order of their registration. -/
structure Registry where
  records : List Record := []
  distinct : (records.map Record.name).Nodup := by simp

namespace Registry

instance : EmptyCollection Registry := ⟨{}⟩

instance : Inhabited Registry := ⟨∅⟩

/-- The record of a name. -/
def get? (r : Registry) (name : String) : Option Record :=
  r.records.find? (·.name == name)

/-- Some record has the name. -/
def contains (r : Registry) (name : String) : Bool :=
  r.records.any (·.name == name)

/-- The names of the records, in order. -/
def names (r : Registry) : List String := r.records.map Record.name

/-- Register a record under a name that no other has. -/
def add (r : Registry) (record : Record) : Except GenerationError Registry :=
  if taken : record.name ∈ r.names then .error (.redefinition record.name .taken)
  else .ok
    { records := r.records ++ [record]
      distinct := by
        rw [List.map_append]
        refine List.nodup_append.2 ⟨r.distinct, by simp, fun a ha b hb => ?_⟩
        simp only [List.map_cons, List.map_nil, List.mem_singleton] at hb
        exact fun e => taken (hb ▸ e ▸ ha) }

/-- Put a record in the place of the one of its name. -/
def replace (r : Registry) (record : Record) : Registry where
  records := r.records.map fun x => if x.name = record.name then record else x
  distinct := by
    have : (r.records.map fun x => if x.name = record.name then record else x).map Record.name =
        r.records.map Record.name := by
      rw [List.map_map]
      refine List.map_congr_left fun x _ => ?_
      simp only [Function.comp_apply]
      split
      · next h => exact h.symm
      · rfl
    rw [this]
    exact r.distinct

/-- Register a record, merging it into the one of its name if there is one. The result comes with
the record that is registered now. -/
def merge (r : Registry) (record : Record) : Except GenerationError (Registry × Record) :=
  match r.get? record.name with
  | none => return (← r.add record, record)
  | some existing => do
    let merged ← existing.merge record
    return (r.replace merged, merged)

/-- The records in emission order. -/
def sorted (r : Registry) : Except GenerationError (List Record) :=
  Record.sort r.records

end Registry

end QueryShape
