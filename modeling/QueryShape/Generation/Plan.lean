import QueryShape.Converter.Basic
import QueryShape.Record.Basic

/-!
# Plans

Going through a selection decides what has to be registered and what comes of it, and neither
depends on what has been registered before. A plan is the list of what has to be done, in order, and
the result, or the error that ends the list.

`Plan.bind` does the steps of the first plan and goes on with those of the second, if the first has
a result.
-/

namespace QueryShape

open Document

namespace Generation

/-- What has to be done to the state of a run. -/
inductive Step
  /-- The class of an enum type is needed. -/
  | enum (type : TypeDefinition)
  /-- The converter of a scalar is needed. -/
  | converter (scalar : String) (path : String) (imports : List String)
  /-- The values selected under a field are read by a class. -/
  | leaf (record : Record.Leaf)

/-- What has to be done, and what comes of it. -/
structure Plan (α : Type) where
  steps : List Step := []
  result : Except GenerationError α

namespace Plan

/-- The plan to do nothing. -/
def pure (a : α) : Plan α := { result := .ok a }

/-- The plan to go on with what comes of another. -/
def bind (p : Plan α) (next : α → Plan β) : Plan β :=
  match p.result with
  | .ok a =>
    let q := next a
    { steps := p.steps ++ q.steps, result := q.result }
  | .error e => { steps := p.steps, result := .error e }

instance : Monad Plan where
  pure := pure
  bind := bind

/-- The plan that ends in an error. -/
def fail (e : GenerationError) : Plan α := { result := .error e }

/-- The plan to do one step. -/
def step (s : Step) : Plan Unit := { steps := [s], result := .ok () }

/-- The plan of a result that may be an error. -/
def ofExcept (result : Except GenerationError α) : Plan α := { result }

theorem id_map (p : Plan α) : id <$> p = p := by
  obtain ⟨steps, result⟩ := p
  cases result <;> simp [Functor.map, Plan.bind, Plan.pure]

theorem pure_bind (a : α) (next : α → Plan β) : (Pure.pure a : Plan α) >>= next = next a := by
  simp [Bind.bind, Pure.pure, Plan.bind, Plan.pure]

theorem bind_assoc (p : Plan α) (f : α → Plan β) (g : β → Plan γ) :
    p >>= f >>= g = p >>= fun a => f a >>= g := by
  obtain ⟨steps, result⟩ := p
  cases result with
  | error e => simp [Bind.bind, Plan.bind]
  | ok a =>
    simp only [Bind.bind, Plan.bind]
    cases (f a).result <;> simp

instance : LawfulMonad Plan := .mk' _ id_map pure_bind bind_assoc

end Plan

end Generation

end QueryShape
