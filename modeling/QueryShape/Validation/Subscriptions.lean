import QueryShape.Document.Collect
import QueryShape.Document.Printer
import QueryShape.Validation.Context

/-!
# Rules of subscriptions

A subscription selects one field at the top, and no field of introspection. Which fields it selects
depends on the conditions on them; one that takes the value of a variable cannot be read before the
subscription runs, and then the whole check fails.
-/

namespace QueryShape.Validation

open Document

/-- The condition of a directive that includes or skips a selection. -/
def readCondition (d : Directive) : Except String Bool :=
  match (d.arguments.reverse.find? (·.name == "if")).map Argument.value with
  | none => .error "Argument 'if' of required type 'Boolean!' was not provided."
  | some (.boolean b) => .ok b
  | some .null => .error "Argument 'if' of non-null type 'Boolean!' must not be null."
  | some (.variable name) =>
    .error ("Argument 'if' of required type 'Boolean!' was provided the variable '$" ++ name ++
      "' which was not provided a runtime value.")
  | some value =>
    .error ("Argument 'if' has invalid value " ++ .ofList (printValue value) ++ ".")

/-- The conditions on a selection include it. -/
def readConditions (directives : List Directive) : Except String Bool := do
  match directives.find? (·.name == "skip") with
  | some d => if ← readCondition d then return false
  | none => pure ()
  match directives.find? (·.name == "include") with
  | some d => readCondition d
  | none => return true

/-- The fields that a subscription selects at the top. -/
def topFields (c : Context) (o : Operation) : Except String (List Collected) :=
  match (c.schema.subscription?.bind c.schema.type?) with
  | some root =>
    if o.kind = .subscription then
      collectFields c.schema (fragments c.document) readConditions root o.selections
    else .ok []
  | none => .ok []

/-- How complaints name a subscription. -/
def subscriptionName (o : Operation) : String :=
  match o.name? with
  | some name => "Subscription '" ++ name ++ "'"
  | none => "Anonymous Subscription"

/-- A subscription selects one field, not of introspection. -/
def singleFieldSubscriptions : Rule := fun c v =>
  match v.site with
  | .operation _ o =>
    match topFields c o with
    | .ok groups =>
      (if 1 < groups.length then
        [subscriptionName o ++ " must select only one top level field."] else []) ++
      groups.filterMap fun (_, fields) =>
        if fields.head?.any fun f => f.1.name.startsWith "__" then
          some (subscriptionName o ++ " must not select an introspection top level field.")
        else none
    | .error _ => []
  | _ => []


end QueryShape.Validation
