import QueryShape.Exchange.Request
import QueryShape.Program.Load

/-!
# Input objects and operations

Making an input object or executing an operation passes values for parameters by name. A parameter
that may be left out then has no value. What is sent is built from the serializers of the
parameters; input objects inside a value are sent by the serializers of their own classes.
-/

namespace QueryShape.Program

open Code Exchange Record

/-! ## Parameters -/

/-- The value passed for a parameter. -/
def argument (className : String) (args : List (String × Value)) (p : Parameter) :
    Except Fault Value :=
  match args.lookup (passedName className p) with
  | some v => .ok v
  | none => if p.isOptional then .ok .nothing else .error .wrongType

/-- The values of all parameters, in order, if nothing else is passed. -/
def arguments (className : String) (parameters : List Parameter) (args : List (String × Value)) :
    Except Fault (List (Parameter × Value)) :=
  if args.all fun a => parameters.any (passedName className · == a.1) then
    parameters.mapM fun p => do return (p, ← argument className args p)
  else .error .wrongType

/-- What is sent for parameters, given how their values are referred to. -/
def sentEntries (s : Scope) (reference : Parameter → Expr) (parameters : List Parameter) :
    Except Fault (List (String × Value)) := do
  let entries ← parameters.mapM fun p => do
    return (p.graphqlName, ← (p.serializer.fill (reference p)).value s)
  return Json.distinctFields entries

/-! ## Input objects -/

/-- The input object of a class, made from values for its parameters. -/
def makeInput (t : Thing) (args : List (String × Value)) : Except Fault Value :=
  match t with
  | .generated (.input i) _ =>
    if i.arguments.isEmpty && t.ancestor? ≠ some .inputObject then .error .wrongType
    else do
      let values ← arguments i.name i.arguments args
      return .input i.name (values.map fun (p, v) => (passedName i.name p, v))
  | .tool .inputObject => if args.isEmpty then .ok (.input "InputObject" []) else .error .wrongType
  | _ => .error .wrongType

/-- How an input object is sent, of which at most the given number are inside each other. -/
def sendWithin (bindings : Bindings) : Nat → Value → Except Fault Value
  | depth + 1, .input className fields =>
    match bindings.lookup className with
    | some (.generated (.input i) _) => do
      let s : Scope :=
        { locals := [("self", .input className fields)], bindings
          send := sendWithin bindings depth }
      return .dict (present (← sentEntries s (fun p => .member (.name "self") p.name) i.arguments))
    | _ => .error .notImplemented
  | _, _ => .error .noAttribute

/-- How a value is sent that knows it itself. -/
def send (bindings : Bindings) (v : Value) : Except Fault Value :=
  match v with
  | .enumMember .. => sentMember v
  | _ => sendWithin bindings v.depth v

/-- The scope of a method with the given variables. -/
def scopeOf (bindings : Bindings) (locals : List (String × Value)) : Scope :=
  { locals, bindings, send := send bindings }

/-! ## Operations -/

/-- The result of an operation and the errors that came with it. -/
structure OperationResult where
  result : Value
  errors : List ErrorItem := []

/-- The result that a class reads from a response. -/
def ofResponse (t : Thing) (r : Response) : Except Fault OperationResult := do
  if t.ancestor? ≠ some .operationResult then throw .noAttribute
  return { result := ← t.call (← r.data), errors := r.errors }

/-- What the names of a module stand for in the method that executes the operation of a class. The
method's own variables hide the class, what executes it, and what comes back, which is not there
yet. -/
def insideExecute (bindings : Bindings) (t : Thing) : Bindings :=
  ("cls", t) :: ("executor", .tool .signature) :: bindings.filter (·.1 ≠ "response")

/-- The scope of the method that executes the operation of a class, with values for its
variables. -/
def executeScope (bindings : Bindings) (t : Thing) (values : List (Parameter × Value)) : Scope where
  locals := values.map fun (p, v) => (p.name, v)
  bindings := insideExecute bindings t
  send := send bindings

/-- The variables that the operation of a class sends, given values for them. -/
def sentVariables (bindings : Bindings) (t : Thing) (r : Root) (args : List (String × Value)) :
    Except Fault (List (String × Value)) := do
  let values ← arguments r.name r.parameters args
  sentEntries (executeScope bindings t values) (fun p => .name p.name) r.parameters

/-- What the operation of a class sends, given values for its variables. -/
def requestBody (bindings : Bindings) (t : Thing) (r : Root) (args : List (String × Value)) :
    Except Fault Json := do
  let entries ← sentVariables bindings t r args
  body (.text r.queryText) (.dict entries) (.text r.operationName)

/-- Execute the operation of a class. -/
def execute (bindings : Bindings) (t : Thing) (args : List (String × Value)) (server : Server) :
    Outcome OperationResult :=
  match t with
  | .generated (.root r) _ => ask server (requestBody bindings t r args) (ofResponse t)
  | .tool .operationResult => { result := .error (.noOperation "OperationResult") }
  | _ => { result := .error .noAttribute }

/-! ## Results -/

/-- The values of all accessors that a class gives to an object, each with its name. -/
def readAll (bindings : Bindings) : Value → List (String × Except Fault Value)
  | .result className raw =>
    let self := scopeOf bindings [("self", .result className raw)]
    let read (possibleTypes : List String) (accessors : List Accessor) :=
      accessors.map fun a => (a.name, runBody self raw (Module.view className possibleTypes a).body)
    match bindings.lookup className with
    | some (.generated (.root r) _) => read r.possibleTypes r.accessors
    | some (.generated (.leaf r) _) => read r.possibleTypes r.accessors
    | _ => []
  | _ => []

/-- An object is the result of an operation. -/
def isOperationResult (bindings : Bindings) : Value → Bool
  | .result className _ =>
    (bindings.lookup className).any fun t => t.ancestor? == some .operationResult
  | _ => false

end QueryShape.Program
