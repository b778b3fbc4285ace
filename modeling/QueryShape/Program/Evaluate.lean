import QueryShape.Program.Thing

/-!
# Evaluating generated code

`Expr.meaning` says what an expression gives in a scope, and `Expr.value` the value that it gives. A
variable hides the thing that its name stands for otherwise, and the name for the items of a list
hides it in the value that is built for each.

`runBody` runs the body of an accessor on an object: the first statement that returns ends it.
-/

namespace QueryShape

namespace Program

/-- The tools that names stand for without being imported. -/
def builtins : List (String × Tool) :=
  [("int", .int), ("float", .float), ("list", .list), ("property", .property),
   ("classmethod", .classMethod), ("str", .signature), ("bool", .signature)]

/-- What names stand for in a module, the latest first. -/
abbrev Bindings := List (String × Thing)

/-- What a name of a module stands for. -/
def Bindings.thing? (bindings : Bindings) (name : String) : Option Thing :=
  bindings.lookup name <|> (builtins.lookup name).map .tool

/-- What an expression can refer to. -/
structure Scope where
  /-- The values of variables, the innermost first. -/
  locals : List (String × Value) := []
  bindings : Bindings
  /-- How an input object is sent. -/
  send : Value → Except Fault Value

/-- A scope with one more variable. -/
def Scope.with (s : Scope) (name : String) (value : Value) : Scope :=
  { s with locals := (name, value) :: s.locals }

/-- What a name stands for. -/
def Scope.meaning (s : Scope) (name : String) : Except Fault Meaning :=
  match s.locals.lookup name with
  | some v => .ok (.value v)
  | none =>
    match s.bindings.thing? name with
    | some t => .ok (.thing t)
    | none => .error .unboundName

/-! ## Values -/

/-- The value that a meaning is. -/
def Meaning.toValue : Meaning → Except Fault Value
  | .value v => .ok v
  | _ => .error .wrongType

/-- What calling a meaning with one value gives. -/
def Meaning.call (m : Meaning) (value : Value) : Except Fault Value :=
  match m with
  | .function f => f value
  | .thing t => t.call value
  | .value _ => .error .wrongType

/-- The member of a value. -/
def memberOf : Value → String → Except Fault Value
  | .result _ raw, name => if name = "raw_result" then .ok raw else .error .noAttribute
  | .input className fields, name =>
    (fields.lookup (nameInside className name)).elim (.error .noAttribute) .ok
  | _, _ => .error .noAttribute

/-- The member of a meaning. -/
def Meaning.member (m : Meaning) (name : String) : Except Fault Meaning :=
  match m with
  | .value v => .value <$> memberOf v name
  | .thing t => t.member name
  | .function _ => .error .noAttribute

/-- What calling a method of a value without arguments gives: an enum member and an input object
know how they are sent. -/
def sendValue (s : Scope) (v : Value) (method : String) : Except Fault Value :=
  match v, method with
  | .enumMember .., "serialize" => sentMember v
  | .input .., "serialize" => s.send v
  | _, _ => .error .noAttribute

end Program

/-! ## Expressions -/

namespace Code

open Program

/-- What an expression gives in a scope. -/
def Expr.meaning : Expr → Scope → Except Fault Meaning
  | .name n, s => s.meaning n
  | .nothing, _ => .ok (.value .nothing)
  | .member e n, s => do (← e.meaning s).member n
  | .entry e key, s => do
    let v ← (← e.meaning s).toValue
    return .value (← v.entry key)
  | .entryOrNothing e key, s => do
    let v ← (← e.meaning s).toValue
    return .value (← v.entryOrNothing key)
  | .call f x, s => do
    let f ← f.meaning s
    let x ← (← x.meaning s).toValue
    return .value (← f.call x)
  | .send e method, s => do
    let v ← (← e.meaning s).toValue
    return .value (← sendValue s v method)
  | .cast type e, s => do
    let function ← s.meaning "cast"
    let _ ← s.meaning type
    let v ← (← e.meaning s).toValue
    match function with
    | .thing (.tool .cast) => return .value v
    | .thing t => throw (t.callTwo v)
    | _ => throw .wrongType
  | .unlessNothing subject value, s => do
    let v ← (← subject.meaning s).toValue
    if v.isNothing then return .value .nothing
    value.meaning s
  | .forEach value item source, s => do
    let items ← (← (← source.meaning s).toValue).items
    return .value (.list (← items.mapM fun v => do (← value.meaning (s.with item v)).toValue))
  | .verbatim _, _ => .error .invalidCode

/-- The value that an expression gives in a scope. -/
def Expr.value (e : Expr) (s : Scope) : Except Fault Value := do (← e.meaning s).toValue

/-! ## Statements -/

/-- The value that a statement returns, if it returns. -/
def Statement.run (st : Statement) (s : Scope) : Except Fault (Option Value) :=
  match st with
  | .returnIfNothing subject => do
    return if (← subject.value s).isNothing then some .nothing else none
  | .return e => do return some (← e.value s)

/-- The value that statements return, if they return. -/
def runStatements (s : Scope) : List Statement → Except Fault (Option Value)
  | [] => .ok none
  | st :: rest => do
    match ← st.run s with
    | some v => return some v
    | none => runStatements s rest

end Code

/-! ## Accessors -/

namespace Program

open Code QueryShape.Module

/-- The name of an object's type is one of the given ones. -/
def isOfTypes (names : List String) (typename : Value) : Except Fault Bool :=
  if typename.canBeKey then .ok (typename.text?.any names.contains) else .error .wrongType

/-- The value that a part of the body of an accessor returns on an object, if it returns. -/
def runBranch (s : Scope) (object : Value) : Branch → Except Fault (Option Value)
  | .always statements => runStatements s statements
  | .ofTypes names statements => do
    if ← isOfTypes names (← object.typename) then runStatements s statements else return none
  | .unexpected className => do
    let complaint ← s.meaning "UnexpectedTypenameError"
    let typename ← object.typename
    match complaint with
    | .thing (.tool .unexpectedTypename) => throw (.unexpectedTypename className typename.shown)
    | .thing t => throw (t.callTwo typename)
    | _ => throw .wrongType

/-- The value that the body of an accessor returns on an object, which is nothing at its end. -/
def runBody (s : Scope) (object : Value) : List Branch → Except Fault Value
  | [] => .ok .nothing
  | branch :: rest => do
    match ← runBranch s object branch with
    | some v => return v
    | none => runBody s object rest

end Program

end QueryShape
