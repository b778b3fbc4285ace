import QueryShape.Json.Basic
import QueryShape.Time.Basic

/-!
# Values of generated code

The values that generated code reads from responses and sends in requests: those of JSON, dates,
times and identifiers, members of generated enums, results that wrap an object of a response, and
input objects.

A fault is the reason for which a value cannot be had.
-/

namespace QueryShape

/-- A value of generated code. -/
inductive Value
  | nothing
  | bool (value : Bool)
  | int (value : Int)
  | float (value : Float)
  | text (value : String)
  | list (items : List Value)
  | dict (entries : List (String × Value))
  | dateTime (value : Time.DateTime)
  | date (value : Time.Date)
  /-- An identifier of 128 bits. -/
  | uuid (bits : Nat)
  /-- A member of an enum, and the text it stands for. -/
  | enumMember (enum name text : String)
  /-- A result of a class, around the value it reads. -/
  | result (className : String) (raw : Value)
  /-- An input object of a class. -/
  | input (className : String) (fields : List (String × Value))
  deriving Inhabited

/-- Why a value cannot be had. -/
inductive Fault
  /-- An operation does not apply to a value of the type, or a call does not fit. -/
  | wrongType
  /-- A value of the type is not one that an operation takes. -/
  | wrongValue
  /-- A number is too large for its type. -/
  | overflow
  /-- A value or module has no such member. -/
  | noAttribute
  /-- There is no such module. -/
  | missingModule
  /-- A name is not bound. -/
  | unboundName
  /-- An object has no such key. -/
  | missingKey (key : String)
  /-- An object is of none of the types that an accessor reads. -/
  | unexpectedTypename (className shown : String)
  /-- A class has no operation to execute. -/
  | noOperation (className : String)
  /-- A member is not given by the class. -/
  | notImplemented
  /-- A response has no data. -/
  | noData (messages : List String)
  /-- A response is not of the form that responses have. -/
  | malformedResponse
  /-- A server answers with a failure. -/
  | failedRequest (status : Int)
  /-- Generated code cannot be run. -/
  | invalidCode
  deriving DecidableEq, Repr, Inhabited

/-- A fault in words, where it has any of its own. -/
def Fault.words : Fault → String
  | .unexpectedTypename className shown => className ++ " cannot read objects of type " ++ shown
  | .noOperation className => className ++ " does not define an operation"
  | .noData messages =>
    let joined := "; ".intercalate messages
    "GraphQL errors: " ++ if joined.isEmpty then "no data returned" else joined
  | _ => ""

namespace Value

mutual

/-- The value of a JSON value. -/
def ofJson : Json → Value
  | .null => .nothing
  | .bool value => .bool value
  | .int value => .int value
  | .float value => .float value
  | .string value => .text value
  | .array items => .list (ofItems items)
  | .object fields => .dict (ofFields fields)

/-- The values of the items of a JSON array. -/
def ofItems : List Json → List Value
  | [] => []
  | item :: rest => ofJson item :: ofItems rest

/-- The values of the fields of a JSON object. -/
def ofFields : List (String × Json) → List (String × Value)
  | [] => []
  | (key, value) :: rest => (key, ofJson value) :: ofFields rest

end

/-- The value is nothing. -/
def isNothing : Value → Bool
  | .nothing => true
  | _ => false

/-- The text of a text or an enum member. -/
def text? : Value → Option String
  | .text value => some value
  | .enumMember _ _ value => some value
  | _ => none

/-- The value holds: it is none of nothing, false, zero and what is empty. -/
def holds : Value → Bool
  | .nothing => false
  | .bool value => value
  | .int value => value != 0
  | .float value => value != 0
  | .text value | .enumMember _ _ value => !value.isEmpty
  | .list items => !items.isEmpty
  | .dict entries => !entries.isEmpty
  | _ => true

/-- The values that going through a value gives. -/
def items : Value → Except Fault (List Value)
  | .list items => .ok items
  | .text value | .enumMember _ _ value => .ok (value.toList.map fun c => .text c.toString)
  | .dict entries => .ok (entries.map fun e => .text e.1)
  | _ => .error .wrongType

/-- The value under a key that has to be there. -/
def entry (value : Value) (key : String) : Except Fault Value :=
  match value with
  | .dict entries => (entries.lookup key).elim (.error (.missingKey key)) .ok
  | _ => .error .wrongType

/-- The value under a key, or nothing. -/
def entryOrNothing (value : Value) (key : String) : Except Fault Value :=
  match value with
  | .dict entries => .ok ((entries.lookup key).getD .nothing)
  | _ => .error .noAttribute

/-- The key under which an object has the name of its type. -/
def typenameKey : String := "__typename"

/-- The name of the type of an object, as the object gives it. -/
def typename (value : Value) : Except Fault Value := value.entryOrNothing typenameKey

/-- The value may be a key, and so be looked up in a set. -/
def canBeKey : Value → Bool
  | .list _ | .dict _ | .result .. | .input .. => false
  | _ => true

mutual

/-- The number of input objects that are inside each other. -/
def depth : Value → Nat
  | .list items => depthOfItems items
  | .dict entries => depthOfEntries entries
  | .result _ raw => raw.depth
  | .input _ fields => depthOfEntries fields + 1
  | _ => 0

/-- The greatest depth of the items of a list. -/
def depthOfItems : List Value → Nat
  | [] => 0
  | item :: rest => max item.depth (depthOfItems rest)

/-- The greatest depth of the values of entries. -/
def depthOfEntries : List (String × Value) → Nat
  | [] => 0
  | (_, value) :: rest => max value.depth (depthOfEntries rest)

end

end Value

end QueryShape
