/-!
# JSON values

A JSON value. Numbers written with a fraction or an exponent are floating-point numbers and all
others are integers of any size. An object keeps the order of its keys and has each key once.
-/

namespace QueryShape

/-- A JSON value. -/
inductive Json
  | null
  | bool (value : Bool)
  | int (value : Int)
  | float (value : Float)
  | string (text : String)
  | array (items : List Json)
  | object (fields : List (String × Json))
  deriving Repr, Inhabited

namespace Json

/-- Put a value under a key: in place where the key is there already, else at the end. -/
def insert (fields : List (String × α)) (key : String) (value : α) : List (String × α) :=
  if fields.any (·.1 == key) then fields.map fun f => if f.1 == key then (key, value) else f
  else fields ++ [(key, value)]

/-- Fields in order, a later value taking the place of an earlier one under the same key. -/
def distinctFields (fields : List (String × α)) : List (String × α) :=
  fields.foldl (fun all f => insert all f.1 f.2) []

/-- The value under a key of an object. -/
def get? (json : Json) (key : String) : Option Json :=
  match json with
  | .object fields => fields.lookup key
  | _ => none

/-- The text of a string. -/
def string? : Json → Option String
  | .string text => some text
  | _ => none

/-- The items of an array. -/
def items? : Json → Option (List Json)
  | .array items => some items
  | _ => none

/-- Is an object. -/
def isObject : Json → Bool
  | .object _ => true
  | _ => false

end Json

end QueryShape
