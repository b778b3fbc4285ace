import QueryShape.Json.Basic
import QueryShape.Decimal.Layout
import QueryShape.Literal

/-!
# Writing JSON

`Json.write` writes a value on one line, with nothing between its tokens.
-/

namespace QueryShape.Json

mutual

/-- A value as JSON text. -/
def write : Json → String
  | .null => "null"
  | .bool value => if value then "true" else "false"
  | .int value => toString value
  | .float value =>
    if value.isNaN then "NaN"
    else if value.isInf then (if value < 0.0 then "-Infinity" else "Infinity")
    else Decimal.floatText value
  | .string text => Literal.double text
  | .array items => "[" ++ ",".intercalate (writeItems items) ++ "]"
  | .object fields => "\x7b" ++ ",".intercalate (writeFields fields) ++ "\x7d"

/-- The items of an array. -/
def writeItems : List Json → List String
  | [] => []
  | item :: rest => write item :: writeItems rest

/-- The fields of an object. -/
def writeFields : List (String × Json) → List String
  | [] => []
  | (key, value) :: rest => (Literal.double key ++ ":" ++ write value) :: writeFields rest

end

end QueryShape.Json
