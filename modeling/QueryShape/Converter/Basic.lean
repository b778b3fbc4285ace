import QueryShape.Text.Stretch
import QueryShape.Time.Reader
import QueryShape.Time.Writer
import QueryShape.Value.Number
import QueryShape.Value.Shown

/-!
# Converters

A converter says how the values of a custom scalar are sent and read, and how generated code names
it: by the module it is imported from and its path there.

* `standard` are the converters of dates, times, identifiers and plain JSON.
* `Converters` maps scalars to converters; `fallback?` are those of scalars that nothing is
  registered for.
-/

namespace QueryShape

/-- A converter of the values of a scalar. -/
structure Converter where
  /-- Generated code can call it by name only if it is a class. -/
  isClass : Bool := true
  /-- The module that has it, if it knows one. -/
  module? : Option String
  /-- Its name, after the names of the classes that hold it, with points between them. -/
  path : String
  /-- The signature of converted values. -/
  signature : String
  /-- The line that imports the signature, or nothing. -/
  importLine : String
  /-- How messages show it. -/
  shown : String
  serialize : Value → Except Fault Value
  deserialize : Value → Except Fault Value

namespace Converter

/-! ## Names -/

/-- The mark in the path of a class that is local to a function. -/
def localMark : String := "<locals>"

/-- The module that generated code imports the converter from. -/
def importableFrom? (c : Converter) : Option String :=
  match c.module? with
  | some module =>
    if !c.isClass || module.isEmpty || module == "__main__" ||
      Text.holds localMark.toList c.path.toList then none
    else some module
  | none => none

/-- The first name of a path. -/
def firstName (path : String) : String :=
  .ofList (path.toList.takeWhile (· ≠ '.'))

/-- The line that imports the converter. -/
def referenceLine (module path : String) : String :=
  "from " ++ module ++ " import " ++ firstName path

/-! ## Dates and times -/

/-- The written form of a date or time. -/
def writeTime : Value → Except Fault Value
  | .dateTime t => .ok (.text t.text)
  | .date d => .ok (.text d.text)
  | _ => .error .noAttribute

/-- A text with every `Z` written out as the distance that it stands for. -/
def spellOutZ (text : String) : String := Text.replace "Z" "+00:00" text

/-- The time that a text is. -/
def readDateTime : Value → Except Fault Value
  | .text words | .enumMember _ _ words =>
    match Time.DateTime.read? (spellOutZ words) with
    | some t => .ok (.dateTime t)
    | none => .error .wrongValue
  | .dateTime _ | .date _ => .error .wrongType
  | _ => .error .noAttribute

/-- The date that a text is. -/
def readDate : Value → Except Fault Value
  | .text words | .enumMember _ _ words =>
    match Time.Date.read? words with
    | some d => .ok (.date d)
    | none => .error .wrongValue
  | _ => .error .wrongType

/-! ## Identifiers -/

/-- The hexadecimal number that a text writes, with a sign or a mark of the base if it likes. -/
def hexadecimal? (text : String) : Option Int := do
  let (negative, rest) := Value.takeSign (Value.plainNumber text)
  let rest := match rest with
    | '0' :: x :: '_' :: rest => if x = 'x' ∨ x = 'X' then rest else '0' :: x :: '_' :: rest
    | '0' :: x :: rest => if x = 'x' ∨ x = 'X' then rest else '0' :: x :: rest
    | rest => rest
  let digits ← Value.dropUnderscores? (fun c => (Letter.hexValue? c).isSome) rest
  let n ← Value.natOfDigits? 16 digits
  return if negative then -(n : Int) else n

/-- The identifier that a text of 32 digits is, in braces, with hyphens or with a name in front. -/
def uuid? (text : String) : Option Nat := do
  let bare := Text.replaceChars "uuid:".toList [] (Text.replaceChars "urn:".toList [] text.toList)
  let isBrace (c : Char) : Bool := c == '\x7b' || c == '\x7d'
  let inner := ((bare.dropWhile isBrace).reverse.dropWhile isBrace).reverse
  let digits := inner.filter (· ≠ '-')
  if digits.length ≠ 32 then none
  let n ← hexadecimal? (.ofList digits)
  if 0 ≤ n then some n.toNat else none

/-- The identifier that a text is. -/
def readUuid : Value → Except Fault Value
  | .text words | .enumMember _ _ words =>
    match uuid? words with
    | some n => .ok (.uuid n)
    | none => .error .wrongValue
  | .nothing | .dateTime _ | .date _ => .error .wrongType
  | _ => .error .noAttribute

/-- The written form of any value. -/
def writeAny (value : Value) : Except Fault Value :=
  .ok <| .text <| match value with
    | .text words => words
    | .dateTime t => .ofList (t.date.chars ++ ' ' :: t.chars.drop (t.date.chars.length + 1))
    | .date d => d.text
    | .uuid n => Value.uuidText n
    | .enumMember enum name _ => enum ++ "." ++ name
    | other => other.shown

/-! ## Standard converters -/

/-- The module of the standard converters. -/
def standardModule : String := "gql_typegen.core.scalars"

/-- A standard converter. -/
def ofStandard (name signature importLine : String)
    (serialize deserialize : Value → Except Fault Value) : Converter :=
  { module? := some standardModule, path := name, signature, importLine
    shown := "<class '" ++ standardModule ++ "." ++ name ++ "'>", serialize, deserialize }

/-- The converter of times. -/
def dateTime : Converter :=
  ofStandard "DateTimeHandler" "datetime" "from datetime import datetime" writeTime readDateTime

/-- The converter of dates. -/
def date : Converter :=
  ofStandard "DateHandler" "date" "from datetime import date" writeTime readDate

/-- The converter of identifiers. -/
def uuid : Converter :=
  ofStandard "UUIDHandler" "UUID" "from uuid import UUID" writeAny readUuid

/-- The converter that leaves values as they are. -/
def json : Converter :=
  ofStandard "JSONHandler" "Any" "from typing import Any" .ok .ok

/-- The standard converters. -/
def standard : List Converter := [dateTime, date, uuid, json]

end Converter

/-! ## Scalars -/

/-- The converters that scalars are registered with. -/
abbrev Converters := List (String × Converter)

namespace Converters

/-- Register a scalar, instead of what it was registered with before. -/
def register (converters : Converters) (scalar : String) (c : Converter) : Converters :=
  (scalar, c) :: converters

/-- The converter that a scalar is registered with. -/
def get? (converters : Converters) (scalar : String) : Option Converter :=
  converters.lookup scalar

/-- The converters that scalars are registered with from the start. -/
def initial : Converters :=
  [("DateTime", .dateTime), ("Date", .date), ("UUID", .uuid), ("JSON", .json),
   ("JSONObject", .json)]

/-- The converters of scalars that need not be registered. -/
def fallback : Converters :=
  [("Date", .date), ("ISO8601Date", .date), ("DateTime", .dateTime), ("ISO8601DateTime", .dateTime)]

/-- The converter of a scalar, registered or not. -/
def find? (converters : Converters) (scalar : String) : Option Converter :=
  converters.get? scalar <|> fallback.get? scalar

end Converters

end QueryShape
