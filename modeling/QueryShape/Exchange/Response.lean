import QueryShape.Value.Basic

/-!
# Responses

A response of a server may have data, errors and extensions. `Response.ofValue` reads one. What a
response says beside these is left out, but an error keeps all that it says.
-/

namespace QueryShape

namespace Exchange

/-- An error that a response tells of. -/
structure ErrorItem where
  message : String
  /-- The places in the document, or nothing. -/
  locations : Value := .nothing
  /-- The way to the value that could not be had, or nothing. -/
  path : Value := .nothing
  extensions : Value := .nothing
  /-- What else the error says. -/
  others : List (String × Value) := []
  deriving Inhabited

/-- A response of a server. -/
structure Response where
  data? : Option (List (String × Value)) := none
  errors? : Option (List ErrorItem) := none
  extensions? : Option (List (String × Value)) := none
  deriving Inhabited

/-! ## Reading -/

/-- The entries of an object. -/
def entriesOf : Value → Except Fault (List (String × Value))
  | .dict entries => .ok entries
  | _ => .error .malformedResponse

/-- The items of a list. -/
def itemsOf : Value → Except Fault (List Value)
  | .list items => .ok items
  | _ => .error .malformedResponse

/-- A text. -/
def textOf : Value → Except Fault String
  | .text words => .ok words
  | _ => .error .malformedResponse

/-- A part of an object that is read if it is there and not nothing. -/
def part? (entries : List (String × Value)) (key : String) (read : Value → Except Fault α) :
    Except Fault (Option α) :=
  match entries.lookup key with
  | none | some .nothing => .ok none
  | some v => some <$> read v

/-- What an object says under a key, or nothing. -/
def said (entries : List (String × Value)) (key : String) : Value :=
  (entries.lookup key).getD .nothing

namespace ErrorItem

/-- The keys that errors have a place for. -/
def keys : List String := ["message", "locations", "path", "extensions"]

/-- The error that a value is. -/
def ofValue (v : Value) : Except Fault ErrorItem := do
  let entries ← entriesOf v
  let message ← textOf (said entries "message")
  let _ ← part? entries "locations" fun v => do (← itemsOf v).mapM entriesOf
  let _ ← part? entries "path" itemsOf
  let _ ← part? entries "extensions" entriesOf
  return { message, locations := said entries "locations", path := said entries "path"
           extensions := said entries "extensions"
           others := entries.filter fun e => !keys.contains e.1 }

/-- All that an error says. -/
def toValue (e : ErrorItem) : Value :=
  .dict ([("message", .text e.message), ("locations", e.locations), ("path", e.path),
    ("extensions", e.extensions)] ++ e.others)

end ErrorItem

namespace Response

/-- The response that a value is. -/
def ofValue (v : Value) : Except Fault Response := do
  let entries ← entriesOf v
  let data? ← part? entries "data" entriesOf
  let errors? ← part? entries "errors" fun v => do (← itemsOf v).mapM ErrorItem.ofValue
  let extensions? ← part? entries "extensions" entriesOf
  return { data?, errors?, extensions? }

/-- The errors that a response tells of. -/
def errors (r : Response) : List ErrorItem := r.errors?.getD []

/-- The data of a response, without which there is no result. -/
def data (r : Response) : Except Fault Value :=
  match r.data? with
  | some entries => .ok (.dict entries)
  | none => .error (.noData (r.errors.map (·.message)))

end Response

end Exchange

end QueryShape
