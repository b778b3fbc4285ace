import QueryShape.Exchange.Response

/-!
# Requests

A request has a document, and the name of an operation and the values of variables if there are any.
Variables without a value are left out, so that the server takes its own.

A server answers with a status. `ask` posts a request and reads the response, unless the status
tells of a failure.
-/

namespace QueryShape

mutual

/-- A value as JSON, where JSON has it. -/
def Value.toJson : Value → Except Fault Json
  | .nothing => .ok .null
  | .bool value => .ok (.bool value)
  | .int value => .ok (.int value)
  | .float value => if value.isFinite then .ok (.float value) else .error .wrongValue
  | .text words | .enumMember _ _ words => .ok (.string words)
  | .list items => .array <$> Value.itemsToJson items
  | .dict entries => .object <$> Value.entriesToJson entries
  | .dateTime _ | .date _ | .uuid _ | .result .. | .input .. => .error .wrongType

/-- The items of a list as JSON. -/
def Value.itemsToJson : List Value → Except Fault (List Json)
  | [] => .ok []
  | item :: rest => do return (← item.toJson) :: (← Value.itemsToJson rest)

/-- The entries of a dictionary as JSON. -/
def Value.entriesToJson : List (String × Value) → Except Fault (List (String × Json))
  | [] => .ok []
  | (key, value) :: rest => do return (key, ← value.toJson) :: (← Value.entriesToJson rest)

end

namespace Exchange

/-! ## Bodies -/

/-- Entries that are not nothing. -/
def present (entries : List (String × Value)) : List (String × Value) :=
  entries.filter fun e => !e.2.isNothing

/-- The variables as a request has them, if there are any. -/
def variablesPart (given : Value) : Except Fault (List (String × Value)) :=
  match given with
  | .dict [] => .ok []
  | .dict entries => .ok [("variables", .dict (present entries))]
  | other => if other.holds then .error .noAttribute else .ok []

/-- What a request says. -/
def body (document given operation : Value) : Except Fault Json := do
  let name := if operation.holds then [("operationName", operation)] else []
  (Value.dict ([("query", document)] ++ name ++ (← variablesPart given))).toJson

/-! ## Servers -/

/-- A server that answers every request in the same way. -/
structure Server where
  answer : Json := .object [("data", .object [])]
  status : Int := 200

/-- A status tells of success. -/
def isSuccess (status : Int) : Bool := 200 ≤ status && status < 300

/-- The response of a server. -/
def Server.response (server : Server) : Except Fault Response :=
  if isSuccess server.status then Response.ofValue (.ofJson server.answer)
  else .error (.failedRequest server.status)

/-- What has been posted, and what came of it. -/
structure Outcome (α : Type) where
  sent : List Json := []
  result : Except Fault α

/-- Post a request, if it can be written, and go on with the response. -/
def ask (server : Server) (body : Except Fault Json) (next : Response → Except Fault α) :
    Outcome α :=
  match body with
  | .ok json => { sent := [json], result := server.response >>= next }
  | .error fault => { result := .error fault }

/-! ## Headers -/

/-- The headers that every request has, unless others are given. -/
def defaultHeaders : List (String × String) := [("Content-Type", "application/json")]

/-- Headers after others are given, which take the place of those of the same spelling. -/
def withHeaders (given : List (String × String)) : List (String × String) :=
  given.foldl (fun all h => Json.insert all h.1 h.2) defaultHeaders

/-- The letters of a header's name in lower case. -/
def lowerName (name : String) : String := .ofList (name.toList.map Char.toLower)

/-- What the headers of a name in any spelling say. -/
def header? (headers : List (String × String)) (name : String) : Option String :=
  match headers.filter fun h => lowerName h.1 == lowerName name with
  | [] => none
  | found => some (", ".intercalate (found.map (·.2)))

end Exchange

end QueryShape
