import QueryShape.Document.Basic
import QueryShape.Document.Token

/-!
# Reading documents

`Document.read` turns a text into a document or says where its form goes wrong. It reads the tokens
from the left with one token of lookahead, and the first token that cannot go on is the fault.

Lists and nested forms are read up to a limit on their length and depth. Each step uses up a token,
so the number of tokens is limit enough.
-/

namespace QueryShape.Document

/-- Reads from the front of the tokens that are left. -/
abbrev Reader := StateT (List Lexeme) (Except SyntaxFault)

namespace Reader

/-! ## Single tokens -/

/-- The first of the tokens that are left. -/
def front : List Lexeme → Except SyntaxFault Token
  | [] => .ok .endOfInput
  | ⟨.broken fault, _⟩ :: _ => .error fault
  | lexeme :: _ => .ok lexeme.token

/-- The next token. -/
def current : Reader Token := do front (← get)

/-- Go past the next token. -/
def advance : Reader Unit := modify (·.drop 1)

/-- The token after the next one. -/
def lookahead : Reader Token := do front ((← get).drop 1)

/-- The place of a token, so many after the next one. -/
def place (ahead : Nat) : Reader Nat := do
  return ((← get)[ahead]?.map (·.left)).getD 0

/-- A fault at the next token, or so many after it. -/
def failAt (words : String) (ahead : Nat) : Reader α := do
  throw (.malformed words (← place ahead))

/-- What is said of a token that cannot stand where it does. -/
def unexpectedWords (token : Token) : String := "Unexpected " ++ token.described ++ "."

/-- The fault of a token that cannot stand here. -/
def unexpected (token : Token) : Reader α := failAt (unexpectedWords token) 0

/-- The fault of finding another token than the one that must stand here. -/
def expected (what : String) (found : Token) : Reader α :=
  failAt ("Expected " ++ what ++ ", found " ++ found.described ++ ".") 0

/-- The next token is the mark. -/
def sees (mark : String) : Reader Bool := do
  return (← current) == .mark mark

/-- Go past the mark if it is next, and say whether it was. -/
def accepts (mark : String) : Reader Bool := do
  let found ← sees mark
  if found then advance
  return found

/-- Go past the mark, which must be next. -/
def mark (text : String) : Reader Unit := do
  let token ← current
  if token == .mark text then advance else expected ("'" ++ text ++ "'") token

/-- A name, which must be next. -/
def name : Reader String := do
  match ← current with
  | .name text => advance; return text
  | token => expected "Name" token

/-- Go past the keyword if it is next, and say whether it was. -/
def acceptsKeyword (text : String) : Reader Bool := do
  let found := (← current) == .name text
  if found then advance
  return found

/-- Go past the keyword, which must be next. -/
def keyword (text : String) : Reader Unit := do
  let token ← current
  if token == .name text then advance else expected ("'" ++ text ++ "'") token

/-! ## Lists -/

/-- Items up to the closing mark, at least one. -/
def someUntil (close : String) (item : Reader α) : (limit : Nat) → Reader (List α)
  | 0 => do unexpected (← current)
  | limit + 1 => do
    let first ← item
    if ← accepts close then return [first]
    return first :: (← someUntil close item limit)

/-- Items between two marks, at least one. -/
def someBetween (opening closing : String) (item : Reader α) (limit : Nat) :
    Reader (List α) := do
  mark opening
  someUntil closing item limit

/-- Items between two marks, perhaps none. -/
def anyBetween (opening closing : String) (item : Reader α) (limit : Nat) :
    Reader (List α) := do
  mark opening
  if ← accepts closing then return []
  someUntil closing item limit

/-- Items between two marks, or nothing at all. -/
def optionalBetween (opening closing : String) (item : Reader α) (limit : Nat) :
    Reader (List α) := do
  if ← accepts opening then someUntil closing item limit else return []

/-- Items with the mark between them, at least one. -/
def someSeparated (separator : String) (item : Reader α) : (limit : Nat) → Reader (List α)
  | 0 => do unexpected (← current)
  | limit + 1 => do
    let first ← item
    if ← accepts separator then return first :: (← someSeparated separator item limit)
    return [first]

/-- Items with the mark between them and perhaps before the first. -/
def someDelimited (separator : String) (item : Reader α) (limit : Nat) : Reader (List α) := do
  let _ ← accepts separator
  someSeparated separator item limit

/-! ## Types and values -/

/-- A reference to a type. -/
def typeRef : (limit : Nat) → Reader TypeRef
  | 0 => do unexpected (← current)
  | limit + 1 => do
    let base ←
      if ← accepts "[" then do
        let item ← typeRef limit
        mark "]"
        pure (.list item)
      else .named <$> name
    return if ← accepts "!" then .nonNull base else base

/-- The variable whose dollar sign is next. A constant has none. -/
def variableName (constant : Bool) : Reader String := do
  let left ← place 0
  mark "$"
  if constant then
    match ← current with
    | .name text =>
      throw (.malformed ("Unexpected variable '$" ++ text ++ "' in constant value.") left)
    | _ => throw (.malformed (unexpectedWords (.mark "$")) left)
  name

/-- A value. Of a constant, no part is a variable. -/
def value (constant : Bool) : (limit : Nat) → Reader Value
  | 0 => do unexpected (← current)
  | limit + 1 => do
    let token ← current
    match token with
    | .mark "[" => .list <$> anyBetween "[" "]" (value constant limit) limit
    | .mark "\x7b" =>
      .object <$> anyBetween "\x7b" "\x7d"
        (do
          let key ← name
          mark ":"
          return (key, ← value constant limit))
        limit
    | .mark "$" => .variable <$> variableName constant
    | .int digits => advance; return .int digits
    | .float digits => advance; return .float digits
    | .string text => advance; return .string text false
    | .block text => advance; return .string text true
    | .name text =>
      advance
      return if text = "true" then .boolean true
        else if text = "false" then .boolean false
        else if text = "null" then .null
        else .enum text
    | _ => unexpected token

/-! ## Arguments and directives -/

/-- An argument: a name and a value. -/
def argument (constant : Bool) (limit : Nat) : Reader Argument := do
  let key ← name
  mark ":"
  return ⟨key, ← value constant limit⟩

/-- The arguments of a field or directive, if any. -/
def arguments (constant : Bool) (limit : Nat) : Reader (List Argument) :=
  optionalBetween "(" ")" (argument constant limit) limit

/-- The directives that stand next. -/
def directives (constant : Bool) (most : Nat) : (limit : Nat) → Reader (List Directive)
  | 0 => return []
  | limit + 1 => do
    if ← accepts "@" then
      let key ← name
      let arguments ← arguments constant most
      return ⟨key, arguments⟩ :: (← directives constant most limit)
    return []

/-! ## Selections -/

/-- The name of a fragment, which is not the word `on`. -/
def fragmentName : Reader String := do
  let token ← current
  if token.text? = some "on" then unexpected token
  name

/-- A field, a fragment spread or an inline fragment. -/
def selection : (limit : Nat) → Reader Selection
  | 0 => do unexpected (← current)
  | limit + 1 => do
    let selections := someBetween "\x7b" "\x7d" (selection limit) limit
    if ← accepts "..." then
      if ← acceptsKeyword "on" then
        let condition ← name
        let directives ← directives false limit limit
        return .inline (some condition) directives (← selections)
      match ← current with
      | .name _ =>
        let fragment ← fragmentName
        return .spread fragment (← directives false limit limit)
      | _ =>
        let directives ← directives false limit limit
        return .inline none directives (← selections)
    let first ← name
    let (alias?, key) ← if ← accepts ":" then pure (some first, ← name) else pure (none, first)
    let arguments ← arguments false limit
    let directives ← directives false limit limit
    let below ← if ← sees "\x7b" then selections else pure []
    return .field ⟨alias?, key, arguments, directives⟩ below

/-- A selection set. -/
def selectionSet (limit : Nat) : Reader (List Selection) :=
  someBetween "\x7b" "\x7d" (selection limit) limit

/-! ## Descriptions -/

/-- The description that stands next, if there is one. -/
def description : Reader (Option Value) := do
  match ← current with
  | .string text => advance; return some (.string text false)
  | .block text => advance; return some (.string text true)
  | _ => return none

/-! ## Operations and fragments -/

/-- The keyword of an operation kind. -/
def operationKind : Reader OperationKind := do
  let left ← place 0
  let text ← name
  match OperationKind.ofText? text with
  | some kind => return kind
  | none =>
    let _ ← current
    throw (.malformed (unexpectedWords (.name text)) left)

/-- A variable of an operation. -/
def variableDefinition (limit : Nat) : Reader Variable := do
  let description? ← description
  let key ← variableName false
  mark ":"
  let type ← typeRef limit
  let default? ← if ← accepts "=" then some <$> value true limit else pure none
  let directives ← directives true limit limit
  return { description?, name := key, type, default?, directives }

/-- An operation. One that is only a selection set is a query. -/
def operation (limit : Nat) : Reader Operation := do
  if ← sees "\x7b" then
    return { kind := .query, selections := ← selectionSet limit }
  let description? ← description
  let kind ← operationKind
  let name? ← match ← current with
    | .name text => do advance; pure (some text)
    | _ => pure none
  let parameters ← optionalBetween "(" ")" (variableDefinition limit) limit
  let directives ← directives false limit limit
  let selections ← selectionSet limit
  return { description?, kind, name?, parameters, directives, selections }

/-- A fragment. -/
def fragment (limit : Nat) : Reader Fragment := do
  let description? ← description
  keyword "fragment"
  let key ← fragmentName
  keyword "on"
  let condition ← name
  let directives ← directives false limit limit
  let selections ← selectionSet limit
  return { description?, name := key, condition, directives, selections }

/-! ## Type definitions -/

/-- An argument of a field or directive, or a field of an input type. -/
def inputValue (limit : Nat) : Reader InputValue := do
  let description? ← description
  let key ← name
  mark ":"
  let type ← typeRef limit
  let default? ← if ← accepts "=" then some <$> value true limit else pure none
  let directives ← directives true limit limit
  return { description?, name := key, type, default?, directives }

/-- A field of an object or interface type. -/
def fieldDefinition (limit : Nat) : Reader FieldDefinition := do
  let description? ← description
  let key ← name
  let arguments ← optionalBetween "(" ")" (inputValue limit) limit
  mark ":"
  let type ← typeRef limit
  let directives ← directives true limit limit
  return { description?, name := key, arguments, type, directives }

/-- A value of an enum type, which is not one of the constants. -/
def enumValue (limit : Nat) : Reader EnumValue := do
  let description? ← description
  let token ← current
  if token.text?.any (· ∈ ["true", "false", "null"]) then
    failAt (token.described ++ " is reserved and cannot be used for an enum value.") 0
  let key ← name
  let directives ← directives true limit limit
  return { description?, name := key, directives }

/-- The interfaces that a type says it implements. -/
def interfaces (limit : Nat) : Reader (List String) := do
  if ← acceptsKeyword "implements" then someDelimited "&" name limit else return []

/-- The fields of an object or interface type. -/
def fieldDefinitions (limit : Nat) : Reader (List FieldDefinition) :=
  optionalBetween "\x7b" "\x7d" (fieldDefinition limit) limit

/-- The definition or extension of a type, from its keyword on. -/
def typeDefinition (description? : Option Value) (isExtension : Bool) (limit : Nat) :
    Reader TypeDefinition := do
  let word ← name
  let key ← name
  let above ← if word = "type" ∨ word = "interface" then interfaces limit else pure []
  let directives ← directives true limit limit
  let body ←
    match word with
    | "type" => .object above <$> fieldDefinitions limit
    | "interface" => .interface above <$> fieldDefinitions limit
    | "union" => do
      if ← accepts "=" then .union <$> someDelimited "|" name limit else pure (.union [])
    | "enum" => .enum <$> optionalBetween "\x7b" "\x7d" (enumValue limit) limit
    | "input" => .input <$> optionalBetween "\x7b" "\x7d" (inputValue limit) limit
    | _ => pure .scalar
  return { description?, isExtension, name := key, directives, body }

/-- What the body of a type definition adds is nothing. -/
def addsNothing : TypeBody → Bool
  | .scalar => true
  | .object interfaces fields | .interface interfaces fields => interfaces.isEmpty && fields.isEmpty
  | .union members => members.isEmpty
  | .enum values => values.isEmpty
  | .input fields => fields.isEmpty

/-- A root type of a schema. -/
def root : Reader (OperationKind × String) := do
  let kind ← operationKind
  mark ":"
  return (kind, ← name)

/-- The definition of a schema. -/
def schemaDefinition (description? : Option Value) (limit : Nat) : Reader SchemaDefinition := do
  keyword "schema"
  let directives ← directives true limit limit
  let roots ← someBetween "\x7b" "\x7d" root limit
  return { description?, directives, roots }

/-- An extension of the schema or of a type, which adds something. -/
def extension (limit : Nat) : Reader Definition := do
  let word ← lookahead
  advance
  match word with
  | .name "schema" =>
    advance
    let directives ← directives true limit limit
    let roots ← optionalBetween "\x7b" "\x7d" root limit
    if directives.isEmpty && roots.isEmpty then unexpected (← current)
    return .schema { isExtension := true, directives, roots }
  | .name text =>
    if text ∈ ["scalar", "type", "interface", "union", "enum", "input"] then
      let definition ← typeDefinition none true limit
      if definition.directives.isEmpty && addsNothing definition.body then unexpected (← current)
      return .type definition
    unexpected word
  | _ => unexpected word

/-- The places that a directive may be defined for. -/
def directiveLocations : List String :=
  ["QUERY", "MUTATION", "SUBSCRIPTION", "FIELD", "FRAGMENT_DEFINITION", "FRAGMENT_SPREAD",
   "INLINE_FRAGMENT", "VARIABLE_DEFINITION", "SCHEMA", "SCALAR", "OBJECT", "FIELD_DEFINITION",
   "ARGUMENT_DEFINITION", "INTERFACE", "UNION", "ENUM", "ENUM_VALUE", "INPUT_OBJECT",
   "INPUT_FIELD_DEFINITION", "DIRECTIVE_DEFINITION"]

/-- A place that a directive may be defined for. -/
def directiveLocation : Reader String := do
  let left ← place 0
  let text ← name
  let _ ← current
  if text ∈ directiveLocations then return text
  else throw (.malformed (unexpectedWords (.name text)) left)

/-- The definition of a directive. -/
def directiveDefinition (description? : Option Value) (limit : Nat) :
    Reader DirectiveDefinition := do
  keyword "directive"
  mark "@"
  let key ← name
  let arguments ← optionalBetween "(" ")" (inputValue limit) limit
  let repeatable ← acceptsKeyword "repeatable"
  keyword "on"
  let locations ← someDelimited "|" directiveLocation limit
  return { description?, name := key, arguments, repeatable, locations }

/-! ## Documents -/

/-- A definition. -/
def definition (limit : Nat) : Reader Definition := do
  if ← sees "\x7b" then return .operation (← operation limit)
  let described := match ← current with
    | .string _ | .block _ => true
    | _ => false
  let word ← if described then lookahead else current
  if described && word == .mark "\x7b" then
    failAt "Unexpected description, descriptions are not supported on shorthand queries." 0
  match word with
  | .name text =>
    if text ∈ ["scalar", "type", "interface", "union", "enum", "input"] then
      let description? ← description
      return .type (← typeDefinition description? false limit)
    else if text = "schema" then
      let description? ← description
      return .schema (← schemaDefinition description? limit)
    else if text = "directive" then
      let description? ← description
      return .directive (← directiveDefinition description? limit)
    else if (OperationKind.ofText? text).isSome then return .operation (← operation limit)
    else if text = "fragment" then return .fragment (← fragment limit)
    else if described then
      failAt "Unexpected description, only GraphQL definitions support descriptions." 0
    else if text = "extend" then extension limit
    else unexpected word
  | _ => failAt (unexpectedWords word) (if described then 1 else 0)

/-- Definitions up to the end of the text, at least one. -/
def definitions (most : Nat) : (limit : Nat) → Reader Document
  | 0 => do unexpected (← current)
  | limit + 1 => do
    let first ← definition most
    match ← current with
    | .endOfInput => return [first]
    | _ => return first :: (← definitions most limit)

end Reader

/-- The document that a text is. -/
def read (text : String) : Except SyntaxFault Document :=
  let tokens := scan text
  let limit := tokens.length + 1
  (Reader.definitions limit limit).run' tokens

/-- What a text is, read as a whole. -/
def readWhole (item : (limit : Nat) → Reader α) (text : String) : Except SyntaxFault α :=
  let tokens := scan text
  let whole : Reader α := do
    let found ← item (tokens.length + 1)
    match ← Reader.current with
    | .endOfInput => return found
    | token => Reader.expected "<EOF>" token
  whole.run' tokens

/-- The value that a text is. -/
def readValue (text : String) : Except SyntaxFault Value :=
  readWhole (Reader.value false) text

/-- The type reference that a text is. -/
def readType (text : String) : Except SyntaxFault TypeRef :=
  readWhole Reader.typeRef text

end QueryShape.Document
