import QueryShape.Letter.Casing

/-!
# Names of generated code

How the names of a document turn into the names of generated classes, members and modules.

* `snakeCase` marks the word boundaries of a camel-case name with underscores, in two passes: first
  before every capital that begins a lower-case word, then between a small letter or digit and a
  capital. The result is in lower case.
* `pascalCase` puts the words of the snake-case form back together, each with a capital.
* `moduleName` keeps the double underscores that separate the segments of a class name.
* `memberName` keeps clear of the words that generated code reserves.
-/

namespace QueryShape.Naming

/-! ## Words of generated code -/

/-- The reserved words of generated code. -/
def keywords : List String :=
  ["False", "None", "True", "and", "as", "assert", "async", "await", "break", "class", "continue",
   "def", "del", "elif", "else", "except", "finally", "for", "from", "global", "if", "import",
   "in", "is", "lambda", "nonlocal", "not", "or", "pass", "raise", "return", "try", "while",
   "with", "yield"]

/-- A name for a member or a parameter: a reserved word gets a trailing underscore. -/
def memberName (name : String) : String :=
  if name ∈ keywords then name ++ "_" else name

/-! ## Snake case -/

/-- Underscores before every capital that begins a lower-case word and has a character before it.
A word found is passed over whole, so its last letter is not the character before the next. -/
def markWords : List Char → List Char
  | c :: u :: l :: rest =>
    if c ≠ '\n' ∧ u.isUpper ∧ l.isLower then
      c :: '_' :: u :: l :: (rest.takeWhile Char.isLower ++ markWords (rest.dropWhile Char.isLower))
    else c :: markWords (u :: l :: rest)
  | rest => rest
termination_by cs => cs.length
decreasing_by
  · have := (rest.dropWhile_sublist Char.isLower).length_le
    simp only [List.length_cons]
    omega
  · simp

/-- Underscores between a small letter or digit and the capital after it. -/
def markCapitals : List Char → List Char
  | a :: b :: rest =>
    if (a.isLower ∨ a.isDigit) ∧ b.isUpper then a :: '_' :: b :: markCapitals rest
    else a :: markCapitals (b :: rest)
  | rest => rest

/-- The snake-case form of a name, over its characters. -/
def snakeChars (name : List Char) : List Char :=
  Letter.lower (markCapitals (markWords name))

/-- The snake-case form of a name. -/
def snakeCase (name : String) : String :=
  .ofList (snakeChars name.toList)

/-! ## Pascal case -/

/-- The stretches between single underscores. -/
def splitUnderscores : List Char → List (List Char)
  | [] => [[]]
  | c :: rest =>
    if c = '_' then [] :: splitUnderscores rest
    else match splitUnderscores rest with
      | [] => [[c]]
      | word :: words => (c :: word) :: words

/-- The words of a name, each with a capital, and nothing between them. -/
def pascalCase (name : String) : String :=
  .ofList ((splitUnderscores (snakeChars name.toList)).flatMap Letter.capitalize)

/-! ## Module names -/

/-- The segments of a class name between double underscores, from the left. -/
def segments : List Char → List (List Char)
  | [] => [[]]
  | '_' :: '_' :: rest => [] :: segments rest
  | c :: rest =>
    match segments rest with
    | [] => [[c]]
    | part :: parts => (c :: part) :: parts

/-- The module that holds a class when each class has a module of its own. -/
def moduleName (className : String) : String :=
  .ofList ((segments className.toList).map snakeChars |>.intersperse ['_', '_'] |>.flatten)

/-! ## Class names -/

/-- A name that can be the class of an operation: a capital, then one or more letters, digits or
underscores. -/
def isOperationName (name : String) : Bool :=
  match name.toList with
  | c :: d :: rest => c.isUpper && (d :: rest).all fun x => x.isAlphanum || x == '_'
  | _ => false

/-- The class of an enum or input type. A leading double underscore would be altered inside a class
body, so the types of introspection are renamed. -/
def typeClassName (typeName : String) : String :=
  match typeName.toList with
  | '_' :: '_' :: rest => "Introspection" ++ .ofList rest
  | _ => typeName

/-- The class for the selection under a field of the class `parent`: it names the field, and the
alias if there is one. -/
def leafClassName (parent : String) (alias? : Option String) (field : String) : String :=
  match alias? with
  | some key => parent ++ "__" ++ pascalCase key ++ "_" ++ pascalCase field
  | none => parent ++ "__" ++ pascalCase field

/-! ## Accessor names -/

/-- The members that every result class has already, which no accessor may hide. -/
def protectedNames : List String :=
  ["OPERATION_NAME", "OPERATION_TYPE", "QUERY_TEXT", "__annotations__", "__class__", "__delattr__",
   "__dict__", "__dir__", "__doc__", "__eq__", "__format__", "__ge__", "__getattribute__",
   "__getstate__", "__gt__", "__hash__", "__init__", "__init_subclass__", "__le__", "__lt__",
   "__module__", "__ne__", "__new__", "__reduce__", "__reduce_ex__", "__repr__", "__setattr__",
   "__sizeof__", "__str__", "__subclasshook__", "__weakref__", "errors", "execute",
   "from_response", "raw_result", "typename"]

/-- The accessor name that a response key asks for. Leading underscores go where there are two,
since such a name would be altered inside a class body. -/
def bareAccessorName (responseKey : String) : String :=
  let name := snakeChars responseKey.toList
  match name with
  | '_' :: '_' :: _ => .ofList (name.dropWhile (· == '_'))
  | _ => .ofList name

/-- The accessor for a response key, or the protected name it would hide. -/
def accessorName? (responseKey : String) : Except String String :=
  let name := bareAccessorName responseKey
  if name ∈ protectedNames then .error name else .ok (memberName name)

end QueryShape.Naming
