import QueryShape.Letter.Digit
import QueryShape.Module.View
import QueryShape.Naming

/-!
# The text of a class

`classText` writes the class of a record, up to the end of its last line. A template that is plain
text takes the place of the class.
-/

namespace QueryShape.Module

open Code Record

/-- Plain texts that take the place of what is written otherwise. -/
structure Templates where
  root? : Option String := none
  leaf? : Option String := none
  input? : Option String := none
  enum? : Option String := none
  module? : Option String := none
  package? : Option String := none
  deriving Inhabited

/-- The template for a kind of record. -/
def Templates.forKind? (t : Templates) : RecordKind → Option String
  | .root => t.root?
  | .leaf => t.leaf?
  | .input => t.input?
  | .enum => t.enum?

/-! ## Members -/

/-- The lines of an accessor. -/
def accessorLines (v : View) : List String :=
  ["", "    @property", "    def " ++ v.name ++ "(self) -> " ++ v.signature ++ ":"] ++
    v.lines.map ("        " ++ ·)

/-- The line of a parameter that is passed by name. -/
def parameterLine (p : Parameter) : String :=
  let default := if p.isOptional then " = None" else ""
  "        " ++ p.name ++ ": " ++ p.signature.text ++ default ++ ","

/-- The entry of a parameter among the values that are sent, given how its value is referred to. -/
def sentEntry (p : Parameter) (reference : Expr) : String :=
  Literal.text p.graphqlName ++ ": " ++ (p.serializer.fill reference).text ++ ","

/-! ## Classes -/

/-- The lines of the class of an operation. -/
def rootLines (r : Root) : List String :=
  ["class " ++ r.name ++ "(OperationResult):",
   "    \"\"\"Result of the " ++ r.operationKind.text ++ " " ++ r.operationName ++ ".\"\"\"",
   "",
   "    OPERATION_NAME = " ++ Literal.text r.operationName,
   "    OPERATION_TYPE = " ++ Literal.text r.operationKind.text,
   "    QUERY_TEXT = " ++ Literal.text r.queryText,
   "",
   "    @classmethod",
   "    async def execute(",
   "        cls,",
   "        executor: GraphQLExecutor,"] ++
  (if r.parameters.isEmpty then [] else "        *," :: r.parameters.map parameterLine) ++
  ["    ) -> " ++ r.name ++ ":",
   "        response = await executor.execute(",
   "            cls.QUERY_TEXT,",
   "            operation_name=cls.OPERATION_NAME,",
   "            variables=\x7b"] ++
  r.parameters.map (fun p => "                " ++ sentEntry p (.name p.name)) ++
  ["            \x7d,",
   "        )",
   "        return cls.from_response(response)"] ++
  r.accessors.flatMap fun a => accessorLines (view r.name r.possibleTypes a)

/-- The lines of the class of the values selected under a field. -/
def leafLines (r : Leaf) : List String :=
  ["class " ++ r.name ++ "(QueryResult):",
   "    \"\"\"Fields selected on " ++ r.graphqlType ++ ".\"\"\""] ++
  r.accessors.flatMap fun a => accessorLines (view r.name r.possibleTypes a)

/-- The lines of the class of an input type. -/
def inputLines (r : Input) : List String :=
  ["class " ++ r.name ++ "(InputObject):",
   "    \"\"\"Input object " ++ r.graphqlType ++ ".\"\"\""] ++
  (if r.arguments.isEmpty then []
    else
      ["", "    def __init__(", "        self,", "        *,"] ++
      r.arguments.map parameterLine ++
      ["    ) -> None:"] ++
      r.arguments.map fun p => "        self." ++ p.name ++ " = " ++ p.name) ++
  ["",
   "    def serialize(self) -> Dict[str, Any]:",
   "        serialized = \x7b"] ++
  r.arguments.map (fun p => "            " ++ sentEntry p (.member (.name "self") p.name)) ++
  ["        \x7d",
   "        return \x7bkey: value for key, value in serialized.items() if value is not None\x7d"]

/-- The lines of the class of an enum type. -/
def enumLines (r : Record.Enum) : List String :=
  ["class " ++ r.name ++ "(GraphQLEnum):",
   "    \"\"\"Enum " ++ r.graphqlType ++ ".\"\"\""] ++
  (if r.values.isEmpty then []
    else "" :: r.values.map fun v => "    " ++ Naming.memberName v ++ " = " ++ Literal.text v)

/-- The lines of a class. -/
def classLines : Record → List String
  | .root r => rootLines r
  | .leaf r => leafLines r
  | .input r => inputLines r
  | .enum r => enumLines r

/-- A text without blanks at its end. -/
def trimEnd (text : String) : String :=
  .ofList (text.toList.reverse.dropWhile Letter.isBlank).reverse

/-- The text of a class, without the end of its last line. -/
def classText (t : Templates) (r : Record) : String :=
  trimEnd ((t.forKind? r.kind).getD ("\n".intercalate (classLines r)))

end QueryShape.Module
