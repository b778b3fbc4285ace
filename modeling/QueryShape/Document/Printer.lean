import QueryShape.Document.Basic
import QueryShape.Document.BlockText
import QueryShape.Literal

/-!
# Printing documents

`Document.print` writes a document in its standard layout: a selection to a line, two spaces of
indentation for each selection set, a blank line between definitions. The arguments of a field go
to lines of their own where the field would be longer than `lineWidth`.

Texts are lists of characters here, since layout counts and cuts characters.
-/

namespace QueryShape.Document

/-- Text in the making. -/
abbrev Text := List Char

/-- The longest line that a field's arguments may stay on. -/
def lineWidth : Nat := 80

/-! ## Joining -/

/-- The texts that are not empty, with a separator between them. -/
def joined (separator : String) (texts : List Text) : Text :=
  (texts.filter (!·.isEmpty)).intersperse separator.toList |>.flatten

/-- A text between two others, or nothing if it is empty. -/
def wrapped (opening : String) (text : Text) (closing : String) : Text :=
  if text.isEmpty then [] else opening.toList ++ text ++ closing.toList

/-- Every line of a text but the first, two spaces further in. -/
def indentRest : Text → Text
  | [] => []
  | '\n' :: rest => '\n' :: ' ' :: ' ' :: indentRest rest
  | c :: rest => c :: indentRest rest

/-- A text two spaces further in. -/
def indented (text : Text) : Text :=
  if text.isEmpty then [] else ' ' :: ' ' :: indentRest text

/-- Texts in braces, each on its own line. -/
def braced (texts : List Text) : Text :=
  if texts.isEmpty then []
  else "\x7b\n".toList ++ indented (joined "\n" texts) ++ "\n\x7d".toList

/-! ## Strings -/

/-- One character of a string. -/
def printChar (c : Char) : Text :=
  if c = '"' then ['\\', '"']
  else if c = '\\' then ['\\', '\\']
  else if c = '\x08' then ['\\', 'b']
  else if c = '\t' then ['\\', 't']
  else if c = '\n' then ['\\', 'n']
  else if c = '\x0c' then ['\\', 'f']
  else if c = '\r' then ['\\', 'r']
  else if c.toNat < 0x20 || (0x7F ≤ c.toNat && c.toNat < 0xA0) then
    '\\' :: 'u' :: (Literal.hex 4 c.toNat).map Char.toUpper
  else [c]

/-- A string in quotes. -/
def printString (text : String) : Text :=
  '"' :: (text.toList.flatMap printChar ++ ['"'])

/-! ## Values, arguments and directives -/

mutual

/-- A value. -/
def printValue : Value → Text
  | .variable name => '$' :: name.toList
  | .int digits | .float digits => digits.toList
  | .string text false => printString text
  | .string text true => BlockText.block text.toList
  | .boolean value => (if value then "true" else "false").toList
  | .null => "null".toList
  | .enum name => name.toList
  | .list items => '[' :: (joined ", " (printValues items) ++ [']'])
  | .object fields => '\x7b' :: (joined ", " (printFields fields) ++ ['\x7d'])

/-- The items of a list. -/
def printValues : List Value → List Text
  | [] => []
  | value :: rest => printValue value :: printValues rest

/-- The fields of an object. -/
def printFields : List (String × Value) → List Text
  | [] => []
  | (key, value) :: rest => (key.toList ++ ": ".toList ++ printValue value) :: printFields rest

end

/-- An argument. -/
def printArgument (a : Argument) : Text :=
  a.name.toList ++ ": ".toList ++ printValue a.value

/-- A directive. -/
def printDirective (d : Directive) : Text :=
  '@' :: d.name.toList ++ wrapped "(" (joined ", " (d.arguments.map printArgument)) ")"

/-- Directives on one line. -/
def printDirectives (directives : List Directive) : Text :=
  joined " " (directives.map printDirective)

/-- A description on a line before what it describes. -/
def printDescription (description? : Option Value) : Text :=
  match description? with
  | some value => printValue value ++ ['\n']
  | none => []

/-! ## Selections -/

/-- A field up to its directives. -/
def printHead (f : Field) : Text :=
  let key := wrapped "" (f.alias?.getD "").toList ": " ++ f.name.toList
  let arguments := f.arguments.map printArgument
  let line := key ++ wrapped "(" (joined ", " arguments) ")"
  if lineWidth < line.length then
    key ++ wrapped "(\n" (indented (joined "\n" arguments)) "\n)"
  else line

mutual

/-- A selection. -/
def printSelection : Selection → Text
  | .field head selections =>
    joined " "
      [printHead head, printDirectives head.directives, braced (printSelections selections)]
  | .spread fragment directives =>
    "...".toList ++ fragment.toList ++ wrapped " " (printDirectives directives) ""
  | .inline condition? directives selections =>
    joined " "
      ["...".toList, wrapped "on " (condition?.getD "").toList "", printDirectives directives,
       braced (printSelections selections)]

/-- The selections of a selection set. -/
def printSelections : List Selection → List Text
  | [] => []
  | selection :: rest => printSelection selection :: printSelections rest

end

/-- A selection set. -/
def printSelectionSet (selections : List Selection) : Text :=
  braced (printSelections selections)

/-! ## Operations and fragments -/

/-- A default value. -/
def printDefault (default? : Option Value) : Text :=
  match default? with
  | some value => "= ".toList ++ printValue value
  | none => []

/-- A variable of an operation. -/
def printVariable (v : Variable) : Text :=
  printDescription v.description? ++
    joined " "
      ['$' :: v.name.toList ++ ": ".toList ++ v.type.text.toList, printDefault v.default?,
       printDirectives v.directives]

/-- Texts in parentheses: on one line, or each on its own if one of them takes several lines. -/
def parenthesized (texts : List Text) : Text :=
  if texts.any (·.contains '\n') then wrapped "(\n" (indented (joined "\n" texts)) "\n)"
  else wrapped "(" (joined ", " texts) ")"

/-- An operation. A query that is nothing but a selection set has no keyword. -/
def printOperation (o : Operation) : Text :=
  let parameters := o.parameters.map printVariable
  let list :=
    if parameters.any (·.contains '\n') then wrapped "(\n" (joined "\n" parameters) "\n)"
    else wrapped "(" (joined ", " parameters) ")"
  let opening := printDescription o.description? ++
    joined " "
      [o.kind.text.toList, (o.name?.getD "").toList ++ list, printDirectives o.directives]
  (if opening = "query".toList then [] else opening ++ [' ']) ++ printSelectionSet o.selections

/-- A fragment. -/
def printFragment (f : Fragment) : Text :=
  printDescription f.description? ++ "fragment ".toList ++ f.name.toList ++ " on ".toList ++
    f.condition.toList ++ [' '] ++ wrapped "" (printDirectives f.directives) " " ++
    printSelectionSet f.selections

/-! ## Type definitions -/

/-- An argument of a field or directive, or a field of an input type. -/
def printInputValue (v : InputValue) : Text :=
  printDescription v.description? ++
    joined " "
      [v.name.toList ++ ": ".toList ++ v.type.text.toList, printDefault v.default?,
       printDirectives v.directives]

/-- A field of an object or interface type. -/
def printFieldDefinition (f : FieldDefinition) : Text :=
  printDescription f.description? ++ f.name.toList ++
    parenthesized (f.arguments.map printInputValue) ++ ": ".toList ++ f.type.text.toList ++
    wrapped " " (printDirectives f.directives) ""

/-- A value of an enum type. -/
def printEnumValue (v : EnumValue) : Text :=
  printDescription v.description? ++ joined " " [v.name.toList, printDirectives v.directives]

/-- The interfaces that a type implements. -/
def printInterfaces (interfaces : List String) : Text :=
  wrapped "implements " (joined " & " (interfaces.map String.toList)) ""

/-- The definition or extension of a type. -/
def printType (t : TypeDefinition) : Text :=
  let directives := printDirectives t.directives
  let parts : List Text :=
    match t.body with
    | .scalar => [directives]
    | .object above fields | .interface above fields =>
      [printInterfaces above, directives, braced (fields.map printFieldDefinition)]
    | .union members => [directives, wrapped "= " (joined " | " (members.map String.toList)) ""]
    | .enum values => [directives, braced (values.map printEnumValue)]
    | .input fields => [directives, braced (fields.map printInputValue)]
  printDescription t.description? ++
    joined " "
      ((if t.isExtension then "extend".toList else []) :: t.body.keyword.toList ::
        t.name.toList :: parts)

/-- The definition or extension of a schema. -/
def printSchema (s : SchemaDefinition) : Text :=
  let root (r : OperationKind × String) : Text := r.1.text.toList ++ ": ".toList ++ r.2.toList
  printDescription s.description? ++
    joined " "
      [if s.isExtension then "extend schema".toList else "schema".toList,
       printDirectives s.directives, braced (s.roots.map root)]

/-- The definition of a directive. -/
def printDirectiveDefinition (d : DirectiveDefinition) : Text :=
  printDescription d.description? ++ "directive @".toList ++ d.name.toList ++
    parenthesized (d.arguments.map printInputValue) ++
    (if d.repeatable then " repeatable".toList else []) ++ " on ".toList ++
    joined " | " (d.locations.map String.toList)

/-! ## Documents -/

/-- A definition. -/
def printDefinition : Definition → Text
  | .operation o => printOperation o
  | .fragment f => printFragment f
  | .schema s => printSchema s
  | .type t => printType t
  | .directive d => printDirectiveDefinition d

/-- A document in its standard layout. -/
def print (document : Document) : String :=
  .ofList (joined "\n\n" (document.map printDefinition))

end QueryShape.Document
