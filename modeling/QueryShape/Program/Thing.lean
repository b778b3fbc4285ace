import QueryShape.Converter.Load
import QueryShape.Module.View
import QueryShape.Naming

/-!
# What names of generated code stand for

A name of a module stands for a tool that generated code builds on, for something imported from the
module of a converter, or for a generated class. A class is made on what the name of its base stands
for at that time, so `Thing.ancestor?` asks which of the supporting classes is at the end.

An enum class has a member for each value of its type, unless the name of the member is private to
the class. Reading a text as an enum finds the member that stands for it.
-/

namespace QueryShape.Program

/-- What generated code builds on. -/
inductive Tool
  | int
  | float
  | list
  /-- Taking a value to be of a type. -/
  | cast
  /-- The class of results. -/
  | queryResult
  /-- The class of results of operations. -/
  | operationResult
  /-- The class of input objects. -/
  | inputObject
  /-- The class of enum members. -/
  | enum
  | unexpectedTypename
  /-- Makes an accessor of a method. -/
  | property
  /-- Makes a method that a class answers. -/
  | classMethod
  /-- What only signatures speak of. -/
  | signature
  deriving DecidableEq, Repr

/-- What a name stands for. -/
inductive Thing
  | tool (tool : Tool)
  /-- What a module has under a path: a converter, or a class that holds converters. -/
  | imported (converters : List (String × Converter)) (path : String)
  /-- The class of a record. -/
  | generated (record : Record) (base : Thing)

/-! ## Private names -/

/-- The name that a name has inside a class: one with two leading underscores is private to the
class, which its name is put in front of. -/
def nameInside (className name : String) : String :=
  let owner := className.toList.dropWhile (· == '_')
  if name.startsWith "__" && !name.endsWith "__" && !owner.isEmpty then
    "_" ++ .ofList owner ++ name
  else name

/-- A name is private to an enum class. -/
def isPrivate (className name : String) : Bool :=
  let mark := "_" ++ className ++ "__"
  mark.length < name.length && name.startsWith mark && !name.endsWith "__"

/-! ## Enums -/

/-- The members of the class of an enum type: their names, and the texts that they stand for. -/
def enumMembers (e : Record.Enum) : List (String × String) :=
  (e.values.map fun v => (nameInside e.name (Naming.memberName v), v)).filter
    fun m => !isPrivate e.name m.1

/-- The member that a value of an enum type is. -/
def enumMember (e : Record.Enum) : Value → Except Fault Value
  | .text words | .enumMember _ _ words =>
    match (enumMembers e).find? (·.2 == words) with
    | some (name, words) => .ok (.enumMember e.name name words)
    | none => .error .wrongValue
  | _ => .error .wrongValue

/-! ## Classes -/

namespace Thing

/-- The supporting class that a class is made on in the end. -/
def ancestor? : Thing → Option Tool
  | .tool t => some t
  | .imported .. => none
  | .generated _ base => base.ancestor?

/-- The accessors that a record gives to its class. -/
def accessorsOf : Record → List Record.Accessor
  | .root r => r.accessors
  | .leaf r => r.accessors
  | _ => []

/-- The class, or one that it is made on, has an accessor of the name. -/
def hasAccessor : Thing → String → Bool
  | .generated record base, name =>
    (accessorsOf record).any (·.name == name) || base.hasAccessor name
  | _, _ => false

/-- The members that every result sets when it is made. -/
def setMembers (ofOperation : Bool) : List String :=
  if ofOperation then ["_raw_result", "_errors"] else ["_raw_result"]

/-- The result of a class around a value. It cannot be made if an accessor hides what it sets. -/
def wrap (t : Thing) (className : String) (raw : Value) (ofOperation : Bool) :
    Except Fault Value :=
  if (setMembers ofOperation).any t.hasAccessor then .error .noAttribute
  else .ok (.result className raw)

/-- What a class made on a supporting class makes of one value. -/
def makeOf (t : Thing) (className : String) (value : Value) : Except Fault Value :=
  match t.ancestor? with
  | some .queryResult => t.wrap className value false
  | some .operationResult => t.wrap className value true
  | _ => .error .wrongType

/-- What calling a thing with one value gives. -/
def call (t : Thing) (value : Value) : Except Fault Value :=
  match t with
  | .tool .int => .int <$> value.toInt
  | .tool .float => .float <$> value.toFloat
  | .tool .list => .list <$> value.items
  | .tool .queryResult => t.makeOf "QueryResult" value
  | .tool .operationResult => t.makeOf "OperationResult" value
  | .generated (.enum e) _ =>
    if t.ancestor? = some .enum then enumMember e value else t.makeOf e.name value
  | .generated (.input i) _ =>
    if i.arguments.isEmpty then t.makeOf i.name value else .error .wrongType
  | .generated record _ => t.makeOf record.name value
  | .tool _ | .imported .. => .error .wrongType

/-- What calling a thing that should not be a class with two values ends in: an enum would be made
from them, unless the second is nothing. -/
def callTwo (t : Thing) (second : Value) : Fault :=
  match t with
  | .generated (.enum _) _ =>
    if t.ancestor? = some .enum && second.isNothing then .wrongValue else .wrongType
  | _ => .wrongType

end Thing

/-! ## Members -/

/-- The text that an enum member stands for. -/
def sentMember : Value → Except Fault Value
  | .enumMember _ _ words => .ok (.text words)
  | _ => .error .noAttribute

/-- What an expression of generated code gives. -/
inductive Meaning
  | value (value : Value)
  | thing (thing : Thing)
  | function (apply : Value → Except Fault Value)

/-- A member that cannot be called. -/
def Meaning.uncallable : Meaning := .function fun _ => .error .wrongType

/-- The member of something imported from the module of a converter. -/
def importedMember (converters : List (String × Converter)) (path name : String) :
    Except Fault Meaning :=
  let inner := path ++ "." ++ name
  match converters.lookup path, name with
  | some c, "serialize" => .ok (.function c.serialize)
  | some c, "deserialize" => .ok (.function c.deserialize)
  | _, _ =>
    if converters.any fun c => c.1 == inner || c.1.startsWith (inner ++ ".") then
      .ok (.thing (.imported converters inner))
    else .error .noAttribute

/-- The member of a generated class. -/
def generatedMember (t : Thing) (record : Record) (name : String) : Except Fault Meaning :=
  if t.hasAccessor name then .ok .uncallable
  else match record, name with
    | .enum _, "serialize" =>
      if t.ancestor? = some .enum then .ok (.function sentMember) else .error .noAttribute
    | .enum e, "deserialize" =>
      if t.ancestor? = some .enum then .ok (.function (enumMember e)) else .error .noAttribute
    | .input i, "serialize" =>
      .ok (.function fun _ => if i.arguments.isEmpty then .ok (.dict []) else .error .noAttribute)
    | _, _ => .error .noAttribute

/-- The member of a thing. -/
def Thing.member (t : Thing) (name : String) : Except Fault Meaning :=
  match t with
  | .tool _ => .error .noAttribute
  | .imported converters path => importedMember converters path name
  | .generated record _ => generatedMember t record name

end QueryShape.Program
