import QueryShape.Generation.Generator
import QueryShape.Proofs.Document.Collect
import QueryShape.Proofs.Document.Typename

/-!
# What an executor answers

`Answers` says that an object of a response is one that an executor of the query language can
answer selections with, as an object of a type: it has the response keys that are collected, with
values completed to the types of the fields. What a server answers is not of this program, so
values of scalars are only as far given as the language gives them.

* `Met`: the objects of a response, each with its type and the selections that it answers.
* `met_or_inLeaf`: an object in the value of a key is one of them, or inside the value of a leaf.
-/

namespace QueryShape

/-- A JSON value, or an item of one that is an array. -/
inductive Json.Item : Json → Json → Prop
  | here (value : Json) : Json.Item value value
  | of_array {items : List Json} {item inner : Json} (mem : item ∈ items)
      (h : Json.Item item inner) : Json.Item (.array items) inner

namespace Generation

open Document

/-! ## Values -/

/-- How a document is executed. -/
structure Execution where
  schema : Schema
  /-- A schema has each type once. -/
  distinct : (schema.types.map (·.name)).Nodup
  fragments : List Fragment
  /-- The conditions that hold, by the variables that they are. -/
  truth : String → Bool

/-- The fields that are executed on an object of a type, by response key. -/
def Execution.groups (e : Execution) (object : TypeDefinition) (selections : List Selection) :
    List Collected :=
  collected e.schema e.fragments e.truth object selections

/-- The selections under the fields of one response key. -/
def under (group : List (Field × List Selection)) : List Selection := group.flatMap (·.2)

/-- A value of a scalar: one that the language gives to a standard scalar, or any of another. -/
def isScalarValue (scalar : String) (value : Json) : Bool :=
  match scalar, value with
  | "Int", .int n => -2147483648 ≤ n && n ≤ 2147483647
  | "Float", .int _ | "Float", .float _ => true
  | "String", .string _ | "ID", .string _ => true
  | "Boolean", .bool _ => true
  | scalar, _ => !Schema.standardScalars.contains scalar

/-- A value of a type without selections. -/
def IsLeafValue (t : TypeDefinition) (value : Json) : Prop :=
  match t.kind with
  | .scalar => isScalarValue t.name value = true
  | .enum => ∃ name ∈ t.values, value = .string name
  | _ => False

/-! ## Answers -/

mutual

/-- The object answers the selections as an object of the type. -/
inductive Answers (e : Execution) :
    TypeDefinition → List Selection → List (String × Json) → Prop
  | mk {object : TypeDefinition} {selections : List Selection} {fields : List (String × Json)}
      (keys : ∀ key, (fields.lookup key).isSome = true ↔
        key ∈ (e.groups object selections).map (·.1))
      (values : ∀ key group value, (key, group) ∈ e.groups object selections →
        fields.lookup key = some value → AnswersField e object group value) :
      Answers e object selections fields

/-- The value answers the fields of one response key, on an object of the type. -/
inductive AnswersField (e : Execution) :
    TypeDefinition → List (Field × List Selection) → Json → Prop
  | typename {object : TypeDefinition} {f : Field} {inner : List Selection}
      {others : List (Field × List Selection)} (name : f.name = typenameField) :
      AnswersField e object ((f, inner) :: others) (.string object.name)
  | field {object : TypeDefinition} {f : Field} {inner : List Selection}
      {others : List (Field × List Selection)} {definition : FieldDefinition} {value : Json}
      (name : f.name ≠ typenameField)
      (defined : fieldDefinition e.schema object f.name = .ok definition)
      (completes : Completes e definition.type (under ((f, inner) :: others)) value) :
      AnswersField e object ((f, inner) :: others) value

/-- The value is one of the type, where objects answer the selections. -/
inductive Completes (e : Execution) : TypeRef → List Selection → Json → Prop
  | nonNull {type : TypeRef} {selections : List Selection} {value : Json}
      (h : Completes e type selections value) (some : value ≠ .null) :
      Completes e (.nonNull type) selections value
  | null {type : TypeRef} {selections : List Selection} (nullable : ∀ base, type ≠ .nonNull base) :
      Completes e type selections .null
  | list {item : TypeRef} {selections : List Selection} {items : List Json}
      (h : ∀ value ∈ items, Completes e item selections value) :
      Completes e (.list item) selections (.array items)
  | leaf {name : String} {selections : List Selection} {t : TypeDefinition} {value : Json}
      (named : typeNamed e.schema name = .ok t) (isValue : IsLeafValue t value) :
      Completes e (.named name) selections value
  | object {name : String} {selections : List Selection} {t object : TypeDefinition}
      {fields : List (String × Json)} (named : typeNamed e.schema name = .ok t)
      (mem : object ∈ e.schema.types) (isOne : object.name ∈ e.schema.possibleTypes t)
      (answers : Answers e object selections fields) :
      Completes e (.named name) selections (.object fields)

end

/-! ## The objects of a response -/

/-- The objects of a response, each with its type and the selections that it answers. -/
inductive Met (e : Execution) (root : TypeDefinition) (asked : List Selection)
    (data : List (String × Json)) :
    TypeDefinition → List Selection → List (String × Json) → Prop
  | root (h : Answers e root asked data) : Met e root asked data root asked data
  | under {object inner : TypeDefinition} {selections : List Selection}
      {fields part : List (String × Json)} {key : String} {group : List (Field × List Selection)}
      {value : Json} (h : Met e root asked data object selections fields)
      (executed : (key, group) ∈ e.groups object selections)
      (found : fields.lookup key = some value) (item : value.Item (.object part))
      (isType : inner ∈ e.schema.types) (answers : Answers e inner (under group) part) :
      Met e root asked data inner (under group) part

/-- The fields of a response key have values of a type without selections. -/
def IsLeafField (e : Execution) (object : TypeDefinition) (group : List (Field × List Selection)) :
    Prop :=
  ∃ f inner others definition t, group = (f, inner) :: others ∧
    fieldDefinition e.schema object f.name = .ok definition ∧
    typeNamed e.schema definition.type.bareName = .ok t ∧ t.kind.isLeaf = true

/-- The values of leaves, and all that is inside them. -/
inductive InLeaf (e : Execution) (root : TypeDefinition) (asked : List Selection)
    (data : List (String × Json)) : Json → Prop
  | value {object : TypeDefinition} {selections : List Selection} {fields : List (String × Json)}
      {key : String} {group : List (Field × List Selection)} {value : Json}
      (h : Met e root asked data object selections fields)
      (executed : (key, group) ∈ e.groups object selections)
      (found : fields.lookup key = some value) (leaf : IsLeafField e object group) :
      InLeaf e root asked data value
  | item {items : List Json} {item : Json} (h : InLeaf e root asked data (.array items))
      (mem : item ∈ items) : InLeaf e root asked data item
  | entry {fields : List (String × Json)} {key : String} {value : Json}
      (h : InLeaf e root asked data (.object fields)) (found : fields.lookup key = some value) :
      InLeaf e root asked data value

variable {e : Execution} {root : TypeDefinition} {asked : List Selection}
  {data : List (String × Json)}

theorem Met.answers {object : TypeDefinition} {selections : List Selection}
    {fields : List (String × Json)} (h : Met e root asked data object selections fields) :
    Answers e object selections fields := by
  cases h with
  | root h => exact h
  | under _ _ _ _ _ answers => exact answers

theorem Met.isType (isRoot : root ∈ e.schema.types) {object : TypeDefinition}
    {selections : List Selection} {fields : List (String × Json)}
    (h : Met e root asked data object selections fields) : object ∈ e.schema.types := by
  cases h with
  | root => exact isRoot
  | under _ _ _ _ isType _ => exact isType

theorem InLeaf.of_item {value inner : Json} (h : InLeaf e root asked data value)
    (item : value.Item inner) : InLeaf e root asked data inner := by
  induction item with
  | here => exact h
  | of_array mem _ ih => exact ih (h.item mem)

theorem isLeaf_of_isLeafValue {t : TypeDefinition} {value : Json} (h : IsLeafValue t value) :
    t.kind.isLeaf = true := by
  unfold IsLeafValue at h
  split at h
  · next kind =>
    rw [kind]
    rfl
  · next kind =>
    rw [kind]
    rfl
  · exact h.elim

/-- An object in a value of a type answers the selections, or the bare type is a leaf. -/
theorem answers_of_completes {type : TypeRef} {selections : List Selection} {value : Json}
    {part : List (String × Json)} (h : Completes e type selections value)
    (item : value.Item (.object part)) :
    (∃ object ∈ e.schema.types, Answers e object selections part) ∨
      ∃ t, typeNamed e.schema type.bareName = .ok t ∧ t.kind.isLeaf = true := by
  induction type generalizing value with
  | nonNull base ih =>
    cases h with
    | nonNull h _ => exact ih h item
    | null nullable => exact absurd rfl (nullable base)
  | list type ih =>
    cases h with
    | null _ => cases item
    | list all =>
      cases item with
      | of_array mem item => exact ih (all _ mem) item
  | named name =>
    cases h with
    | null _ => cases item
    | leaf named isValue => exact Or.inr ⟨_, named, isLeaf_of_isLeafValue isValue⟩
    | object named isType _ answers =>
      cases item with
      | here => exact Or.inl ⟨_, isType, answers⟩

/-- The keys of an object that answers selections are those that are collected. -/
theorem Answers.keys {object : TypeDefinition} {selections : List Selection}
    {fields : List (String × Json)} (h : Answers e object selections fields) (key : String) :
    (fields.lookup key).isSome = true ↔ key ∈ (e.groups object selections).map (·.1) := by
  cases h with
  | mk keys _ => exact keys key

/-- The value of a key answers fields that are collected under it. -/
theorem Answers.value {object : TypeDefinition} {selections : List Selection}
    {fields : List (String × Json)} (h : Answers e object selections fields) {key : String}
    {value : Json} (found : fields.lookup key = some value) :
    ∃ group, (key, group) ∈ e.groups object selections ∧ AnswersField e object group value := by
  cases h with
  | mk keys values =>
    have isKey := (keys key).mp (by rw [found]; rfl)
    obtain ⟨⟨key', group⟩, executed, same⟩ := List.mem_map.mp isKey
    cases same
    exact ⟨group, executed, values _ group value executed found⟩

/-- An object tells its type where the type name is executed, and nothing else under its key. -/
theorem Answers.typename {object : TypeDefinition} {selections : List Selection}
    {fields : List (String × Json)} (h : Answers e object selections fields)
    {f : Field} {inner : List Selection} (plain : f.isPlainTypename = true)
    (executes : Executes e.schema e.fragments (leavesIn e.truth) object selections f inner)
    (only : ∀ f inner, Executes e.schema e.fragments (leavesIn e.truth) object selections f inner →
      f.responseKey = typenameField → f.name = typenameField) :
    fields.lookup typenameField = some (.string object.name) := by
  have isKey := responseKey_of_isPlainTypename plain
  obtain ⟨group, mem, -⟩ := mem_collected_iff.mpr ⟨isKey, executes⟩
  obtain ⟨value, found⟩ := Option.isSome_iff_exists.mp
    ((h.keys typenameField).mpr (List.mem_map.mpr ⟨_, mem, rfl⟩))
  obtain ⟨group', executed, answered⟩ := h.value found
  obtain ⟨-, all⟩ := groups_collected _ _ _ _ _ _ _ executed
  cases answered with
  | typename _ => exact found
  | field other _ _ =>
    obtain ⟨sameKey, executes'⟩ := all _ List.mem_cons_self
    exact absurd (only _ _ executes' sameKey) other

/-- An object of a response: it answers selections as an object of a type, or is inside the value of
a leaf. -/
def InResponse (e : Execution) (root : TypeDefinition) (asked : List Selection)
    (data : List (String × Json)) (fields : List (String × Json)) : Prop :=
  (∃ object selections, Met e root asked data object selections fields) ∨
    InLeaf e root asked data (.object fields)

/-- **An object in the value of a key of an object of a response is one as well.** -/
theorem InResponse.part {fields part : List (String × Json)} {key : String} {value : Json}
    (h : InResponse e root asked data fields) (found : fields.lookup key = some value)
    (item : value.Item (.object part)) : InResponse e root asked data part := by
  rcases h with ⟨object, selections, met⟩ | leaf
  · obtain ⟨group, executed, answered⟩ := met.answers.value found
    cases answered with
    | typename _ => cases item
    | field _ defined completes =>
      rcases answers_of_completes completes item with ⟨inner, isType, answers⟩ | ⟨t, named, isLeaf⟩
      · exact Or.inl ⟨_, _, .under met executed found item isType answers⟩
      · refine Or.inr ((InLeaf.value met executed found ?_).of_item item)
        exact ⟨_, _, _, _, t, rfl, defined, named, isLeaf⟩
  · exact Or.inr ((leaf.entry found).of_item item)

end Generation

end QueryShape
