import Mathlib
import QueryShape.Code.Signature
import QueryShape.Schema.Constant

/-!
# Types and their layers

Types are marked where a value is there for sure, and layers say where it may be missing. So a type
without doubled marks and layers without doubled layers for missing values say the same, and so does
the signature, which has a bracket for each layer.

* `rewrap_layers`, `existsUnique_layers`: types come back from their layers, and layers are those of
  one type.
* `toList_text_wrap`, `layers_of_text`: a signature is the layers in their order around the bare
  type, and tells them.
* `layers_bijective`: all of it together.
-/

namespace QueryShape.Code

open Document

/-! ## Types -/

/-- No non-null mark is directly on what has one. -/
def MarkedOnce : TypeRef → Prop
  | .named _ => True
  | .list item => MarkedOnce item
  | .nonNull base => Schema.isNonNull base = false ∧ MarkedOnce base

/-- The number of lists that a value of the type is in. -/
def listDepth : TypeRef → Nat
  | .named _ => 0
  | .list item => listDepth item + 1
  | .nonNull base => listDepth base

/-- The type inside a layer, where a value without one is there for sure. -/
def rewrapUnder : Layer → TypeRef → TypeRef
  | .nilable, type => Schema.nullable type
  | .array, type => .nonNull (.list type)

/-- The type of a bare name under layers, outermost first: a list for each layer of lists, with a
non-null mark on all that no layer for missing values is around. -/
def rewrap (layers : List Layer) (bare : String) : TypeRef :=
  layers.foldr rewrapUnder (.nonNull (.named bare))

/-- No layer for missing values is directly around another. -/
def Separated (layers : List Layer) : Prop :=
  layers.IsChain fun outer inner => ¬ (outer = .nilable ∧ inner = .nilable)

instance (layers : List Layer) : Decidable (Separated layers) :=
  inferInstanceAs (Decidable (List.IsChain _ _))

variable {marked : Bool} {type : TypeRef} {ls : List Layer}

/-! ## From types to layers -/

/-- Only what is marked, here or from outside, has no layer for missing values on the outside. -/
theorem mayBeMissing_layersUnder (marked : Bool) (type : TypeRef) :
    mayBeMissing (layersUnder marked type) = (!marked && !Schema.isNonNull type) := by
  have inside (type : TypeRef) : mayBeMissing (layersUnder true type) = false := by
    induction type with
    | named name => rfl
    | list item => rfl
    | nonNull base ih => exact ih
  cases type with
  | named name => cases marked <;> rfl
  | list item => cases marked <;> rfl
  | nonNull base =>
    rw [layersUnder, inside]
    simp [Schema.isNonNull]

theorem separated_layersUnder (marked : Bool) (type : TypeRef) :
    Separated (layersUnder marked type) := by
  induction type generalizing marked with
  | named name => cases marked <;> simp [layersUnder, Separated]
  | list item ih =>
    have under : Separated (.array :: layersUnder false item) := by
      cases eq : layersUnder false item with
      | nil => exact List.isChain_singleton _
      | cons next rest => exact List.isChain_cons_cons.mpr ⟨nofun, eq ▸ ih false⟩
    cases marked with
    | false => exact List.isChain_cons_cons.mpr ⟨nofun, under⟩
    | true => exact under
  | nonNull base ih => exact ih true

/-- There is a layer for each list. -/
theorem count_layersUnder (marked : Bool) (type : TypeRef) :
    (layersUnder marked type).count .array = listDepth type := by
  induction type generalizing marked with
  | named name => cases marked <;> rfl
  | list item ih => cases marked <;> simp [layersUnder, listDepth, ih]
  | nonNull base ih => exact ih true

/-- A type comes back from its layers, with the mark that is on it from outside. -/
theorem rewrap_layersUnder (once : MarkedOnce type)
    (outside : marked = true → Schema.isNonNull type = false) :
    rewrap (layersUnder marked type) type.bareName = if marked then .nonNull type else type := by
  induction type generalizing marked with
  | named name => cases marked <;> rfl
  | list item ih =>
    have inside : rewrap (layersUnder false item) item.bareName = item := ih once nofun
    have array : rewrap (.array :: layersUnder false item) item.bareName =
        .nonNull (.list item) := congrArg (TypeRef.nonNull ∘ TypeRef.list) inside
    cases marked with
    | false => exact congrArg Schema.nullable array
    | true => exact array
  | nonNull base ih =>
    cases marked with
    | false => exact ih once.2 fun _ => once.1
    | true => exact absurd (outside rfl) (by simp [Schema.isNonNull])

/-- **A type comes back from its layers.** -/
theorem rewrap_layers (once : MarkedOnce type) : rewrap (layers type) type.bareName = type :=
  rewrap_layersUnder once nofun

/-! ## From layers to types -/

theorem bareName_rewrap (ls : List Layer) (bare : String) : (rewrap ls bare).bareName = bare := by
  induction ls with
  | nil => rfl
  | cons layer rest ih =>
    cases layer with
    | array => exact ih
    | nilable =>
      have kept (type : TypeRef) : (Schema.nullable type).bareName = type.bareName := by
        cases type <;> rfl
      exact (kept _).trans ih

theorem markedOnce_rewrap (ls : List Layer) (bare : String) : MarkedOnce (rewrap ls bare) := by
  induction ls with
  | nil => exact ⟨rfl, trivial⟩
  | cons layer rest ih =>
    cases layer with
    | array => exact ⟨rfl, ih⟩
    | nilable =>
      have kept {type : TypeRef} (once : MarkedOnce type) : MarkedOnce (Schema.nullable type) := by
        cases type with
        | nonNull base => exact once.2
        | named name => exact once
        | list item => exact once
      exact kept ih

/-- **Layers come back from their type.** -/
theorem layers_rewrap (h : Separated ls) (bare : String) : layers (rewrap ls bare) = ls := by
  induction ls with
  | nil => rfl
  | cons layer rest ih =>
    have inside := ih (List.IsChain.of_cons h)
    cases layer with
    | array => exact congrArg (Layer.array :: ·) inside
    | nilable =>
      -- what a layer for missing values is around has a mark, which the layer takes away
      cases rest with
      | nil => rfl
      | cons next rest =>
        cases next with
        | nilable => exact absurd ⟨rfl, rfl⟩ (List.isChain_cons_cons.mp h).1
        | array => exact congrArg (Layer.nilable :: ·) inside

/-- **Layers are those of exactly one type.** -/
theorem existsUnique_layers (h : Separated ls) (bare : String) :
    ∃! type : TypeRef, MarkedOnce type ∧ type.bareName = bare ∧ layers type = ls := by
  refine ⟨rewrap ls bare, ⟨markedOnce_rewrap ls bare, bareName_rewrap ls bare,
    layers_rewrap h bare⟩, ?_⟩
  rintro type ⟨once, rfl, rfl⟩
  exact (rewrap_layers once).symm

/-! ## Signatures -/

/-- What a signature has in front of that which a layer is around. -/
def opening : Layer → String
  | .nilable => "Optional["
  | .array => "List["

theorem opening_spec (layer layer' : Layer) : '[' ∈ (opening layer).toList ∧
    ((opening layer).toList.head? = (opening layer').toList.head? → layer = layer') := by
  cases layer <;> cases layer' <;> decide

theorem toList_text_cons (layer : Layer) (rest : List Layer) (a : Signature) :
    (a.wrap (layer :: rest)).text.toList =
      (opening layer).toList ++ ((a.wrap rest).text.toList ++ [']']) := by
  have text : (a.wrap (layer :: rest)).text = opening layer ++ (a.wrap rest).text ++ "]" := by
    cases layer <;> rfl
  have closing : "]".toList = [']'] := rfl
  rw [text, String.toList_append, String.toList_append, closing, List.append_assoc]

/-- **A signature is the layers in their order** around the bare type, and a bracket to close
each. -/
theorem toList_text_wrap (ls : List Layer) (bare : String) :
    (Signature.wrap ls (.bare bare)).text.toList =
      ls.flatMap (fun layer => (opening layer).toList) ++ bare.toList ++
        List.replicate ls.length ']' := by
  induction ls with
  | nil => exact (List.append_nil _).symm
  | cons layer rest ih =>
    rw [toList_text_cons, ih, List.flatMap_cons, List.length_cons, List.replicate_succ']
    simp only [List.append_assoc]

/-- The text of a signature tells the layers around the bare type. -/
theorem layers_of_text {bare : String} (free : '[' ∉ bare.toList) {ls ls' : List Layer}
    (same : (Signature.wrap ls (.bare bare)).text.toList =
      (Signature.wrap ls' (.bare bare)).text.toList) : ls = ls' := by
  have bracket (layer : Layer) (rest : List Layer) :
      '[' ∈ (Signature.wrap (layer :: rest) (.bare bare)).text.toList := by
    rw [toList_text_cons]
    exact List.mem_append_left _ (opening_spec layer layer).1
  induction ls generalizing ls' with
  | nil =>
    cases ls' with
    | nil => rfl
    | cons layer rest => exact absurd (same ▸ bracket layer rest) free
  | cons layer rest ih =>
    cases ls' with
    | nil => exact absurd (same.symm ▸ bracket layer rest) free
    | cons layer' rest' =>
      rw [toList_text_cons, toList_text_cons] at same
      have one : layer = layer' := by
        refine (opening_spec layer layer').2 ?_
        have heads := congrArg List.head? same
        rwa [List.head?_append_of_ne_nil _ (List.ne_nil_of_mem (opening_spec layer layer).1),
          List.head?_append_of_ne_nil _ (List.ne_nil_of_mem (opening_spec layer' layer).1)]
          at heads
      subst one
      rw [ih (List.append_cancel_right (List.append_cancel_left same))]

/-! ## Layers and types -/

/-- **Types without doubled marks, layers without doubled layers for missing values, and signatures
around a bare name say the same.** -/
theorem layers_bijective :
    (∀ type : TypeRef, MarkedOnce type →
      rewrap (layers type) type.bareName = type ∧ Separated (layers type) ∧
      (arrayDepth (layers type) = listDepth type ∧ (layers type).count .array = listDepth type) ∧
      (mayBeMissing (layers type) = true ↔ ∀ base, type ≠ .nonNull base)) ∧
    (∀ (bare : String) (ls : List Layer), Separated ls →
      ∃! type : TypeRef, MarkedOnce type ∧ type.bareName = bare ∧ layers type = ls) ∧
    ∀ (bare : String), '[' ∉ bare.toList → ∀ ls : List Layer,
      (Signature.wrap ls (.bare bare)).text.toList =
        ls.flatMap (fun layer => (opening layer).toList) ++ bare.toList ++
          List.replicate ls.length ']' ∧
      ∀ ls' : List Layer, (Signature.wrap ls (.bare bare)).text =
        (Signature.wrap ls' (.bare bare)).text → ls = ls' := by
  refine ⟨fun type once => ⟨rewrap_layers once, separated_layersUnder false type,
      ⟨count_layersUnder false type, count_layersUnder false type⟩, ?_⟩,
    fun bare ls separated => existsUnique_layers separated bare,
    fun bare free ls => ⟨toList_text_wrap ls bare,
      fun ls' same => layers_of_text free (congrArg String.toList same)⟩⟩
  rw [layers, mayBeMissing_layersUnder]
  cases type <;> simp [Schema.isNonNull]

/-- Rows of numbers, of which the rows are there for sure. -/
def grid : TypeRef := .list (.nonNull (.list (.named "Int")))

/-- A list of lists with one mark inside, its layers and its signature. -/
theorem layers_bijective_rows : MarkedOnce grid ∧ '[' ∉ "int".toList ∧
    Separated [.nilable, .array, .array, .nilable] ∧
    layers grid = [.nilable, .array, .array, .nilable] ∧
    (Signature.wrap (layers grid) (.bare "int")).text = "Optional[List[List[Optional[int]]]]" ∧
    rewrap (layers grid) "Int" = grid ∧
    (∃! type : TypeRef, MarkedOnce type ∧ type.bareName = "Int" ∧
      layers type = [.nilable, .array, .array, .nilable]) ∧
    ∀ ls' : List Layer, (Signature.wrap (layers grid) (.bare "int")).text =
      (Signature.wrap ls' (.bare "int")).text → layers grid = ls' := by
  have once : MarkedOnce grid := ⟨rfl, trivial⟩
  have free : '[' ∉ "int".toList := by decide
  have separated : Separated [.nilable, .array, .array, .nilable] := by decide
  obtain ⟨back, unique, told⟩ := layers_bijective
  exact ⟨once, free, separated, rfl, rfl, (back grid once).1, unique "Int" _ separated,
    (told "int" free (layers grid)).2⟩

end QueryShape.Code
