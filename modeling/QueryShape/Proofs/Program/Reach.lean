import QueryShape.Proofs.Generation.Execution
import QueryShape.Proofs.Program.Reading

/-!
# Reading all that a result holds

`Reached` has the objects that one comes to by reading an object, and all objects that this gives.
From an object of a JSON object reading goes on to parts of the values of its keys, as objects of
the classes that the paths name.

* `reached_induction`: what holds of the first object and is kept on the way holds of all.
-/

namespace QueryShape.Program

open Code Generation Record Thing

/-! ## Parts of values -/

theorem mem_ofItems {items : List Json} {v : Value} (h : v ∈ Value.ofItems items) :
    ∃ item ∈ items, v = .ofJson item := by
  induction items with
  | nil => exact absurd h List.not_mem_nil
  | cons first rest ih =>
    unfold Value.ofItems at h
    rcases List.mem_cons.mp h with rfl | h
    · exact ⟨first, List.mem_cons_self, rfl⟩
    · obtain ⟨item, mem, eq⟩ := ih h
      exact ⟨item, List.mem_cons_of_mem _ mem, eq⟩

/-- Going through the value of a JSON value gives its items, or texts. -/
theorem item_ofJson {v part : Value} (h : v.Item part) : ∀ json : Json, v = .ofJson json →
    (∃ inner, json.Item inner ∧ part = .ofJson inner) ∨ ∃ text, part = .text text := by
  induction h with
  | here v =>
    rintro json rfl
    exact Or.inl ⟨json, .here json, rfl⟩
  | @of_items v item w items list mem h ih =>
    rintro json rfl
    -- an item that is no item of an array is a text, and so are all of its own items
    have ofText {text : String} (eq : item = .text text) : ∃ text, w = .text text := by
      rcases ih (.string text) (by rw [eq, Value.ofJson]) with ⟨inner, hi, hw⟩ | hw
      · cases hi
        exact ⟨text, by rw [hw, Value.ofJson]⟩
      · exact hw
    cases json with
    | array inner =>
      rw [Value.ofJson] at list
      cases list
      obtain ⟨json, hj, rfl⟩ := mem_ofItems mem
      rcases ih json rfl with ⟨found, hf, hw⟩ | hw
      · exact Or.inl ⟨found, .of_array hj hf, hw⟩
      · exact Or.inr hw
    | string words =>
      rw [Value.ofJson] at list
      cases list
      obtain ⟨c, -, rfl⟩ := List.mem_map.mp mem
      exact Or.inr (ofText rfl)
    | object fields =>
      rw [Value.ofJson] at list
      cases list
      obtain ⟨c, -, rfl⟩ := List.mem_map.mp mem
      exact Or.inr (ofText rfl)
    | null | bool | int | float =>
      rw [Value.ofJson] at list
      cases list

mutual

/-- The value of a JSON value has no objects of generated classes. -/
theorem isPlain_ofJson (json : Json) : (Value.ofJson json).IsPlain := by
  intro w carries
  cases json with
  | array items =>
    rw [Value.ofJson] at carries
    cases carries with
    | item mem inner => exact isPlain_ofItems items _ mem _ inner
  | object fields =>
    rw [Value.ofJson] at carries
    cases carries
  | null | bool | int | float | string =>
    rw [Value.ofJson] at carries
    cases carries

theorem isPlain_ofItems (items : List Json) : ∀ v ∈ Value.ofItems items, v.IsPlain := by
  cases items with
  | nil =>
    intro v mem
    exact absurd mem List.not_mem_nil
  | cons first rest =>
    intro v mem
    unfold Value.ofItems at mem
    rcases List.mem_cons.mp mem with rfl | mem
    · exact isPlain_ofJson first
    · exact isPlain_ofItems rest v mem

end

/-! ## One object -/

variable {calls : List (Generator × Declaration)} {bindings : Bindings}

theorem exists_of_entryOf {json : Json} {mayBeLeftOut : Bool} {key : String} {v : Value}
    (h : entryOf mayBeLeftOut (.ofJson json) key = .ok v) : ∃ value, v = .ofJson value ∧
      (value = .null ∨ ∃ fields, json = .object fields ∧ fields.lookup key = some value) := by
  cases json with
  | object fields =>
    change entryOf mayBeLeftOut (rawObject fields) key = _ at h
    rw [entryOf_rawObject] at h
    split at h
    · next value found =>
      cases h
      exact ⟨value, rfl, Or.inr ⟨fields, rfl, found⟩⟩
    · split at h
      · cases h
        exact ⟨.null, by rw [Value.ofJson], Or.inl rfl⟩
      · cases h
  | null | bool | int | float | string | array =>
    rw [Value.ofJson] at h
    cases mayBeLeftOut <;> cases h

/-- Reading an object of a class comes to a part of the value of a key, as an object of another
class. -/
def ComesTo (x : Record) (fields : List (String × Json)) (y : Record) (part : Json) : Prop :=
  ∃ a ∈ accessorsOf x, ∃ path key value, wayOf x (rawObject fields) a = .along path ∧
    path.responseKey? = some key ∧ templateOf path.decoder = .call (.name y.name) .hole ∧
    fields.lookup key = some value ∧ value.Item part

/-- An object of a class that an accessor gives comes from a part of the value of a key. -/
theorem comesTo_of_carries (runs : Runs calls bindings) {x : Record}
    (hx : x ∈ (after {} calls).registry.records) {json : Json} {name : String} {out w : Value}
    (mem : (name, .ok out) ∈ readAll bindings (.result x.name (.ofJson json)))
    (carries : out.Carries w) : ∃ y ∈ (after {} calls).registry.records, ∃ part,
      w = .result y.name (.ofJson part) ∧
      ∀ fields, part = .object fields →
        ∃ around, json = .object around ∧ ComesTo x around y part := by
  rw [readAll_eq runs hx] at mem
  obtain ⟨a, ha, eq⟩ := List.mem_map.mp mem
  have out_eq : readOne bindings x (.ofJson json) a = .ok out := congrArg Prod.snd eq
  unfold readOne at out_eq
  cases way : wayOf x (.ofJson json) a with
  | along path =>
    obtain ⟨key, follows⟩ := follows runs hx ha (mem_of_wayFor way)
    rw [way] at out_eq
    change runDecoder _ _ = _ at out_eq
    rw [follows.run] at out_eq
    obtain ⟨v, entry, decoded⟩ := except_bind_eq_ok_iff.mp out_eq
    obtain ⟨part, made, item, bare, inner⟩ := carries_decode decoded carries
    obtain ⟨value, rfl, holds⟩ := exists_of_entryOf entry
    obtain ⟨json', part_eq, isItem⟩ : ∃ inner, part = .ofJson inner ∧
        ∀ fields, inner = .object fields → value.Item inner := by
      rcases item_ofJson item value rfl with ⟨found, hi, rfl⟩ | ⟨text, rfl⟩
      · exact ⟨found, rfl, fun _ _ => hi⟩
      · exact ⟨.string text, by rw [Value.ofJson], nofun⟩
    subst part_eq
    obtain ⟨y, hy, template, rfl⟩ := follows.reads.made _ _ _ (isPlain_ofJson json') bare inner
    refine ⟨y, hy, json', rfl, fun fields isObject => ?_⟩
    rcases holds with rfl | ⟨around, rfl, found⟩
    · have := isItem fields isObject
      subst isObject
      cases this
    · exact ⟨around, rfl, a, ha, path, key, value, way, follows.responseKey?, template, found,
        isItem fields isObject⟩
  | nothing =>
    rw [way] at out_eq
    cases out_eq
    cases carries
  | unexpected =>
    rw [way] at out_eq
    obtain ⟨v, -, thrown⟩ := except_bind_eq_ok_iff.mp out_eq
    cases thrown
  | refused fault =>
    rw [way] at out_eq
    cases out_eq

/-! ## All objects -/

/-- The objects that one comes to by reading an object, and all objects that this gives. -/
inductive Reached (bindings : Bindings) (start : Value) : Value → Prop
  | start : Reached bindings start start
  | read {v w out : Value} {name : String} (h : Reached bindings start v)
      (mem : (name, .ok out) ∈ readAll bindings v) (carries : out.Carries w) :
      Reached bindings start w

/-- No accessor of the object misses. -/
def Readable (bindings : Bindings) (v : Value) : Prop :=
  ∀ r ∈ readAll bindings v, ¬ Misses r.2

/-- **All objects that one comes to are of registered classes, around JSON values**, and what holds
of the first and is kept on the way holds of all. -/
theorem reached_induction (runs : Runs calls bindings) {x₀ : Record}
    (hx₀ : x₀ ∈ (after {} calls).registry.records) {data : Json}
    (P : Record → List (String × Json) → Prop)
    (first : ∀ fields, data = .object fields → P x₀ fields)
    (step : ∀ x fields y part, x ∈ (after {} calls).registry.records →
      y ∈ (after {} calls).registry.records → P x fields →
      ComesTo x fields y (.object part) → P y part) {w : Value}
    (h : Reached bindings (.result x₀.name (.ofJson data)) w) :
    ∃ y ∈ (after {} calls).registry.records, ∃ json, w = .result y.name (.ofJson json) ∧
      ∀ fields, json = .object fields → P y fields := by
  induction h with
  | start => exact ⟨x₀, hx₀, data, rfl, first⟩
  | read _ mem carries ih =>
    obtain ⟨x, hx, json, rfl, known⟩ := ih
    obtain ⟨y, hy, part, rfl, comes⟩ := comesTo_of_carries runs hx mem carries
    refine ⟨y, hy, part, rfl, fun fields isObject => ?_⟩
    obtain ⟨around, rfl, comesTo⟩ := comes fields isObject
    subst isObject
    exact step x around y fields hx hy (known around rfl) comesTo

/-- **An object is readable exactly if all its accessors find what they read.** -/
theorem readable_iff (runs : Runs calls bindings) {x : Record}
    (hx : x ∈ (after {} calls).registry.records) (fields : List (String × Json)) :
    Readable bindings (.result x.name (rawObject fields)) ↔
      ∀ a ∈ accessorsOf x, Covers x fields a := by
  unfold Readable
  rw [readAll_eq runs hx]
  constructor
  · intro readable a ha
    by_contra lacks
    exact readable _ (List.mem_map.mpr ⟨a, ha, rfl⟩)
      ((misses_readOne_iff runs hx ha fields).mpr lacks)
  · rintro covers r mem
    obtain ⟨a, ha, rfl⟩ := List.mem_map.mp mem
    rw [misses_readOne_iff runs hx ha, not_not]
    exact covers a ha

/-- What is around no object is always readable. -/
theorem readable_of_no_object (runs : Runs calls bindings) {x : Record}
    (hx : x ∈ (after {} calls).registry.records) {raw : Value}
    (other : ∀ entries, raw ≠ .dict entries) : Readable bindings (.result x.name raw) := by
  intro r mem
  rw [readAll_eq runs hx] at mem
  obtain ⟨a, ha, rfl⟩ := List.mem_map.mp mem
  exact not_misses_readOne runs hx ha other

end QueryShape.Program
