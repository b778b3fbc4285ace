import QueryShape.Proofs.Program.Templates

/-!
# Reading the accessors of an object

What the accessors of an object give, in a module that holds the classes of successful calls.

* `readable_iff_covered`: no accessor of an object misses exactly if each finds what the path that
  it takes reads.
* `readAll_of_covered`: an accessor gives the decoded value of its key, and nothing where the key
  is left out.
-/

namespace QueryShape

/-- The value of the path's key may be left out. -/
def Record.Path.mayBeLeftOut (path : Record.Path) : Bool :=
  match path.decoder.start? with
  | some (.entryOrNothing ..) => true
  | _ => false

namespace Program

open Code Generation Record Thing

/-! ## Modules that have been run -/

/-- A module that holds the classes of successful calls has been run, and the names in it stand for
what they should. -/
structure Runs (calls : List (Generator × Declaration)) (bindings : Bindings) : Prop where
  succeed : AllSucceed calls
  loaded : ∃ modules classes, (after {} calls).registry.sorted = .ok classes ∧
    run modules (after {} calls).imports.toList classes = .ok bindings
  unhidden : Unhidden bindings
  dependable : ConvertersDependable calls bindings

variable {calls : List (Generator × Declaration)} {bindings : Bindings}

theorem Runs.made (runs : Runs calls bindings) :
    ∀ x ∈ (after {} calls).registry.records, Made bindings x := Loaded.made runs.loaded

theorem Runs.unknown (runs : Runs calls bindings) :
    ∃ t, bindings.lookup unknownScalar = some t := by
  obtain ⟨modules, classes, -, ran⟩ := runs.loaded
  exact Option.isSome_iff_exists.mp (keeps_of_run ran unknownScalar rfl)

/-- The types of objects that a class is for. -/
def typesOf : Record → List String
  | .root r => r.possibleTypes
  | .leaf l => l.possibleTypes
  | _ => []

/-- What the accessors of a class are read in. -/
abbrev selfScope (bindings : Bindings) (x : Record) (raw : Value) : Scope :=
  scopeOf bindings [("self", .result x.name raw)]

theorem within_self (bindings : Bindings) (x : Record) (raw : Value) :
    Within bindings (selfScope bindings x raw) :=
  within_scopeOf fun _ mem => List.mem_singleton.mp mem ▸ rfl

/-- The way in which an accessor of a class reads an object. -/
def wayOf (x : Record) (raw : Value) (a : Accessor) : Way :=
  wayFor raw.typename (typesOf x) a.paths

/-- What an accessor of a class gives. -/
def readOne (bindings : Bindings) (x : Record) (raw : Value) (a : Accessor) : Except Fault Value :=
  runWay (selfScope bindings x raw) x.name raw (wayOf x raw a)

theorem readAll_eq (runs : Runs calls bindings) {x : Record}
    (hx : x ∈ (after {} calls).registry.records) (raw : Value) :
    readAll bindings (.result x.name raw) =
      (accessorsOf x).map fun a => (a.name, readOne bindings x raw a) := by
  obtain ⟨base, found, -⟩ := runs.made x hx
  have complaint : (selfScope bindings x raw).meaning "UnexpectedTypenameError" =
      .ok (.thing (.tool .unexpectedTypename)) :=
    (within_self bindings x raw).meaning rfl (runs.unhidden.tools (_, .unexpectedTypename)
      (by simp [usedTools]))
  have each (a : Accessor) : runBody (selfScope bindings x raw) raw
      (Module.view x.name (typesOf x) a).body = readOne bindings x raw a :=
    runBody_dispatch complaint _ _
  unfold readAll
  simp only [found]
  cases x with
  | root r =>
    refine List.map_congr_left fun a _ => ?_
    rw [← each a]
    rfl
  | leaf l =>
    refine List.map_congr_left fun a _ => ?_
    rw [← each a]
    rfl
  | input i => rfl
  | enum e => rfl

/-! ## Paths -/

theorem mayBeLeftOut_path (r : Reading) (p : Place) (f : Document.Field) :
    (r.path p f).mayBeLeftOut = (p.isConditional || mayLeaveOut f.directives) := by
  unfold Path.mayBeLeftOut Reading.path pathOf
  rw [Decoder.start?_build]
  unfold accessOf
  cases p.isConditional || mayLeaveOut f.directives <;> rfl

/-- The value under a key, which has to be there unless it may be left out. -/
def entryOf (mayBeLeftOut : Bool) (raw : Value) (key : String) : Except Fault Value :=
  if mayBeLeftOut then raw.entryOrNothing key else raw.entry key

theorem value_accessOf (bindings : Bindings) (x : Record) (raw : Value) (mayBeLeftOut : Bool)
    (f : Document.Field) : (accessOf mayBeLeftOut f).value (selfScope bindings x raw) =
      entryOf mayBeLeftOut raw f.responseKey := by
  cases mayBeLeftOut with
  | true =>
    change Except.bind (Except.bind (raw.entryOrNothing f.responseKey) _) _ =
      raw.entryOrNothing f.responseKey
    cases raw.entryOrNothing f.responseKey <;> rfl
  | false =>
    change Except.bind (Except.bind (raw.entry f.responseKey) _) _ = raw.entry f.responseKey
    cases raw.entry f.responseKey <;> rfl

/-- What a path does with an object: it decodes the value of one key, where a value that may be left
out reads as nothing. -/
structure Follows (records : List Record) (bindings : Bindings) (x : Record) (path : Path)
    (key : String) : Prop where
  responseKey? : path.responseKey? = some key
  reads : Reads records bindings (templateOf path.decoder)
  nothing : path.mayBeLeftOut = true → decode bindings path.decoder .nothing = .ok .nothing
  run : ∀ raw, runDecoder (selfScope bindings x raw) path.decoder = (do
    decode bindings path.decoder (← entryOf path.mayBeLeftOut raw key))

/-- **Every path of every class follows one key.** -/
theorem follows (runs : Runs calls bindings) {x : Record}
    (hx : x ∈ (after {} calls).registry.records) {a : Accessor} (ha : a ∈ accessorsOf x)
    {path : Path} (hp : path ∈ a.paths) :
    ∃ key, Follows (after {} calls).registry.records bindings x path key := by
  obtain ⟨g, d, p, f, r, mem, asks, -, hr, -, rfl, -⟩ :=
    (traced_after calls x hx).read _ _ ⟨a, ha, rfl, hp⟩
  have reads := reads_of_asksFor runs.succeed runs.unhidden runs.unknown runs.dependable runs.made
    mem asks hr
  refine ⟨f.responseKey, responseKey?_path r p f, ?_, fun missing => ?_, fun raw => ?_⟩
  · unfold Reading.path pathOf
    rw [templateOf_build]
    exact reads
  · rw [mayBeLeftOut_path] at missing
    unfold Reading.path pathOf
    rw [missing]
    obtain ⟨rest, eq⟩ := exists_layersOf r.definition.type
    dsimp only
    rw [eq]
    rfl
  · rw [mayBeLeftOut_path]
    unfold Reading.path pathOf
    dsimp only
    rw [runDecoder_build reads.converts (within_self bindings x raw), value_accessOf]

/-! ## Objects -/

theorem lookup_ofFields (fields : List (String × Json)) (key : String) :
    (Value.ofFields fields).lookup key = (fields.lookup key).map .ofJson := by
  induction fields with
  | nil => rfl
  | cons first rest ih =>
    obtain ⟨k, value⟩ := first
    unfold Value.ofFields
    rw [List.lookup_cons, List.lookup_cons]
    split
    · rfl
    · exact ih

/-- The object of a class that is around a JSON object. -/
abbrev rawObject (fields : List (String × Json)) : Value := .ofJson (.object fields)

theorem entryOf_rawObject (mayBeLeftOut : Bool) (fields : List (String × Json)) (key : String) :
    entryOf mayBeLeftOut (rawObject fields) key =
      match fields.lookup key with
      | some value => .ok (.ofJson value)
      | none => if mayBeLeftOut then .ok .nothing else .error (.missingKey key) := by
  have raw : rawObject fields = .dict (Value.ofFields fields) := by rw [rawObject, Value.ofJson]
  unfold entryOf
  rw [raw]
  unfold Value.entryOrNothing Value.entry
  dsimp only
  rw [lookup_ofFields]
  cases mayBeLeftOut <;> cases fields.lookup key <;> rfl

/-- The accessor finds what it reads: a path is for the type of the object, if it is not one that
has none, and the key of the path is there or may be left out. -/
def Covers (x : Record) (fields : List (String × Json)) (a : Accessor) : Prop :=
  match wayOf x (rawObject fields) a with
  | .along path => path.mayBeLeftOut = true ∨
      ∀ key, path.responseKey? = some key → (fields.lookup key).isSome = true
  | .unexpected => False
  | .nothing | .refused _ => True

theorem typename_rawObject (fields : List (String × Json)) :
    ∃ name, (rawObject fields).typename = .ok name := ⟨_, rfl⟩

theorem not_misses_looksLike {typename : Except Fault Value} {names : List String}
    {fault : Fault} (known : ∃ name, typename = .ok name)
    (h : looksLike typename names = .error fault) : fault.isMiss = false := by
  obtain ⟨name, rfl⟩ := known
  change isOfTypes names name = .error fault at h
  unfold isOfTypes at h
  split at h
  · cases h
  · cases h
    rfl

variable {x : Record} {a : Accessor}

/-- An accessor that follows a path misses exactly if the key has to be there and is not. -/
theorem misses_along_iff {path : Path} {key : String}
    (follows : Follows (after {} calls).registry.records bindings x path key)
    (fields : List (String × Json)) :
    Misses (runDecoder (selfScope bindings x (rawObject fields)) path.decoder) ↔
      ¬ (path.mayBeLeftOut = true ∨ (fields.lookup key).isSome = true) := by
  rw [follows.run, entryOf_rawObject]
  have decodes (v : Value) : ¬ Misses (decode bindings path.decoder v) :=
    not_misses_decode follows.reads.sound v
  cases fields.lookup key with
  | some value => exact iff_of_false (decodes _) (by simp)
  | none =>
    cases path.mayBeLeftOut with
    | true => exact iff_of_false (decodes _) (by simp)
    | false => exact iff_of_true ⟨_, rfl, rfl⟩ (by simp)

/-- **An accessor misses on an object exactly if it does not find what it reads.** -/
theorem misses_readOne_iff (runs : Runs calls bindings)
    (hx : x ∈ (after {} calls).registry.records) (ha : a ∈ accessorsOf x)
    (fields : List (String × Json)) :
    Misses (readOne bindings x (rawObject fields) a) ↔ ¬ Covers x fields a := by
  unfold readOne Covers
  cases way : wayOf x (rawObject fields) a with
  | along path =>
    obtain ⟨key, follows⟩ := follows runs hx ha (mem_of_wayFor way)
    dsimp only
    rw [follows.responseKey?]
    simp only [Option.some.injEq, forall_eq']
    exact misses_along_iff follows fields
  | nothing => exact iff_of_false (not_misses_ok _) (not_not_intro trivial)
  | unexpected => exact iff_of_true ⟨_, rfl, rfl⟩ id
  | refused fault =>
    obtain ⟨names, looked⟩ := looksLike_of_refused way
    have noMiss := not_misses_looksLike (typename_rawObject fields) looked
    exact iff_of_false (not_misses_error noMiss) (not_not_intro trivial)

/-- What an accessor gives for an object that has its key. -/
theorem readOne_of_some (runs : Runs calls bindings)
    (hx : x ∈ (after {} calls).registry.records) (ha : a ∈ accessorsOf x)
    {fields : List (String × Json)} {path : Path} {key : String} {value : Json}
    (way : wayOf x (rawObject fields) a = .along path) (isKey : path.responseKey? = some key)
    (found : fields.lookup key = some value) :
    readOne bindings x (rawObject fields) a = decode bindings path.decoder (.ofJson value) := by
  obtain ⟨key', follows⟩ := follows runs hx ha (mem_of_wayFor way)
  cases follows.responseKey?.symm.trans isKey
  unfold readOne
  rw [way]
  change runDecoder _ _ = _
  rw [follows.run, entryOf_rawObject, found]
  rfl

/-- A key that may be left out reads as nothing if it is. -/
theorem readOne_of_none (runs : Runs calls bindings)
    (hx : x ∈ (after {} calls).registry.records) (ha : a ∈ accessorsOf x)
    {fields : List (String × Json)} {path : Path} {key : String}
    (way : wayOf x (rawObject fields) a = .along path) (isKey : path.responseKey? = some key)
    (missing : fields.lookup key = none) (mayBe : path.mayBeLeftOut = true) :
    readOne bindings x (rawObject fields) a = .ok .nothing := by
  obtain ⟨key', follows⟩ := follows runs hx ha (mem_of_wayFor way)
  cases follows.responseKey?.symm.trans isKey
  unfold readOne
  rw [way]
  change runDecoder _ _ = _
  rw [follows.run, entryOf_rawObject, missing, mayBe]
  exact follows.nothing mayBe

/-! ## Values that are no objects -/

theorem not_misses_entryOf {raw : Value} (other : ∀ entries, raw ≠ .dict entries)
    (mayBeLeftOut : Bool) (key : String) : ¬ Misses (entryOf mayBeLeftOut raw key) := by
  unfold entryOf Value.entryOrNothing Value.entry
  cases raw with
  | dict entries => exact absurd rfl (other entries)
  | _ =>
    cases mayBeLeftOut
    all_goals exact not_misses_error rfl

theorem typename_of_no_object {raw : Value} (other : ∀ entries, raw ≠ .dict entries) :
    raw.typename = .error .noAttribute := by
  unfold Value.typename Value.entryOrNothing
  cases raw with
  | dict entries => exact absurd rfl (other entries)
  | _ => rfl

/-- Reading what is no object fails, but it does not miss. -/
theorem not_misses_readOne (runs : Runs calls bindings)
    (hx : x ∈ (after {} calls).registry.records) (ha : a ∈ accessorsOf x) {raw : Value}
    (other : ∀ entries, raw ≠ .dict entries) : ¬ Misses (readOne bindings x raw a) := by
  have noName := typename_of_no_object other
  unfold readOne
  cases way : wayOf x raw a with
  | along path =>
    obtain ⟨key, follows⟩ := follows runs hx ha (mem_of_wayFor way)
    change ¬ Misses (runDecoder _ _)
    rw [follows.run]
    exact not_misses_bind (not_misses_entryOf other _ _)
      fun v _ => not_misses_decode follows.reads.sound v
  | nothing => exact not_misses_ok _
  | unexpected =>
    obtain ⟨names, looked⟩ := looksLike_of_unexpected way
    rw [noName] at looked
    cases looked
  | refused fault =>
    obtain ⟨names, looked⟩ := looksLike_of_refused way
    rw [noName] at looked
    cases looked
    exact not_misses_error rfl

end Program

end QueryShape
