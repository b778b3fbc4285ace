import Mathlib.Data.List.TakeWhile
import QueryShape.Proofs.Generation.Keys
import QueryShape.Proofs.Program.Load
import QueryShape.Proofs.Program.Misses

/-!
# The templates of paths

What the templates of the paths of all classes make of values, in a module whose names stand for
what generated code takes them to stand for.

* `reads_of_asksFor`: the template of a field that a document selects never misses, and makes no
  objects but those of a class that is registered, around the value.
-/

namespace QueryShape.Program

open Code Generation Record

/-! ## Modules -/

/-- What accessors use, and what the classes of enums are made on. -/
def usedTools : List (String × Tool) :=
  [("cast", .cast), ("int", .int), ("float", .float), ("GraphQLEnum", .enum),
   ("UnexpectedTypenameError", .unexpectedTypename)]

/-- Nothing in the module hides what accessors use, or has the name of a variable of theirs. -/
structure Unhidden (bindings : Bindings) : Prop where
  tools : ∀ b ∈ usedTools, bindings.thing? b.1 = some (.tool b.2)
  locals : ∀ b ∈ bindings, isLocal b.1 = false

/-- Generated code reaches a converter by its path, and reading with it never misses and makes no
objects of generated classes. -/
structure Dependable (bindings : Bindings) (c : Converter) : Prop where
  means : Means bindings (.member (.ofPath c.path) "deserialize") (.function c.deserialize)
  sound : ∀ v, ¬ Misses (c.deserialize v)
  plain : ∀ v out, v.IsPlain → c.deserialize v = .ok out → out.IsPlain

/-- A template of a path converts, never misses, and makes no objects but those of a class of its
own, around the value. -/
structure Reads (records : List Record) (bindings : Bindings) (template : Expr) : Prop where
  converts : Converts bindings template
  sound : ∀ v, ¬ Misses (bareOf bindings template v)
  made : ∀ v out w, v.IsPlain → bareOf bindings template v = .ok out → out.Carries w →
    ∃ y ∈ records, template = .call (.name y.name) .hole ∧ w = .result y.name v

variable {records : List Record} {bindings : Bindings}

/-- The name of a supporting class that is not hidden is bound to it. -/
theorem Unhidden.lookup_tool (h : Unhidden bindings) {name : String} {t : Tool}
    (mem : (name, t) ∈ usedTools) (notBuiltin : builtins.lookup name = none) :
    bindings.lookup name = some (.tool t) := by
  have found := h.tools _ mem
  unfold Bindings.thing? at found
  rw [notBuiltin] at found
  simpa using found

theorem mem_of_lookup {entries : List (String × α)} {key : String} {a : α}
    (h : entries.lookup key = some a) : (key, a) ∈ entries := by
  obtain ⟨before, later, rfl, -⟩ := List.lookup_eq_some_iff.mp h
  simp

theorem means_of_made (h : Unhidden bindings) {x : Record} {base : Thing}
    (found : bindings.lookup x.name = some (.generated x base)) :
    Means bindings (.name x.name) (.thing (.generated x base)) := by
  refine means_name (h.locals _ (mem_of_lookup found)) ?_
  unfold Bindings.thing?
  rw [found]
  rfl

/-! ## Classes and enums -/

/-- A class makes objects of its own. -/
theorem reads_class (h : Unhidden bindings) {y : Record} (hy : y ∈ records)
    (made : Made bindings y) : Reads records bindings (readByClass y.name).template := by
  obtain ⟨base, found, -⟩ := made
  have means := means_of_made h found
  refine ⟨converts_call means, fun v => ?_, fun v out w _ eq carries => ?_⟩
  · change ¬ Misses (bareOf bindings (.call (.name y.name) .hole) v)
    rw [bareOf_call means]
    exact not_misses_call _ v
  · change bareOf bindings (.call (.name y.name) .hole) v = _ at eq
    rw [bareOf_call means] at eq
    exact ⟨y, hy, rfl, carries_call eq carries⟩

/-- A word other than the placeholder is left as it is. -/
theorem fill_of_word {text : String} (word : text.toList.all Letter.isWord = true)
    (other : text ≠ placeholder) (r : String) : Code.fill text r = text := by
  unfold Code.fill
  rw [← String.ofList_toList (s := text)]
  congr 1
  have different : text.toList ≠ placeholder.toList := fun e => other (String.toList_injective e)
  rw [String.ofList_toList]
  cases chars : text.toList with
  | nil => rw [replaceWord]
  | cons c rest =>
    rw [chars] at word different
    simp only [List.all_cons, Bool.and_eq_true] at word
    have all := List.all_eq_true.mp word.2
    rw [replaceWord, if_pos word.1]
    rw [List.takeWhile_eq_self_iff.mpr all, List.dropWhile_eq_nil_iff.mpr all]
    dsimp only
    rw [if_neg different, replaceWord, List.append_nil]

/-- The class of an enum finds members, and makes no objects. -/
theorem reads_enum (h : Unhidden bindings) {y : Record} (kind : y.kind = .enum)
    (made : Made bindings y) : Reads records bindings (readByEnum y.name).template := by
  obtain ⟨base, found, tool⟩ := made
  cases y with
  | enum e =>
    have found_enum : bindings.lookup "GraphQLEnum" = some (.tool .enum) :=
      h.lookup_tool (by simp [usedTools]) rfl
    cases tool .enum found_enum
    have means : Means bindings (.member (.name e.name) "deserialize")
        (.function (enumMember e)) :=
      means_member (means_of_made h found) (fill_of_word rfl (by decide)) rfl
    refine ⟨converts_call means, fun v => ?_, fun v out w _ eq carries => ?_⟩
    · change ¬ Misses (bareOf bindings (.call (.member (.name e.name) "deserialize") .hole) v)
      rw [bareOf_call means]
      exact not_misses_enumMember e v
    · change bareOf bindings (.call (.member (.name e.name) "deserialize") .hole) v = _ at eq
      rw [bareOf_call means] at eq
      exact absurd carries (isPlain_of_enumMember eq w)
  | root r => cases kind
  | leaf l => cases kind
  | input i => cases kind

/-! ## Scalars -/

theorem reads_converter {c : Converter} (h : Dependable bindings c) :
    Reads records bindings (.call (.member (.ofPath c.path) "deserialize") .hole) where
  converts := converts_call h.means
  sound := fun v => by
    rw [bareOf_call h.means]
    exact h.sound v
  made := by
    intro v out w plain eq carries
    rw [bareOf_call h.means] at eq
    exact absurd carries (h.plain v out plain eq w)

theorem reads_cast {type : String} (h : Casts bindings type) :
    Reads records bindings (.cast type .hole) where
  converts := converts_cast h
  sound := fun v => by
    rw [bareOf_cast h]
    exact not_misses_ok v
  made := by
    intro v out w plain eq carries
    rw [bareOf_cast h] at eq
    cases eq
    exact absurd carries (plain w)

theorem isPlain_of_map {r : Except Fault α} {make : α → Value} (plain : ∀ a, (make a).IsPlain)
    {out : Value} (h : make <$> r = .ok out) : out.IsPlain := by
  cases r with
  | error fault => cases h
  | ok a =>
    cases h
    exact plain a

/-- Calling a tool that makes plain values reads. -/
theorem reads_tool (h : Unhidden bindings) {name : String} {t : Tool}
    (mem : (name, t) ∈ usedTools) (global : isLocal name = false)
    (plain : ∀ v out, (Thing.tool t).call v = .ok out → out.IsPlain) :
    Reads records bindings (.call (.name name) .hole) := by
  have means := means_name global (h.tools _ mem)
  refine ⟨converts_call means, fun v => ?_, fun v out w _ eq carries => ?_⟩
  · rw [bareOf_call means]
    exact not_misses_call _ v
  · rw [bareOf_call means] at eq
    exact absurd carries (plain v out eq w)

theorem plain_int (v out : Value) (h : (Thing.tool .int).call v = .ok out) : out.IsPlain :=
  isPlain_of_map (fun _ _ carries => by cases carries) h

theorem plain_float (v out : Value) (h : (Thing.tool .float).call v = .ok out) : out.IsPlain :=
  isPlain_of_map (fun _ _ carries => by cases carries) h

/-- A tool of the language is there, hidden or not. -/
theorem exists_builtin (bindings : Bindings) {type : String} {t : Tool}
    (found : builtins.lookup type = some t) : ∃ t, bindings.thing? type = some t := by
  unfold Bindings.thing?
  rw [found]
  cases bindings.lookup type with
  | none => exact ⟨_, rfl⟩
  | some t => exact ⟨t, rfl⟩

theorem casts_of_word (h : Unhidden bindings) {type : String}
    (known : ∃ t, bindings.thing? type = some t) (global : isLocal type = false)
    (word : type.toList.all Letter.isWord = true) (other : type ≠ placeholder) :
    Casts bindings type where
  closed := fill_of_word word other
  cast := h.tools ("cast", .cast) (by simp [usedTools])
  known := known
  global := global

/-- Values of standard scalars can be cast to their types. -/
theorem casts_signature (h : Unhidden bindings) {scalar type : String}
    (mem : (scalar, type) ∈ scalarSignatures) : Casts bindings type := by
  have mem : type = "bool" ∨ type = "int" ∨ type = "float" ∨ type = "str" := by
    simp only [scalarSignatures, List.mem_cons, Prod.mk.injEq, List.not_mem_nil, or_false] at mem
    tauto
  rcases mem with rfl | rfl | rfl | rfl
  · exact casts_of_word h (exists_builtin bindings (t := .signature) rfl) rfl rfl (by decide)
  · exact casts_of_word h (exists_builtin bindings (t := .int) rfl) rfl rfl (by decide)
  · exact casts_of_word h (exists_builtin bindings (t := .float) rfl) rfl rfl (by decide)
  · exact casts_of_word h (exists_builtin bindings (t := .signature) rfl) rfl rfl (by decide)

/-- The scalars without a converter are read by casts, or as numbers. -/
theorem reads_plainScalar (h : Unhidden bindings)
    (unknown : ∃ t, bindings.lookup unknownScalar = some t) (scalar : String) :
    let type := (scalarSignatures.lookup scalar).getD unknownScalar
    Reads records bindings
      (if scalar ∈ calledScalars then .call (.name type) .hole else .cast type .hole) := by
  dsimp only
  split
  · next called =>
    unfold calledScalars at called
    simp only [List.mem_cons, List.not_mem_nil, or_false] at called
    rcases called with rfl | rfl
    · change Reads records bindings (.call (.name "float") .hole)
      exact reads_tool h (t := .float) (by simp [usedTools]) rfl plain_float
    · change Reads records bindings (.call (.name "int") .hole)
      exact reads_tool h (t := .int) (by simp [usedTools]) rfl plain_int
  · refine reads_cast ?_
    cases found : scalarSignatures.lookup scalar with
    | none =>
      obtain ⟨t, bound⟩ := unknown
      refine casts_of_word h ⟨t, ?_⟩ rfl rfl (by decide)
      change bindings.thing? unknownScalar = some t
      unfold Bindings.thing?
      rw [bound]
      rfl
    | some type => exact casts_signature h (mem_of_lookup found)

/-! ## Fields -/

/-- The values of a scalar are read by its converter, or by none. -/
theorem template_of_scalar {g : Setting} {t : Document.TypeDefinition} {c : Conversion}
    (scalar : t.kind = .scalar) (h : (outputOf g t).result = .ok c) :
    (∃ converter, g.converters.find? t.name = some converter ∧
      c.template = .call (.member (.ofPath converter.path) "deserialize") .hole) ∨
    g.converters.find? t.name = none ∧ c.template =
      let type := (scalarSignatures.lookup t.name).getD unknownScalar
      if t.name ∈ calledScalars then .call (.name type) .hole else .cast type .hole := by
  unfold outputOf at h
  rw [scalar] at h
  dsimp only at h
  unfold scalarOutput at h
  cases found : g.converters.find? t.name with
  | none =>
    rw [found] at h
    cases h
    exact Or.inr ⟨rfl, rfl⟩
  | some converter =>
    rw [found] at h
    dsimp only at h
    unfold convertedBy at h
    split at h
    · cases h
    · cases h
      exact Or.inl ⟨converter, rfl, rfl⟩

/-- The converters of all scalars that the documents select can be depended on. -/
def ConvertersDependable (calls : List (Generator × Declaration)) (bindings : Bindings) : Prop :=
  ∀ g d p f r c, (g, d) ∈ calls → AsksFor g d p f → readingOf g.toSetting p f = .ok r →
    r.type.kind = .scalar → g.converters.find? r.type.name = some c → Dependable bindings c

/-- **The template of a field that a document selects** never misses, and makes no objects but those
of a class that is registered. -/
theorem reads_of_asksFor {calls : List (Generator × Declaration)} (succeed : AllSucceed calls)
    {bindings : Bindings} (unhidden : Unhidden bindings)
    (unknown : ∃ t, bindings.lookup unknownScalar = some t)
    (dependable : ConvertersDependable calls bindings)
    (made : ∀ x ∈ (after {} calls).registry.records, Made bindings x)
    {g : Generator} {d : Declaration} (mem : (g, d) ∈ calls) {p : Place} {f : Document.Field}
    (asks : AsksFor g d p f) {r : Reading} (hr : readingOf g.toSetting p f = .ok r) :
    Reads (after {} calls).registry.records bindings r.conversion.template := by
  obtain ⟨r', x, hr', -, -, -, needs⟩ := recorded_of_allSucceed succeed mem asks
  cases hr.symm.trans hr'
  by_cases scalar : r.type.kind = .scalar
  · have conversion := (readingOf_eq_ok_iff.mp hr).2.2.2
    unfold conversionOf at conversion
    rw [if_neg (by rw [scalar]; decide)] at conversion
    rcases template_of_scalar scalar conversion with ⟨c, found, eq⟩ | ⟨-, eq⟩
    · rw [eq]
      exact reads_converter (dependable g d p f r c mem asks hr scalar found)
    · rw [eq]
      exact reads_plainScalar unhidden unknown r.type.name
  · obtain ⟨y, hy, conversion, -, -⟩ := needs scalar
    rcases conversion with ⟨eq, -⟩ | ⟨eq, kind⟩
    · rw [eq]
      exact reads_class unhidden hy (made y hy)
    · rw [eq]
      exact reads_enum unhidden kind (made y hy)

end QueryShape.Program
