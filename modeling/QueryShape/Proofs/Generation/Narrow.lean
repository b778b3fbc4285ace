import Mathlib.Data.List.Nodup
import QueryShape.Proofs.Document.Collect
import QueryShape.Proofs.Generation.Survey

/-!
# Narrowing to the types of fragments

Inside a fragment a class selects for fewer types of objects: those of the place that meet the
condition of the fragment. An executor goes the other way: it takes one object, and asks at each
fragment whether its type meets the condition. Both come to the same fields.

* `executes_of_selects`: a field that is selected for the type of an object is executed on it, if
  nothing that leads to it is left out.
* `selects_of_executes`: a field that is executed on an object is selected for its type.
-/

namespace QueryShape.Generation

open Document

/-! ## Places -/

/-- The place inside a fragment on a type: for those types of objects that meet its condition, and
conditional if a directive may leave the fragment out. -/
structure Inside (s : Schema) (p : Place) (t : TypeDefinition) (directives : List Directive)
    (q : Place) : Prop where
  owner : q.owner = t
  typenames : ∃ types, objectTypes s t = .ok types ∧
    ∀ name, name ∈ q.typenames ↔ name ∈ p.typenames ∧ name ∈ types
  isConditional : q.isConditional = (p.isConditional || mayLeaveOut directives)

theorem inside_inFragment {s : Schema} {p q : Place} {t : TypeDefinition}
    {directives : List Directive} (h : p.inFragment s t directives = .ok q) :
    Inside s p t directives q := by
  obtain ⟨types, ok, h⟩ := except_bind_eq_ok_iff.mp h
  cases h
  refine ⟨rfl, ⟨types, ok, fun name => ?_⟩, rfl⟩
  rw [NameSet.mem_inter, NameSet.mem_ofList]

theorem Inside.subset {s : Schema} {p q : Place} {t : TypeDefinition} {directives : List Directive}
    (h : Inside s p t directives q) {name : String} (mem : name ∈ q.typenames) :
    name ∈ p.typenames := by
  obtain ⟨types, -, same⟩ := h.typenames
  exact ((same name).mp mem).1

theorem inside_inlinePlace {s : Schema} {p q : Place} {condition? : Option String}
    {directives : List Directive} (h : inlinePlace s p condition? directives = .ok q) :
    ∃ t, (∀ condition, condition? = some condition → typeNamed s condition = .ok t) ∧
      (condition? = none → t = p.owner) ∧ Inside s p t directives q := by
  cases condition? with
  | none =>
    obtain ⟨t, same, h⟩ := except_bind_eq_ok_iff.mp h
    exact ⟨t, nofun, fun _ => (Except.ok.inj same).symm, inside_inFragment h⟩
  | some condition =>
    obtain ⟨t, named, h⟩ := except_bind_eq_ok_iff.mp h
    exact ⟨t, fun _ same => Option.some.inj same ▸ named, nofun, inside_inFragment h⟩

theorem inside_spreadPlace {s : Schema} {p q : Place} {f : Fragment}
    {directives : List Directive} (h : spreadPlace s p f directives = .ok q) :
    ∃ t, typeNamed s f.condition = .ok t ∧ Inside s p t directives q := by
  obtain ⟨t, named, h⟩ := except_bind_eq_ok_iff.mp h
  exact ⟨t, named, inside_inFragment h⟩

/-- A field is selected for fewer types than its selection set, and is conditional if that is. -/
theorem Selects.place_le {s : Schema} {fragments : List Fragment} {p q : Place}
    {selections inner : List Selection} {f : Field}
    (h : Selects s fragments p selections q f inner) :
    (∀ name ∈ q.typenames, name ∈ p.typenames) ∧
      (q.isConditional = false → p.isConditional = false) := by
  induction h with
  | field => exact ⟨fun _ mem => mem, id⟩
  | inline _ place _ ih =>
    obtain ⟨t, -, -, inside⟩ := inside_inlinePlace place
    refine ⟨fun name mem => inside.subset (ih.1 name mem), fun always => ?_⟩
    have always := ih.2 always
    rw [inside.isConditional, Bool.or_eq_false_iff] at always
    exact always.1
  | spread _ _ place _ ih =>
    obtain ⟨t, -, inside⟩ := inside_spreadPlace place
    refine ⟨fun name mem => inside.subset (ih.1 name mem), fun always => ?_⟩
    have always := ih.2 always
    rw [inside.isConditional, Bool.or_eq_false_iff] at always
    exact always.1

/-- What is conditional inside a fragment that a directive may leave out. -/
theorem Inside.conditional_of_may {s : Schema} {p q r : Place} {t : TypeDefinition}
    {directives : List Directive} (h : Inside s p t directives q)
    (always : r.isConditional = false → q.isConditional = false)
    (may : mayLeaveOut directives = true) (f : Field) :
    (r.isConditional || mayLeaveOut f.directives) = true := by
  have conditional : q.isConditional = true := by rw [h.isConditional, may, Bool.or_true]
  cases within : r.isConditional with
  | true => rfl
  | false =>
    rw [always within] at conditional
    cases conditional

/-! ## Conditions of fragments -/

/-- The types that a fragment is for are those that meet its condition. -/
theorem meetsCondition_of_mem {s : Schema} (distinct : (s.types.map (·.name)).Nodup)
    {object t : TypeDefinition} (isType : object ∈ s.types) {condition : String}
    (named : typeNamed s condition = .ok t) {types : List String}
    (ok : objectTypes s t = .ok types) (mem : object.name ∈ types) :
    meetsCondition s object condition = true := by
  obtain ⟨found, name⟩ := type?_of_typeNamed named
  unfold objectTypes at ok
  split at ok
  · next composite =>
    cases ok
    unfold Schema.possibleTypes at mem
    unfold meetsCondition Schema.hasMember
    rw [found]
    split at mem
    · rw [List.mem_singleton] at mem
      simp [mem, name]
    · next notObject =>
      unfold Schema.abstractMembers at mem
      split at mem
      · next union =>
        rw [beq_iff_eq] at union
        simp [union, mem]
      · next notUnion =>
        have interface : t.kind = .interface := by
          cases kind : t.kind <;> simp_all [Kind.isComposite]
        obtain ⟨t', ht', mem⟩ := List.mem_flatMap.mp mem
        split at mem
        · obtain ⟨above, hi, same⟩ := List.mem_map.mp mem
          cases List.inj_on_of_nodup_map distinct ht' isType same
          have implements := List.mem_filter.mp hi
          have isThis : above = t.name := by simpa using implements.2
          simp [interface, ← isThis, implements.1]
        · exact absurd mem List.not_mem_nil
  · cases ok

/-- An object type that meets the condition of a fragment is one of those that the fragment is
for. -/
theorem mem_of_meetsCondition {s : Schema} (distinct : (s.types.map (·.name)).Nodup)
    {object t : TypeDefinition} (isType : object ∈ s.types) (isObject : object.kind = .object)
    {condition : String} (named : typeNamed s condition = .ok t) {types : List String}
    (ok : objectTypes s t = .ok types) (meets : meetsCondition s object condition = true) :
    object.name ∈ types := by
  obtain ⟨found, name⟩ := type?_of_typeNamed named
  have possible : types = s.possibleTypes t := by
    unfold objectTypes at ok
    split at ok
    · exact (Except.ok.inj ok).symm
    · cases ok
  rw [possible]
  unfold Schema.possibleTypes Schema.abstractMembers
  unfold meetsCondition at meets
  rw [found, Bool.or_eq_true] at meets
  rcases meets with same | member
  · rw [beq_iff_eq, ← name] at same
    cases List.inj_on_of_nodup_map distinct (List.mem_of_find?_eq_some found) isType same
    simp [isObject]
  · simp only [Option.any_some, Bool.and_eq_true, Bool.or_eq_true, beq_iff_eq] at member
    unfold Schema.hasMember at member
    rcases member with ⟨kind | kind, member⟩
    · rw [kind] at member
      simp only [kind]
      refine List.mem_flatMap.mpr ⟨object, isType, ?_⟩
      have implements : t.name ∈ object.interfaces := by simpa using member
      rw [isObject]
      refine List.mem_map.mpr ⟨t.name, List.mem_filter.mpr ⟨implements, by simp⟩, rfl⟩
    · rw [kind] at member
      simpa [kind] using member

/-! ## Both ways -/

variable {s : Schema} {fragments : List Fragment} {leaves : List Directive → Bool}
  {object : TypeDefinition}

/-- **A field that is selected for the type of an object is executed on it**, if directives leave
in what leads to it. -/
theorem executes_of_selects {p q : Place} {selections inner : List Selection} {f : Field}
    (distinct : (s.types.map (·.name)).Nodup) (isType : object ∈ s.types)
    (selected : Selects s fragments p selections q f inner) (isFor : object.name ∈ q.typenames)
    (left : ∀ directives, (mayLeaveOut directives = true →
      (q.isConditional || mayLeaveOut f.directives) = true) → leaves directives = true) :
    Executes s fragments leaves object selections f inner := by
  induction selected with
  | @field p selections inner f mem _ =>
    exact .field mem (left f.directives fun may => by rw [may, Bool.or_true])
  | @inline p q r selections under inner f condition? directives mem place next ih =>
    obtain ⟨t, named, -, within⟩ := inside_inlinePlace place
    obtain ⟨isFor', always⟩ := next.place_le
    have here := left directives fun may => within.conditional_of_may always may f
    refine .inline mem here ?_ (ih isFor left)
    cases condition? with
    | none => rfl
    | some condition =>
      obtain ⟨types, ok, same⟩ := within.typenames
      have isOne := ((same _).mp (isFor' _ isFor)).2
      exact meetsCondition_of_mem distinct isType (named _ rfl) ok isOne
  | @spread p q r selections inner f name directives fragment mem named place next ih =>
    obtain ⟨t, type, within⟩ := inside_spreadPlace place
    obtain ⟨isFor', always⟩ := next.place_le
    have here := left directives fun may => within.conditional_of_may always may f
    obtain ⟨types, ok, same⟩ := within.typenames
    have isOne := ((same _).mp (isFor' _ isFor)).2
    have meets := meetsCondition_of_mem distinct isType type ok isOne
    exact .spread mem here named meets (ih isFor left)

/-- Objects of the type can stand at the place. -/
def Place.IsFor (p : Place) (s : Schema) (object : TypeDefinition) : Prop :=
  object.name ∈ p.typenames ∧ ∃ types, objectTypes s p.owner = .ok types ∧ object.name ∈ types

theorem Inside.isFor {p q : Place} {t : TypeDefinition} {directives : List Directive}
    (h : Inside s p t directives q) (isFor : p.IsFor s object)
    (meets : ∀ types, objectTypes s t = .ok types → object.name ∈ types) : q.IsFor s object := by
  obtain ⟨types, ok, same⟩ := h.typenames
  exact ⟨(same _).mpr ⟨isFor.1, meets types ok⟩, types, h.owner ▸ ok, meets types ok⟩

/-- **A field that is executed on an object is selected for its type**, if every fragment can be
gone into. -/
theorem selects_of_executes (distinct : (s.types.map (·.name)).Nodup) (isType : object ∈ s.types)
    (isObject : object.kind = .object) {selections inner : List Selection} {f : Field}
    (executes : Executes s fragments leaves object selections f inner)
    (asks : f.isPlainTypename = false) {p : Place} {known : List Fragment}
    (of : Known known fragments) (sound : ∀ x ∈ survey s known p selections, ∃ y, x = .ok y)
    (isFor : p.IsFor s object) :
    ∃ q, Selects s fragments p selections q f inner ∧ q.IsFor s object := by
  induction executes generalizing p known with
  | field mem left => exact ⟨p, .field mem asks, isFor⟩
  | @inline _ _ _ _ condition? directives mem left meets next ih =>
    have within := surveyFragments_subset s known p mem
    rw [surveyFragments_inline] at within
    cases place : inlinePlace s p condition? directives with
    | error e =>
      rw [place] at within
      obtain ⟨y, hy⟩ := sound _ (within List.mem_cons_self)
      cases hy
    | ok q =>
      rw [place] at within
      obtain ⟨t, named, same, inside⟩ := inside_inlinePlace place
      have isFor' : q.IsFor s object := by
        refine inside.isFor isFor fun types ok => ?_
        cases condition? with
        | none =>
          obtain ⟨types', ok', isOne⟩ := isFor.2
          rw [same rfl] at ok
          cases ok.symm.trans ok'
          exact isOne
        | some condition =>
          exact mem_of_meetsCondition distinct isType isObject (named _ rfl) ok meets
      obtain ⟨r, selected, isFor''⟩ := ih asks of
        (fun x hx => sound x (within (List.mem_append_left _ hx))) isFor'
      exact ⟨r, .inline mem place selected, isFor''⟩
  | @spread _ _ _ name directives fragment mem left found meets next ih =>
    have within := surveyFragments_subset s known p mem
    obtain unknown | ⟨f', found'⟩ := Option.eq_none_or_eq_some (fragmentNamed? known name)
    · rw [surveyFragments_unknown unknown] at within
      obtain ⟨y, hy⟩ := sound _ (within List.mem_cons_self)
      cases hy
    · cases (of name f' found').symm.trans found
      rw [surveyFragments_spread found'] at within
      cases place : spreadPlace s p fragment directives with
      | error e =>
        rw [place] at within
        obtain ⟨y, hy⟩ := sound _ (within List.mem_cons_self)
        cases hy
      | ok q =>
        rw [place] at within
        obtain ⟨t, named, inside⟩ := inside_spreadPlace place
        have isFor' : q.IsFor s object := inside.isFor isFor fun types ok =>
          mem_of_meetsCondition distinct isType isObject named ok meets
        obtain ⟨r, selected, isFor''⟩ := ih asks ((known_otherFragments known name).trans of)
          (fun x hx => sound x (within (List.mem_append_left _ hx))) isFor'
        exact ⟨r, .spread mem found place selected, isFor''⟩

end QueryShape.Generation
