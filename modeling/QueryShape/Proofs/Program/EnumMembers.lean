import QueryShape.Proofs.Program.Usable

/-!
# Enum classes

The class of an enum type has a member for each value of the type, named like the value, or like it
with an underscore if that is a reserved word. A type is refused if a value is named like what enum
classes have, or if underscores lead and end it. Nothing else is looked at.

* `Faithful`: what is to be expected of the class of an enum type.
* `faithful_iff`: which of the enum types that are accepted have such a class.
* `unfaithful_enums`: accepted enum types that have none.
-/

namespace QueryShape.Program

open Code Document Generation Naming Record Run Session Thing

variable {e : Record.Enum} {t : TypeDefinition} {name v : String}

/-! ## Names of members -/

/-- A name that is private to an enum class is led by an underscore. -/
theorem led_of_isPrivate {className : String} (h : isPrivate className name = true) :
    ['_'] <+: name.toList := by
  unfold isPrivate at h
  simp only [Bool.and_eq_true] at h
  obtain ⟨rest, eq⟩ := String.startsWith_string_iff.mp h.1.2
  rw [← eq, String.toList_append, String.toList_append]
  exact ⟨_, rfl⟩

/-- A name that no underscore leads is kept from members only if enum classes have it. -/
theorem isReservedValue_of_not_led (h : ¬ ['_'] <+: name.toList) :
    isReservedValue name = decide (name ∈ Generation.enumMembers) := by
  have plain : name.startsWith "_" = false :=
    Bool.eq_false_iff.mpr fun leads => h (String.startsWith_string_iff.mp leads)
  unfold isReservedValue
  rw [plain, Bool.false_and, Bool.or_false]

/-- No underscore leads a reserved word, whatever comes after that. -/
theorem not_led_of_keyword (keyword : name ∈ keywords) (after : String) :
    ¬ ['_'] <+: (name ++ after).toList := by
  obtain ⟨some, -, plain, -⟩ := keywords_spec name keyword
  obtain ⟨c, tail, chars⟩ := List.exists_cons_of_ne_nil some
  intro leads
  rw [String.toList_append, chars] at leads
  refine plain ?_
  rw [chars, (List.cons_prefix_cons.mp leads).1]
  exact List.mem_cons_self

/-- A member is private to an enum class exactly if its value is. -/
theorem isPrivate_memberName (className name : String) :
    isPrivate className (memberName name) = isPrivate className name := by
  unfold memberName
  split
  · next keyword =>
    have bare := String.append_empty ▸ not_led_of_keyword keyword ""
    have marked := not_led_of_keyword keyword "_"
    rw [Bool.eq_false_iff.mpr fun h => bare (led_of_isPrivate h),
      Bool.eq_false_iff.mpr fun h => marked (led_of_isPrivate h)]
  · rfl

/-- A member is named like what enum classes have exactly if its value is. -/
theorem isReservedValue_memberName (name : String) :
    isReservedValue (memberName name) = isReservedValue name := by
  unfold memberName
  split
  · next keyword =>
    have bare := String.append_empty ▸ not_led_of_keyword keyword ""
    have free : ∀ k ∈ keywords,
        (k ++ "_" ∈ Generation.enumMembers ↔ k ∈ Generation.enumMembers) := by decide
    rw [isReservedValue_of_not_led bare,
      isReservedValue_of_not_led (not_led_of_keyword keyword "_")]
    exact decide_eq_decide.mpr (free name keyword)
  · rfl

theorem memberName_eq_mro_iff : memberName name = "mro" ↔ name = "mro" := by
  have free : "mro" ∉ keywords := by decide
  have same : memberName "mro" = "mro" := if_neg free
  refine ⟨fun eq => ?_, fun eq => eq ▸ same⟩
  rcases (memberName_eq_iff name "mro").mp (eq.trans same.symm) with eq | ⟨-, eq⟩ | ⟨keyword, -⟩
  · exact eq
  · have last := congrArg (fun text : String => text.toList.getLast?) eq
    simp at last
  · exact absurd keyword free

/-- **Members have names of their own** exactly if no value is that of a reserved word with an
underscore. -/
theorem nodup_memberNames_iff {values : List String} (distinct : values.Nodup) :
    (values.map memberName).Nodup ↔ ∀ k ∈ keywords, k ∈ values → k ++ "_" ∉ values := by
  constructor
  · intro nodup k keyword mem marked
    have same : memberName k = memberName (k ++ "_") :=
      (memberName_eq_iff k _).mpr (Or.inr (Or.inl ⟨keyword, rfl⟩))
    have eq := List.inj_on_of_nodup_map nodup mem marked same
    exact append_underscore_not_mem_keywords k (eq ▸ keyword)
  · intro apart
    refine distinct.map_on fun a ha b hb same => ?_
    rcases (memberName_eq_iff a b).mp same with eq | ⟨keyword, rfl⟩ | ⟨keyword, rfl⟩
    · exact eq
    · exact absurd hb (apart a keyword ha)
    · exact absurd ha (apart b keyword hb)

/-! ## Members of classes -/

theorem mem_enumMembers : (name, v) ∈ enumMembers e ↔
    v ∈ e.values ∧ name = nameInside e.name (memberName v) ∧ isPrivate e.name name = false := by
  unfold enumMembers
  simp only [List.mem_filter, List.mem_map, Prod.mk.injEq, Bool.not_eq_true']
  constructor
  · rintro ⟨⟨v, mem, rfl, rfl⟩, isOpen⟩
    exact ⟨mem, rfl, isOpen⟩
  · rintro ⟨mem, rfl, isOpen⟩
    exact ⟨⟨v, mem, rfl, rfl⟩, isOpen⟩

/-- The text of a member is read as the member. -/
theorem enumMember_of_mem (mem : (name, v) ∈ enumMembers e) :
    enumMember e (.text v) = .ok (.enumMember e.name name v) := by
  have some : ((enumMembers e).find? (·.2 == v)).isSome = true :=
    List.find?_isSome.mpr ⟨_, mem, by simp⟩
  obtain ⟨⟨other, w⟩, found⟩ := Option.isSome_iff_exists.mp some
  have same : w = v := by simpa using List.find?_some found
  subst same
  -- what is found may be another member of the text, but the text gives both their name
  obtain ⟨-, named, -⟩ := mem_enumMembers.mp mem
  obtain ⟨-, named', -⟩ := mem_enumMembers.mp (List.mem_of_find?_eq_some found)
  simp only [enumMember, found]
  rw [named, named']

/-- Each value has a member that is named after it exactly if no name is another inside the class,
or private to it. -/
theorem enumMembers_eq_iff : enumMembers e = e.values.map (fun v => (memberName v, v)) ↔
    ∀ v ∈ e.values, (IsPrivate v → ∀ c ∈ e.name.toList, c = '_') ∧ isPrivate e.name v = false := by
  have kept (v : String) : nameInside e.name (memberName v) = memberName v ↔
      (IsPrivate v → ∀ c ∈ e.name.toList, c = '_') := by
    rw [nameInside_eq_iff, isPrivate_memberName_iff, imp_iff_not_or]
  constructor
  · intro eq v mem
    have isMember : (memberName v, v) ∈ enumMembers e := eq ▸ List.mem_map_of_mem mem
    obtain ⟨-, inside, isOpen⟩ := mem_enumMembers.mp isMember
    exact ⟨(kept v).mp inside.symm, isPrivate_memberName e.name v ▸ isOpen⟩
  · intro all
    have names : e.values.map (fun v => (nameInside e.name (memberName v), v)) =
        e.values.map fun v => (memberName v, v) :=
      List.map_congr_left fun v mem => by rw [(kept v).mpr (all v mem).1]
    unfold enumMembers
    rw [names, List.filter_eq_self]
    intro m mem
    obtain ⟨v, isValue, rfl⟩ := List.mem_map.mp mem
    rw [isPrivate_memberName, (all v isValue).2]
    rfl

/-- The members of a class are made if they have names of their own, and none is called `mro`. -/
theorem makeMembers_enum (e : Record.Enum) : makeMembers (.tool .enum) e =
    if ¬ ((enumMembers e).map (·.1)).Nodup then .error .wrongType
    else if "mro" ∈ (enumMembers e).map (·.1) then .error .wrongValue
    else .ok () := by
  have isEnum : ¬ (Thing.tool .enum).ancestor? ≠ some .enum := fun other => other rfl
  unfold makeMembers
  rw [if_neg isEnum]
  simp only [Bool.not_eq_true', decide_eq_false_iff_not, List.contains_iff_mem]

/-! ## Faithful classes -/

/-- The class of an enum record. -/
def enumClass (e : Record.Enum) : Thing := .generated (.enum e) (.tool .enum)

/-- The members of the class, as values. -/
def membersOf (e : Record.Enum) : List Value :=
  (enumMembers e).map fun m => .enumMember e.name m.1 m.2

/-- A name that no member can have: enum classes have it, it is the one other name that they refuse,
or it is private to the class. -/
def IsKept (className name : String) : Prop :=
  isReservedValue name = true ∨ name = "mro" ∨ isPrivate className name = true

/-- The class of an enum record is what the values ask for. -/
structure Faithful (e : Record.Enum) : Prop where
  /-- The class can be written. -/
  usable : IsUsable e.name
  /-- It can be defined. -/
  defined : afterClass supporting (.enum e) = .ok ((e.name, enumClass e) :: supporting)
  /-- It has one member for each value, named after that. -/
  members : enumMembers e = e.values.map fun v => (memberName v, v)
  distinct : (e.values.map memberName).Nodup
  valid : ∀ v ∈ e.values, Letter.isIdentifier (memberName v) = true ∧ memberName v ∉ keywords
  unreserved : ∀ v ∈ e.values, ¬ IsKept e.name (memberName v)
  /-- It has the methods that read values and send members. -/
  methods : (enumClass e).member "deserialize" = .ok (.function (enumMember e)) ∧
    (enumClass e).member "serialize" = .ok (.function sentMember)
  /-- A value is read as the member that is sent as the value. -/
  reads : ∀ v ∈ e.values, ∃ m ∈ membersOf e,
    enumMember e (.text v) = .ok m ∧ sentMember m = .ok (.text v)
  /-- A member is sent as the value that is read as the member. -/
  sends : ∀ m ∈ membersOf e, ∃ v ∈ e.values,
    sentMember m = .ok (.text v) ∧ enumMember e (.text v) = .ok m

/-- A class is defined once its members have been made. -/
theorem afterClass_enum (e : Record.Enum) : afterClass supporting (.enum e) =
    (makeMembers (.tool .enum) e).map fun _ => (e.name, enumClass e) :: supporting := by
  change Except.bind (makeMembers (.tool .enum) e) _ = _
  cases makeMembers (.tool .enum) e <;> rfl

/-- The record of an enum type. -/
def enumRecord (t : TypeDefinition) : Record.Enum where
  name := typeClassName t.name
  graphqlType := t.name
  values := t.values

/-- An enum type and its values have names of the query language, each value one of its own. -/
structure EnumNamed (t : TypeDefinition) : Prop where
  type : IsName t.name
  values : ∀ v ∈ t.values, IsName v
  distinct : t.values.Nodup

/-- What is not looked at when the class of an enum type is made. -/
structure KeepsMembers (t : TypeDefinition) : Prop where
  /-- The class is not named like a reserved word. -/
  type : t.name ∉ keywords
  /-- No value is named like the one other member that enum classes refuse. -/
  mro : "mro" ∉ t.values
  /-- No value is a reserved word with an underscore, where the word is one. -/
  apart : ∀ k ∈ keywords, k ∈ t.values → k ++ "_" ∉ t.values
  /-- No value is another inside the class. -/
  shared : ∀ v ∈ t.values, IsPrivate v → ∀ c ∈ (typeClassName t.name).toList, c = '_'
  /-- No value is private to the class. -/
  isOpen : ∀ v ∈ t.values, isPrivate (typeClassName t.name) v = false

/-- The class has its members once none of that stands in the way. -/
theorem KeepsMembers.faithful (named : EnumNamed t) (free : t.values.find? isReservedValue = none)
    (keeps : KeepsMembers t) : Faithful (enumRecord t) := by
  have members : enumMembers (enumRecord t) = t.values.map fun v => (memberName v, v) :=
    enumMembers_eq_iff.mpr fun v mem => ⟨keeps.shared v mem, keeps.isOpen v mem⟩
  have names : (enumMembers (enumRecord t)).map (·.1) = t.values.map memberName := by
    rw [members, List.map_map]
    rfl
  have distinct := (nodup_memberNames_iff named.distinct).mpr keeps.apart
  have isMember (v : String) (mem : v ∈ t.values) :
      (memberName v, v) ∈ enumMembers (enumRecord t) := members ▸ List.mem_map_of_mem mem
  have mro : "mro" ∉ t.values.map memberName := fun mem => by
    obtain ⟨v, isValue, eq⟩ := List.mem_map.mp mem
    exact keeps.mro (memberName_eq_mro_iff.mp eq ▸ isValue)
  refine ⟨?_, ?_, members, distinct, fun v mem => ⟨?_, memberName_not_mem_keywords v⟩,
    fun v mem => ?_, ⟨rfl, rfl⟩, fun v mem => ?_, fun m mem => ?_⟩
  · exact (isUsable_typeClassName_iff (isWordChar_of_isName named.type)
      (isLed_of_isName named.type)).mpr keeps.type
  · rw [afterClass_enum, makeMembers_enum, names, if_neg (not_not_intro distinct), if_neg mro]
    rfl
  · have isName := named.values v mem
    exact (isIdentifier_memberName_iff (isWordChar_of_isName isName)).mpr (isLed_of_isName isName)
  · rintro (reserved | isMro | isPrivate)
    · rw [isReservedValue_memberName] at reserved
      exact List.find?_eq_none.mp free v mem reserved
    · exact mro (List.mem_map.mpr ⟨v, mem, isMro⟩)
    · rw [isPrivate_memberName] at isPrivate
      exact absurd isPrivate (by simp [enumRecord, keeps.isOpen v mem])
  · exact ⟨_, List.mem_map_of_mem (isMember v mem), enumMember_of_mem (isMember v mem), rfl⟩
  · obtain ⟨⟨name, v⟩, inside, rfl⟩ := List.mem_map.mp mem
    exact ⟨v, (mem_enumMembers.mp inside).1, rfl, enumMember_of_mem inside⟩

/-- **When the class of an accepted enum type is faithful.** -/
theorem faithful_iff_keepsMembers (named : EnumNamed t)
    (free : t.values.find? isReservedValue = none) :
    Faithful (enumRecord t) ↔ KeepsMembers t := by
  refine ⟨fun faithful => ?_, KeepsMembers.faithful named free⟩
  have inside := enumMembers_eq_iff.mp faithful.members
  refine ⟨?_, fun mro => ?_, (nodup_memberNames_iff named.distinct).mp faithful.distinct,
    fun v mem => (inside v mem).1, fun v mem => (inside v mem).2⟩
  · exact (isUsable_typeClassName_iff (isWordChar_of_isName named.type)
      (isLed_of_isName named.type)).mp faithful.usable
  · exact faithful.unreserved "mro" mro (Or.inr (Or.inl (memberName_eq_mro_iff.mpr rfl)))

/-! ## Sessions -/

/-- The enum types of a schema have names of the query language, and so have their values. -/
def EnumsNamed (s : Schema) : Prop := ∀ t ∈ s.types, t.kind = .enum → EnumNamed t

/-- An enum type is accepted if no value is named like what enum classes have. The class is then
registered with all values. -/
theorem registered_of_accepted {s s' : Generation.Session} (fresh : t.name ∉ s.enums)
    (accepted : (registerEnum t).outcome s = (.ok (), s')) :
    t.values.find? isReservedValue = none ∧ .enum (enumRecord t) ∈ s'.registry.records := by
  have ends : (registerEnum t).Ends s (fun _ s' => t.values.find? isReservedValue = none ∧
      .enum (enumRecord t) ∈ s'.registry.records) fun _ => True := by
    unfold registerEnum
    refine ends_bind (ends_get ?_)
    rw [if_neg fresh]
    refine ends_bind (ends_pure ?_)
    split
    · exact ends_throw trivial
    · next free =>
      refine ends_bind ((ends_register _).imp ?_ fun _ _ => trivial)
      rintro - s' ⟨-, records, -⟩
      refine ends_modify ⟨free, ?_⟩
      change _ ∈ s'.registry.records
      rw [records]
      exact List.mem_append_right _ (List.mem_singleton.mpr rfl)
  exact ends.of_ok accepted

/-- **Which enum types have a faithful class**, among those that are accepted, and among those that
have a class in a session. -/
theorem faithful_iff (calls : List (Generator × Declaration)) :
    (∀ t s s', EnumNamed t → t.name ∉ s.enums → (registerEnum t).outcome s = (.ok (), s') →
      .enum (enumRecord t) ∈ s'.registry.records ∧
        (Faithful (enumRecord t) ↔ KeepsMembers t)) ∧
    ((∀ g d, (g, d) ∈ calls → EnumsNamed g.schema) →
      ∀ e, .enum e ∈ (after {} calls).registry.records → ∃ g d t, (g, d) ∈ calls ∧
        g.schema.type? t.name = some t ∧ t.kind = .enum ∧ e = enumRecord t ∧
          (Faithful e ↔ KeepsMembers t)) := by
  constructor
  · intro t s s' named fresh accepted
    obtain ⟨free, registered⟩ := registered_of_accepted fresh accepted
    exact ⟨registered, faithful_iff_keepsMembers named free⟩
  · intro named e registered
    obtain ⟨g, d, s, call, makes⟩ := exists_makes_after calls registered nofun
    cases makes with
    | enum found kind free =>
      have isNamed := named g d call _ (List.mem_of_find?_eq_some found) kind
      exact ⟨g, d, _, call, found, kind, rfl, faithful_iff_keepsMembers isNamed free⟩

/-! ## Enum types that are accepted -/

/-- An enum type with the values. -/
def choiceType (values : List String) : TypeDefinition where
  name := "E"
  body := .enum (values.map fun v => { name := v })

/-- A schema with a field of the type. -/
def choiceSchema (values : List String) : Schema where
  types :=
    [{ name := "Query", body := .object [] [{ name := "a", type := .named "E" }] },
     choiceType values]
  query? := some "Query"

/-- A generator for the schema that checks documents. -/
def choiceGenerator (values : List String) : Generator := { schema := choiceSchema values }

/-- A document that selects the field. -/
def choosing : Declaration where
  text := "query Qa\x7ba\x7d"

def choosingOperation : Operation where
  kind := .query
  name? := some "Qa"
  selections := [.field { name := "a" } []]

def choosingDocument : Document := [.operation choosingOperation]

def choosingRequest : Request where
  operations := [("Qa", choosingOperation)]
  fragments := []
  queryText := Document.print (Document.addTypename choosingDocument)

/-- A reserved word, the member that enum classes refuse, a reserved word with and without an
underscore, and a name that is private to the class. -/
def choices : List (List String) :=
  [["A", "None"], ["A", "mro"], ["None", "None_"], ["A", "_E__x"]]

variable {values : List String}

section Validation

open Validation

theorem validate_choosing (h : values ∈ choices) :
    (choiceGenerator values).schema.validate choosingDocument = .complaints [] := by
  change (choiceSchema values).validate choosingDocument = _
  have sound : (choiceSchema values).isSound = true := by
    fin_cases h
    all_goals cbv
  have read : (visits (choiceSchema values) choosingDocument).all
      (fun v => (unreadAt? ⟨choiceSchema values, choosingDocument⟩ v).isNone) = true := by
    fin_cases h
    all_goals cbv
  have silent : complaintsAt ⟨choiceSchema values, choosingDocument⟩
      (visits (choiceSchema values) choosingDocument) = [] := by
    unfold complaintsAt
    generalize comparisonLimit (visits (choiceSchema values) choosingDocument) = limit
    fin_cases h
    all_goals cbv
  exact validate_of_silent sound read silent

end Validation

theorem outcome_choosing (h : values ∈ choices) : ∃ s : Generation.Session,
    ((choiceGenerator values).generate choosing).outcome {} = (.ok (), s) ∧
      .enum (enumRecord (choiceType values)) ∈ s.registry.records := by
  have read : readDocument ((choiceGenerator values).hooks.runBefore choosing) =
      .ok choosingDocument := by cbv
  have names : namedOperations choosingDocument = .ok [("Qa", choosingOperation)] := by cbv
  have asked : (choiceGenerator values).asks choosing = .ok choosingRequest :=
    asks_of_valid read names (validate_choosing h)
  have operations : choosingRequest.operations = [("Qa", choosingOperation)] := rfl
  have fragments : choosingRequest.fragments = [] := rfl
  rw [outcome_generate asked, operations, fragments]
  generalize choosingRequest.queryText = text
  refine ⟨_, Prod.ext ?_ rfl, List.mem_of_getElem? (i := 0) ?_⟩
  · fin_cases h
    all_goals cbv
  · fin_cases h
    all_goals cbv

theorem enumNamed_choice (h : values ∈ choices) : EnumNamed (choiceType values) where
  type := show IsName "E" from ⟨'E', [], rfl, rfl, rfl⟩
  values := by
    have each : ∀ v ∈ choices.flatten, IsName v := by
      intro v mem
      have spelled : v.toList.head?.any startsName = true ∧
          v.toList.tail.all continuesName = true := by
        fin_cases mem
        all_goals decide
      cases chars : v.toList with
      | nil => simp [chars] at spelled
      | cons c rest => exact ⟨c, rest, chars, by simpa [chars] using spelled⟩
    have inside : (choiceType values).values = values := by
      fin_cases h
      all_goals rfl
    exact fun v mem => each v (List.mem_flatten.mpr ⟨values, h, inside ▸ mem⟩)
  distinct := by
    fin_cases h
    all_goals decide

theorem enumsNamed_choice (h : values ∈ choices) : EnumsNamed (choiceSchema values) := by
  intro t mem kind
  rcases List.mem_cons.mp mem with rfl | mem
  · cases kind
  · cases List.mem_singleton.mp mem
    exact enumNamed_choice h

/-- The type with a reserved word has a faithful class. -/
theorem faithful_iff_choice :
    EnumNamed (choiceType ["A", "None"]) ∧
    ((registerEnum (choiceType ["A", "None"])).outcome {}).1 = .ok () ∧
    EnumsNamed (choiceSchema ["A", "None"]) ∧
    .enum (enumRecord (choiceType ["A", "None"])) ∈
      (after {} [(choiceGenerator ["A", "None"], choosing)]).registry.records ∧
    Faithful (enumRecord (choiceType ["A", "None"])) ∧
    ∃ t, enumRecord (choiceType ["A", "None"]) = enumRecord t ∧ KeepsMembers t := by
  have choice : ["A", "None"] ∈ choices := List.mem_cons_self
  have named := enumNamed_choice choice
  have accepted : ((registerEnum (choiceType ["A", "None"])).outcome {}).1 = .ok () := by cbv
  have keeps : KeepsMembers (choiceType ["A", "None"]) := by
    refine ⟨by decide, by decide, by decide, by decide, fun v mem => ?_⟩
    fin_cases mem
    all_goals cbv
  obtain ⟨types, sessions⟩ := faithful_iff [(choiceGenerator ["A", "None"], choosing)]
  have faithful : Faithful (enumRecord (choiceType ["A", "None"])) :=
    (types _ {} _ named List.not_mem_nil (Prod.ext accepted rfl)).2.mpr keeps
  obtain ⟨s, outcome, mem⟩ := outcome_choosing choice
  have reached : after {} [(choiceGenerator ["A", "None"], choosing)] = s :=
    congrArg Prod.snd outcome
  have enums : ∀ g d, (g, d) ∈ [(choiceGenerator ["A", "None"], choosing)] →
      EnumsNamed g.schema := by
    intro g d call
    cases List.mem_singleton.mp call
    exact enumsNamed_choice choice
  obtain ⟨g, d, t, -, -, -, eq, iff⟩ := sessions enums _ (reached ▸ mem)
  exact ⟨named, accepted, enumsNamed_choice choice, reached ▸ mem, faithful, t, eq,
    iff.mp faithful⟩

/-- **Accepted enum types without a faithful class.** With the member that enum classes refuse, or
with two values that have one member, the class cannot be defined. With a value that is private to
the class, it has no member for that. -/
theorem unfaithful_enums :
    (∀ values ∈ choices.tail, (choiceGenerator values).validates = true ∧
      EnumNamed (choiceType values) ∧ Succeeds {} (choiceGenerator values) choosing ∧
      .enum (enumRecord (choiceType values)) ∈
        (after {} [(choiceGenerator values, choosing)]).registry.records ∧
      ¬ Faithful (enumRecord (choiceType values))) ∧
    afterClass supporting (.enum (enumRecord (choiceType ["A", "mro"]))) = .error .wrongValue ∧
    afterClass supporting (.enum (enumRecord (choiceType ["None", "None_"]))) =
      .error .wrongType ∧
    enumMember (enumRecord (choiceType ["A", "_E__x"])) (.text "_E__x") = .error .wrongValue := by
  refine ⟨fun values h => ?_, ?_, ?_, ?_⟩
  · have choice := List.mem_of_mem_tail h
    obtain ⟨s, outcome, mem⟩ := outcome_choosing choice
    have reached : after {} [(choiceGenerator values, choosing)] = s := congrArg Prod.snd outcome
    refine ⟨rfl, enumNamed_choice choice, congrArg Prod.fst outcome, reached ▸ mem, ?_⟩
    intro faithful
    have free : (choiceType values).values.find? isReservedValue = none := by
      fin_cases h
      all_goals cbv
    have keeps := (faithful_iff_keepsMembers (enumNamed_choice choice) free).mp faithful
    fin_cases h
    · exact keeps.mro (by decide)
    · exact keeps.apart "None" (by decide) (by decide) (by decide)
    · have isOpen := keeps.isOpen "_E__x" (by decide)
      have closed : isPrivate (typeClassName "E") "_E__x" = true := by cbv
      exact Bool.false_ne_true (isOpen.symm.trans closed)
  · have members : enumMembers (enumRecord (choiceType ["A", "mro"])) =
        [("A", "A"), ("mro", "mro")] := by cbv
    rw [afterClass_enum, makeMembers_enum, members]
    rfl
  · have members : enumMembers (enumRecord (choiceType ["None", "None_"])) =
        [("None_", "None"), ("None_", "None_")] := by cbv
    rw [afterClass_enum, makeMembers_enum, members]
    rfl
  · cbv

end QueryShape.Program
