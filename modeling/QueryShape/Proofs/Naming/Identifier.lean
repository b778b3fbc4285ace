import Mathlib
import QueryShape.Letter.Identifier
import QueryShape.Proofs.Document.Names
import QueryShape.Proofs.Naming.Leaf

/-!
# Names that can be used

A name of generated code can be used if it is an identifier, no reserved word, and not private to
the classes that it is used in. Each kind of name is looked at: those of operations, selections,
types, accessors and parameters, as they come from names of schemas and documents.

* `isName_iff`: a name of a schema or document is a word that no digit leads.
* `isUsable_operation_iff`, `isUsable_of_isCapitalized`, `isUsable_typeClassName_iff`: the names of
  the classes of operations, selections and types.
* `isUsable_accessor_iff`: an accessor can be used unless too many underscores have been taken away.
* `isUsable_parameter_iff`: a parameter can be used unless it is private.
-/

namespace QueryShape.Naming

/-! ## Usable names -/

/-- A name that is another inside classes: two underscores lead it, and it does not end in two. -/
def IsPrivate (name : String) : Prop :=
  ['_', '_'] <+: name.toList ∧ ¬ ['_', '_'] <:+ name.toList

instance (name : String) : Decidable (IsPrivate name) :=
  inferInstanceAs (Decidable (_ ∧ _))

/-- A name that generated code can have wherever it has an identifier. -/
structure IsUsable (name : String) : Prop where
  identifier : Letter.isIdentifier name = true
  free : name ∉ keywords
  shared : ¬ IsPrivate name

/-- Something leads the text, and it is no digit. -/
def IsLed (cs : List Char) : Prop := ∃ c rest, cs = c :: rest ∧ c.isDigit = false

theorem startsIdentifier_eq {c : Char} (h : IsWordChar c) :
    Letter.startsIdentifier c = !c.isDigit :=
  forall_isWordChar (p := fun c => Letter.startsIdentifier c = !c.isDigit) (by decide) h

theorem continuesIdentifier_of_isWordChar {c : Char} (h : IsWordChar c) :
    Letter.continuesIdentifier c = true :=
  forall_isWordChar (p := fun c => Letter.continuesIdentifier c = true) (by decide) h

/-- A word is an identifier exactly if it does not begin with a digit, and there is something in
it. -/
theorem isIdentifier_iff {name : String} (word : IsWord name.toList) :
    Letter.isIdentifier name = true ↔ IsLed name.toList := by
  unfold Letter.isIdentifier IsLed
  cases chars : name.toList with
  | nil => simp
  | cons c rest =>
    rw [chars] at word
    obtain ⟨first, others⟩ := List.forall_mem_cons.mp word
    have continues : rest.all Letter.continuesIdentifier = true :=
      List.all_eq_true.mpr fun x hx => continuesIdentifier_of_isWordChar (others x hx)
    simp [startsIdentifier_eq first, continues]

theorem startsName_iff {c : Char} :
    Document.startsName c = true ↔ IsWordChar c ∧ c.isDigit = false := by
  constructor
  · intro starts
    have word : IsWordChar c := by
      unfold Document.startsName at starts
      unfold IsWordChar Char.isAlphanum
      grind
    exact ⟨word, forall_isWordChar
      (p := fun c => Document.startsName c = true → c.isDigit = false) (by decide) word starts⟩
  · rintro ⟨word, plain⟩
    exact forall_isWordChar
      (p := fun c => c.isDigit = false → Document.startsName c = true) (by decide) word plain

/-- A name is a word that no digit leads. -/
theorem isName_iff {text : String} :
    Document.IsName text ↔ IsWord text.toList ∧ IsLed text.toList := by
  unfold Document.IsName
  constructor
  · rintro ⟨c, rest, chars, starts, continues⟩
    obtain ⟨first, plain⟩ := startsName_iff.mp starts
    rw [chars]
    exact ⟨List.forall_mem_cons.mpr ⟨first, List.all_eq_true.mp continues⟩, c, rest, rfl, plain⟩
  · rintro ⟨word, c, rest, chars, plain⟩
    rw [chars] at word
    obtain ⟨first, others⟩ := List.forall_mem_cons.mp word
    exact ⟨c, rest, chars, startsName_iff.mpr ⟨first, plain⟩, List.all_eq_true.mpr others⟩

theorem keywords_spec : ∀ k ∈ keywords, k.toList ≠ [] ∧ IsWord k.toList ∧ '_' ∉ k.toList ∧
    (k.toList.head?.any Char.isDigit) = false := by
  decide

theorem isLed_of_keyword {name : String} (h : name ∈ keywords) : IsLed name.toList := by
  obtain ⟨some, -, -, first⟩ := keywords_spec name h
  obtain ⟨c, rest, eq⟩ := List.exists_cons_of_ne_nil some
  rw [eq] at first
  exact ⟨c, rest, eq, by simpa using first⟩

theorem not_isPrivate_of_keyword {name : String} (h : name ∈ keywords) : ¬ IsPrivate name :=
  fun isPrivate => (keywords_spec name h).2.2.1 (isPrivate.1.subset List.mem_cons_self)

/-! ## Members -/

/-- A member is private exactly if the name that it gets its own from is. -/
theorem isPrivate_memberName_iff {name : String} :
    IsPrivate (memberName name) ↔ IsPrivate name := by
  unfold memberName
  split
  · next keyword =>
    refine iff_of_false ?_ (not_isPrivate_of_keyword keyword)
    obtain ⟨c, rest, chars, -⟩ := isLed_of_keyword keyword
    rintro ⟨leads, -⟩
    rw [String.toList_append, chars] at leads
    refine (keywords_spec name keyword).2.2.1 ?_
    rw [chars, (List.cons_prefix_cons.mp leads).1]
    exact List.mem_cons_self
  · rfl

/-- No reserved word ends in an underscore. -/
theorem append_underscore_not_mem_keywords (name : String) : name ++ "_" ∉ keywords :=
  fun keyword => (keywords_spec _ keyword).2.2.1 (by simp)

/-- No member has the name of a reserved word. -/
theorem memberName_not_mem_keywords (name : String) : memberName name ∉ keywords := by
  unfold memberName
  split
  · exact append_underscore_not_mem_keywords name
  · next free => exact free

theorem isIdentifier_memberName_iff {name : String} (word : IsWord name.toList) :
    Letter.isIdentifier (memberName name) = true ↔ IsLed name.toList := by
  unfold memberName
  split
  · next keyword =>
    have led := isLed_of_keyword keyword
    refine iff_of_true ?_ led
    obtain ⟨c, rest, chars, first⟩ := led
    refine (isIdentifier_iff ?_).mpr ⟨c, rest ++ ['_'], ?_, first⟩
    · have mark : IsWord "_".toList := by decide
      rw [String.toList_append]
      exact List.forall_mem_append.mpr ⟨word, mark⟩
    · rw [String.toList_append, chars]
      rfl
  · exact isIdentifier_iff word

/-- **A member can be used** exactly if there is something in its name, which no digit leads, and it
is not private. -/
theorem isUsable_memberName_iff {name : String} (word : IsWord name.toList) :
    IsUsable (memberName name) ↔ IsLed name.toList ∧ ¬ IsPrivate name := by
  rw [← isIdentifier_memberName_iff word, ← isPrivate_memberName_iff.not]
  exact ⟨fun usable => ⟨usable.identifier, usable.shared⟩,
    fun ⟨identifier, shared⟩ => ⟨identifier, memberName_not_mem_keywords name, shared⟩⟩

/-- Two names give one name for a member: one is the other, or a reserved word of which the other is
the form with an underscore. -/
def SameMember (a b : String) : Prop :=
  a = b ∨ (a ∈ keywords ∧ b = a ++ "_") ∨ (b ∈ keywords ∧ a = b ++ "_")

/-- **When two members have one name.** -/
theorem memberName_eq_iff (a b : String) : memberName a = memberName b ↔ SameMember a b := by
  have marked := append_underscore_not_mem_keywords
  unfold memberName SameMember
  by_cases ha : a ∈ keywords
  · rw [if_pos ha]
    by_cases hb : b ∈ keywords
    · rw [if_pos hb, String.append_left_inj]
      refine ⟨Or.inl, ?_⟩
      rintro (same | ⟨-, rfl⟩ | ⟨-, rfl⟩)
      · exact same
      · exact absurd hb (marked a)
      · exact absurd ha (marked b)
    · rw [if_neg hb]
      refine ⟨fun same => Or.inr (Or.inl ⟨ha, same.symm⟩), ?_⟩
      rintro (rfl | ⟨-, same⟩ | ⟨keyword, -⟩)
      · exact absurd ha hb
      · exact same.symm
      · exact absurd keyword hb
  · rw [if_neg ha]
    by_cases hb : b ∈ keywords
    · rw [if_pos hb]
      refine ⟨fun same => Or.inr (Or.inr ⟨hb, same⟩), ?_⟩
      rintro (rfl | ⟨keyword, -⟩ | ⟨-, same⟩)
      · exact absurd hb ha
      · exact absurd keyword ha
      · exact same
    · rw [if_neg hb]
      exact ⟨Or.inl, fun h => h.resolve_right (by simp [ha, hb])⟩

/-! ## Names of classes -/

/-- A word that a capital leads. -/
structure IsCapitalized (name : String) : Prop where
  word : IsWord name.toList
  capital : ∃ c rest, name.toList = c :: rest ∧ c.isUpper = true

theorem isUpper_spec {c : Char} (word : IsWordChar c) (h : c.isUpper = true) :
    c.isDigit = false ∧ c ≠ '_' :=
  forall_isWordChar (p := fun c => c.isUpper = true → c.isDigit = false ∧ c ≠ '_') (by decide)
    word h

theorem isUsable_iff_of_isCapitalized {name : String} (h : IsCapitalized name) :
    IsUsable name ↔ name ∉ keywords := by
  obtain ⟨c, rest, chars, upper⟩ := h.capital
  have word := h.word
  obtain ⟨first, other⟩ := isUpper_spec (word c (chars ▸ List.mem_cons_self)) upper
  refine ⟨fun usable => usable.free, fun free => ⟨?_, free, ?_⟩⟩
  · exact (isIdentifier_iff word).mpr ⟨c, rest, chars, first⟩
  · rintro ⟨leads, -⟩
    rw [chars] at leads
    exact other (List.cons_prefix_cons.mp leads).1.symm

theorem isCapitalized_of_isOperationName {name : String} (h : isOperationName name = true) :
    IsCapitalized name := by
  unfold isOperationName at h
  split at h
  · next c d rest chars =>
    rw [Bool.and_eq_true, List.all_eq_true] at h
    refine ⟨?_, c, _, chars, h.1⟩
    rw [chars]
    refine List.forall_mem_cons.mpr ⟨?_, fun x hx => h.2 x hx⟩
    unfold IsWordChar Char.isAlphanum Char.isAlpha
    rw [h.1]
    rfl
  · cases h

/-- **The class of an operation can be used** unless the operation is named like a constant. -/
theorem isUsable_operation_iff {name : String} (h : isOperationName name = true) :
    IsUsable name ↔ name ∉ ["False", "None", "True"] := by
  have capitalized := isCapitalized_of_isOperationName h
  have constants : ∀ k ∈ keywords, k.toList.head?.any Char.isUpper = true →
      k ∈ ["False", "None", "True"] := by decide
  have keyword : ∀ k ∈ ["False", "None", "True"], k ∈ keywords := by decide
  rw [isUsable_iff_of_isCapitalized capitalized]
  refine not_congr ⟨fun mem => constants name mem ?_, keyword name⟩
  obtain ⟨c, rest, chars, upper⟩ := capitalized.capital
  rw [chars]
  exact upper

theorem isWordChar_toUpper {c : Char} (h : IsWordChar c) : IsWordChar c.toUpper :=
  forall_isWordChar (p := fun c => IsWordChar c.toUpper) (by decide) h

theorem isWord_capitalize {cs : List Char} (word : IsWord cs) : IsWord (Letter.capitalize cs) := by
  cases cs with
  | nil => exact word
  | cons c rest =>
    obtain ⟨first, others⟩ := List.forall_mem_cons.mp word
    rw [Letter.capitalize, Letter.titleChar, if_pos (toNat_lt_of_isWordChar first),
      lowerFrom_eq_map others]
    exact List.forall_mem_cons.mpr ⟨isWordChar_toUpper first, isWord_map_toLower others⟩

theorem isWord_pascalCase {name : String} (word : IsWord name.toList) :
    IsWord (pascalCase name).toList := by
  unfold pascalCase
  rw [String.toList_ofList]
  intro c hc
  obtain ⟨part, mem, inside⟩ := List.mem_flatMap.mp hc
  refine isWord_capitalize (fun x hx => ?_) c inside
  have whole : x ∈ (splitUnderscores (snakeChars name.toList)).flatten :=
    List.mem_flatten.mpr ⟨part, mem, hx⟩
  rw [flatten_splitUnderscores] at whole
  exact isWord_snakeChars word x (List.mem_filter.mp whole).1

/-- The class of a selection is named like that of another class with two underscores and a word
after it. -/
theorem toList_leafClassName (parent : String) {alias? : Option String} {field : String}
    (key : ∀ key, alias? = some key → IsWord key.toList) (word : IsWord field.toList) :
    ∃ tail, (leafClassName parent alias? field).toList = parent.toList ++ '_' :: '_' :: tail ∧
      IsWord tail := by
  have fieldWord := isWord_pascalCase word
  cases alias? with
  | none => exact ⟨_, by simp [leafClassName], fieldWord⟩
  | some k =>
    refine ⟨(pascalCase k).toList ++ '_' :: (pascalCase field).toList, by simp [leafClassName], ?_⟩
    exact List.forall_mem_append.mpr
      ⟨isWord_pascalCase (key k rfl), List.forall_mem_cons.mpr ⟨rfl, fieldWord⟩⟩

theorem IsCapitalized.leafClassName {parent : String} (h : IsCapitalized parent)
    {alias? : Option String} {field : String} (key : ∀ key, alias? = some key → IsWord key.toList)
    (word : IsWord field.toList) : IsCapitalized (leafClassName parent alias? field) := by
  obtain ⟨tail, chars, isWord⟩ := toList_leafClassName parent key word
  obtain ⟨c, rest, parentChars, upper⟩ := h.capital
  refine ⟨?_, c, rest ++ '_' :: '_' :: tail, by rw [chars, parentChars]; rfl, upper⟩
  rw [chars]
  exact List.forall_mem_append.mpr
    ⟨h.word, List.forall_mem_cons.mpr ⟨rfl, List.forall_mem_cons.mpr ⟨rfl, isWord⟩⟩⟩

theorem underscore_mem_leafClassName (parent : String) (alias? : Option String) (field : String) :
    '_' ∈ (leafClassName parent alias? field).toList := by
  unfold leafClassName
  cases alias? <;> simp

/-- **The class of a selection can be used.** -/
theorem isUsable_of_isCapitalized {name : String} (h : IsCapitalized name)
    (mem : '_' ∈ name.toList) : IsUsable name :=
  (isUsable_iff_of_isCapitalized h).mpr fun keyword => (keywords_spec name keyword).2.2.1 mem

theorem toList_introspection (rest : List Char) :
    ("Introspection" ++ String.ofList rest).toList = "Introspection".toList ++ rest := by
  simp

/-- The class of a type of introspection has a capital in front. -/
theorem isCapitalized_introspection {rest : List Char} (word : IsWord rest) :
    IsCapitalized ("Introspection" ++ String.ofList rest) := by
  refine ⟨?_, 'I', _, by rw [toList_introspection]; rfl, rfl⟩
  rw [toList_introspection]
  have first : IsWord "Introspection".toList := by decide
  exact List.forall_mem_append.mpr ⟨first, word⟩

theorem isLed_of_isCapitalized {name : String} (h : IsCapitalized name) : IsLed name.toList := by
  obtain ⟨c, rest, chars, upper⟩ := h.capital
  exact ⟨c, rest, chars, (isUpper_spec (h.word c (chars ▸ List.mem_cons_self)) upper).1⟩

/-- The class of a type is a word that no digit leads, if the name of the type is. -/
theorem word_typeClassName {name : String} (word : IsWord name.toList) (led : IsLed name.toList) :
    IsWord (typeClassName name).toList ∧ IsLed (typeClassName name).toList := by
  unfold typeClassName
  split
  · next rest chars =>
    rw [chars] at word
    have capitalized := isCapitalized_introspection fun c mem =>
      word c (List.mem_cons_of_mem _ (List.mem_cons_of_mem _ mem))
    exact ⟨capitalized.word, isLed_of_isCapitalized capitalized⟩
  · exact ⟨word, led⟩

/-- **The class of a type can be used** unless the type is named like a reserved word. -/
theorem isUsable_typeClassName_iff {name : String} (word : IsWord name.toList)
    (led : IsLed name.toList) : IsUsable (typeClassName name) ↔ name ∉ keywords := by
  unfold typeClassName
  split
  · next rest chars =>
    rw [chars] at word
    have capitalized := isCapitalized_introspection fun c mem =>
      word c (List.mem_cons_of_mem _ (List.mem_cons_of_mem _ mem))
    rw [isUsable_iff_of_isCapitalized capitalized]
    refine iff_of_true (fun keyword => ?_) fun keyword => ?_
    · have long : ∀ k ∈ keywords, k.toList.length < "Introspection".toList.length := by decide
      have := long _ keyword
      rw [toList_introspection, List.length_append] at this
      omega
    · refine (keywords_spec name keyword).2.2.1 ?_
      rw [chars]
      exact List.mem_cons_self
  · next plain =>
    refine ⟨fun usable => usable.free, fun free => ⟨(isIdentifier_iff word).mpr led, free, ?_⟩⟩
    rintro ⟨⟨rest, eq⟩, -⟩
    exact plain rest eq.symm

/-! ## Names in snake case -/

theorem isDigit_toLower {c : Char} (h : IsWordChar c) : c.toLower.isDigit = c.isDigit :=
  forall_isWordChar (p := fun c => c.toLower.isDigit = c.isDigit) (by decide) h

theorem head?_markWords (cs : List Char) : (markWords cs).head? = cs.head? := by
  cases cs using markWords.fun_cases with
  | case1 c u l rest h => rw [markWords, if_pos h]; rfl
  | case2 c u l rest h => rw [markWords, if_neg h]; rfl
  | case3 rest h =>
    rw [markWords]
    exact h

theorem head?_markCapitals (cs : List Char) : (markCapitals cs).head? = cs.head? := by
  cases cs using markCapitals.fun_cases with
  | case1 a b rest h => rw [markCapitals, if_pos h]; rfl
  | case2 a b rest h => rw [markCapitals, if_neg h]; rfl
  | case3 rest h =>
    rw [markCapitals]
    exact h

/-- The snake-case form begins with the small form of the first letter. -/
theorem head?_snakeChars {cs : List Char} (word : IsWord cs) :
    (snakeChars cs).head? = cs.head?.map Char.toLower := by
  unfold snakeChars
  rw [lower_eq_map (isWord_marked word), List.head?_map, head?_markCapitals, head?_markWords]

/-- Nothing comes in between an underscore and what is no capital. -/
theorem snakeChars_underscore {d : Char} {rest : List Char} (word : IsWord (d :: rest))
    (plain : d.isUpper = false) :
    snakeChars ('_' :: d :: rest) = '_' :: snakeChars (d :: rest) := by
  have marked : markWords ('_' :: d :: rest) = '_' :: markWords (d :: rest) := by
    cases rest with
    | nil => simp [markWords]
    | cons l rest => rw [markWords, if_neg (by simp [plain])]
  have cut (xs : List Char) : markCapitals ('_' :: xs) = '_' :: markCapitals xs := by
    cases xs with
    | nil => simp [markCapitals]
    | cons x xs => rw [markCapitals, if_neg (by simp [Char.isLower, Char.isDigit])]
  have whole : IsWord ('_' :: d :: rest) := List.forall_mem_cons.mpr ⟨rfl, word⟩
  unfold snakeChars
  rw [lower_eq_map (isWord_marked whole), lower_eq_map (isWord_marked word), marked, cut]
  rfl

/-- What comes after the underscores at the beginning is the first letter or digit. -/
theorem isLed_dropWhile_iff {cs : List Char} (word : IsWord cs) :
    IsLed (cs.dropWhile (· == '_')) ↔ IsLed (letters cs) := by
  induction cs with
  | nil => simp [IsLed, letters]
  | cons c rest ih =>
    obtain ⟨first, others⟩ := List.forall_mem_cons.mp word
    by_cases same : c = '_'
    · rw [List.dropWhile_cons_of_pos (by simp [same]), ih others]
      unfold letters
      rw [List.filter_cons_of_neg (by simp [same])]
    · rw [List.dropWhile_cons_of_neg (by simp [same])]
      unfold letters IsLed
      rw [List.filter_cons_of_pos (by simp [same]), List.map_cons]
      simp [isDigit_toLower first]

theorem isLed_dropWhile_snakeChars {cs : List Char} (word : IsWord cs) :
    IsLed ((snakeChars cs).dropWhile (· == '_')) ↔ IsLed (cs.dropWhile (· == '_')) := by
  rw [isLed_dropWhile_iff (isWord_snakeChars word), letters_snakeChars word,
    isLed_dropWhile_iff word]

theorem isLed_snakeChars {cs : List Char} (word : IsWord cs) (led : IsLed cs) :
    IsLed (snakeChars cs) := by
  obtain ⟨c, rest, rfl, plain⟩ := led
  have head := head?_snakeChars word
  obtain ⟨tail, eq⟩ := List.head?_eq_some_iff.mp head
  exact ⟨_, tail, eq, (isDigit_toLower (word c List.mem_cons_self)).trans plain⟩

/-! ## Names of parameters -/

/-- **A parameter can be used** unless it is private. -/
theorem isUsable_parameter_iff {name : String} (word : IsWord name.toList)
    (led : IsLed name.toList) :
    IsUsable (memberName (snakeCase name)) ↔ ¬ IsPrivate (snakeCase name) := by
  have chars : (snakeCase name).toList = snakeChars name.toList := String.toList_ofList
  rw [isUsable_memberName_iff (chars ▸ isWord_snakeChars word), chars]
  exact and_iff_right (isLed_snakeChars word led)

/-! ## Names of accessors -/

/-- A response key that two underscores lead, with nothing or a digit after all that do. -/
def IsNameless (key : String) : Prop :=
  ['_', '_'] <+: key.toList ∧ ¬ IsLed (key.toList.dropWhile (· == '_'))

theorem not_isPrivate_of_dropWhile {name : String} {cs : List Char}
    (h : name.toList = cs.dropWhile (· == '_')) : ¬ IsPrivate name := by
  rintro ⟨⟨rest, eq⟩, -⟩
  have head := List.head?_dropWhile_not (· == '_') cs
  rw [← h, ← eq] at head
  simp at head

/-- A key that is led by two underscores in snake case only is led by one and a letter. -/
theorem isLed_of_snakeChars {cs : List Char} (word : IsWord cs) (led : IsLed cs)
    (two : ['_', '_'] <+: snakeChars cs) (one : ¬ ['_', '_'] <+: cs) :
    IsLed (cs.dropWhile (· == '_')) := by
  obtain ⟨c, rest, rfl, plain⟩ := led
  obtain ⟨tail, eq⟩ := two
  have head := head?_snakeChars word
  rw [← eq] at head
  have small : '_' = c.toLower := by simpa using head
  have same := (toLower_eq_underscore (word c List.mem_cons_self)).mp small.symm
  subst same
  rw [List.dropWhile_cons_of_pos rfl]
  cases rest with
  | nil =>
    have alone : snakeChars ['_'] = ['_'] := by cbv
    rw [alone] at eq
    simp at eq
  | cons d rest =>
    have other : d ≠ '_' := by
      rintro rfl
      exact one ⟨rest, rfl⟩
    rw [List.dropWhile_cons_of_neg (by simpa using other)]
    refine ⟨d, rest, rfl, ?_⟩
    by_contra digit
    have wordRest : IsWord (d :: rest) := fun x hx => word x (List.mem_cons_of_mem _ hx)
    have small : d.isUpper = false := by
      by_contra upper
      exact digit (isUpper_spec (wordRest d List.mem_cons_self) (by simpa using upper)).1
    rw [snakeChars_underscore wordRest small] at eq
    have next := head?_snakeChars wordRest
    rw [← (List.cons.inj eq).2] at next
    have isUnderscore : '_' = d.toLower := by simpa using next
    exact other ((toLower_eq_underscore (wordRest d List.mem_cons_self)).mp isUnderscore.symm)

/-- Two underscores lead the snake-case form of what they lead. -/
theorem two_snakeChars {rest : List Char} (word : IsWord ('_' :: '_' :: rest)) :
    ['_', '_'] <+: snakeChars ('_' :: '_' :: rest) := by
  have tail : IsWord ('_' :: rest) := fun x hx => word x (List.mem_cons_of_mem _ hx)
  obtain ⟨more, eq⟩ := List.head?_eq_some_iff.mp (head?_snakeChars tail)
  rw [snakeChars_underscore tail (by decide), eq]
  exact ⟨more, rfl⟩

/-- **An accessor can be used** unless its response key has nothing to name it after. -/
theorem isUsable_accessor_iff {key name : String} (word : IsWord key.toList)
    (led : IsLed key.toList) (h : accessorName? key = .ok name) :
    IsUsable name ↔ ¬ IsNameless key := by
  have snake := isWord_snakeChars word
  have named : memberName (bareAccessorName key) = name := by
    unfold accessorName? at h
    dsimp only at h
    split at h
    · cases h
    · exact Except.ok.inj h
  rw [← named]
  by_cases two : ['_', '_'] <+: snakeChars key.toList
  · have chars : (bareAccessorName key).toList =
        (snakeChars key.toList).dropWhile (· == '_') := by
      obtain ⟨rest, eq⟩ := two
      unfold bareAccessorName
      rw [← eq]
      exact String.toList_ofList
    have kept : IsWord (bareAccessorName key).toList := fun c hc => by
      rw [chars] at hc
      exact snake c ((List.dropWhile_sublist _).mem hc)
    rw [isUsable_memberName_iff kept, and_iff_left (not_isPrivate_of_dropWhile chars), chars,
      isLed_dropWhile_snakeChars word]
    unfold IsNameless
    by_cases leads : ['_', '_'] <+: key.toList
    · simp [leads]
    · simp [leads, isLed_of_snakeChars word led two leads]
  · have chars : (bareAccessorName key).toList = snakeChars key.toList := by
      unfold bareAccessorName
      dsimp only
      split
      · next rest eq => exact absurd ⟨rest, eq.symm⟩ two
      · exact String.toList_ofList
    have shared : ¬ IsPrivate (bareAccessorName key) := fun isPrivate =>
      two (chars ▸ isPrivate.1)
    rw [isUsable_memberName_iff (chars ▸ snake), chars]
    refine iff_of_true ⟨isLed_snakeChars word led, shared⟩ ?_
    rintro ⟨⟨rest, eq⟩, -⟩
    rw [← eq] at word two
    exact two (two_snakeChars word)

example : accessorName? "__1" = .ok "1" := by cbv

end QueryShape.Naming
