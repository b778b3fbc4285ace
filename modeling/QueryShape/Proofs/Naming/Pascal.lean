import QueryShape.Proofs.Naming.Accessor

/-!
# What pascal case keeps of a name

The pascal-case form of a name has no underscores. A capital tells that one stood before a letter,
so it is lost whether there was one at the beginning, before a digit, at the end or before another
underscore. What is kept are the marks: the letters and digits in small letters, and an underscore
before each letter that has one, but not at the beginning.

* `pascalCase_eq_iff`: two names have one pascal-case form exactly if their marks are the same.
* `leafClassName_eq_iff`: when two fields of one class have one name for the class under them.
* `marks_accessor`: the marks of a response key are those of its accessor.
-/

namespace QueryShape.Naming

/-! ## Marks -/

/-- A text without the underscores that no small letter follows. -/
def marksInside : List Char → List Char
  | [] => []
  | c :: rest =>
    if c = '_' ∧ ¬ rest.head?.any Char.isLower then marksInside rest else c :: marksInside rest

/-- What the capitals of the pascal-case form tell of the underscores in a text. -/
def marks (cs : List Char) : List Char := marksInside (cs.dropWhile (· == '_'))

theorem marksInside_underscore {c : Char} {rest : List Char} :
    marksInside ('_' :: c :: rest) =
      if c.isLower then '_' :: marksInside (c :: rest) else marksInside (c :: rest) := by
  conv_lhs => rw [marksInside]
  by_cases small : c.isLower <;> simp [small]

theorem marksInside_cons {c : Char} {rest : List Char} (h : c ≠ '_') :
    marksInside (c :: rest) = c :: marksInside rest := by
  simp [marksInside, h]

theorem marks_underscore (rest : List Char) : marks ('_' :: rest) = marks rest := by
  unfold marks
  rw [List.dropWhile_cons_of_pos rfl]

theorem marks_cons {c : Char} {rest : List Char} (h : c ≠ '_') :
    marks (c :: rest) = c :: marksInside rest := by
  unfold marks
  rw [List.dropWhile_cons_of_neg (by simpa using h), marksInside_cons h]

/-! ## Small letters -/

/-- Letters, digits and underscores without capitals. -/
def IsSmall (cs : List Char) : Prop := ∀ c ∈ cs, IsWordChar c ∧ c.toLower = c

instance (cs : List Char) : Decidable (IsSmall cs) :=
  List.decidableBAll (fun c => IsWordChar c ∧ c.toLower = c) cs

theorem isSmall_snakeChars {cs : List Char} (word : IsWord cs) : IsSmall (snakeChars cs) := by
  intro c hc
  refine ⟨isWord_snakeChars word c hc, ?_⟩
  unfold snakeChars at hc
  rw [lower_eq_map (isWord_marked word)] at hc
  obtain ⟨x, hx, rfl⟩ := List.mem_map.mp hc
  exact toLower_toLower (isWord_marked word x hx)

/-- A small letter becomes a capital, and a digit stays as it is. -/
theorem toUpper_spec {c : Char} (h : IsWordChar c) (small : c.toLower = c) (other : c ≠ '_') :
    c.isUpper = false ∧ c.toUpper.toLower = c ∧ c.toUpper.isUpper = c.isLower ∧
      (c.isLower = false → c.toUpper = c) :=
  forall_isWordChar (p := fun c => c.toLower = c ∧ c ≠ '_' → c.isUpper = false ∧
    c.toUpper.toLower = c ∧ c.toUpper.isUpper = c.isLower ∧
    (c.isLower = false → c.toUpper = c)) (by decide) h ⟨small, other⟩

/-! ## Words joined by capitals -/

/-- A text in small letters without its underscores, with a capital after each, and one at the
beginning if that is asked for. -/
def joinWords : (capital : Bool) → List Char → List Char
  | _, [] => []
  | capital, c :: rest =>
    if c = '_' then joinWords true rest
    else (if capital then c.toUpper else c) :: joinWords false rest

theorem joinWords_underscore (capital : Bool) (rest : List Char) :
    joinWords capital ('_' :: rest) = joinWords true rest := if_pos rfl

theorem joinWords_cons (capital : Bool) {c : Char} (h : c ≠ '_') (rest : List Char) :
    joinWords capital (c :: rest) =
      (if capital then c.toUpper else c) :: joinWords false rest := if_neg h

theorem capitalize_cons {c : Char} {rest : List Char} (small : IsSmall (c :: rest)) :
    Letter.capitalize (c :: rest) = c.toUpper :: rest := by
  obtain ⟨⟨first, -⟩, others⟩ := List.forall_mem_cons.mp small
  have kept : rest.map Char.toLower = rest :=
    (List.map_congr_left fun x hx => (others x hx).2).trans (List.map_id' rest)
  rw [Letter.capitalize, Letter.titleChar, if_pos (toNat_lt_of_isWordChar first),
    lowerFrom_eq_map fun x hx => (others x hx).1, kept]
  rfl

/-- The words of a text in small letters, each with a capital, are the text joined by capitals. -/
theorem joinWords_eq {cs : List Char} (small : IsSmall cs) : ∃ word words,
    splitUnderscores cs = word :: words ∧
    joinWords false cs = word ++ words.flatMap Letter.capitalize ∧
    joinWords true cs = Letter.capitalize word ++ words.flatMap Letter.capitalize := by
  induction cs with
  | nil => exact ⟨[], [], rfl, rfl, rfl⟩
  | cons c rest ih =>
    obtain ⟨first, others⟩ := List.forall_mem_cons.mp small
    obtain ⟨word, words, split, plain, capital⟩ := ih others
    by_cases mark : c = '_'
    · subst mark
      -- what comes after an underscore has a capital, so both forms are needed of the rest
      refine ⟨[], word :: words, by rw [splitUnderscores, if_pos rfl, split], ?_, ?_⟩
      · rw [joinWords_underscore, capital]
        rfl
      · rw [joinWords_underscore, capital]
        rfl
    · have inside : IsSmall (c :: word) := by
        refine List.forall_mem_cons.mpr ⟨first, fun x hx => others x ?_⟩
        have whole : x ∈ (splitUnderscores rest).flatten :=
          List.mem_flatten.mpr ⟨word, split ▸ List.mem_cons_self, hx⟩
        rw [flatten_splitUnderscores] at whole
        exact (List.mem_filter.mp whole).1
      refine ⟨c :: word, words, by rw [splitUnderscores, if_neg mark, split], ?_, ?_⟩
      · rw [joinWords_cons false mark, plain]
        rfl
      · rw [joinWords_cons true mark, plain, capitalize_cons inside]
        rfl

/-- The pascal-case form of a word is its snake-case form joined by capitals. -/
theorem toList_pascalCase {name : String} (word : IsWord name.toList) :
    (pascalCase name).toList = joinWords true (snakeChars name.toList) := by
  obtain ⟨first, words, split, -, joined⟩ := joinWords_eq (isSmall_snakeChars word)
  unfold pascalCase
  rw [String.toList_ofList, split, joined]
  rfl

/-! ## Capitals told apart -/

/-- A text with each capital as a small letter after an underscore. -/
def spellCapitals (cs : List Char) : List Char :=
  cs.flatMap fun c => if c.isUpper then ['_', c.toLower] else [c]

theorem spellCapitals_cons (c : Char) (rest : List Char) : spellCapitals (c :: rest) =
    (if c.isUpper then ['_', c.toLower] else [c]) ++ spellCapitals rest := rfl

/-- The capitals of a joined text tell which underscores stood before letters. -/
theorem spellCapitals_joinWords {cs : List Char} (small : IsSmall cs) :
    spellCapitals (joinWords false cs) = marksInside cs ∧
      spellCapitals (joinWords true cs) = marksInside ('_' :: cs) := by
  induction cs with
  | nil => exact ⟨rfl, rfl⟩
  | cons c rest ih =>
    obtain ⟨⟨first, isSmall⟩, others⟩ := List.forall_mem_cons.mp small
    obtain ⟨plain, capital⟩ := ih others
    rw [marksInside_underscore]
    by_cases mark : c = '_'
    · subst mark
      rw [joinWords_underscore, joinWords_underscore, capital]
      exact ⟨rfl, rfl⟩
    · obtain ⟨notUpper, lowers, uppers, same⟩ := toUpper_spec first isSmall mark
      rw [joinWords_cons false mark, joinWords_cons true mark, spellCapitals_cons,
        spellCapitals_cons, plain, marksInside_cons mark]
      refine ⟨by simp [notUpper], ?_⟩
      cases letter : c.isLower with
      | true => simp [uppers, letter, lowers]
      | false => simp [same letter, notUpper]

/-- The marks of a text in small letters, read off the text joined by capitals. -/
def unjoined : List Char → List Char
  | [] => []
  | c :: rest => c.toLower :: spellCapitals rest

theorem unjoined_joinWords {cs : List Char} (small : IsSmall cs) :
    unjoined (joinWords true cs) = marks cs := by
  induction cs with
  | nil => rfl
  | cons c rest ih =>
    obtain ⟨⟨first, isSmall⟩, others⟩ := List.forall_mem_cons.mp small
    by_cases mark : c = '_'
    · rw [mark, joinWords_underscore, marks_underscore]
      exact ih others
    · obtain ⟨-, lowers, -, -⟩ := toUpper_spec first isSmall mark
      rw [joinWords_cons true mark, marks_cons mark, unjoined, if_pos rfl, lowers,
        (spellCapitals_joinWords others).1]

/-! ## Marks suffice -/

/-- It makes no difference to ask for a capital where no letter comes. -/
theorem joinWords_of_no_letter {cs : List Char} (small : IsSmall cs)
    (h : ¬ cs.head?.any Char.isLower) (capital : Bool) :
    joinWords capital cs = joinWords true cs := by
  cases cs with
  | nil => rfl
  | cons c rest =>
    obtain ⟨⟨first, isSmall⟩, -⟩ := List.forall_mem_cons.mp small
    by_cases mark : c = '_'
    · rw [mark, joinWords_underscore, joinWords_underscore]
    · have same := (toUpper_spec first isSmall mark).2.2.2 (by simpa using h)
      rw [joinWords_cons capital mark, joinWords_cons true mark, same, ite_self, ite_self]

theorem joinWords_marksInside {cs : List Char} (small : IsSmall cs) (capital : Bool) :
    joinWords capital (marksInside cs) = joinWords capital cs := by
  induction cs generalizing capital with
  | nil => rfl
  | cons c rest ih =>
    have others := (List.forall_mem_cons.mp small).2
    rw [marksInside]
    split
    · next dropped =>
      obtain ⟨rfl, noLetter⟩ := dropped
      rw [ih others, joinWords_underscore]
      exact joinWords_of_no_letter others noLetter capital
    · by_cases mark : c = '_'
      · rw [mark, joinWords_underscore, joinWords_underscore, ih others]
      · rw [joinWords_cons capital mark, joinWords_cons capital mark, ih others]

theorem joinWords_marks {cs : List Char} (small : IsSmall cs) :
    joinWords true (marks cs) = joinWords true cs := by
  induction cs with
  | nil => rfl
  | cons c rest ih =>
    by_cases mark : c = '_'
    · rw [mark, marks_underscore, joinWords_underscore]
      exact ih (List.forall_mem_cons.mp small).2
    · have inside : marks (c :: rest) = marksInside (c :: rest) := by
        rw [marks_cons mark, marksInside_cons mark]
      rw [inside]
      exact joinWords_marksInside small true

/-- **Two names have one pascal-case form exactly if their marks are the same.** -/
theorem pascalCase_eq_iff {name name' : String} (word : IsWord name.toList)
    (word' : IsWord name'.toList) : pascalCase name = pascalCase name' ↔
      marks (snakeChars name.toList) = marks (snakeChars name'.toList) := by
  have small := isSmall_snakeChars word
  have small' := isSmall_snakeChars word'
  rw [← String.toList_inj, toList_pascalCase word, toList_pascalCase word']
  constructor
  · intro same
    rw [← unjoined_joinWords small, ← unjoined_joinWords small', same]
  · intro same
    rw [← joinWords_marks small, ← joinWords_marks small', same]

/-! ## Accessors -/

theorem marks_dropWhile (cs : List Char) : marks (cs.dropWhile (· == '_')) = marks cs := by
  unfold marks
  rw [List.dropWhile_idempotent]

/-- An underscore at the end says nothing. -/
theorem marks_append_underscore (cs : List Char) : marks (cs ++ ['_']) = marks cs := by
  have inside (cs : List Char) : marksInside (cs ++ ['_']) = marksInside cs := by
    induction cs with
    | nil => rfl
    | cons c rest ih =>
      cases rest with
      | nil => by_cases mark : c = '_' <;> simp [marksInside, mark]
      | cons d rest =>
        rw [List.cons_append, marksInside, ih]
        rfl
  induction cs with
  | nil => rfl
  | cons c rest ih =>
    by_cases mark : c = '_'
    · rw [mark, List.cons_append, marks_underscore, marks_underscore, ih]
    · rw [List.cons_append, marks_cons mark, marks_cons mark, inside]

/-- **The marks of a response key are those of its accessor.** -/
theorem marks_accessor {key name : String} (h : accessorName? key = .ok name) :
    marks name.toList = marks (snakeChars key.toList) := by
  obtain ⟨-, rfl⟩ := eq_memberName_of_accessorName? h
  have bare : marks (bareAccessorName key).toList = marks (snakeChars key.toList) := by
    rcases bareAccessorName_cases key with ⟨-, eq⟩ | ⟨-, eq⟩
    · rw [eq, marks_dropWhile]
    · rw [eq]
  unfold memberName
  split
  · rw [String.toList_append, ← bare]
    exact marks_append_underscore _
  · exact bare

/-! ## Classes under fields -/

/-- **When two fields of one class have one name for the class under them**: both have an alias or
neither, and the pascal-case forms of aliases and names are the same. -/
theorem leafClassName_eq_iff (parent : String) {alias? alias?' : Option String}
    {field field' : String} :
    leafClassName parent alias? field = leafClassName parent alias?' field' ↔
      alias?.map pascalCase = alias?'.map pascalCase ∧ pascalCase field = pascalCase field' := by
  have free (name : String) : '_' ∉ (pascalCase name).toList := not_mem_pascalCase name
  have marked (key name : String) :
      '_' ∈ (pascalCase key).toList ++ '_' :: (pascalCase name).toList :=
    List.mem_append_right _ List.mem_cons_self
  rw [← String.toList_inj]
  unfold leafClassName
  cases alias? with
  | none =>
    cases alias?' with
    | none => simp [String.toList_inj]
    | some key' =>
      refine iff_of_false (fun same => free field ?_) (by simp)
      have same : (pascalCase field).toList =
          (pascalCase key').toList ++ '_' :: (pascalCase field').toList := by simpa using same
      exact same ▸ marked _ _
  | some key =>
    cases alias?' with
    | none =>
      refine iff_of_false (fun same => free field' ?_) (by simp)
      have same : (pascalCase key).toList ++ '_' :: (pascalCase field).toList =
          (pascalCase field').toList := by simpa using same
      exact same ▸ marked _ _
    | some key' =>
      have split : (pascalCase key).toList ++ '_' :: (pascalCase field).toList =
          (pascalCase key').toList ++ '_' :: (pascalCase field').toList ↔
          (pascalCase key).toList = (pascalCase key').toList ∧
            (pascalCase field).toList = (pascalCase field').toList := by
        constructor
        · intro same
          have cut := congrArg (List.splitOn '_') same
          rw [List.splitOn_append_cons_self, List.splitOn_append_cons_self,
            List.splitOn_eq_singleton (free key), List.splitOn_eq_singleton (free key'),
            List.splitOn_eq_singleton (free field), List.splitOn_eq_singleton (free field')] at cut
          simpa using cut
        · rintro ⟨keys, fields⟩
          rw [keys, fields]
      simpa [← String.toList_inj] using split

end QueryShape.Naming
