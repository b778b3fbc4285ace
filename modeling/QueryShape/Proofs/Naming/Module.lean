import Mathlib
import QueryShape.Naming

/-!
# What module names keep of class names

A module name has the letters and digits of the class name, in small letters; underscores come and
go. So two classes can only share a module if their names are the same but for underscores and
capitals.

* `letters_snakeChars`: the snake-case form of a word has the letters of the word.
* `letters_moduleName`: so has the name of its module.
* `isWord_moduleName`: which is a word again.
-/

namespace QueryShape.Naming

/-! ## Words -/

/-- A letter, digit or underscore, as the names of schemas and documents have them. -/
def IsWordChar (c : Char) : Prop := c.isAlphanum || c == '_'

/-- Letters, digits and underscores. -/
def IsWord (cs : List Char) : Prop := ∀ c ∈ cs, IsWordChar c

/-- The letters and digits of a text, in small letters. -/
def letters (cs : List Char) : List Char := (cs.filter (· ≠ '_')).map Char.toLower

instance (c : Char) : Decidable (IsWordChar c) := inferInstanceAs (Decidable (_ = true))

instance (cs : List Char) : Decidable (IsWord cs) := List.decidableBAll IsWordChar cs

theorem toNat_lt_of_isWordChar {c : Char} (h : IsWordChar c) : c.toNat < 0x80 := by
  simp only [IsWordChar, Char.isAlphanum, Char.isAlpha, Char.isUpper, Char.isLower, Char.isDigit,
    Bool.or_eq_true, Bool.and_eq_true, decide_eq_true_eq, beq_iff_eq, UInt32.le_iff_toNat_le,
    ge_iff_le] at h
  have value : c.toNat = c.val.toNat := rfl
  have bigZ : 'Z'.val.toNat = 90 := rfl
  have smallZ : 'z'.val.toNat = 122 := rfl
  have nine : '9'.val.toNat = 57 := rfl
  rcases h with h | rfl
  · omega
  · decide

/-- What holds of the word characters of ASCII holds of all. -/
theorem forall_isWordChar {p : Char → Prop} (all : ∀ n < 0x80, IsWordChar (.ofNat n) → p (.ofNat n))
    {c : Char} (h : IsWordChar c) : p c := by
  have := all c.toNat (toNat_lt_of_isWordChar h)
  rw [Char.ofNat_toNat] at this
  exact this h

theorem isWordChar_toLower {c : Char} (h : IsWordChar c) : IsWordChar c.toLower :=
  forall_isWordChar (p := fun c => IsWordChar c.toLower) (by decide) h

theorem toLower_eq_underscore {c : Char} (h : IsWordChar c) : c.toLower = '_' ↔ c = '_' :=
  forall_isWordChar (p := fun c => c.toLower = '_' ↔ c = '_') (by decide) h

theorem toLower_toLower {c : Char} (h : IsWordChar c) : c.toLower.toLower = c.toLower :=
  forall_isWordChar (p := fun c => c.toLower.toLower = c.toLower) (by decide) h

/-- A word has no capitals beyond ASCII, so its letters become small one by one. -/
theorem lowerFrom_eq_map {cs : List Char} (h : IsWord cs) (behind : List Char) :
    Letter.lowerFrom behind cs = cs.map Char.toLower := by
  induction cs generalizing behind with
  | nil => rfl
  | cons c rest ih =>
    have ascii := toNat_lt_of_isWordChar (h c List.mem_cons_self)
    have noSigma : c ≠ 'Σ' := by
      rintro rfl
      exact absurd ascii (by decide)
    have tail : IsWord rest := fun x hx => h x (List.mem_cons_of_mem _ hx)
    simp only [Letter.lowerFrom, if_neg noSigma, Letter.lowerChar, if_pos ascii, ih tail,
      List.map_cons, List.singleton_append]

theorem lower_eq_map {cs : List Char} (h : IsWord cs) : Letter.lower cs = cs.map Char.toLower :=
  lowerFrom_eq_map h []

theorem isWord_map_toLower {cs : List Char} (h : IsWord cs) : IsWord (cs.map Char.toLower) := by
  intro c hc
  obtain ⟨x, hx, rfl⟩ := List.mem_map.mp hc
  exact isWordChar_toLower (h x hx)

theorem letters_map_toLower {cs : List Char} (h : IsWord cs) :
    letters (cs.map Char.toLower) = letters cs := by
  unfold letters
  rw [List.filter_map, List.map_map]
  have same : cs.filter ((fun c => decide (c ≠ '_')) ∘ Char.toLower) = cs.filter (· ≠ '_') := by
    refine List.filter_congr fun c hc => ?_
    simp only [Function.comp_apply, ne_eq, toLower_eq_underscore (h c hc)]
  rw [same]
  refine List.map_congr_left fun c hc => ?_
  exact toLower_toLower (h c (List.mem_filter.mp hc).1)

/-! ## Snake case -/

/-- Only underscores come in before words. -/
theorem filter_markWords (cs : List Char) :
    (markWords cs).filter (· ≠ '_') = cs.filter (· ≠ '_') := by
  induction cs using markWords.induct with
  | case1 c u l rest h ih =>
    have whole := congrArg (List.filter (· ≠ '_'))
      (List.takeWhile_append_dropWhile (p := Char.isLower) (l := rest))
    rw [List.filter_append] at whole
    rw [markWords, if_pos h]
    simp only [List.filter_cons, List.filter_append, ih, whole]
    simp
  | case2 c u l rest h ih =>
    rw [markWords, if_neg h]
    simp only [List.filter_cons, ih]
  | case3 rest h =>
    rw [markWords]
    exact h

/-- Only underscores come in between words. -/
theorem filter_markCapitals (cs : List Char) :
    (markCapitals cs).filter (· ≠ '_') = cs.filter (· ≠ '_') := by
  induction cs using markCapitals.induct with
  | case1 a b rest h ih =>
    rw [markCapitals, if_pos h]
    simp only [List.filter_cons, ih]
    simp
  | case2 a b rest h ih =>
    rw [markCapitals, if_neg h]
    simp only [List.filter_cons, ih]
  | case3 rest h =>
    rw [markCapitals]
    exact h

theorem isWord_iff_filter {cs : List Char} : IsWord cs ↔ IsWord (cs.filter (· ≠ '_')) := by
  constructor
  · exact fun h c hc => h c (List.mem_filter.mp hc).1
  · intro h c hc
    by_cases same : c = '_'
    · exact same ▸ rfl
    · exact h c (List.mem_filter.mpr ⟨hc, by simpa using same⟩)

theorem isWord_marked {cs : List Char} (h : IsWord cs) : IsWord (markCapitals (markWords cs)) := by
  rw [isWord_iff_filter, filter_markCapitals, filter_markWords]
  exact isWord_iff_filter.mp h

/-- **The snake-case form of a word is a word** with the same letters. -/
theorem isWord_snakeChars {cs : List Char} (h : IsWord cs) : IsWord (snakeChars cs) := by
  unfold snakeChars
  rw [lower_eq_map (isWord_marked h)]
  exact isWord_map_toLower (isWord_marked h)

theorem letters_snakeChars {cs : List Char} (h : IsWord cs) :
    letters (snakeChars cs) = letters cs := by
  unfold snakeChars
  rw [lower_eq_map (isWord_marked h), letters_map_toLower (isWord_marked h)]
  unfold letters
  rw [filter_markCapitals, filter_markWords]

/-! ## Module names -/

/-- Segments with double underscores between them. -/
def joined (parts : List (List Char)) : List Char := (parts.intersperse ['_', '_']).flatten

theorem joined_cons_cons (first second : List Char) (rest : List (List Char)) :
    joined (first :: second :: rest) = first ++ '_' :: '_' :: joined (second :: rest) := rfl

theorem joined_cons_head (c : Char) (first : List Char) (rest : List (List Char)) :
    joined ((c :: first) :: rest) = c :: joined (first :: rest) := by
  cases rest <;> rfl

theorem segments_ne_nil (cs : List Char) : segments cs ≠ [] := by
  induction cs using segments.induct with
  | case1 => exact List.cons_ne_nil _ _
  | case2 rest ih =>
    rw [segments]
    exact List.cons_ne_nil _ _
  | case3 c rest _ eq ih => exact absurd eq ih
  | case4 c rest plain part parts eq ih =>
    rw [segments.eq_3 c rest plain, eq]
    exact List.cons_ne_nil _ _

/-- A name is its segments joined. -/
theorem joined_segments (cs : List Char) : joined (segments cs) = cs := by
  induction cs using segments.induct with
  | case1 => rfl
  | case2 rest ih =>
    rw [segments]
    obtain ⟨part, parts, eq⟩ := List.exists_cons_of_ne_nil (segments_ne_nil rest)
    rw [eq] at ih ⊢
    rw [joined_cons_cons, ih, List.nil_append]
  | case3 c rest _ eq ih => exact absurd eq (segments_ne_nil rest)
  | case4 c rest plain part parts eq ih =>
    rw [eq] at ih
    rw [segments.eq_3 c rest plain, eq]
    exact (joined_cons_head c part parts).trans (congrArg _ ih)

theorem letters_append (xs ys : List Char) : letters (xs ++ ys) = letters xs ++ letters ys := by
  simp [letters]

theorem letters_joined (parts : List (List Char)) :
    letters (joined parts) = parts.flatMap letters := by
  induction parts with
  | nil => rfl
  | cons first rest ih =>
    cases rest with
    | nil => simp [joined]
    | cons second rest =>
      rw [joined_cons_cons, letters_append, List.flatMap_cons, ← ih]
      rfl

theorem isWord_joined {parts : List (List Char)} :
    IsWord (joined parts) ↔ ∀ p ∈ parts, IsWord p := by
  induction parts with
  | nil => simp [joined, IsWord]
  | cons first rest ih =>
    cases rest with
    | nil => simp [joined]
    | cons second rest =>
      have under : IsWordChar '_' := rfl
      rw [joined_cons_cons, List.forall_mem_cons, ← ih]
      simp only [IsWord, List.mem_append, List.mem_cons]
      constructor
      · exact fun h => ⟨fun c hc => h c (.inl hc), fun c hc => h c (.inr (.inr (.inr hc)))⟩
      · rintro ⟨hf, hr⟩ c (hc | rfl | rfl | hc)
        · exact hf c hc
        · exact under
        · exact under
        · exact hr c hc

theorem toList_moduleName (name : String) :
    (moduleName name).toList = joined ((segments name.toList).map snakeChars) := by
  rw [moduleName, String.toList_ofList]
  rfl

theorem isWord_of_mem_segments {name : String} (h : IsWord name.toList) :
    ∀ p ∈ segments name.toList, IsWord p := by
  rw [← isWord_joined, joined_segments]
  exact h

/-- **The name of a module is a word** if that of the class is. -/
theorem isWord_moduleName {name : String} (h : IsWord name.toList) :
    IsWord (moduleName name).toList := by
  rw [toList_moduleName, isWord_joined]
  intro p hp
  obtain ⟨part, hpart, rfl⟩ := List.mem_map.mp hp
  exact isWord_snakeChars (isWord_of_mem_segments h part hpart)

/-- **The name of a module has the letters of the class name.** -/
theorem letters_moduleName {name : String} (h : IsWord name.toList) :
    letters (moduleName name).toList = letters name.toList := by
  rw [toList_moduleName, letters_joined, List.flatMap_map]
  have same : (segments name.toList).flatMap (letters ∘ snakeChars) =
      (segments name.toList).flatMap letters :=
    List.flatMap_congr fun p hp => letters_snakeChars (isWord_of_mem_segments h p hp)
  exact same.trans ((letters_joined _).symm.trans (congrArg letters (joined_segments _)))

end QueryShape.Naming
