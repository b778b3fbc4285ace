import Mathlib
import QueryShape.Proofs.Naming.Module

/-!
# How the names of leaf classes come apart

The name of a leaf class is the name of an operation, then a segment for each field on the way. A
segment begins with two underscores and has another one only after an alias. Where no alias consists
of underscores alone, names can be taken apart in one way: what an operation's name and segments
have in common with those of another ends between segments.

* `not_mem_pascalCase`, `pascalCase_ne_nil`: the parts of a segment have no underscore, and there is
  something in them.
* `aligned_of_append_eq`: the one way.
* `prefix_of_append_eq`: what it takes for two operations to share the name of a class.
-/

namespace QueryShape.Naming

/-! ## Letters and underscores -/

theorem charOfNat_eq_underscore {n : Nat} (h : Char.ofNat n = '_') : n = 0x5F := by
  unfold Char.ofNat at h
  split at h
  · exact congrArg Char.toNat h
  · exact absurd h (by decide)

/-- No run of a table moves a character to the underscore. -/
def avoids (table : List Letter.Shift) : Prop :=
  ∀ s ∈ table, (0x5F : Int) < s.first + s.shift ∨ s.last + s.shift < 0x5F

instance (table : List Letter.Shift) : Decidable (avoids table) :=
  List.decidableBAll _ table

theorem avoids_lowerShifts : avoids Letter.lowerShifts := by decide +kernel

theorem avoids_titleShifts : avoids Letter.titleShifts := by decide +kernel

theorem shifted_ne_underscore {table : List Letter.Shift} (h : avoids table) {c : Char}
    (other : c ≠ '_') : Letter.shifted table c ≠ '_' := by
  unfold Letter.shifted
  split
  · next s found =>
    intro same
    have holds := List.find?_some found
    simp only [Letter.Shift.holds, Bool.and_eq_true, decide_eq_true_eq] at holds
    have := charOfNat_eq_underscore same
    have := h s (List.mem_of_find?_eq_some found)
    omega
  · exact other

theorem lowerChar_spec {c : Char} (other : c ≠ '_') :
    Letter.lowerChar c ≠ [] ∧ '_' ∉ Letter.lowerChar c := by
  unfold Letter.lowerChar
  split
  · next ascii =>
    have kept : ∀ n < 0x80, Char.ofNat n ≠ '_' → (Char.ofNat n).toLower ≠ '_' := by decide
    have small := kept c.toNat ascii
    rw [Char.ofNat_toNat] at small
    exact ⟨List.cons_ne_nil _ _, by simpa using (small other).symm⟩
  · split
    · exact ⟨List.cons_ne_nil _ _, by decide⟩
    · exact ⟨List.cons_ne_nil _ _,
        by simpa using (shifted_ne_underscore avoids_lowerShifts other).symm⟩

theorem titleExpansions_spec : ∀ e ∈ Letter.titleExpansions, e.2 ≠ [] ∧ 0x5F ∉ e.2 := by
  decide +kernel

theorem titleChar_spec {c : Char} (other : c ≠ '_') :
    Letter.titleChar c ≠ [] ∧ '_' ∉ Letter.titleChar c := by
  unfold Letter.titleChar
  split
  · next ascii =>
    have kept : ∀ n < 0x80, Char.ofNat n ≠ '_' → (Char.ofNat n).toUpper ≠ '_' := by decide
    have large := kept c.toNat ascii
    rw [Char.ofNat_toNat] at large
    exact ⟨List.cons_ne_nil _ _, by simpa using (large other).symm⟩
  · split
    · next codes found =>
      obtain ⟨before, after, eq, -⟩ := List.lookup_eq_some_iff.mp found
      obtain ⟨some, free⟩ := titleExpansions_spec (c.toNat, codes)
        (eq ▸ List.mem_append_right _ List.mem_cons_self)
      refine ⟨by simpa using some, fun mem => ?_⟩
      obtain ⟨n, hn, same⟩ := List.mem_map.mp mem
      exact free (charOfNat_eq_underscore same ▸ hn)
    · exact ⟨List.cons_ne_nil _ _,
        by simpa using (shifted_ne_underscore avoids_titleShifts other).symm⟩

/-- Putting a text in lower case makes no underscore. -/
theorem not_mem_lowerFrom {cs : List Char} (h : '_' ∉ cs) (behind : List Char) :
    '_' ∉ Letter.lowerFrom behind cs := by
  induction cs generalizing behind with
  | nil => exact List.not_mem_nil
  | cons c rest ih =>
    obtain ⟨other, later⟩ := not_or.mp (List.mem_cons.not.mp h)
    rw [Letter.lowerFrom, List.mem_append, not_or]
    refine ⟨?_, ih later _⟩
    split
    · split <;> decide
    · exact (lowerChar_spec (Ne.symm other)).2

theorem not_mem_capitalize {cs : List Char} (h : '_' ∉ cs) : '_' ∉ Letter.capitalize cs := by
  cases cs with
  | nil => exact List.not_mem_nil
  | cons c rest =>
    obtain ⟨other, later⟩ := not_or.mp (List.mem_cons.not.mp h)
    rw [Letter.capitalize, List.mem_append, not_or]
    exact ⟨(titleChar_spec (Ne.symm other)).2, not_mem_lowerFrom later _⟩

theorem capitalize_ne_nil {cs : List Char} (some : cs ≠ []) (h : '_' ∉ cs) :
    Letter.capitalize cs ≠ [] := by
  cases cs with
  | nil => exact absurd rfl some
  | cons c rest =>
    have other : c ≠ '_' := fun same => h (same ▸ List.mem_cons_self)
    rw [Letter.capitalize]
    exact List.append_ne_nil_of_left_ne_nil (titleChar_spec other).1 _

/-- Something other than underscores stays something other. -/
theorem exists_lowerFrom {cs : List Char} (h : ∃ c ∈ cs, c ≠ '_') (behind : List Char) :
    ∃ c ∈ Letter.lowerFrom behind cs, c ≠ '_' := by
  induction cs generalizing behind with
  | nil => simp at h
  | cons c rest ih =>
    rw [Letter.lowerFrom]
    by_cases other : c = '_'
    · obtain ⟨x, hx, hne⟩ := h
      have later : x ∈ rest := (List.mem_cons.mp hx).resolve_left fun same => hne (same.trans other)
      obtain ⟨y, hy, hne⟩ := ih ⟨x, later, hne⟩ (c :: behind)
      exact ⟨y, List.mem_append_right _ hy, hne⟩
    · split
      · refine ⟨_, List.mem_append_left _ List.mem_cons_self, ?_⟩
        split <;> decide
      · obtain ⟨some, free⟩ := lowerChar_spec other
        obtain ⟨y, rest', eq⟩ := List.exists_cons_of_ne_nil some
        have mem : y ∈ Letter.lowerChar c := eq ▸ List.mem_cons_self
        exact ⟨y, List.mem_append_left _ mem, fun same => free (same ▸ mem)⟩

/-! ## Pascal case -/

/-- The stretches between underscores are what is left without them. -/
theorem flatten_splitUnderscores (cs : List Char) :
    (splitUnderscores cs).flatten = cs.filter (· ≠ '_') := by
  induction cs with
  | nil => rfl
  | cons c rest ih =>
    rw [splitUnderscores]
    by_cases h : c = '_'
    · rw [if_pos h, List.flatten_cons, List.nil_append, ih, List.filter_cons_of_neg (by simp [h])]
    · rw [if_neg h, List.filter_cons_of_pos (by simp [h]), ← ih]
      cases splitUnderscores rest <;> rfl

theorem not_mem_of_mem_splitUnderscores {cs word : List Char} (h : word ∈ splitUnderscores cs) :
    '_' ∉ word := by
  intro mem
  have inside : '_' ∈ (splitUnderscores cs).flatten := List.mem_flatten.mpr ⟨word, h, mem⟩
  rw [flatten_splitUnderscores] at inside
  simp at inside

/-- **There is no underscore in the pascal-case form** of a name. -/
theorem not_mem_pascalCase (name : String) : '_' ∉ (pascalCase name).toList := by
  unfold pascalCase
  rw [String.toList_ofList, List.mem_flatMap]
  rintro ⟨word, mem, inside⟩
  exact not_mem_capitalize (not_mem_of_mem_splitUnderscores mem) inside

/-- The name has something besides underscores. -/
def HasLetter (name : String) : Prop := ∃ c ∈ name.toList, c ≠ '_'

/-- **There is something in the pascal-case form** of a name, if the name has a letter. -/
theorem pascalCase_ne_nil {name : String} (h : HasLetter name) : (pascalCase name).toList ≠ [] := by
  have marked : ∃ c ∈ markCapitals (markWords name.toList), c ≠ '_' := by
    obtain ⟨c, hc, hne⟩ := h
    have kept : c ∈ (markCapitals (markWords name.toList)).filter (· ≠ '_') := by
      rw [filter_markCapitals, filter_markWords]
      exact List.mem_filter.mpr ⟨hc, by simpa using hne⟩
    exact ⟨c, (List.mem_filter.mp kept).1, hne⟩
  obtain ⟨c, hc, hne⟩ := exists_lowerFrom marked []
  have inside : c ∈ (splitUnderscores (snakeChars name.toList)).flatten := by
    rw [flatten_splitUnderscores]
    exact List.mem_filter.mpr ⟨hc, by simpa using hne⟩
  obtain ⟨word, mem, hw⟩ := List.mem_flatten.mp inside
  have some := capitalize_ne_nil (List.ne_nil_of_mem hw) (not_mem_of_mem_splitUnderscores mem)
  obtain ⟨x, hx⟩ := List.exists_mem_of_ne_nil _ some
  unfold pascalCase
  rw [String.toList_ofList]
  exact List.ne_nil_of_mem (List.mem_flatMap.mpr ⟨word, mem, hx⟩)

/-! ## Segments -/

/-- What a field on the way adds to the name of a class. -/
inductive IsSegment : List Char → Prop
  | plain {field : List Char} (free : '_' ∉ field) : IsSegment ('_' :: '_' :: field)
  | aliased {key field : List Char} (some : key ≠ []) (freeKey : '_' ∉ key) (free : '_' ∉ field) :
      IsSegment ('_' :: '_' :: (key ++ '_' :: field))

/-- The name of a leaf class is that of the class around and a segment. -/
theorem exists_segment (parent : String) {alias? : Option String} (field : String)
    (h : ∀ key, alias? = some key → HasLetter key) : ∃ segment, IsSegment segment ∧
      (leafClassName parent alias? field).toList = parent.toList ++ segment := by
  have two : "__".toList = ['_', '_'] := rfl
  have one : "_".toList = ['_'] := rfl
  cases alias? with
  | none =>
    refine ⟨_, .plain (not_mem_pascalCase field), ?_⟩
    simp [leafClassName, two]
  | some key =>
    refine ⟨_, .aliased (pascalCase_ne_nil (h key rfl)) (not_mem_pascalCase key)
      (not_mem_pascalCase field), ?_⟩
    simp [leafClassName, two, one]

/-- The underscores at the beginning. -/
def leading (cs : List Char) : Nat := (cs.takeWhile (· == '_')).length

theorem leading_of_free {cs rest : List Char} (some : cs ≠ []) (free : '_' ∉ cs) :
    leading (cs ++ rest) = 0 := by
  obtain ⟨c, tail, rfl⟩ := List.exists_cons_of_ne_nil some
  have other : c ≠ '_' := fun same => free (same ▸ List.mem_cons_self)
  simp [leading, other]

theorem leading_cons (rest : List Char) : leading ('_' :: rest) = leading rest + 1 := by
  simp [leading]

/-- Segments begin with an even number of underscores. -/
theorem even_leading {segments : List (List Char)} (h : ∀ s ∈ segments, IsSegment s) :
    leading segments.flatten % 2 = 0 := by
  induction segments with
  | nil => rfl
  | cons first rest ih =>
    obtain ⟨isFirst, later⟩ := List.forall_mem_cons.mp h
    rw [List.flatten_cons]
    cases isFirst with
    | @plain field free =>
      rw [List.cons_append, List.cons_append, leading_cons, leading_cons]
      by_cases none : field = []
      · rw [none, List.nil_append]
        have := ih later
        omega
      · rw [leading_of_free none free]
    | @aliased key field some freeKey free =>
      rw [List.cons_append, List.cons_append, leading_cons, leading_cons, List.append_assoc,
        leading_of_free some freeKey]

/-- An underscore before a part without any, and segments after it. -/
theorem odd_leading {field : List Char} {segments : List (List Char)} (free : '_' ∉ field)
    (h : ∀ s ∈ segments, IsSegment s) : leading ('_' :: field ++ segments.flatten) % 2 = 1 := by
  rw [List.cons_append, leading_cons]
  by_cases none : field = []
  · have := even_leading h
    rw [none, List.nil_append]
    omega
  · rw [leading_of_free none free]

/-- What is left of a segment inside it does not begin like one. -/
theorem leading_inside {front inside : List Char} {segments : List (List Char)}
    (isSegment : IsSegment (front ++ inside)) (hf : front ≠ []) (hi : inside ≠ [])
    (h : ∀ s ∈ segments, IsSegment s) :
    leading (inside ++ segments.flatten) = 0 ∨ leading (inside ++ segments.flatten) % 2 = 1 := by
  have inField : ∀ {before field : List Char}, '_' ∉ field → field = before ++ inside →
      leading (inside ++ segments.flatten) = 0 := fun free eq =>
    leading_of_free hi fun mem => free (eq ▸ List.mem_append_right _ mem)
  obtain ⟨x, front, rfl⟩ := List.exists_cons_of_ne_nil hf
  generalize eq : x :: front ++ inside = whole at isSegment
  cases isSegment with
  | @plain field free =>
    cases front with
    | nil =>
      cases eq
      exact Or.inr (odd_leading free h)
    | cons y front =>
      simp only [List.cons_append, List.cons.injEq] at eq
      exact Or.inl (inField free eq.2.2.symm)
  | @aliased key field some freeKey free =>
    cases front with
    | nil =>
      cases eq
      right
      rw [List.cons_append, leading_cons, List.append_assoc, leading_of_free some freeKey]
    | cons y front =>
      simp only [List.cons_append, List.cons.injEq] at eq
      rcases List.append_eq_append_iff.mp eq.2.2 with ⟨later, rfl, remains⟩ | ⟨later, rfl, remains⟩
      · cases later with
        | nil =>
          rw [List.nil_append] at remains
          exact Or.inr (remains ▸ odd_leading free h)
        | cons c later =>
          left
          rw [remains, List.append_assoc]
          exact leading_of_free (List.cons_ne_nil _ _) fun mem =>
            freeKey (List.mem_append_right _ mem)
      · cases later with
        | nil =>
          rw [List.nil_append] at remains
          exact Or.inr (remains ▸ odd_leading free h)
        | cons c later =>
          simp only [List.cons_append, List.cons.injEq] at remains
          exact Or.inl (inField free remains.2)

theorem leading_of_segments {segments : List (List Char)} (h : ∀ s ∈ segments, IsSegment s)
    (some : segments ≠ []) : 2 ≤ leading segments.flatten := by
  obtain ⟨first, rest, rfl⟩ := List.exists_cons_of_ne_nil some
  rw [List.flatten_cons]
  cases h first List.mem_cons_self <;>
    · rw [List.cons_append, List.cons_append, leading_cons, leading_cons]
      omega

/-- **Segments end where segments end**: what stands before segments, in what consists of segments,
consists of segments. -/
theorem aligned_of_append_eq {front : List Char} {segments rest : List (List Char)}
    (h : ∀ s ∈ segments, IsSegment s) (h' : ∀ s ∈ rest, IsSegment s)
    (eq : front ++ rest.flatten = segments.flatten) :
    ∃ before after, segments = before ++ after ∧ before.flatten = front := by
  by_cases none : rest = []
  · subst none
    exact ⟨segments, [], (List.append_nil _).symm, by simpa using eq.symm⟩
  have two := leading_of_segments h' none
  have even := even_leading h'
  induction segments generalizing front with
  | nil =>
    rw [(List.append_eq_nil_iff.mp eq).2] at two
    exact absurd two (by decide)
  | cons first others ih =>
    obtain ⟨isFirst, later⟩ := List.forall_mem_cons.mp h
    rw [List.flatten_cons] at eq
    rcases List.append_eq_append_iff.mp eq with ⟨inside, rfl, remains⟩ | ⟨between, rfl, remains⟩
    · by_cases hf : front = []
      · exact ⟨[], _, rfl, hf.symm⟩
      · by_cases hi : inside = []
        · subst hi
          exact ⟨[front], others, by rw [List.append_nil]; rfl, by simp⟩
        · have := leading_inside isFirst hf hi later
          rw [← remains] at this
          omega
    · obtain ⟨before, after, rfl, rfl⟩ := ih later remains.symm
      exact ⟨first :: before, after, rfl, rfl⟩

/-- Where two names are the same, one operation is named like a class on the way of the other. -/
theorem prefix_of_append_eq {name name' : List Char} {segments segments' : List (List Char)}
    (h : ∀ s ∈ segments, IsSegment s) (h' : ∀ s ∈ segments', IsSegment s)
    (eq : name ++ segments.flatten = name' ++ segments'.flatten) :
    (∃ before after, segments = before ++ after ∧ name' = name ++ before.flatten) ∨
      ∃ before after, segments' = before ++ after ∧ name = name' ++ before.flatten := by
  rcases List.append_eq_append_iff.mp eq with ⟨between, rfl, remains⟩ | ⟨between, rfl, remains⟩
  · obtain ⟨before, after, whole, rfl⟩ := aligned_of_append_eq h h' remains.symm
    exact Or.inl ⟨before, after, whole, rfl⟩
  · obtain ⟨before, after, whole, rfl⟩ := aligned_of_append_eq h' h remains.symm
    exact Or.inr ⟨before, after, whole, rfl⟩

end QueryShape.Naming
