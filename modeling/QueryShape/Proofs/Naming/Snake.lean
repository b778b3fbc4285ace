import QueryShape.Proofs.Naming.Pascal

/-!
# Where snake case puts underscores

The snake-case form of a name is made in two passes, and each goes past the characters that it has
matched. No boundary between words gets lost by that: what the first pass goes past ends in a small
letter, so that the second marks a capital after it. And none is marked twice, since there is an
underscore before the capital when the second pass comes to it. So one rule says what comes out,
which looks at one position of the name and at those on either side.

* `markCapitals_markWords`: the two passes are one.
* `snakeChars_eq`: the rule, position by position.
* `snakeCase_boundaries`: the rule for the names of schemas and documents, and what follows from it.
-/

namespace QueryShape.Naming

/-! ## The second pass, character by character -/

theorem not_isLower_of_isUpper {c : Char} (h : c.isUpper) : ¬ (c.isLower ∨ c.isDigit) := by
  simp only [Char.isUpper, Char.isLower, Char.isDigit, Bool.and_eq_true, decide_eq_true_eq,
    ge_iff_le, UInt32.le_iff_toNat_le] at h ⊢
  have bigA : 'A'.val.toNat = 65 := rfl
  have bigZ : 'Z'.val.toNat = 90 := rfl
  have smallA : 'a'.val.toNat = 97 := rfl
  have nine : '9'.val.toNat = 57 := rfl
  omega

theorem isUpper_eq_false_of_isLower {c : Char} (h : c.isLower) : c.isUpper = false :=
  Bool.eq_false_iff.mpr fun upper => not_isLower_of_isUpper upper (Or.inl h)

/-- After what is no small letter or digit the second pass marks nothing. -/
theorem markCapitals_cons_of_not {a : Char} (h : ¬ (a.isLower ∨ a.isDigit)) (rest : List Char) :
    markCapitals (a :: rest) = a :: markCapitals rest := by
  cases rest with
  | nil => simp [markCapitals]
  | cons b rest => rw [markCapitals, if_neg fun both => h both.1]

/-- The second pass looks at every pair of neighbours: the capital at the end of a match is no small
letter or digit, so no match begins with it. -/
theorem markCapitals_cons (a : Char) (rest : List Char) : markCapitals (a :: rest) =
    if (a.isLower ∨ a.isDigit) ∧ rest.head?.any Char.isUpper then a :: '_' :: markCapitals rest
    else a :: markCapitals rest := by
  cases rest with
  | nil => simp [markCapitals]
  | cons b rest =>
    rw [markCapitals, List.head?_cons, Option.any_some]
    by_cases capital : b.isUpper
    · rw [markCapitals_cons_of_not (not_isLower_of_isUpper capital)]
    · rw [if_neg fun both => capital both.2, if_neg fun both => capital both.2]

/-! ## The two passes as one -/

/-- An underscore before each capital that a small letter or digit is before, or that a small letter
is after. -/
def markBoundaries : List Char → List Char
  | c :: u :: rest =>
    if u.isUpper ∧ (c.isLower ∨ c.isDigit ∨ rest.head?.any Char.isLower) then
      c :: '_' :: markBoundaries (u :: rest)
    else c :: markBoundaries (u :: rest)
  | rest => rest

theorem markBoundaries_cons_of_not {c : Char} {rest : List Char}
    (h : rest.head?.any Char.isUpper = false) :
    markBoundaries (c :: rest) = c :: markBoundaries rest := by
  cases rest with
  | nil => rfl
  | cons u rest =>
    have small : u.isUpper = false := h
    rw [markBoundaries, if_neg (by simp [small])]

/-- In front of a text that both agree on, both agree on small letters. -/
theorem markCapitals_append {xs ys : List Char} (head : xs.head? = ys.head?)
    (same : markCapitals xs = markBoundaries ys) {word : List Char}
    (small : ∀ l ∈ word, l.isLower = true) :
    markCapitals (word ++ xs) = markBoundaries (word ++ ys) := by
  induction word with
  | nil => exact same
  | cons l word ih =>
    obtain ⟨first, others⟩ := List.forall_mem_cons.mp small
    have next : (word ++ xs).head? = (word ++ ys).head? := by
      rw [List.head?_append, List.head?_append, head]
    rw [List.cons_append, List.cons_append, markCapitals_cons, ih others, next]
    cases whole : word ++ ys with
    | nil => simp [markBoundaries]
    | cons u rest => simp [markBoundaries, first]

/-- The second pass leaves the marks of the first as they are. -/
theorem markCapitals_mark (c : Char) (rest : List Char) :
    markCapitals (c :: '_' :: rest) = c :: '_' :: markCapitals rest := by
  have plain : ¬ '_'.isUpper := by decide
  rw [markCapitals_cons, markCapitals_cons_of_not (by decide)]
  exact if_neg fun both => plain both.2

/-- **The two passes are one**: a capital that the first has no mark for, because it stands right
after a word that was matched, has a small letter before it. -/
theorem markCapitals_markWords {cs : List Char} (h : '\n' ∉ cs) :
    markCapitals (markWords cs) = markBoundaries cs := by
  induction cs using markWords.induct with
  | case1 c u l rest found ih =>
    have inRest : '\n' ∉ rest.dropWhile Char.isLower := fun mem =>
      h (by simp [(List.dropWhile_sublist _).mem mem])
    have upper : u.isUpper := found.2.1
    have lower : l.isLower := found.2.2
    have word : ∀ x ∈ l :: rest.takeWhile Char.isLower, x.isLower = true :=
      List.forall_mem_cons.mpr ⟨lower, fun x hx => List.mem_takeWhile_imp hx⟩
    have after := markCapitals_append (head?_markWords _) (ih inRest) word
    have whole : l :: rest.takeWhile Char.isLower ++ rest.dropWhile Char.isLower = l :: rest := by
      rw [List.cons_append, List.takeWhile_append_dropWhile]
    rw [whole, List.cons_append] at after
    have next : (l :: rest).head?.any Char.isUpper = false := isUpper_eq_false_of_isLower lower
    rw [markWords, if_pos found, markCapitals_mark,
      markCapitals_cons_of_not (not_isLower_of_isUpper upper), after, markBoundaries,
      if_pos ⟨upper, Or.inr (Or.inr lower)⟩, markBoundaries_cons_of_not next]
  | case2 c u l rest missed ih =>
    obtain ⟨noBreak, later⟩ := not_or.mp (List.mem_cons.not.mp h)
    have notWord : ¬ (u.isUpper ∧ l.isLower) := fun both => missed ⟨Ne.symm noBreak, both⟩
    rw [markWords, if_neg missed, markCapitals_cons, ih later, head?_markWords, markBoundaries]
    refine if_congr ?_ rfl rfl
    simp only [List.head?_cons, Option.any_some]
    tauto
  | case3 rest short =>
    rcases rest with - | ⟨c, - | ⟨u, - | ⟨l, rest⟩⟩⟩
    · simp [markWords, markCapitals, markBoundaries]
    · simp [markWords, markCapitals, markBoundaries]
    · simp [markWords, markCapitals, markBoundaries, and_comm]
    · exact absurd rfl (short c u l rest)

/-! ## Position by position -/

/-- The position is not the first, and holds a capital that a small letter or digit is before, or
that a small letter is after. -/
def IsBoundary (cs : List Char) (i : Nat) : Prop :=
  0 < i ∧ cs[i]?.any Char.isUpper ∧
    (cs[i - 1]?.any (fun c => c.isLower || c.isDigit) ∨ cs[i + 1]?.any Char.isLower)

instance (cs : List Char) (i : Nat) : Decidable (IsBoundary cs i) :=
  inferInstanceAs (Decidable (_ ∧ _))

/-- A text in small letters, with one underscore before each position that is a boundary. -/
def boundariesMarked (cs : List Char) : List Char :=
  cs.zipIdx.flatMap fun (c, i) => if IsBoundary cs i then ['_', c.toLower] else [c.toLower]

theorem isBoundary_append (front : List Char) {c u : Char} {rest : List Char} :
    IsBoundary (front ++ c :: u :: rest) (front.length + 1) ↔
      u.isUpper ∧ (c.isLower ∨ c.isDigit ∨ rest.head?.any Char.isLower) := by
  unfold IsBoundary
  simp [or_assoc, List.getElem?_append_right, List.head?_eq_getElem?, Nat.add_assoc]

/-- What comes after a character, marked and in small letters, is what its positions say. -/
theorem map_markBoundaries (front : List Char) (c : Char) (rest : List Char) :
    (markBoundaries (c :: rest)).map Char.toLower =
      c.toLower :: (rest.zipIdx (front.length + 1)).flatMap fun (d, i) =>
        if IsBoundary (front ++ c :: rest) i then ['_', d.toLower] else [d.toLower] := by
  induction rest generalizing front c with
  | nil => rfl
  | cons u rest ih =>
    have inside := ih (front ++ [c]) u
    rw [List.length_append, List.length_singleton, List.append_assoc, List.singleton_append]
      at inside
    rw [markBoundaries, List.zipIdx_cons, List.flatMap_cons]
    simp only [isBoundary_append]
    split
    · rw [List.map_cons, List.map_cons, inside]
      rfl
    · rw [List.map_cons, inside]
      rfl

/-- **Snake case, position by position.** -/
theorem snakeChars_eq {cs : List Char} (word : IsWord cs) :
    snakeChars cs = boundariesMarked cs := by
  have oneLine : '\n' ∉ cs := fun mem => absurd (word _ mem) (by decide)
  unfold snakeChars
  rw [lower_eq_map (isWord_marked word), markCapitals_markWords oneLine]
  cases cs with
  | nil => rfl
  | cons c rest =>
    have first : ¬ IsBoundary (c :: rest) 0 := fun h => absurd h.1 (Nat.lt_irrefl 0)
    rw [map_markBoundaries [] c rest]
    unfold boundariesMarked
    rw [List.zipIdx_cons, List.flatMap_cons]
    dsimp only
    rw [if_neg first]
    rfl

/-! ## Names -/

/-- There is nothing to mark in a text without capitals. -/
theorem markBoundaries_of_no_capital {cs : List Char} (h : ∀ c ∈ cs, c.isUpper = false) :
    markBoundaries cs = cs := by
  induction cs with
  | nil => rfl
  | cons c rest ih =>
    have others := (List.forall_mem_cons.mp h).2
    have next : rest.head?.any Char.isUpper = false := by
      cases rest with
      | nil => rfl
      | cons u rest => exact others u List.mem_cons_self
    rw [markBoundaries_cons_of_not next, ih others]

/-- What is in small letters is in snake case. -/
theorem snakeChars_of_isSmall {cs : List Char} (small : IsSmall cs) : snakeChars cs = cs := by
  have word : IsWord cs := fun c hc => (small c hc).1
  have noCapital : ∀ c ∈ cs, c.isUpper = false := fun c hc =>
    forall_isWordChar (p := fun c => c.toLower = c → c.isUpper = false) (by decide)
      (small c hc).1 (small c hc).2
  have oneLine : '\n' ∉ cs := fun mem => absurd (word _ mem) (by decide)
  have kept : cs.map Char.toLower = cs :=
    (List.map_congr_left fun c hc => (small c hc).2).trans (List.map_id' cs)
  unfold snakeChars
  rw [lower_eq_map (isWord_marked word), markCapitals_markWords oneLine,
    markBoundaries_of_no_capital noCapital, kept]

theorem filter_snakeChars {cs : List Char} (word : IsWord cs) :
    (snakeChars cs).filter (· ≠ '_') = (cs.filter (· ≠ '_')).map Char.toLower := by
  have small : ∀ c ∈ (snakeChars cs).filter (· ≠ '_'), c.toLower = c := fun c hc =>
    (isSmall_snakeChars word c (List.mem_filter.mp hc).1).2
  have kept := (List.map_congr_left small).trans (List.map_id' _)
  rw [← kept]
  exact letters_snakeChars word

/-- **Snake case of a name**: the name in small letters, with one underscore before each boundary
and nothing else changed. So it is a name, has the letters and digits of the name in their order,
and stays as it is when it is put in snake case again. -/
theorem snakeCase_boundaries {name : String} (isName : Document.IsName name) :
    (snakeCase name).toList = boundariesMarked name.toList ∧
      Document.IsName (snakeCase name) ∧
      (snakeCase name).toList.filter (· ≠ '_') =
        (name.toList.filter (· ≠ '_')).map Char.toLower ∧
      snakeCase (snakeCase name) = snakeCase name := by
  obtain ⟨word, led⟩ := isName_iff.mp isName
  have chars : (snakeCase name).toList = snakeChars name.toList := String.toList_ofList
  refine ⟨chars.trans (snakeChars_eq word), isName_iff.mpr ?_, ?_, ?_⟩
  · rw [chars]
    exact ⟨isWord_snakeChars word, isLed_snakeChars word led⟩
  · rw [chars, filter_snakeChars word]
  · rw [← String.toList_inj, snakeCase, String.toList_ofList, chars,
      snakeChars_of_isSmall (isSmall_snakeChars word)]

/-- Capitals in a row, after digits and after underscores. -/
theorem snakeCase_boundaries_mixed : Document.IsName "getHTTPUrl2Of_XMLNode" ∧
    snakeCase "getHTTPUrl2Of_XMLNode" = "get_http_url2_of_xml_node" ∧
    (snakeCase "getHTTPUrl2Of_XMLNode").toList = boundariesMarked "getHTTPUrl2Of_XMLNode".toList ∧
    snakeCase (snakeCase "getHTTPUrl2Of_XMLNode") = snakeCase "getHTTPUrl2Of_XMLNode" := by
  have isName : Document.IsName "getHTTPUrl2Of_XMLNode" := ⟨_, _, rfl, by decide, by decide⟩
  obtain ⟨rule, -, -, again⟩ := snakeCase_boundaries isName
  exact ⟨isName, by cbv, rule, again⟩

end QueryShape.Naming
