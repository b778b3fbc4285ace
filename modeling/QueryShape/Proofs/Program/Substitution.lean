import QueryShape.Proofs.Program.Encode

/-!
# Filling the placeholder

A conversion is written over the placeholder, and is used in two ways: with an expression put in the
place of the placeholder, or where the placeholder is the name of a variable. This module shows that
both give the same, for conversions that bind no names of their own (`IsTemplate`), and that no
other variable matters whose name the conversion is not written with (`names`).

* `text_fill`: putting an expression in the place of the placeholder is replacing a word of the
  text.
* `value_fill`: a template with an expression in the place of the placeholder gives what it gives
  where the placeholder is bound to the value of the expression.
* `convertIn_of_extends`: more variables change nothing, if the template does not have their names.
-/

namespace QueryShape

namespace Code

/-! ## Words in texts -/

theorem takeWhile_append_outside (rest : List Char) {tail : List Char}
    (outside : StartsOutside tail) :
    (rest ++ tail).takeWhile Letter.isWord = rest.takeWhile Letter.isWord := by
  induction rest with
  | nil =>
    cases tail with
    | nil => rfl
    | cons x more => exact List.takeWhile_cons_of_neg (by rw [outside x rfl]; decide)
  | cons c rest ih => simp only [List.cons_append, List.takeWhile_cons, ih]

theorem dropWhile_append_outside (rest : List Char) {tail : List Char}
    (outside : StartsOutside tail) :
    (rest ++ tail).dropWhile Letter.isWord = rest.dropWhile Letter.isWord ++ tail := by
  induction rest with
  | nil =>
    cases tail with
    | nil => rfl
    | cons x more => exact List.dropWhile_cons_of_neg (by rw [outside x rfl]; decide)
  | cons c rest ih =>
    simp only [List.cons_append, List.dropWhile_cons, ih]
    split <;> rfl

/-- A word is replaced on both sides of a place where a word ends. -/
theorem replaceWord_append_outside {word replacement : List Char} (front : List Char)
    {tail : List Char} (outside : StartsOutside tail) :
    replaceWord word replacement (front ++ tail) =
      replaceWord word replacement front ++ replaceWord word replacement tail := by
  fun_induction replaceWord word replacement front with
  | case1 => rfl
  | case2 c rest hc found ih =>
    rw [List.cons_append, replaceWord, if_pos hc, takeWhile_append_outside rest outside,
      dropWhile_append_outside rest outside, ih, List.append_assoc]
  | case3 c rest hc ih => rw [List.cons_append, replaceWord, if_neg hc, ih, List.cons_append]

/-- A word with a character that a text does not have is not in the text. -/
theorem replaceWord_of_notMem {word replacement cs : List Char} {c : Char} (mem : c ∈ word)
    (other : c ∉ cs) : replaceWord word replacement cs = cs := by
  fun_induction replaceWord word replacement cs with
  | case1 => rfl
  | case2 d rest hd found ih =>
    have parts := List.takeWhile_append_dropWhile (p := Letter.isWord) (l := rest)
    have different : found ≠ word := by
      rintro rfl
      refine other ?_
      rcases List.mem_cons.mp mem with rfl | mem
      · exact List.mem_cons_self
      · exact List.mem_cons_of_mem _ ((List.takeWhile_sublist _).mem mem)
    rw [if_neg different, ih fun mem =>
      other (List.mem_cons_of_mem _ ((List.dropWhile_sublist _).mem mem)), List.cons_append, parts]
  | case3 d rest hd ih => rw [ih fun mem => other (List.mem_cons_of_mem _ mem)]

/-- A piece of code ends outside of words and holds no placeholder. -/
def opens (piece : String) : Bool :=
  piece.toList.getLast?.any (!Letter.isWord ·) && !piece.toList.contains '_'

/-- A piece of code starts and ends outside of words and holds no placeholder. -/
def separates (piece : String) : Bool :=
  piece.toList.head?.any (!Letter.isWord ·) && opens piece

theorem fill_open (piece tail r : String) (between : opens piece) :
    fill (piece ++ tail) r = piece ++ fill tail r := by
  unfold opens at between
  cases last : piece.toList.getLast? with
  | none =>
    rw [last] at between
    cases between
  | some c =>
    obtain ⟨front, split⟩ := List.getLast?_eq_some_iff.mp last
    obtain ⟨outside, free⟩ : Letter.isWord c = false ∧ '_' ∉ front := by
      rw [last, split] at between
      simp_all
    have stops : StartsOutside (c :: tail.toList) := by
      intro d hd
      cases hd
      exact outside
    unfold fill
    rw [String.toList_append, split, List.append_assoc, List.singleton_append,
      replaceWord_append_outside front stops, replaceWord_of_notMem (by decide) free, replaceWord,
      if_neg (by simp [outside])]
    rw [← String.toList_inj, String.toList_append, String.toList_ofList, split,
      String.toList_ofList, List.append_assoc, List.singleton_append]

/-- The placeholder is replaced on both sides of a separator. -/
theorem fill_append (piece front tail r : String) (between : separates piece) :
    fill (front ++ (piece ++ tail)) r = fill front r ++ (piece ++ fill tail r) := by
  obtain ⟨first, opening⟩ := Bool.and_eq_true_iff.mp between
  rw [← fill_open piece tail r opening]
  have stops : StartsOutside (piece ++ tail).toList := by
    rw [String.toList_append]
    intro d hd
    cases head : piece.toList.head? with
    | none =>
      rw [head] at first
      cases first
    | some c =>
      rw [head] at first
      have : d = c := by simpa [List.head?_append, head, eq_comm] using hd
      simpa [this] using first
  unfold fill
  rw [String.toList_append (s := front), replaceWord_append_outside front.toList stops,
    String.ofList_append]

theorem fill_close (piece front r : String) (between : separates piece) :
    fill (front ++ piece) r = fill front r ++ piece := by
  have closed : fill "" r = "" := by
    unfold fill
    rw [String.toList_empty, replaceWord]
  have filled := fill_append piece front "" r between
  rwa [closed, String.append_empty] at filled

/-- A word is the placeholder or has none in it. -/
theorem fill_word {n : String} (isWord : n.toList.all Letter.isWord = true) (r : String) :
    fill n r = if n = placeholder then r else n := by
  split
  · next hole =>
    subst hole
    have chars : placeholder.toList = 'r' :: "aw_value".toList := rfl
    have all : ∀ c ∈ "aw_value".toList, Letter.isWord c = true :=
      List.all_eq_true.mp rfl
    unfold fill
    rw [chars, replaceWord, if_pos (by decide), List.takeWhile_eq_self_iff.mpr all,
      List.dropWhile_eq_nil_iff.mpr all]
    dsimp only
    rw [if_pos rfl, replaceWord, List.append_nil, String.ofList_toList]
  · next other => exact Program.fill_of_word isWord other r

namespace Expr

/-- The names in an expression are words. -/
def HasWords : Expr → Prop
  | .name n => n.toList.all Letter.isWord = true
  | .nothing | .verbatim _ => True
  | .member e _ | .entry e _ | .entryOrNothing e _ | .send e _ | .cast _ e => e.HasWords
  | .call f x => f.HasWords ∧ x.HasWords
  | .unlessNothing subject value => subject.HasWords ∧ value.HasWords
  | .forEach value _ source => value.HasWords ∧ source.HasWords

/-- **Putting an expression in the place of the placeholder** is replacing a word of the text. -/
theorem text_fill {e : Expr} (words : e.HasWords) (r : Expr) :
    (e.fill r).text = Code.fill e.text r.text := by
  induction e with
  | name n =>
    rw [text, fill_word words, Expr.fill]
    split <;> rfl
  | nothing =>
    have word : "None".toList.all Letter.isWord = true := rfl
    exact (Program.fill_of_word word (by decide) r.text).symm
  | member e n ih =>
    simp only [Expr.fill, text, String.append_assoc]
    rw [fill_append "." _ _ _ rfl, ih words]
  | entry e key ih =>
    simp only [Expr.fill, text, String.append_assoc]
    rw [fill_append "[\"" _ _ _ rfl, fill_close _ _ _ rfl, ih words]
  | entryOrNothing e key ih =>
    simp only [Expr.fill, text, String.append_assoc]
    rw [fill_append ".get(\"" _ _ _ rfl, fill_close _ _ _ rfl, ih words]
  | call f x ihf ihx =>
    simp only [Expr.fill, text, String.append_assoc]
    rw [fill_append "(" _ _ _ rfl, fill_close _ _ _ rfl, ihf words.1, ihx words.2]
  | send e method ih =>
    simp only [Expr.fill, text, String.append_assoc]
    rw [fill_append "." _ _ _ rfl, fill_close _ _ _ rfl, ih words]
  | cast type e ih =>
    simp only [Expr.fill, text, String.append_assoc]
    rw [fill_open "cast(" _ _ rfl, fill_append ", " _ _ _ rfl, fill_close _ _ _ rfl, ih words]
  | unlessNothing subject value ihs ihv =>
    simp only [Expr.fill, text, String.append_assoc]
    rw [fill_open "None if " _ _ rfl, fill_append " is None else " _ _ _ rfl,
      ihs words.1, ihv words.2]
  | forEach value item source ihv ihs =>
    simp only [Expr.fill, text, String.append_assoc]
    rw [fill_open "[" _ _ rfl, fill_append " for " _ _ _ rfl,
      fill_append " in " _ _ _ rfl, fill_close _ _ _ rfl, ihv words.1, ihs words.2]
  | verbatim text => rfl

/-! ## Templates -/

/-- The placeholder stands for a value wherever it stands in an expression, whose names are words,
and which binds none. -/
def IsTemplate : Expr → Prop
  | .name n => n.toList.all Letter.isWord = true
  | .nothing => True
  | .member e n => e.IsTemplate ∧ ∀ r, Code.fill n r = n
  | .entry e key | .entryOrNothing e key => e.IsTemplate ∧ ∀ r, Code.fill key r = key
  | .call f x => f.IsTemplate ∧ x.IsTemplate
  | .send e method => e.IsTemplate ∧ ∀ r, Code.fill method r = method
  | .cast type e => e.IsTemplate ∧ type ≠ placeholder ∧ ∀ r, Code.fill type r = type
  | .unlessNothing subject value => subject.IsTemplate ∧ value.IsTemplate
  | .forEach .. | .verbatim _ => False

/-- The names that a template is written with, other than the placeholder. -/
def names : Expr → List String
  | .name n => if n = placeholder then [] else [n]
  | .nothing | .verbatim _ => []
  | .member e _ | .entry e _ | .entryOrNothing e _ | .send e _ => e.names
  | .call f x => f.names ++ x.names
  | .cast type e => "cast" :: type :: e.names
  | .unlessNothing subject value => subject.names ++ value.names
  | .forEach value item source => item :: value.names ++ source.names

theorem IsTemplate.placeholder_notMem {e : Expr} (h : e.IsTemplate) : placeholder ∉ e.names := by
  induction e with
  | name n =>
    unfold names
    split
    · exact List.not_mem_nil
    · next other => simpa using Ne.symm other
  | nothing => exact List.not_mem_nil
  | member e n ih => exact ih h.1
  | entry e key ih => exact ih h.1
  | entryOrNothing e key ih => exact ih h.1
  | call f x ihf ihx => simp [names, ihf h.1, ihx h.2]
  | send e method ih => exact ih h.1
  | cast type e ih =>
    have notCast : placeholder ≠ "cast" := by decide
    simp [names, notCast, Ne.symm h.2.1, ih h.1]
  | unlessNothing subject value ihs ihv => simp [names, ihs h.1, ihv h.2]
  | forEach value item source => exact h.elim
  | verbatim text => exact h.elim

theorem IsTemplate.hasWords {e : Expr} (h : e.IsTemplate) : e.HasWords := by
  induction e with
  | name n => exact h
  | nothing => trivial
  | member e n ih => exact ih h.1
  | entry e key ih => exact ih h.1
  | entryOrNothing e key ih => exact ih h.1
  | call f x ihf ihx => exact ⟨ihf h.1, ihx h.2⟩
  | send e method ih => exact ih h.1
  | cast type e ih => exact ih h.1
  | unlessNothing subject value ihs ihv => exact ⟨ihs h.1, ihv h.2⟩
  | forEach value item source => exact h.elim
  | verbatim text => exact h.elim

theorem HasWords.fill {e r : Expr} (h : e.HasWords) (words : r.HasWords) :
    (e.fill r).HasWords := by
  induction e with
  | name n =>
    unfold Expr.fill
    split
    · exact words
    · exact h
  | nothing => trivial
  | member e n ih => exact ih h
  | entry e key ih => exact ih h
  | entryOrNothing e key ih => exact ih h
  | call f x ihf ihx => exact ⟨ihf h.1, ihx h.2⟩
  | send e method ih => exact ih h
  | cast type e ih => exact ih h
  | unlessNothing subject value ihs ihv => exact ⟨ihs h.1, ihv h.2⟩
  | forEach value item source ihv ihs => exact ⟨ihv h.1, ihs h.2⟩
  | verbatim text => trivial

end Expr

end Code

namespace Program

open Code Generation

variable {s s' : Scope} {e r : Expr} {v w : Value}

/-- The placeholder itself and the names of a template decide what it means. -/
theorem meaning_congr (isTemplate : e.IsTemplate)
    (names : ∀ n ∈ e.names, s.meaning n = s'.meaning n)
    (hole : s.meaning placeholder = s'.meaning placeholder) (send : s.send = s'.send) :
    e.meaning s = e.meaning s' := by
  induction e with
  | name n =>
    unfold Expr.meaning
    by_cases isHole : n = placeholder
    · rw [isHole, hole]
    · exact names n (by simp [Expr.names, isHole])
  | nothing => rfl
  | member e n ih => rw [Expr.meaning, Expr.meaning, ih isTemplate.1 names]
  | entry e key ih => rw [Expr.meaning, Expr.meaning, ih isTemplate.1 names]
  | entryOrNothing e key ih => rw [Expr.meaning, Expr.meaning, ih isTemplate.1 names]
  | call f x ihf ihx =>
    rw [Expr.meaning, Expr.meaning,
      ihf isTemplate.1 fun n mem => names n (List.mem_append_left _ mem),
      ihx isTemplate.2 fun n mem => names n (List.mem_append_right _ mem)]
  | send e method ih =>
    have same (u : Value) : sendValue s u method = sendValue s' u method := by
      unfold sendValue
      rw [send]
    rw [Expr.meaning, Expr.meaning, ih isTemplate.1 names]
    simp only [same]
  | cast type e ih =>
    rw [Expr.meaning, Expr.meaning, names "cast" (by simp [Expr.names]),
      names type (by simp [Expr.names]),
      ih isTemplate.1 fun n mem => names n (by simp [Expr.names, mem])]
  | unlessNothing subject value ihs ihv =>
    rw [Expr.meaning, Expr.meaning,
      ihs isTemplate.1 fun n mem => names n (List.mem_append_left _ mem),
      ihv isTemplate.2 fun n mem => names n (List.mem_append_right _ mem)]
  | forEach value item source => exact isTemplate.elim
  | verbatim text => exact isTemplate.elim

theorem meaning_of_value (refers : r.value s = .ok v) : r.meaning s = .ok (.value v) := by
  obtain ⟨m, found, value⟩ := except_bind_eq_ok_iff.mp refers
  cases m with
  | value u =>
    cases value
    exact found
  | thing t => cases value
  | function f => cases value

/-- What a name means where a variable is bound. -/
theorem meaning_with (s : Scope) (n : String) (v : Value) :
    (s.with n v).meaning n = .ok (.value v) := by
  unfold Scope.meaning Scope.with
  rw [List.lookup_cons_self]

theorem meaning_with_of_ne (s : Scope) {n other : String} (different : other ≠ n) (v : Value) :
    (s.with n v).meaning other = s.meaning other := by
  unfold Scope.meaning Scope.with
  rw [List.lookup_cons, beq_false_of_ne different]

/-- A template with an expression in the place of the placeholder means what it means where the
placeholder is bound to the value of the expression. -/
theorem meaning_fill (isTemplate : e.IsTemplate) (refers : r.value s = .ok v) :
    (e.fill r).meaning s = e.meaning (s.with placeholder v) := by
  induction e with
  | name n =>
    unfold Expr.fill
    split
    · next isHole =>
      rw [meaning_of_value refers, isHole]
      exact (meaning_with s placeholder v).symm
    · next other => exact (meaning_with_of_ne s other v).symm
  | nothing => rfl
  | member e n ih => rw [Expr.fill, isTemplate.2, Expr.meaning, Expr.meaning, ih isTemplate.1]
  | entry e key ih => rw [Expr.fill, isTemplate.2, Expr.meaning, Expr.meaning, ih isTemplate.1]
  | entryOrNothing e key ih =>
    rw [Expr.fill, isTemplate.2, Expr.meaning, Expr.meaning, ih isTemplate.1]
  | call f x ihf ihx =>
    rw [Expr.fill, Expr.meaning, Expr.meaning, ihf isTemplate.1, ihx isTemplate.2]
  | send e method ih =>
    rw [Expr.fill, isTemplate.2, Expr.meaning, Expr.meaning, ih isTemplate.1]
    rfl
  | cast type e ih =>
    rw [Expr.fill, isTemplate.2.2, Expr.meaning, Expr.meaning, ih isTemplate.1,
      meaning_with_of_ne s (by decide) v, meaning_with_of_ne s isTemplate.2.1 v]
  | unlessNothing subject value ihs ihv =>
    rw [Expr.fill, Expr.meaning, Expr.meaning, ihs isTemplate.1, ihv isTemplate.2]
  | forEach value item source => exact isTemplate.elim
  | verbatim text => exact isTemplate.elim

/-- What a template makes of a value. -/
def convertIn (s : Scope) (template : Expr) (v : Value) : Except Fault Value :=
  template.value (s.with placeholder v)

/-- **Filling the placeholder is binding it.** -/
theorem value_fill (isTemplate : e.IsTemplate) (refers : r.value s = .ok v) :
    (e.fill r).value s = convertIn s e v := by
  unfold convertIn Expr.value
  rw [meaning_fill isTemplate refers]

/-! ## More variables -/

/-- A scope inside another, with more variables, which have names among the given ones. -/
structure Extends (outer inner : Scope) (names : List String) : Prop where
  send : inner.send = outer.send
  meaning : ∀ n, n ∉ names → inner.meaning n = outer.meaning n

variable {outer inner : Scope} {names : List String}

theorem Extends.refl (s : Scope) (names : List String) : Extends s s names :=
  ⟨rfl, fun _ _ => rfl⟩

theorem Extends.with (h : Extends outer inner names) {n : String} (mem : n ∈ names) (v : Value) :
    Extends outer (inner.with n v) names where
  send := h.send
  meaning := by
    intro other free
    have different : other ≠ n := fun eq => free (eq ▸ mem)
    rw [meaning_with_of_ne _ different, h.meaning other free]

/-- **More variables change nothing** about what a template makes of a value, if it does not have
their names. -/
theorem convertIn_of_extends (isTemplate : e.IsTemplate) (h : Extends outer inner names)
    (free : ∀ n ∈ e.names, n ∉ names) (v : Value) : convertIn inner e v = convertIn outer e v := by
  have hole : (inner.with placeholder v).meaning placeholder =
      (outer.with placeholder v).meaning placeholder := by
    rw [meaning_with, meaning_with]
  have same (n : String) (mem : n ∈ e.names) :
      (inner.with placeholder v).meaning n = (outer.with placeholder v).meaning n := by
    by_cases isHole : n = placeholder
    · rw [isHole, hole]
    · rw [meaning_with_of_ne _ isHole, meaning_with_of_ne _ isHole, h.meaning n (free n mem)]
  unfold convertIn Expr.value
  rw [meaning_congr isTemplate same hole h.send]

end Program

end QueryShape
