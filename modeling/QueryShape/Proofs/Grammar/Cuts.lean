import Mathlib
import QueryShape.Grammar.Token
import QueryShape.Proofs.Naming.Identifier

/-!
# Cutting a text piece by piece

What a text begins with can be cut before the rest is known, if the next character ends it. So the
tokens of generated lines are put together from those of their words, strings and marks.

* `Cuts`: a text begins with tokens, and the rest is cut in a known state.
* `cuts_word`, `cuts_string`, `cuts_mark`, `cuts_lineEnd`: the pieces.
* `tokens?_of_cuts`: the tokens of a whole text.
-/

namespace QueryShape.Grammar

open Naming

/-- How many steps a text can take: two for each character, since it may begin and end a line. -/
def State.size (s : State) (cs : List Char) : Nat := 2 * cs.length + if s.atStart then 1 else 0

/-- A text begins with the tokens, and the rest of it is cut in a state. -/
def Cuts (s : State) (cs : List Char) (ts : List Token) (s' : State) (rest : List Char) : Prop :=
  ∃ steps, steps + s'.size rest ≤ s.size cs ∧
    ∀ limit, scan (limit + steps) s cs = (scan limit s' rest).map (ts ++ ·)

variable {s s' s'' : State} {cs mid rest : List Char} {ts us : List Token}

theorem Cuts.refl (s : State) (cs : List Char) : Cuts s cs [] s cs :=
  ⟨0, by omega, fun limit => by simp⟩

theorem Cuts.trans (h : Cuts s cs ts s' mid) (h' : Cuts s' mid us s'' rest) :
    Cuts s cs (ts ++ us) s'' rest := by
  obtain ⟨n, fits, eq⟩ := h
  obtain ⟨m, fits', eq'⟩ := h'
  refine ⟨m + n, by omega, fun limit => ?_⟩
  rw [← Nat.add_assoc, eq, eq', Option.map_map]
  refine congrArg (Option.map · _) (funext fun us => ?_)
  exact (List.append_assoc ts _ us).symm

/-- One step that gives a token. -/
theorem cuts_of_scan {t : Token} (shorter : s'.size rest < s.size cs)
    (step : ∀ limit, scan (limit + 1) s cs = (scan limit s' rest).map (t :: ·)) :
    Cuts s cs [t] s' rest :=
  ⟨1, by omega, step⟩

/-- One step that gives none. -/
theorem cuts_of_scan_eq (shorter : s'.size rest < s.size cs)
    (step : ∀ limit, scan (limit + 1) s cs = scan limit s' rest) : Cuts s cs [] s' rest :=
  ⟨1, by omega, fun limit => by simp [step]⟩

/-! ## Lines -/

/-- The state inside a line of a module that is in no block. -/
def inLine : State := { atStart := false }

/-- The state inside a list that is written over several lines. -/
def inList : State := { brackets := ["]"], atStart := false }

/-- The character stands for itself wherever a token may begin. -/
def IsPlainStart (c : Char) : Prop := c ∉ [' ', '\t', '\x0c', '\\', '#', '\n']

instance (c : Char) : Decidable (IsPlainStart c) := inferInstanceAs (Decidable (¬ _))

theorem dropComment_of_isPlainStart {c : Char} (h : IsPlainStart c) (cs : List Char) :
    dropComment (c :: cs) = c :: cs := by
  unfold IsPlainStart at h
  rw [dropComment, if_neg]
  rintro ⟨⟩
  exact h (by decide)

theorem takeIndent_of_isPlainStart {c : Char} (h : IsPlainStart c) (cs : List Char) :
    takeIndent 0 {} (c :: cs) = some ({}, c :: cs) := by
  simp only [IsPlainStart, List.mem_cons, List.not_mem_nil, or_false, not_or] at h
  unfold takeIndent
  split
  all_goals simp_all

/-- A line begins with its first token. -/
theorem cuts_start {c : Char} (h : IsPlainStart c) (cs : List Char) :
    Cuts {} (c :: cs) [] inLine (c :: cs) := by
  refine cuts_of_scan_eq (by simp [State.size, inLine]) fun limit => ?_
  rw [scan, if_pos rfl, takeIndent_of_isPlainStart h]
  simp only [Option.bind_eq_bind, Option.bind_some, dropComment_of_isPlainStart h]
  split
  · next eq => cases eq
  · next eq =>
    cases eq
    exact absurd (by decide) h
  · simp [enterLine?, leaveBlocks?, inLine]

theorem cuts_emptyLine (rest : List Char) : Cuts {} ('\n' :: rest) [] {} rest :=
  cuts_of_scan_eq (by simp [State.size]) fun _ => rfl

theorem cuts_lineEnd (rest : List Char) : Cuts inLine ('\n' :: rest) [.lineEnd] {} rest := by
  refine cuts_of_scan (by simp [State.size, inLine]; omega) fun limit => ?_
  rw [scan]
  simp [inLine, dropComment, Option.map_eq_bind]

theorem cuts_newLine (rest : List Char) : Cuts inList ('\n' :: rest) [] inList rest := by
  refine cuts_of_scan_eq (by simp [State.size, inList]) fun limit => ?_
  rw [scan]
  simp [inList, dropComment]

theorem cuts_blank (inside : s.atStart = false) (cs : List Char) : Cuts s (' ' :: cs) [] s cs := by
  refine ⟨0, by simp [State.size], fun limit => ?_⟩
  cases limit with
  | zero => rfl
  | succ limit => simp [scan, inside]

/-! ## Words, strings and marks -/

/-- The state after a mark, if that opens or closes no bracket that it must not. -/
def State.after? (s : State) (mark : String) : Option State :=
  match closing? mark with
  | some close =>
    if bracketLimit ≤ s.brackets.length then none
    else some { s with brackets := close :: s.brackets }
  | none =>
    if isClosing mark then
      match s.brackets with
      | close :: left => if close ≠ mark then none else some { s with brackets := left }
      | [] => none
    else some s

/-- The step that a line goes on with where a token begins. -/
theorem scan_inside (inside : s.atStart = false) {c : Char} (h : IsPlainStart c) (cs : List Char)
    (limit : Nat) :
    scan (limit + 1) s (c :: cs) = match wordOrNumber? (c :: cs) with
      | some (token, rest) => (scan limit s rest).map (token :: ·)
      | none => (mark? (c :: cs)).bind fun (text, rest) =>
        (s.after? text).bind fun s' => (scan limit s' rest).map (.mark text :: ·) := by
  have plain := h
  simp only [IsPlainStart, List.mem_cons, List.not_mem_nil, or_false, not_or] at plain
  have kept : (c :: cs).dropWhile (fun c => c == ' ' || c == '\t' || c == '\x0c') = c :: cs :=
    List.dropWhile_cons_of_neg (by simp [plain])
  rw [scan, if_neg (by simp [inside])]
  simp only [kept, dropComment_of_isPlainStart h]
  split
  · next eq => cases eq
  · next eq =>
    cases eq
    exact absurd rfl plain.2.2.2.2.2
  · next eq =>
    cases eq
    exact absurd rfl plain.2.2.2.1
  · cases wordOrNumber? (c :: cs) with
    | some found => simp [Option.map_eq_bind]
    | none =>
      simp only [Option.map_eq_bind]
      refine congrArg _ (funext fun found => ?_)
      obtain ⟨text, rest⟩ := found
      unfold State.after?
      cases closing? text with
      | some close =>
        dsimp only
        split <;> rfl
      | none =>
        dsimp only
        cases s.brackets with
        | nil =>
          dsimp only
          split <;> rfl
        | cons close left =>
          dsimp only
          split
          · split <;> rfl
          · rfl

theorem cuts_token (inside : s.atStart = false) {c : Char} (h : IsPlainStart c) {t : Token}
    (found : wordOrNumber? (c :: cs) = some (t, rest)) (shorter : rest.length ≤ cs.length) :
    Cuts s (c :: cs) [t] s rest := by
  refine cuts_of_scan (by simp [State.size]; omega) fun limit => ?_
  rw [scan_inside inside h, found]

theorem State.atStart_after? {mark : String} (h : s.after? mark = some s') :
    s'.atStart = s.atStart := by
  unfold State.after? at h
  split at h
  · split at h
    · cases h
    · cases h
      rfl
  · split at h
    · split at h
      · split at h
        · cases h
        · cases h
          rfl
      · cases h
    · cases h
      rfl

theorem cuts_mark (inside : s.atStart = false) {c : Char} (h : IsPlainStart c) {mark : String}
    (noWord : wordOrNumber? (c :: cs) = none) (found : mark? (c :: cs) = some (mark, rest))
    (after : s.after? mark = some s') (shorter : rest.length ≤ cs.length) :
    Cuts s (c :: cs) [.mark mark] s' rest := by
  refine cuts_of_scan ?_ fun limit => ?_
  · simp only [State.size, State.atStart_after? after, List.length_cons]
    omega
  · rw [scan_inside inside h, noWord]
    simp [found, after]

/-- The character goes on with a name. -/
def inName (c : Char) : Bool := c.isAlphanum || c == '_' || 0x80 ≤ c.toNat

/-- A word ends where a blank or the end of a line comes. -/
theorem wordOrNumber?_word {w : List Char} (isWord : IsWord w) (led : IsLed w) {d : Char}
    (ends : d = ' ' ∨ d = '\n') (rest : List Char) :
    wordOrNumber? (w ++ d :: rest) = some (word (.ofList w), d :: rest) := by
  have identifier : Letter.isIdentifier (.ofList w) = true :=
    (isIdentifier_iff (by rwa [String.toList_ofList])).mpr (by rwa [String.toList_ofList])
  obtain ⟨c, tail, rfl, first⟩ := led
  have starts : c ≠ '.' ∧ ¬(c = '"' ∨ c = '\'') :=
    forall_isWordChar (p := fun c => c ≠ '.' ∧ ¬(c = '"' ∨ c = '\'')) (by decide)
      (isWord c List.mem_cons_self)
  have inside : ∀ x ∈ c :: tail, inName x = true := fun x hx =>
    Bool.or_eq_true_iff.mpr (Or.inl (isWord x hx))
  have outside : inName d = false := by
    rcases ends with rfl | rfl <;> rfl
  have noQuote : ¬(d = '"' ∨ d = '\'') := by
    rcases ends with rfl | rfl <;> decide
  have taken : (c :: (tail ++ d :: rest)).takeWhile inName = c :: tail := by
    rw [← List.cons_append, List.takeWhile_append_of_pos inside,
      List.takeWhile_cons_of_neg (by simp [outside]), List.append_nil]
  have dropped : (c :: (tail ++ d :: rest)).dropWhile inName = d :: rest := by
    rw [← List.cons_append, List.dropWhile_append_of_pos inside,
      List.dropWhile_cons_of_neg (by simp [outside])]
  unfold inName at taken dropped
  unfold wordOrNumber?
  simp only [List.cons_append, List.head?_cons, Option.bind_eq_bind, Option.bind_some, first,
    beq_false_of_ne starts.1, Bool.false_and, Bool.or_false, if_neg starts.2, taken, dropped,
    noQuote, false_and, identifier, if_true, if_false, Bool.false_eq_true]

/-- The mark begins no word, string or number. -/
theorem wordOrNumber?_mark {c : Char} (mark : c ∈ ['=', ',', '[', ']']) (rest : List Char) :
    wordOrNumber? (c :: rest) = none := by
  fin_cases mark <;> rfl

theorem wordOrNumber?_point {c : Char} (first : c.isDigit = false) (rest : List Char) :
    wordOrNumber? ('.' :: c :: rest) = none := by
  unfold wordOrNumber?
  simp only [List.head?_cons, Option.bind_eq_bind, Option.bind_some, List.drop_succ_cons,
    List.drop_zero, Option.any_some, first]
  rfl

/-- The inside of a string ends at the first quote. -/
theorem takeString_of_plain {inside : List Char}
    (plain : ∀ c ∈ inside, c ≠ '\\' ∧ c ≠ '"' ∧ c ≠ '\n') (before rest : List Char) :
    takeString '"' false before (inside ++ '"' :: rest) = some (before.reverse ++ inside, rest) ∧
    takeString '"' true before (inside ++ '"' :: '"' :: '"' :: rest) =
      some (before.reverse ++ inside, rest) := by
  induction inside generalizing before with
  | nil => simp [takeString]
  | cons c tail ih =>
    obtain ⟨first, others⟩ := List.forall_mem_cons.mp plain
    simp [takeString, first, ih others]

theorem escapesFit_of_plain {inside : List Char} (plain : '\\' ∉ inside) :
    escapesFit false inside = true := by
  induction inside with
  | nil => rfl
  | cons c tail ih =>
    simp only [List.mem_cons, not_or] at plain
    rw [escapesFit]
    · simp [ih plain.2]
    · rintro _ _ rfl
      exact absurd rfl plain.1

theorem string?_of_plain {inside : List Char}
    (plain : ∀ c ∈ inside, c ≠ '\\' ∧ c ≠ '"' ∧ c ≠ '\n') (rest : List Char) :
    (inside ≠ [] → string? "" '"' (inside ++ '"' :: rest) = some (.string false, rest)) ∧
    string? "" '"' ('"' :: '"' :: (inside ++ '"' :: '"' :: '"' :: rest)) =
      some (.string false, rest) := by
  have fits : escapesFit false inside = true :=
    escapesFit_of_plain fun mem => (plain _ mem).1 rfl
  have marks : "".contains 'b' = false ∧ "".contains 'r' = false ∧ "".contains 'f' = false := by
    simp
  obtain ⟨short, long⟩ := takeString_of_plain plain [] rest
  constructor
  · intro some
    obtain ⟨c, tail, rfl⟩ := List.exists_cons_of_ne_nil some
    have first := (plain c List.mem_cons_self).2.1
    have noQuotes : (c :: tail ++ '"' :: rest).take 2 ≠ ['"', '"'] := by
      simp [first]
    unfold string?
    simp only [noQuotes, decide_false, if_false, short, Option.bind_eq_bind, Option.bind_some,
      marks, List.reverse_nil, List.nil_append, fits, Bool.false_eq_true, Bool.not_true]
  · unfold string?
    simp [long, fits, marks]

/-! ## Pieces of a line -/

theorem cuts_word (inside : s.atStart = false) {text : String} (isWord : IsWord text.toList)
    (led : IsLed text.toList) {d : Char} (ends : d = ' ' ∨ d = '\n') (rest : List Char) :
    Cuts s (text.toList ++ d :: rest) [word text] s (d :: rest) := by
  have found := wordOrNumber?_word isWord led ends rest
  rw [String.ofList_toList] at found
  obtain ⟨c, tail, chars, -⟩ := led
  rw [chars] at isWord found ⊢
  have plain : IsPlainStart c :=
    forall_isWordChar (p := IsPlainStart) (by decide) (isWord c List.mem_cons_self)
  exact cuts_token inside plain found (by simp)

theorem cuts_string (inside : s.atStart = false) {text : List Char} (some : text ≠ [])
    (plain : ∀ c ∈ text, c ≠ '\\' ∧ c ≠ '"' ∧ c ≠ '\n') (rest : List Char) :
    Cuts s ('"' :: (text ++ '"' :: rest)) [.string false] s rest :=
  cuts_token inside (by decide) ((string?_of_plain plain rest).1 some) (by simp; omega)

theorem cuts_longString (inside : s.atStart = false) {text : List Char}
    (plain : ∀ c ∈ text, c ≠ '\\' ∧ c ≠ '"' ∧ c ≠ '\n') (rest : List Char) :
    Cuts s ('"' :: '"' :: '"' :: (text ++ '"' :: '"' :: '"' :: rest)) [.string false] s rest :=
  cuts_token inside (by decide) (string?_of_plain plain rest).2 (by simp; omega)

theorem cuts_point (inside : s.atStart = false) {c : Char} (first : c.isDigit = false)
    (other : c ≠ '.') (rest : List Char) :
    Cuts s ('.' :: c :: rest) [.mark "."] s (c :: rest) := by
  refine cuts_mark inside (by decide) (wordOrNumber?_point first rest) ?_ rfl (by simp)
  have short : '.' ∈ shortMarks := by decide
  unfold mark?
  simpa [longMarks, Ne.symm other] using short

/-- A mark of one character ends where a blank, the end of a line or of the text comes. -/
theorem cuts_shortMark (inside : s.atStart = false) {c : Char} (mark : c ∈ ['=', ',', '[', ']'])
    (after : s.after? (.singleton c) = some s')
    (ends : rest = [] ∨ ∃ d more, rest = d :: more ∧ (d = ' ' ∨ d = '\n')) :
    Cuts s (c :: rest) [.mark (.singleton c)] s' rest := by
  have plain : IsPlainStart c := by fin_cases mark <;> decide
  refine cuts_mark inside plain (wordOrNumber?_mark mark rest) ?_ after le_rfl
  rcases ends with rfl | ⟨d, more, rfl, rfl | rfl⟩ <;> fin_cases mark <;> rfl

/-! ## Whole texts -/

/-- A text that ends inside a line, with all brackets closed. -/
theorem tokens?_of_cuts {text : List Char} (plain : '\r' ∉ text ∧ '\x00' ∉ text)
    (h : Cuts {} text ts inLine []) : tokens? text = some (ts ++ [.lineEnd]) := by
  obtain ⟨steps, fits, eq⟩ := h
  have kept : ∀ cs : List Char, '\r' ∉ cs → Text.unifyLineEnds cs = cs := by
    intro cs noReturn
    induction cs using Text.unifyLineEnds.induct with
    | case1 rest ih => simp at noReturn
    | case2 rest _ ih => simp at noReturn
    | case3 c rest _ _ ih =>
      rw [Text.unifyLineEnds, ih (by simp_all)]
      all_goals simp_all
    | case4 => rfl
  obtain ⟨limit, enough⟩ : ∃ limit, 2 * text.length + 2 = limit + 1 + steps := by
    refine ⟨2 * text.length + 1 - steps, ?_⟩
    simp only [State.size, inLine, List.length_nil, if_true] at fits
    omega
  unfold tokens?
  rw [kept text plain.1]
  simp only [List.contains_iff_mem, if_neg plain.2]
  rw [enough, eq, scan]
  simp [inLine, dropComment]

end QueryShape.Grammar
