import QueryShape.Literal
import QueryShape.Proofs.Grammar.Cuts

/-!
# What string literals mean

`literal?` reads the string that a text begins with. Where it ends is what cutting says, and
`meaning?` is the text that its inside stands for.

A literal of generated code stands between single double quotes, with escapes, or between triple
ones, without any. Both are read as the text that they were written for, whatever comes after them.

* `Writes`: what escapes and plain characters have in common between double quotes.
* `takes_textChars`: where a literal of generated code ends, in both forms.
* `reads_text`: it means its text and is one token, whatever comes after it.
* `tokens?_textChars`: and it is nothing but that token.
-/

namespace QueryShape.Grammar

open Literal

/-! ## Meaning -/

/-- The characters that letters after a backslash stand for. -/
def simpleEscapes : List (Char × Char) :=
  [('\\', '\\'), ('\'', '\''), ('"', '"'), ('a', '\x07'), ('b', '\x08'), ('f', '\x0c'),
   ('n', '\n'), ('r', '\r'), ('t', '\t'), ('v', '\x0b')]

/-- The letters after a backslash that a code in hexadecimal digits follows, and how many. -/
def codeEscapes : List (Char × Nat) := [('x', 2), ('u', 4), ('U', 8)]

/-- The character of a code, if there is one. -/
def charOf? (code : Nat) : Option Char :=
  if code.isValidChar then some (.ofNat code) else none

/-- The character is an octal digit. -/
def isOctal (c : Char) : Bool := '0' ≤ c && c ≤ '7'

/-- The number that octal digits write. -/
def octalValue (cs : List Char) : Nat := cs.foldl (fun n c => 8 * n + (c.toNat - 0x30)) 0

/-- The text that the inside of a string stands for, if it holds no escape by name and no half of a
surrogate pair. A backslash before any other character stands for itself, and before the end of a
line for nothing. -/
def meaning? : List Char → Option (List Char)
  | [] => some []
  | '\\' :: c :: rest =>
    if c = '\n' then meaning? rest
    else
      match simpleEscapes.lookup c with
      | some d => (meaning? rest).map (d :: ·)
      | none =>
        match codeEscapes.lookup c with
        | some width =>
          (hexDigits? width rest).bind fun (digits, _) => (charOf? (hexValue digits)).bind fun d =>
            (meaning? (rest.drop width)).map (d :: ·)
        | none =>
          if c = 'N' then none
          else if isOctal c then
            let digits := c :: (rest.take 2).takeWhile isOctal
            (charOf? (octalValue digits)).bind fun d =>
              (meaning? (rest.drop (digits.length - 1))).map (d :: ·)
          else (meaning? rest).map (['\\', c] ++ ·)
  | c :: rest => (meaning? rest).map (c :: ·)
termination_by cs => cs.length

/-- The text that the string at the beginning stands for, and what comes after the string. -/
def literal? : List Char → Option (List Char × List Char)
  | [] => none
  | quote :: rest => do
    if quote ≠ '"' ∧ quote ≠ '\'' then none
    let long := rest.take 2 = [quote, quote]
    let (inside, rest) ← takeString quote long [] (if long then rest.drop 2 else rest)
    return (← meaning? inside, rest)

example : literal? "'a\\x41\\u00e9\\101\\d' b".toList = some ("aAéA\\d".toList, " b".toList) := by
  cbv

theorem meaning?_cons {c : Char} (h : c ≠ '\\') (rest : List Char) :
    meaning? (c :: rest) = (meaning? rest).map (c :: ·) := by
  rw [meaning?]
  rintro _ _ rfl
  exact absurd rfl h

/-! ## Digits -/

theorem length_hex (width n : Nat) : (hex width n).length = width := by
  induction width generalizing n with
  | zero => rfl
  | succ width ih => rw [hex, List.length_append, ih, List.length_singleton]

/-- What holds of every digit holds of all digits of a number. -/
theorem forall_mem_hex {p : Char → Prop} (h : ∀ d < 16, p (hexDigit d)) (width n : Nat) :
    ∀ c ∈ hex width n, p c := by
  induction width generalizing n with
  | zero => exact fun _ mem => absurd mem List.not_mem_nil
  | succ width ih =>
    intro c mem
    rw [hex, List.mem_append, List.mem_singleton] at mem
    rcases mem with mem | rfl
    · exact ih _ c mem
    · exact h _ (Nat.mod_lt n (by decide))

theorem hexValue_hex (width n : Nat) : hexValue (hex width n) = n % 16 ^ width := by
  induction width generalizing n with
  | zero => simp [hex, hexValue, Nat.mod_one]
  | succ width ih =>
    have digit : ∀ d < 16, (Letter.hexValue? (hexDigit d)).getD 0 = d := by decide
    calc hexValue (hex (width + 1) n)
        = 16 * hexValue (hex width (n / 16)) + n % 16 := by
          simp only [hex, hexValue, List.foldl_append, List.foldl_cons, List.foldl_nil,
            digit _ (Nat.mod_lt n (by decide : 0 < 16))]
      _ = n % 16 + 16 * (n / 16 % 16 ^ width) := by rw [ih, Nat.add_comm]
      _ = n % 16 ^ (width + 1) := by rw [← Nat.mod_mul, ← Nat.pow_succ']

/-- The digits that are written are read. -/
theorem hexDigits?_hex (width n : Nat) (rest : List Char) :
    hexDigits? width (hex width n ++ rest) = some (hex width n, rest) := by
  have taken : (hex width n ++ rest).take width = hex width n :=
    List.take_left' (length_hex width n)
  have dropped : (hex width n ++ rest).drop width = rest := List.drop_left' (length_hex width n)
  have digits : (hex width n).all (fun c => (Letter.hexValue? c).isSome) = true :=
    List.all_eq_true.mpr (forall_mem_hex (by decide) width n)
  unfold hexDigits?
  rw [taken, dropped, digits, List.length_append, length_hex]
  simp

/-! ## Between double quotes -/

/-- What is written for characters between double quotes: it stands for them, is passed over, and
holds no line end of another kind and no zero. -/
structure Writes (w cs : List Char) : Prop where
  value : ∀ rest, meaning? (w ++ rest) = (meaning? rest).map (cs ++ ·)
  inside : ∀ before rest,
    takeString '"' false before (w ++ rest) = takeString '"' false (w.reverse ++ before) rest
  fits : ∀ rest, escapesFit false (w ++ rest) = escapesFit false rest
  noReturn : '\r' ∉ w
  noZero : '\x00' ∉ w
  noQuote : w.head? ≠ some '"'

theorem writes_nil : Writes [] [] where
  value rest := by simp
  inside before rest := rfl
  fits rest := rfl
  noReturn := List.not_mem_nil
  noZero := List.not_mem_nil
  noQuote := nofun

theorem Writes.append {w w' cs cs' : List Char} (h : Writes w cs) (h' : Writes w' cs') :
    Writes (w ++ w') (cs ++ cs') where
  value rest := by
    rw [List.append_assoc, h.value, h'.value, Option.map_map]
    exact congrArg (Option.map · _) (funext fun _ => (List.append_assoc _ _ _).symm)
  inside before rest := by
    rw [List.append_assoc, h.inside, h'.inside, List.reverse_append, List.append_assoc]
  fits rest := by rw [List.append_assoc, h.fits, h'.fits]
  noReturn := by simp [h.noReturn, h'.noReturn]
  noZero := by simp [h.noZero, h'.noZero]
  noQuote := by
    rw [List.head?_append]
    cases first : w.head? with
    | none => simpa using h'.noQuote
    | some c => simpa [first] using h.noQuote

theorem Writes.flatMap {write : Char → List Char} (h : ∀ c, Writes (write c) [c])
    (cs : List Char) : Writes (cs.flatMap write) cs := by
  induction cs with
  | nil => exact writes_nil
  | cons c rest ih => exact (h c).append ih

/-- A character that is not special stands for itself. -/
theorem writes_self {c : Char} (plain : c ∉ ['\\', '"', '\n', '\r', '\x00']) :
    Writes [c] [c] := by
  simp only [List.mem_cons, List.not_mem_nil, or_false, not_or] at plain
  obtain ⟨noBackslash, noQuote, noLineEnd, noReturn, noZero⟩ := plain
  exact {
    value := fun rest => meaning?_cons noBackslash rest
    inside := fun before rest => by simp [takeString, noBackslash, noQuote, noLineEnd]
    fits := fun rest => by
      rw [List.singleton_append, escapesFit]
      · simp
      · rintro _ _ rfl
        exact absurd rfl noBackslash
    noReturn := by simpa using Ne.symm noReturn
    noZero := by simpa using Ne.symm noZero
    noQuote := by simpa using noQuote }

/-- An escape of one letter stands for its character. -/
theorem writes_simple {letter c : Char} (mem : (letter, c) ∈ simpleEscapes) :
    Writes ['\\', letter] [c] := by
  have known : ∀ x ∈ simpleEscapes, simpleEscapes.lookup x.1 = some x.2 ∧
      x.1 ∉ ['\n', 'x', 'u', 'U', 'N', '\r', '\x00'] := by decide
  obtain ⟨found, plain⟩ := known _ mem
  simp only [List.mem_cons, List.not_mem_nil, or_false, not_or] at plain
  obtain ⟨noLineEnd, noX, noU, noLong, noName, noReturn, noZero⟩ := plain
  exact {
    value := fun rest => by
      rw [List.cons_append, List.singleton_append, meaning?]
      simp [noLineEnd, found]
    inside := fun before rest => by simp [takeString]
    fits := fun rest => by
      rw [List.cons_append, List.singleton_append, escapesFit]
      simp [noX, noU, noLong, noName]
    noReturn := by simp [Ne.symm noReturn]
    noZero := by simp [Ne.symm noZero]
    noQuote := by simp }

/-- Digits are passed over. -/
theorem writes_digits {ds : List Char} (h : ∀ d ∈ ds, d ∉ ['\\', '"', '\n', '\r', '\x00']) :
    Writes ds ds := by
  induction ds with
  | nil => exact writes_nil
  | cons d rest ih =>
    obtain ⟨first, others⟩ := List.forall_mem_cons.mp h
    exact (writes_self first).append (ih others)

/-- An escape of a code of four digits stands for the character of the code. -/
theorem writes_code {c : Char} (small : c.toNat < 0x10000) : Writes (escape 'u' 4 c.toNat) [c] := by
  have digits : Writes (hex 4 c.toNat) (hex 4 c.toNat) :=
    writes_digits (forall_mem_hex (by decide) 4 c.toNat)
  have value : hexValue (hex 4 c.toNat) = c.toNat := by
    rw [hexValue_hex]
    exact Nat.mod_eq_of_lt small
  have isChar : charOf? c.toNat = some c := by
    unfold charOf?
    rw [if_pos (show c.toNat.isValidChar from c.valid), Char.ofNat_toNat]
  have letter : ∀ x : Char, x = 'u' → x ≠ '\n' ∧ simpleEscapes.lookup x = none ∧
      codeEscapes.lookup x = some 4 := by
    rintro _ rfl
    decide
  obtain ⟨noLineEnd, notSimple, four⟩ := letter _ rfl
  have dropped (rest : List Char) : (hex 4 c.toNat ++ rest).drop 4 = rest :=
    List.drop_left' (length_hex 4 c.toNat)
  exact {
    value := fun rest => by
      rw [escape, List.cons_append, List.cons_append, meaning?]
      simp only [noLineEnd, if_false, notSimple, four, hexDigits?_hex, Option.bind_some, value,
        isChar, dropped, List.singleton_append]
    inside := fun before rest => by
      rw [escape, List.cons_append, List.cons_append, takeString, digits.inside]
      simp
    fits := fun rest => by
      rw [escape, List.cons_append, List.cons_append, escapesFit]
      simp only [digits.fits, hexDigits?_hex, value]
      have : c.toNat < 0x110000 := by omega
      simp [this]
    noReturn := by simp [escape, digits.noReturn]
    noZero := by simp [escape, digits.noZero]
    noQuote := by simp [escape] }

/-- **What is written for a character between double quotes stands for it.** -/
theorem writes_doubleChar (c : Char) : Writes (doubleChar (fun _ => true) c) [c] := by
  unfold doubleChar
  split
  · next h =>
    subst h
    exact writes_simple (by decide)
  split
  · next h =>
    subst h
    exact writes_simple (by decide)
  split
  · next h =>
    subst h
    exact writes_simple (by decide)
  split
  · next h =>
    subst h
    exact writes_simple (by decide)
  split
  · next h =>
    subst h
    exact writes_simple (by decide)
  split
  · next h =>
    subst h
    exact writes_simple (by decide)
  split
  · next h =>
    subst h
    exact writes_simple (by decide)
  split
  · next control =>
    have small : c.toNat < 0x20 := by simpa using control
    rw [escapeUnits, if_pos (by omega)]
    exact writes_code (by omega)
  · next noQuote noBackslash noLineEnd noReturn _ _ _ printed =>
    refine writes_self ?_
    have noZero : c ≠ '\x00' := by
      rintro rfl
      exact printed (by decide)
    simp [noQuote, noBackslash, noLineEnd, noReturn, noZero]

/-! ## Between triple quotes -/

theorem hasTripleQuote_cons {c : Char} {rest : List Char}
    (h : hasTripleQuote (c :: rest) = false) :
    hasTripleQuote rest = false ∧ ¬(c = '"' ∧ rest.take 2 = ['"', '"']) := by
  unfold hasTripleQuote at h
  split at h
  · next eq => cases eq
  · cases h
  · next other eq =>
    cases eq
    refine ⟨h, ?_⟩
    rintro ⟨rfl, quotes⟩
    rcases rest with _ | ⟨d, _ | ⟨e, more⟩⟩
    · simp at quotes
    · simp at quotes
    · simp only [List.take_succ_cons, List.take_zero, List.cons.injEq, and_true] at quotes
      obtain ⟨rfl, rfl⟩ := quotes
      exact other more rfl rfl

/-- A text without triple quotes, without a backslash and without a quote at its end goes on to the
first triple quotes. -/
theorem takeString_long {cs : List Char} (noTriple : hasTripleQuote cs = false)
    (noBackslash : '\\' ∉ cs) (noQuote : cs.getLast? ≠ some '"') (before rest : List Char) :
    takeString '"' true before (cs ++ '"' :: '"' :: '"' :: rest) =
      some (before.reverse ++ cs, rest) := by
  induction cs generalizing before with
  | nil => simp [takeString]
  | cons c tail ih =>
    obtain ⟨others, noQuotes⟩ := hasTripleQuote_cons noTriple
    simp only [List.mem_cons, not_or] at noBackslash
    have last : tail.getLast? ≠ some '"' := by
      cases tail with
      | nil => simp
      | cons d more => rwa [List.getLast?_cons_cons] at noQuote
    -- Two quotes after this one would be of the text, or one of them would be its end.
    have goesOn : c = '"' → (tail ++ '"' :: '"' :: '"' :: rest).take 2 ≠ ['"', '"'] := by
      rintro rfl
      rcases tail with _ | ⟨d, _ | ⟨e, more⟩⟩
      · simp at noQuote
      · simpa using last
      · simpa using noQuotes
    have next := ih others noBackslash.2 last (c :: before)
    rw [List.reverse_cons, List.append_assoc, List.singleton_append] at next
    rw [List.cons_append, takeString]
    · by_cases quote : c = '"'
      · subst quote
        simp only [if_true, Bool.not_true, if_false, Bool.false_eq_true]
        rw [if_neg (goesOn rfl), next]
      · simp [quote, next]
    · rintro _ _ rfl
      exact absurd rfl noBackslash.1

theorem meaning?_of_plain {cs : List Char} (plain : '\\' ∉ cs) : meaning? cs = some cs := by
  induction cs with
  | nil => rw [meaning?]
  | cons c rest ih =>
    simp only [List.mem_cons, not_or] at plain
    rw [meaning?_cons (Ne.symm plain.1), ih plain.2]
    rfl

/-! ## Literals of generated code -/

/-- Printable characters are no line ends of another kind, and not zero. -/
theorem of_isPrintable {c : Char} (h : (Letter.isPrintable c || c == '\n') = true) :
    c ≠ '\r' ∧ c ≠ '\x00' := by
  constructor <;>
    · rintro rfl
      exact absurd h (by decide)

theorem of_standsInTripleQuotes {cs : List Char} (h : standsInTripleQuotes cs = true) :
    hasTripleQuote cs = false ∧ '\\' ∉ cs ∧ cs.getLast? ≠ some '"' ∧
      ∀ c ∈ cs, c ≠ '\r' ∧ c ≠ '\x00' := by
  unfold standsInTripleQuotes at h
  simp only [Bool.and_eq_true, Bool.not_eq_true', List.all_eq_true, bne_iff_ne, ne_eq] at h
  obtain ⟨⟨⟨⟨-, noTriple⟩, noBackslash⟩, noQuote⟩, printable⟩ := h
  refine ⟨noTriple, by simpa using noBackslash, noQuote, fun c mem => ?_⟩
  exact of_isPrintable (printable c mem)

/-- **A literal of generated code ends where it was written to end**, and its inside stands for its
text. An empty literal must not be followed by another quote. -/
theorem takes_textChars {cs rest : List Char} (follows : cs = [] → rest.head? ≠ some '"') :
    ∃ tail inside, textChars cs = '"' :: tail ∧
      takeString '"' (decide ((tail ++ rest).take 2 = ['"', '"'])) []
        (if (tail ++ rest).take 2 = ['"', '"'] then (tail ++ rest).drop 2 else tail ++ rest) =
        some (inside, rest) ∧
      meaning? inside = some cs ∧ escapesFit false inside = true := by
  unfold textChars
  split
  · next stands =>
    obtain ⟨noTriple, noBackslash, noQuote, -⟩ := of_standsInTripleQuotes stands
    refine ⟨'"' :: '"' :: (cs ++ ['"', '"', '"']), cs, by simp, ?_,
      meaning?_of_plain noBackslash, escapesFit_of_plain noBackslash⟩
    simpa using takeString_long noTriple noBackslash noQuote [] rest
  · have body := Writes.flatMap writes_doubleChar cs
    have value : meaning? (cs.flatMap (doubleChar fun _ => true)) = some cs := by
      have := body.value []
      rwa [meaning?, List.append_nil, Option.map_some, List.append_nil] at this
    have fits := body.fits []
    rw [List.append_nil] at fits
    refine ⟨_, cs.flatMap (doubleChar fun _ => true), rfl, ?_, value, fits⟩
    have short : (cs.flatMap (doubleChar fun _ => true) ++ ['"'] ++ rest).take 2 ≠ ['"', '"'] := by
      have first := body.noQuote
      cases written : cs.flatMap (doubleChar fun _ => true) with
      | nil =>
        rw [written, meaning?, Option.some_inj] at value
        have other := follows value.symm
        cases rest <;> simp_all
      | cons c more => simp_all
    have inside := body.inside [] ('"' :: rest)
    rw [List.append_nil] at inside
    rw [if_neg short, decide_eq_false short]
    simp [inside, takeString]

/-- **A literal of generated code means its text**, whatever comes after it. -/
theorem literal?_textChars {cs rest : List Char} (follows : cs = [] → rest.head? ≠ some '"') :
    literal? (textChars cs ++ rest) = some (cs, rest) := by
  obtain ⟨tail, inside, written, taken, value, -⟩ := takes_textChars follows
  rw [written, List.cons_append, literal?]
  simp [taken, value]

/-- **A literal of generated code is one string**, in any line and whatever comes after it. -/
theorem cuts_text {s : State} (inLine : s.atStart = false) {cs rest : List Char}
    (follows : cs = [] → rest.head? ≠ some '"') :
    Cuts s (textChars cs ++ rest) [.string false] s rest := by
  obtain ⟨tail, inside, written, taken, -, fits⟩ := takes_textChars follows
  have found : string? "" '"' (tail ++ rest) = some (.string false, rest) := by
    simp [string?, taken, fits]
  rw [written, List.cons_append]
  exact cuts_token inLine (by decide) found (by simp)

/-- A text begins with a literal that means the value and is one string, and goes on as given. -/
structure Reads (cs : List Char) (value : String) (rest : List Char) : Prop where
  value : literal? cs = some (value.toList, rest)
  token : ∀ s : State, s.atStart = false → Cuts s cs [.string false] s rest

theorem reads_text (s : String) {rest : List Char} (follows : s = "" → rest.head? ≠ some '"') :
    Reads ((Literal.text s).toList ++ rest) s rest := by
  have other : s.toList = [] → rest.head? ≠ some '"' := fun h => follows (by simpa using h)
  rw [Literal.text, String.toList_ofList]
  exact ⟨literal?_textChars other, fun _ inLine => cuts_text inLine other⟩

/-- A literal of generated code holds no line end of another kind, and no zero. -/
theorem plain_textChars (cs : List Char) : '\r' ∉ textChars cs ∧ '\x00' ∉ textChars cs := by
  unfold textChars
  split
  · next stands =>
    have plain := (of_standsInTripleQuotes stands).2.2.2
    have noReturn : '\r' ∉ cs := fun mem => (plain _ mem).1 rfl
    have noZero : '\x00' ∉ cs := fun mem => (plain _ mem).2 rfl
    simp [noReturn, noZero]
  · have body := Writes.flatMap writes_doubleChar cs
    simp [doubleChars, body.noReturn, body.noZero]

/-- **The literal of a text is one string and nothing else.** -/
theorem tokens?_textChars (cs : List Char) :
    tokens? (textChars cs) = some [.string false, .lineEnd] := by
  have line : Cuts {} (textChars cs) [] inLine (textChars cs) := by
    obtain ⟨tail, -, written, -⟩ := @takes_textChars cs [] nofun
    rw [written]
    exact cuts_start (by decide) tail
  have string : Cuts inLine (textChars cs ++ []) [.string false] inLine [] := cuts_text rfl nofun
  rw [List.append_nil] at string
  exact tokens?_of_cuts (plain_textChars cs) (line.trans string)

end QueryShape.Grammar
