import QueryShape.Converter.Basic
import QueryShape.Proofs.Grammar.Literal

/-!
# Identifiers that are written are read

An identifier is written as thirty-two hexadecimal digits in five groups, with hyphens between them.
Its reader takes away what may stand around and between the digits, so what is left is the digits.

* `uuid?_uuidText`: they are read as the identifier.
-/

namespace QueryShape.Converter

open Grammar Literal Text Value

/-! ## Replaced stretches -/

/-- A stretch is not found before its first character is. -/
theorem replaceChars_append {first : Char} {old new front : List Char} (h : first ∉ front)
    (rest : List Char) : replaceChars (first :: old) new (front ++ rest) =
      front ++ replaceChars (first :: old) new rest := by
  induction front with
  | nil => rfl
  | cons c front ih =>
    obtain ⟨other, later⟩ := not_or.mp (List.mem_cons.not.mp h)
    have notHere : ¬ (first :: old).isPrefixOf (c :: (front ++ rest)) = true := fun found =>
      other (List.cons_prefix_cons.mp (List.isPrefixOf_iff_prefix.mp found)).1
    rw [List.cons_append, replaceChars, if_neg (by simp), if_neg notHere, ih later]
    rfl

theorem replaceChars_of_not_mem {first : Char} {old new cs : List Char} (h : first ∉ cs) :
    replaceChars (first :: old) new cs = cs := by
  have whole : replaceChars (first :: old) new (cs ++ []) =
      cs ++ replaceChars (first :: old) new [] := replaceChars_append h []
  have nothing : replaceChars (first :: old) new [] = [] := by simp [replaceChars]
  rwa [nothing, List.append_nil] at whole

/-! ## Hexadecimal numbers -/

/-- Nothing is taken away at the ends of a text that has nothing to take away. -/
theorem stripped_eq {p : Char → Bool} {cs : List Char} (h : ∀ c ∈ cs, p c = false) :
    ((cs.dropWhile p).reverse.dropWhile p).reverse = cs := by
  have kept {cs : List Char} (h : ∀ c ∈ cs, p c = false) : cs.dropWhile p = cs := by
    cases cs with
    | nil => rfl
    | cons c rest => exact List.dropWhile_cons_of_neg (by simp [h c List.mem_cons_self])
  rw [kept h, kept fun c mem => h c (List.mem_reverse.mp mem), List.reverse_reverse]

/-- Hexadecimal digits are ASCII already, and none is blank. -/
theorem plainNumber_hex (width n : Nat) : plainNumber (.ofList (hex width n)) = hex width n := by
  have mapped {f : Char → Char} (plain : ∀ d < 16, f (hexDigit d) = hexDigit d) :
      (hex width n).map f = hex width n :=
    (List.map_congr_left (forall_mem_hex (p := fun c => f c = c) plain width n)).trans
      (List.map_id' _)
  unfold plainNumber
  rw [String.toList_ofList, mapped]
  · exact stripped_eq (forall_mem_hex (by decide) width n)
  · decide

theorem takeSign_of_not_mem {cs : List Char} (minus : '-' ∉ cs) (plus : '+' ∉ cs) :
    takeSign cs = (false, cs) := by
  unfold takeSign
  split
  · exact absurd List.mem_cons_self minus
  · exact absurd List.mem_cons_self plus
  · rfl

theorem dropUnderscores?_of_not_mem {isDigit : Char → Bool} {cs : List Char} (h : '_' ∉ cs) :
    dropUnderscores? isDigit cs = some cs := by
  induction cs with
  | nil => rfl
  | cons c rest ih =>
    obtain ⟨other, later⟩ := not_or.mp (List.mem_cons.not.mp h)
    rw [dropUnderscores?]
    · rw [if_neg (Ne.symm other), ih later]
      rfl
    · rintro b rest' rfl
      exact absurd List.mem_cons_self later

/-- Hexadecimal digits are read as the number that they write. -/
theorem natOfDigits?_hex {width n : Nat} (positive : 0 < width) (h : n < 16 ^ width) :
    natOfDigits? 16 (hex width n) = some n := by
  have digit : ∀ d < 16, Letter.hexValue? (hexDigit d) = some d := by decide
  have folded (width n : Nat) : (hex width n).foldl (fun n? c => do
      let n ← n?
      let d ← Letter.hexValue? c
      if d < 16 then some (16 * n + d) else none) (some 0) =
        some (n % 16 ^ width) := by
    induction width generalizing n with
    | zero => simp [hex, Nat.mod_one]
    | succ width ih =>
      have last := Nat.mod_lt n (show 0 < 16 by decide)
      rw [hex, List.foldl_append, ih, Nat.pow_succ', Nat.mod_mul]
      simp [digit _ last, last, Nat.add_comm]
  have nonempty : (hex width n).isEmpty = false := by
    rw [List.isEmpty_eq_false_iff]
    exact List.ne_nil_of_length_pos (by rwa [length_hex])
  unfold natOfDigits?
  rw [nonempty, folded, Nat.mod_eq_of_lt h]
  rfl

/-- **Hexadecimal digits are read** as the number that they write: none is taken for a sign or for a
mark of the base. -/
theorem hexadecimal?_hex {width n : Nat} (positive : 0 < width) (h : n < 16 ^ width) :
    hexadecimal? (.ofList (hex width n)) = some (n : Int) := by
  have without {c : Char} (other : ∀ d < 16, hexDigit d ≠ c) : c ∉ hex width n := fun mem =>
    forall_mem_hex (p := fun x => x ≠ c) other width n c mem rfl
  have small : 'x' ∉ hex width n := without (by decide)
  have capital : 'X' ∉ hex width n := without (by decide)
  have underscore : '_' ∉ hex width n := without (by decide)
  have digits := natOfDigits?_hex positive h
  unfold hexadecimal?
  rw [plainNumber_hex, takeSign_of_not_mem (without (by decide)) (without (by decide))]
  generalize hex width n = cs at *
  dsimp only
  split
  · exact absurd (by simp) underscore
  · next x rest _ =>
    have noMark : ¬ (x = 'x' ∨ x = 'X') := by
      rintro (rfl | rfl)
      · exact absurd (by simp) small
      · exact absurd (by simp) capital
    rw [if_neg noMark, dropUnderscores?_of_not_mem underscore]
    simp [digits]
  · rw [dropUnderscores?_of_not_mem underscore]
    simp [digits]

/-! ## Identifiers -/

/-- An identifier is written as its digits, with hyphens in between. -/
theorem toList_uuidText (n : Nat) : ∃ a b c d e : List Char, hex 32 n = a ++ b ++ c ++ d ++ e ∧
    (uuidText n).toList = a ++ '-' :: b ++ '-' :: c ++ '-' :: d ++ '-' :: e := by
  have length := length_hex 32 n
  unfold uuidText
  generalize hex 32 n = cs at *
  have cut (start length : Nat) :
      (cs.drop start).take length ++ cs.drop (start + length) = cs.drop start := by
    rw [← List.drop_drop, List.take_append_drop]
  refine ⟨(cs.drop 0).take 8, (cs.drop 8).take 4, (cs.drop 12).take 4, (cs.drop 16).take 4,
    (cs.drop 20).take 12, ?_, ?_⟩
  · have last : (cs.drop 20).take 12 = cs.drop 20 :=
      List.take_of_length_le (by rw [List.length_drop, length])
    rw [last]
    simp only [List.append_assoc]
    rw [cut 16 4, cut 12 4, cut 8 4, cut 0 8, List.drop_zero]
  · simp

/-- **The text of an identifier is read** as the identifier. -/
theorem uuid?_uuidText {n : Nat} (h : n < 2 ^ 128) : uuid? (uuidText n) = some n := by
  obtain ⟨a, b, c, d, e, digits, text⟩ := toList_uuidText n
  have chars {p : Char → Prop} (digit : ∀ d < 16, p (hexDigit d)) (hyphen : p '-') :
      ∀ x ∈ (uuidText n).toList, p x := by
    have all := forall_mem_hex digit 32 n
    rw [text]
    rw [digits] at all
    simp only [List.mem_append, List.mem_cons] at all ⊢
    grind
  have without {x : Char} (other : ∀ d < 16, hexDigit d ≠ x) (notHyphen : '-' ≠ x) :
      x ∉ (uuidText n).toList := fun mem => chars (p := fun y => y ≠ x) other notHyphen x mem rfl
  have noU : 'u' ∉ (uuidText n).toList := without (by decide) (by decide)
  have noBrace : ∀ x ∈ (uuidText n).toList, (x == '\x7b' || x == '\x7d') = false :=
    chars (p := fun x => (x == '\x7b' || x == '\x7d') = false) (by decide) (by decide)
  have bare : (uuidText n).toList.filter (· ≠ '-') = hex 32 n := by
    have noHyphen : ∀ x ∈ hex 32 n, decide (x ≠ '-') = true := forall_mem_hex (by decide) 32 n
    calc (uuidText n).toList.filter (· ≠ '-')
        = (hex 32 n).filter (· ≠ '-') := by
          rw [text, digits]
          simp only [List.filter_append, ne_eq, not_true_eq_false, decide_false,
            Bool.false_eq_true, not_false_eq_true, List.filter_cons_of_neg]
      _ = hex 32 n := List.filter_eq_self.mpr noHyphen
  have urn : "urn:".toList = 'u' :: "rn:".toList := by decide
  have uuid : "uuid:".toList = 'u' :: "uid:".toList := by decide
  have read : hexadecimal? (.ofList (hex 32 n)) = some (n : Int) :=
    hexadecimal?_hex (by decide) (h.trans_eq (by decide))
  unfold uuid?
  rw [urn, uuid, replaceChars_of_not_mem noU, replaceChars_of_not_mem noU]
  dsimp only
  rw [stripped_eq noBrace, bare, if_neg (by simp [length_hex]), read]
  simp

end QueryShape.Converter
