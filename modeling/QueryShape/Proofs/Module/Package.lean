import QueryShape.Module.Layout
import QueryShape.Proofs.Grammar.Package

/-!
# The text of the module of a package

* `tokens?_packageText`: the tokens of the text, for any classes.
* `isModule_packageText_iff`: it is a module exactly if all classes can be imported.
-/

namespace QueryShape.Module

open Grammar Naming

/-! ## Names of modules -/

theorem isLed_append {cs : List Char} (h : IsLed cs) (more : List Char) : IsLed (cs ++ more) := by
  obtain ⟨c, rest, rfl, first⟩ := h
  exact ⟨c, rest ++ more, rfl, first⟩

theorem isLed_joined {first : List Char} (h : IsLed first) (parts : List (List Char)) :
    IsLed (joined (first :: parts)) := by
  cases parts with
  | nil => simpa [joined] using h
  | cons second parts => exact isLed_append h _

/-- No digit leads the name of a module if none leads that of the class. -/
theorem isLed_moduleName {name : String} (isWord : IsWord name.toList) (led : IsLed name.toList) :
    IsLed (moduleName name).toList := by
  rw [toList_moduleName]
  obtain ⟨c, rest, chars, first⟩ := led
  have words := isWord_of_mem_segments isWord
  have whole := joined_segments name.toList
  cases segs : segments name.toList with
  | nil => exact absurd segs (segments_ne_nil _)
  | cons part parts =>
    rw [segs] at words whole
    cases part with
    | nil =>
      -- two underscores lead the name, and so that of the module
      cases parts with
      | nil => rw [← whole] at chars; cases chars
      | cons second parts =>
        have nothing : snakeChars [] = [] := by cbv
        rw [List.map_cons, List.map_cons, joined_cons_cons, nothing]
        exact ⟨'_', _, rfl, rfl⟩
    | cons d part =>
      rw [joined_cons_head, chars] at whole
      cases (List.cons.inj whole).1
      exact isLed_joined (isLed_snakeChars (words _ List.mem_cons_self) ⟨_, _, rfl, first⟩) _

/-! ## Lines -/

theorem toList_endLines (lines : List String) :
    (endLines lines).toList = lines.flatMap fun line => line.toList ++ ['\n'] := by
  unfold endLines
  rw [String.toList_join, List.flatMap_map]
  simp

theorem length_le_endLines (lines : List String) : lines.length ≤ (endLines lines).length := by
  rw [← String.length_toList, toList_endLines]
  induction lines with
  | nil => exact le_rfl
  | cons line rest ih =>
    rw [List.flatMap_cons, List.length_append, List.length_append]
    exact (Nat.add_le_add_right ih 1).trans (by simp)

/-- What the banner says. -/
def bannerText : String := "Generated by gql-typegen from GraphQL query documents. Do not edit."

theorem toList_banner :
    banner.toList = '"' :: '"' :: '"' :: (bannerText.toList ++ ['"', '"', '"']) := by
  have quoted : banner = "\"\"\"" ++ bannerText ++ "\"\"\"" := by decide
  rw [quoted]
  simp

theorem bannerText_spec {c : Char} (mem : c ∈ bannerText.toList) :
    0x20 ≤ c.toNat ∧ c ≠ '\\' ∧ c ≠ '"' := by
  have all : (bannerText.toList.all fun c => 0x20 ≤ c.toNat ∧ c ≠ '\\' ∧ c ≠ '"') = true := by cbv
  exact of_decide_eq_true (List.all_eq_true.mp all c mem)

theorem cuts_banner (rest : List Char) :
    Cuts {} (banner.toList ++ '\n' :: rest) [.string false, .lineEnd] {} rest := by
  have inside : ∀ c ∈ bannerText.toList, c ≠ '\\' ∧ c ≠ '"' ∧ c ≠ '\n' := by
    intro c mem
    obtain ⟨printed, noEscape, noQuote⟩ := bannerText_spec mem
    refine ⟨noEscape, noQuote, ?_⟩
    rintro rfl
    exact absurd printed (by decide)
  have text : banner.toList ++ '\n' :: rest =
      '"' :: '"' :: '"' :: (bannerText.toList ++ '"' :: '"' :: '"' :: '\n' :: rest) := by
    simp [toList_banner]
  rw [text]
  exact (cuts_start (by decide) _).trans
    ((cuts_longString rfl inside _).trans (cuts_lineEnd rest))

theorem cuts_wordBlank (text : String) (isWord : IsWord text.toList) (led : IsLed text.toList)
    (rest : List Char) : Cuts inLine (text.toList ++ ' ' :: rest) [word text] inLine rest :=
  (cuts_word rfl isWord led (.inl rfl) _).trans (cuts_blank rfl rest)

theorem cuts_classImport {name : String} (isWord : IsWord name.toList) (led : IsLed name.toList)
    (rest : List Char) :
    Cuts {} ((classImport name).toList ++ '\n' :: rest) (importTokens name) {} rest := by
  have text : (classImport name).toList ++ '\n' :: rest =
      "from".toList ++ ' ' :: '.' :: ((moduleName name).toList ++ ' ' ::
        ("import".toList ++ ' ' :: (name.toList ++ '\n' :: rest))) := by
    simp [classImport]
  have moduleWord := isWord_moduleName isWord
  have moduleLed := isLed_moduleName isWord led
  have point (more : List Char) : Cuts inLine ('.' :: ((moduleName name).toList ++ more))
      [.mark "."] inLine ((moduleName name).toList ++ more) := by
    obtain ⟨c, tail, chars, first⟩ := moduleLed
    have other : c ≠ '.' := by
      rintro rfl
      exact absurd (moduleWord '.' (chars ▸ List.mem_cons_self)) (by decide)
    rw [chars]
    exact cuts_point rfl first other _
  have start (more : List Char) : Cuts {} ("from".toList ++ ' ' :: more) [.keyword "from"] inLine
      more :=
    (cuts_start (c := 'f') (by decide) _).trans
      (cuts_wordBlank "from" (by decide) ⟨'f', _, rfl, rfl⟩ more)
  have middle (more : List Char) : Cuts inLine ("import".toList ++ ' ' :: more) [.keyword "import"]
      inLine more :=
    cuts_wordBlank "import" (by decide) ⟨'i', _, rfl, rfl⟩ more
  rw [text]
  exact (start _).trans ((point _).trans ((cuts_wordBlank _ moduleWord moduleLed _).trans
    ((middle _).trans ((cuts_word rfl isWord led (.inr rfl) rest).trans (cuts_lineEnd rest)))))

/-- A word as a literal stands between quotes as it is. -/
theorem toList_text {name : String} (isWord : IsWord name.toList) :
    (Literal.text name).toList = '"' :: (name.toList ++ ['"']) := by
  have oneLine : '\n' ∉ name.toList := fun mem => absurd (isWord _ mem) (by decide)
  have kept : name.toList.flatMap (Literal.doubleChar fun _ => true) = name.toList := by
    refine (List.flatMap_congr fun c mem => ?_).trans (List.flatMap_singleton' _)
    exact forall_isWordChar (p := fun c => Literal.doubleChar (fun _ => true) c = [c]) (by decide)
      (isWord c mem)
  unfold Literal.text Literal.textChars Literal.standsInTripleQuotes
  rw [String.toList_ofList, if_neg (by simp [oneLine]), Literal.doubleChars, kept]

theorem cuts_entry {name : String} (isWord : IsWord name.toList) (led : IsLed name.toList)
    (rest : List Char) :
    Cuts inList (("    " ++ Literal.text name ++ ",").toList ++ '\n' :: rest)
      [.string false, .mark ","] inList rest := by
  have text : ("    " ++ Literal.text name ++ ",").toList ++ '\n' :: rest =
      ' ' :: ' ' :: ' ' :: ' ' :: '"' :: (name.toList ++ '"' :: ',' :: '\n' :: rest) := by
    simp [toList_text isWord]
  have some : name.toList ≠ [] := by
    obtain ⟨c, tail, chars, -⟩ := led
    simp [chars]
  have plain : ∀ c ∈ name.toList, c ≠ '\\' ∧ c ≠ '"' ∧ c ≠ '\n' := fun c mem =>
    forall_isWordChar (p := fun c => c ≠ '\\' ∧ c ≠ '"' ∧ c ≠ '\n') (by decide) (isWord c mem)
  have blanks (cs : List Char) : Cuts inList (' ' :: ' ' :: ' ' :: ' ' :: cs) [] inList cs :=
    (cuts_blank rfl _).trans
      ((cuts_blank rfl _).trans ((cuts_blank rfl _).trans (cuts_blank rfl _)))
  have comma : Cuts inList (',' :: '\n' :: rest) [.mark ","] inList ('\n' :: rest) :=
    cuts_shortMark (c := ',') rfl (by decide) rfl (.inr ⟨'\n', rest, rfl, .inr rfl⟩)
  rw [text]
  exact (blanks _).trans ((cuts_string rfl some plain _).trans (comma.trans (cuts_newLine rest)))

/-- Lines of which each begins and ends in one state, put together. -/
theorem cuts_lines {s : State} {items : List String} {line : String → String}
    {tokens : String → List Token} (each : ∀ item ∈ items, ∀ rest,
      Cuts s ((line item).toList ++ '\n' :: rest) (tokens item) s rest) (rest : List Char) :
    Cuts s ((endLines (items.map line)).toList ++ rest) (items.flatMap tokens) s rest := by
  rw [toList_endLines]
  induction items with
  | nil => exact .refl s rest
  | cons item others ih =>
    obtain ⟨first, more⟩ := List.forall_mem_cons.mp each
    have text : ((item :: others).map line).flatMap (fun line => line.toList ++ ['\n']) ++ rest =
        (line item).toList ++ '\n' ::
          ((others.map line).flatMap (fun line => line.toList ++ ['\n']) ++ rest) := by
      simp
    rw [text]
    exact (first _).trans (ih more)

theorem toList_packageText {t : Templates} (standard : t.package? = none)
    (classNames : List String) :
    (packageText t classNames).toList = banner.toList ++ '\n' :: '\n' ::
      ((endLines (classNames.map classImport)).toList ++ '\n' :: ("__all__".toList ++ ' ' :: '=' ::
        ' ' :: '[' :: '\n' ::
          ((endLines (classNames.map fun name => "    " ++ Literal.text name ++ ",")).toList ++
            [']']))) := by
  simp [packageText, standard, toList_endLines]

/-- The character needs no care where a text is cut into lines. -/
def IsPlainChar (c : Char) : Prop := c ≠ '\r' ∧ c ≠ '\x00'

instance (c : Char) : Decidable (IsPlainChar c) := inferInstanceAs (Decidable (_ ∧ _))

theorem isPlainChar_of_isWord {cs : List Char} (isWord : IsWord cs) : ∀ c ∈ cs, IsPlainChar c :=
  fun c mem => forall_isWordChar (p := IsPlainChar) (by decide) (isWord c mem)

theorem isPlainChar_endLines {items : List String} (line : String → String)
    (each : ∀ item ∈ items, ∀ c ∈ (line item).toList, IsPlainChar c) :
    ∀ c ∈ (endLines (items.map line)).toList, IsPlainChar c := by
  rw [toList_endLines]
  intro c hc
  obtain ⟨text, mem, inside⟩ := List.mem_flatMap.mp hc
  obtain ⟨item, isItem, rfl⟩ := List.mem_map.mp mem
  rcases List.mem_append.mp inside with inside | ends
  · exact each item isItem c inside
  · cases List.mem_singleton.mp ends
    decide

theorem isPlainChar_packageText {t : Templates} (standard : t.package? = none)
    {classNames : List String} (isWord : ∀ name ∈ classNames, IsWord name.toList) :
    ∀ c ∈ (packageText t classNames).toList, IsPlainChar c := by
  have inside : ∀ c ∈ bannerText.toList, IsPlainChar c := by
    intro c mem
    have printed := (bannerText_spec mem).1
    constructor <;> rintro rfl <;> exact absurd printed (by decide)
  have first : ∀ c ∈ banner.toList, IsPlainChar c := by
    rw [toList_banner]
    simp only [List.forall_mem_append, List.forall_mem_cons]
    exact ⟨by decide, by decide, by decide, inside, by decide, by decide, by decide, nofun⟩
  have imports := isPlainChar_endLines classImport fun name (mem : name ∈ classNames) => by
    have module := isPlainChar_of_isWord (isWord_moduleName (isWord name mem))
    have own := isPlainChar_of_isWord (isWord name mem)
    simp only [classImport, String.toList_append, List.forall_mem_append]
    exact ⟨⟨⟨by simp [IsPlainChar], module⟩, by simp [IsPlainChar]⟩, own⟩
  have entries := isPlainChar_endLines (fun name => "    " ++ Literal.text name ++ ",")
    fun name (mem : name ∈ classNames) => by
    have own := isPlainChar_of_isWord (isWord name mem)
    simp only [String.toList_append, toList_text (isWord name mem), List.forall_mem_append,
      List.forall_mem_cons]
    exact ⟨⟨by simp [IsPlainChar], by decide, own, by decide, nofun⟩, by simp [IsPlainChar]⟩
  have named : ∀ c ∈ "__all__".toList, IsPlainChar c := by simp [IsPlainChar]
  rw [toList_packageText standard]
  simp only [List.forall_mem_append, List.forall_mem_cons]
  exact ⟨first, by decide, by decide, imports, by decide, named, by decide, by decide, by decide,
    by decide, by decide, entries, by decide, nofun⟩

/-- **The tokens of the module of a package.** -/
theorem tokens?_packageText {t : Templates} (standard : t.package? = none)
    {classNames : List String} (isWord : ∀ name ∈ classNames, IsWord name.toList)
    (led : ∀ name ∈ classNames, IsLed name.toList) :
    tokens? (packageText t classNames).toList = some (packageTokens classNames) := by
  have imports := cuts_lines fun name mem => cuts_classImport (isWord name mem) (led name mem)
  have entries := cuts_lines fun name mem => cuts_entry (isWord name mem) (led name mem)
  have equals (rest : List Char) : Cuts inLine ('=' :: ' ' :: rest) [.mark "="] inLine rest :=
    (cuts_shortMark (c := '=') rfl (by decide) rfl (.inr ⟨' ', rest, rfl, .inl rfl⟩)).trans
      (cuts_blank rfl rest)
  have opens (rest : List Char) : Cuts inLine ('[' :: '\n' :: rest) [.mark "["] inList rest :=
    (cuts_shortMark (c := '[') rfl (by decide) rfl (.inr ⟨'\n', rest, rfl, .inr rfl⟩)).trans
      (cuts_newLine rest)
  have closes : Cuts inList [']'] [.mark "]"] inLine [] :=
    cuts_shortMark (c := ']') rfl (by decide) rfl (.inl rfl)
  have list (rest : List Char) : Cuts {} ("__all__".toList ++ ' ' :: '=' :: ' ' :: '[' :: '\n' ::
      rest) [.name "__all__", .mark "=", .mark "["] inList rest :=
    (cuts_start (c := '_') (by decide) _).trans
      ((cuts_wordBlank "__all__" (by decide) ⟨'_', _, rfl, rfl⟩ _).trans
        ((equals _).trans (opens _)))
  have whole := (cuts_banner _).trans ((cuts_emptyLine _).trans ((imports _).trans
    ((cuts_emptyLine _).trans ((list _).trans ((entries _).trans closes)))))
  rw [← toList_packageText standard] at whole
  have plain := isPlainChar_packageText standard isWord
  have count : (classNames.flatMap fun _ => [Token.string false, .mark ","]) =
      entryTokens classNames.length := by
    unfold entryTokens
    rw [List.flatMap, List.map_const']
  rw [tokens?_of_cuts ⟨fun mem => (plain _ mem).1 rfl, fun mem => (plain _ mem).2 rfl⟩ whole, count]
  simp [packageTokens, listTokens]

/-- **The module of a package is one exactly if all classes can be imported**: neither a class nor
its module is named like a reserved word. -/
theorem isModule_packageText_iff {t : Templates} (standard : t.package? = none)
    {classNames : List String} (isWord : ∀ name ∈ classNames, IsWord name.toList)
    (led : ∀ name ∈ classNames, IsLed name.toList) :
    isModule (packageText t classNames) = true ↔ ∀ name ∈ classNames, Importable name := by
  have long : classNames.length ≤ (packageText t classNames).length := by
    have imports := length_le_endLines (classNames.map classImport)
    rw [List.length_map] at imports
    rw [← String.length_toList, toList_packageText standard]
    simp only [List.length_append, List.length_cons, String.length_toList]
    omega
  obtain ⟨limit, enough⟩ : ∃ limit,
      20 * ((packageText t classNames).length + 2) = limit + 28 + classNames.length :=
    ⟨20 * ((packageText t classNames).length + 2) - 28 - classNames.length, by omega⟩
  unfold isModule
  rw [tokens?_packageText standard isWord led, enough]
  simp only [statements_package]
  split <;> simp_all

end QueryShape.Module
