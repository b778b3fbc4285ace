import QueryShape.Proofs.Grammar.Literal
import QueryShape.Proofs.Module.Package

/-!
# Texts that modules hold

A module holds texts that have to come back as they are: what an operation is called and what it
sends, the keys of variables and of the fields of input types, and the values of enum types. Each
stands on a line of its class as a literal.

* `HasLine`: a text has a line. Joining lines, trimming and putting classes together keep it.
* `Sends`: the texts of a record, and what stands before and after each on its line.
* `texts_survive`: every literal means its text, and so does every one of these in its module.
-/

namespace QueryShape.Module

open Code Grammar Record

/-! ## Lines -/

/-- The text has the line: it stands between line ends, or at an end of the text. -/
def HasLine (cs line : List Char) : Prop :=
  ∃ before after, cs = before ++ line ++ after ∧ (before = [] ∨ ∃ b, before = b ++ ['\n']) ∧
    (after = [] ∨ ∃ a, after = '\n' :: a)

theorem hasLine_intercalate {lines : List String} {line : String} (mem : line ∈ lines) :
    HasLine ("\n".intercalate lines).toList line.toList := by
  rw [String.toList_intercalate]
  induction lines with
  | nil => exact absurd mem List.not_mem_nil
  | cons first rest ih =>
    cases rest with
    | nil =>
      obtain rfl := List.mem_singleton.mp mem
      exact ⟨[], [], by simp, Or.inl rfl, Or.inl rfl⟩
    | cons second more =>
      rcases List.mem_cons.mp mem with rfl | mem
      · exact ⟨[], '\n' :: ['\n'].intercalate ((second :: more).map String.toList), by simp,
          Or.inl rfl, Or.inr ⟨_, rfl⟩⟩
      · obtain ⟨before, after, eq, starts, ends⟩ := ih mem
        refine ⟨first.toList ++ '\n' :: before, after, ?_, Or.inr ?_, ends⟩
        · simp at eq ⊢
          exact eq
        · rcases starts with rfl | ⟨b, rfl⟩
          · exact ⟨_, rfl⟩
          · exact ⟨first.toList ++ '\n' :: b, by simp⟩

/-- The line ends in a character that is not trimmed. -/
def EndsInk (line : List Char) : Prop := ∃ c, line.getLast? = some c ∧ Letter.isBlank c = false

theorem EndsInk.append {line : List Char} (ends : EndsInk line) (before : List Char) :
    EndsInk (before ++ line) := by
  obtain ⟨c, last, ink⟩ := ends
  exact ⟨c, by rw [List.getLast?_append, last, Option.some_or], ink⟩

theorem toList_trimEnd (text : String) :
    (trimEnd text).toList = text.toList.rdropWhile Letter.isBlank := by
  rw [trimEnd, String.toList_ofList]
  rfl

/-- What stands before a character that stays is not trimmed. -/
theorem rdropWhile_append_of_endsInk {cs : List Char} (ends : EndsInk cs) (rest : List Char) :
    (cs ++ rest).rdropWhile Letter.isBlank = cs ++ rest.rdropWhile Letter.isBlank := by
  induction rest using List.reverseRecOn with
  | nil =>
    obtain ⟨c, last, ink⟩ := ends
    rw [List.append_nil, List.rdropWhile_nil, List.append_nil, List.rdropWhile_eq_self_iff]
    intro some
    rw [List.getLast?_eq_some_getLast some, Option.some_inj] at last
    rw [last, ink]
    exact Bool.false_ne_true
  | append_singleton rest c ih =>
    rw [← List.append_assoc, List.rdropWhile_concat, List.rdropWhile_concat, ih]
    split
    · rfl
    · rw [List.append_assoc]

/-- Trimming a text keeps its lines, if they do not end in blanks. -/
theorem HasLine.trimEnd {text : String} {line : List Char} (h : HasLine text.toList line)
    (ink : EndsInk line) : HasLine (trimEnd text).toList line := by
  obtain ⟨before, after, eq, starts, ends⟩ := h
  refine ⟨before, after.rdropWhile Letter.isBlank, ?_, starts, ?_⟩
  · rw [toList_trimEnd, eq, rdropWhile_append_of_endsInk (ink.append before)]
  · rcases ends with rfl | ⟨a, rfl⟩
    · exact Or.inl (List.rdropWhile_nil _)
    · cases kept : ('\n' :: a).rdropWhile Letter.isBlank with
      | nil => exact Or.inl rfl
      | cons c rest =>
        have := kept ▸ List.rdropWhile_prefix Letter.isBlank ('\n' :: a)
        exact Or.inr ⟨rest, by rw [(List.cons_prefix_cons.mp this).1]⟩

/-- A class stands in its module on lines of its own. -/
theorem exists_class_of_mem {t : Templates} (standard : t.module? = none) {classes : List Record}
    {r : Record} (mem : r ∈ classes) (imports localImports : List String) : ∃ before after,
      (moduleText t classes imports localImports).toList =
        before ++ '\n' :: ((classText t r).toList ++ '\n' :: after) := by
  obtain ⟨first, rest, rfl⟩ := List.append_of_mem mem
  obtain ⟨above, below, lines⟩ : ∃ above below, headerLines ++ importLines imports ++
      importLines localImports ++ (first ++ r :: rest).flatMap (fun r => ["", "", classText t r]) =
        above ++ "" :: classText t r :: below :=
    ⟨headerLines ++ importLines imports ++ importLines localImports ++
      first.flatMap (fun r => ["", "", classText t r]) ++ [""],
      rest.flatMap (fun r => ["", "", classText t r]), by simp⟩
  unfold moduleText
  rw [standard, Option.getD_none, lines, toList_endLines]
  exact ⟨above.flatMap fun line => line.toList ++ ['\n'],
    below.flatMap fun line => line.toList ++ ['\n'], by simp⟩

/-- A line of a class is a line of its module. -/
theorem exists_line_of_mem {t : Templates} (standard : t.module? = none) {classes : List Record}
    {r : Record} (mem : r ∈ classes) {line : List Char} (h : HasLine (classText t r).toList line)
    (imports localImports : List String) : ∃ before after,
      (moduleText t classes imports localImports).toList =
        before ++ '\n' :: (line ++ '\n' :: after) := by
  obtain ⟨before, after, eq, starts, ends⟩ := h
  obtain ⟨first, rest, whole⟩ := exists_class_of_mem standard mem imports localImports
  rw [whole, eq]
  rcases starts with rfl | ⟨b, rfl⟩ <;> rcases ends with rfl | ⟨a, rfl⟩
  · exact ⟨first, rest, by simp⟩
  · exact ⟨first, a ++ '\n' :: rest, by simp⟩
  · exact ⟨first ++ '\n' :: b, rest, by simp⟩
  · exact ⟨first ++ '\n' :: b, a ++ '\n' :: rest, by simp⟩

/-- A line that a class is written with is a line of its module. -/
theorem exists_line_of_mem_classLines {t : Templates} {classes : List Record} {r : Record}
    (mem : r ∈ classes) (standard : t.module? = none) (built : t.forKind? r.kind = none)
    {line : String} (hl : line ∈ classLines r) (ink : EndsInk line.toList)
    (imports localImports : List String) : ∃ before after,
      (moduleText t classes imports localImports).toList =
        before ++ '\n' :: (line.toList ++ '\n' :: after) := by
  refine exists_line_of_mem standard mem ?_ imports localImports
  unfold classText
  rw [built, Option.getD_none]
  exact (hasLine_intercalate hl).trimEnd ink

/-! ## Texts -/

/-- A text that a record sends or is sent, with what stands before its literal on the line, and the
character after it. -/
inductive Sends : Record → (lead value : String) → (next : Char) → Prop
  | operationName (r : Root) : Sends (.root r) "    OPERATION_NAME = " r.operationName '\n'
  | queryText (r : Root) : Sends (.root r) "    QUERY_TEXT = " r.queryText '\n'
  | variableKey {r : Root} {p : Parameter} (mem : p ∈ r.parameters) :
    Sends (.root r) "                " p.graphqlName ':'
  | fieldKey {r : Input} {p : Parameter} (mem : p ∈ r.arguments) :
    Sends (.input r) "            " p.graphqlName ':'
  | enumValue {r : Record.Enum} {v : String} (mem : v ∈ r.values) :
    Sends (.enum r) ("    " ++ Naming.memberName v ++ " = ") v '\n'

/-- The class has a line with the literal of the text. -/
def HasText (r : Record) (lead value : String) (next : Char) : Prop :=
  ∃ line ∈ classLines r, EndsInk line.toList ∧ ∃ more,
    line.toList ++ ['\n'] = lead.toList ++ ((Literal.text value).toList ++ next :: more)

theorem endsInk_text (s : String) : EndsInk (Literal.text s).toList := by
  have quote : EndsInk ['"'] := ⟨'"', rfl, by decide⟩
  rw [Literal.text, String.toList_ofList, Literal.textChars]
  split
  · exact (quote.append ['"', '"']).append _
  · exact quote.append ('"' :: _)

theorem hasText_of_line {r : Record} {lead value : String}
    (mem : lead ++ Literal.text value ∈ classLines r) : HasText r lead value '\n' := by
  refine ⟨_, mem, ?_, [], by simp⟩
  rw [String.toList_append]
  exact (endsInk_text value).append _

theorem hasText_of_entry {r : Record} {lead : String} {p : Parameter} (reference : Expr)
    (mem : lead ++ sentEntry p reference ∈ classLines r) : HasText r lead p.graphqlName ':' := by
  have comma : EndsInk [','] := ⟨',', rfl, by decide⟩
  refine ⟨_, mem, ?_, ' ' :: ((p.serializer.fill reference).text.toList ++ [',', '\n']), ?_⟩
  · rw [sentEntry, String.toList_append, String.toList_append]
    exact (comma.append _).append _
  · simp [sentEntry]

theorem hasText_of_sends {r : Record} {lead value : String} {next : Char}
    (h : Sends r lead value next) : HasText r lead value next := by
  cases h with
  | operationName | queryText => exact hasText_of_line (by simp [classLines, rootLines])
  | @variableKey r p mem =>
    refine hasText_of_entry (.name p.name) ?_
    simp only [classLines, rootLines, List.mem_append]
    exact Or.inl (Or.inl (Or.inr (List.mem_map_of_mem mem)))
  | @fieldKey r p mem =>
    refine hasText_of_entry (.member (.name "self") p.name) ?_
    simp only [classLines, inputLines, List.mem_append]
    exact Or.inl (Or.inr (List.mem_map_of_mem mem))
  | @enumValue r v mem =>
    refine hasText_of_line ?_
    have some : r.values.isEmpty = false := by
      cases values : r.values with
      | nil => exact absurd (values ▸ mem) List.not_mem_nil
      | cons => rfl
    simp only [classLines, enumLines, some, Bool.false_eq_true, if_false, List.mem_append]
    exact Or.inr (List.mem_cons_of_mem _ (List.mem_map_of_mem mem))

theorem next_ne_quote {r : Record} {lead value : String} {next : Char}
    (h : Sends r lead value next) : next ≠ '"' := by cases h <;> decide

/-- **A literal of generated code means its text**, whatever the text holds: the literal is one
string and nothing else, and it is read as the text wherever it stands in a line. **So the texts of
a record come back from the module that holds its class**: after what stands before a text on its
line the module goes on with a string that is read as the text. -/
theorem texts_survive :
    (∀ s : String, tokens? (Literal.text s).toList = some [.string false, .lineEnd] ∧
      literal? (Literal.text s).toList = some (s.toList, []) ∧
      ∀ rest, (s = "" → rest.head? ≠ some '"') → Reads ((Literal.text s).toList ++ rest) s rest) ∧
    ∀ {t : Templates} {classes : List Record} {r : Record} {lead value : String} {next : Char},
      t.module? = none → t.forKind? r.kind = none → r ∈ classes → Sends r lead value next →
      ∀ imports localImports, ∃ before rest after,
        (moduleText t classes imports localImports).toList =
          before ++ '\n' :: (lead.toList ++ rest) ∧
        Reads rest value (next :: after) := by
  refine ⟨fun s => ⟨?_, ?_, fun rest follows => reads_text s follows⟩, ?_⟩
  · rw [Literal.text, String.toList_ofList]
    exact tokens?_textChars s.toList
  · have whole := (@reads_text s [] fun _ => by simp).value
    rwa [List.append_nil] at whole
  · intro t classes r lead value next standard built mem sends imports localImports
    obtain ⟨line, hl, ink, more, eq⟩ := hasText_of_sends sends
    obtain ⟨before, after, whole⟩ :=
      exists_line_of_mem_classLines mem standard built hl ink imports localImports
    refine ⟨before, (Literal.text value).toList ++ next :: (more ++ after), more ++ after, ?_, ?_⟩
    · have followed : line.toList ++ '\n' :: after = line.toList ++ ['\n'] ++ after := by simp
      rw [whole, followed, eq]
      simp
    · exact reads_text value fun _ => by simpa using next_ne_quote sends

/-- An operation that sends a text of several lines with quotes in it. -/
def manyLines : Root where
  name := "Qa"
  operationName := "Qa"
  operationKind := .query
  graphqlType := "Query"
  possibleTypes := ["Query"]
  queryText := "query Qa \x7b\n  a(b: \"\")\n\x7d"

/-- The text comes back from the module of the operation. -/
theorem texts_survive_manyLines : ({} : Templates).module? = none ∧
    ({} : Templates).forKind? (Record.root manyLines).kind = none ∧
    Record.root manyLines ∈ [Record.root manyLines] ∧
    Sends (.root manyLines) "    QUERY_TEXT = " manyLines.queryText '\n' ∧
    ∃ before rest after, (moduleText {} [.root manyLines] [] []).toList =
        before ++ '\n' :: ("    QUERY_TEXT = ".toList ++ rest) ∧
      Reads rest manyLines.queryText ('\n' :: after) := by
  have mem : Record.root manyLines ∈ [Record.root manyLines] := List.mem_singleton_self _
  exact ⟨rfl, rfl, mem, .queryText manyLines,
    texts_survive.2 rfl rfl mem (.queryText manyLines) [] []⟩

end QueryShape.Module
