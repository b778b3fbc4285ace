import Mathlib
import QueryShape.Document.Reader

/-!
# The names of a document

Every name that is read from a text is a letter or underscore with letters, digits and underscores
after it.

A reader keeps what holds of the tokens that are left (`Lexed`), so each reader has a specification
that says this and what it gives.

* `hasNames_of_read`: the operations and fragments that a text is read as have such names.
-/

namespace QueryShape.Document

open Std.Do

set_option mvcgen.warning false

/-! ## Names -/

/-- A letter or underscore, with letters, digits and underscores after it. -/
def IsName (text : String) : Prop :=
  ∃ c rest, text.toList = c :: rest ∧ startsName c = true ∧ rest.all continuesName = true

/-- Every name among the tokens is one. -/
def Lexed (tokens : List Lexeme) : Prop := ∀ l ∈ tokens, ∀ n, l.token = .name n → IsName n

mutual

/-- The keys and names of the fields in a selection are names. -/
def Selection.HasNames : Selection → Prop
  | .field f below => (∀ key, f.alias? = some key → IsName key) ∧ IsName f.name ∧ AllNamed below
  | .spread .. => True
  | .inline _ _ below => AllNamed below

/-- The keys and names of the fields in selections are names. -/
def AllNamed : List Selection → Prop
  | [] => True
  | first :: rest => first.HasNames ∧ AllNamed rest

end

theorem allNamed_iff {selections : List Selection} :
    AllNamed selections ↔ ∀ x ∈ selections, x.HasNames := by
  induction selections with
  | nil => simp [AllNamed]
  | cons first rest ih => simp [AllNamed, ih]

attribute [grind =] Selection.HasNames AllNamed allNamed_iff

/-- The name of an operation, its variables and its fields have names. -/
def Operation.HasNames (o : Operation) : Prop :=
  (∀ n, o.name? = some n → IsName n) ∧ (∀ v ∈ o.parameters, IsName v.name) ∧
    AllNamed o.selections

/-- The names of an operation, or of the fields in a fragment, are names. -/
def Definition.HasNames : Definition → Prop
  | .operation o => o.HasNames
  | .fragment f => AllNamed f.selections
  | _ => True

/-! ## Tokens -/

theorem scanNumber_ne_name {cs rest : List Char} {n : String} :
    scanNumber cs ≠ .ok (.name n, rest) := by
  unfold scanNumber
  intro h
  simp only [bind, Except.bind, pure, Except.pure] at h
  repeat' split at h
  all_goals cases h

theorem isName_of_scanToken {cs rest : List Char} {n : String}
    (h : scanToken cs = .ok (.name n, rest)) : IsName n := by
  unfold scanToken at h
  split at h
  · simp only [bind, Except.bind, pure, Except.pure] at h
    split at h <;> cases h
  · simp only [bind, Except.bind, pure, Except.pure] at h
    split at h <;> cases h
  · cases h
  · next c rest' _ _ _ =>
    split at h
    · cases h
    · split at h
      · exact absurd h scanNumber_ne_name
      · split at h
        · next starts =>
          cases h
          have continues : continuesName c = true := by
            unfold startsName at starts
            unfold continuesName Char.isAlphanum
            grind
          refine ⟨c, rest'.takeWhile continuesName, ?_, starts, ?_⟩
          · rw [String.toList_ofList, List.takeWhile_cons_of_pos continues]
          · exact List.all_takeWhile
        · cases h
  · cases h

theorem lexed_scanFrom (limit : Nat) (cs : List Char) : Lexed (scanFrom limit cs) := by
  induction limit generalizing cs with
  | zero => simp [scanFrom, Lexed]
  | succ limit ih =>
    unfold scanFrom
    split
    · simp [Lexed]
    · split
      · next token after scanned =>
        intro l hl n hn
        rcases List.mem_cons.mp hl with rfl | hl
        · cases hn
          exact isName_of_scanToken scanned
        · exact ih _ l hl n hn
      · simp [Lexed]

theorem Lexed.drop {tokens : List Lexeme} (h : Lexed tokens) (k : Nat) : Lexed (tokens.drop k) :=
  fun l hl => h l (List.mem_of_mem_drop hl)

theorem Lexed.isName_of_front {tokens : List Lexeme} (h : Lexed tokens) {n : String}
    (hn : Reader.front tokens = .ok (.name n)) : IsName n := by
  unfold Reader.front at hn
  split at hn
  · cases hn
  · cases hn
  · exact h _ List.mem_cons_self n (Except.ok.inj hn)

/-! ## Readers -/

namespace Reader

/-- Reading keeps to names, and what is read has the property. -/
abbrev Reads (r : Reader α) (P : α → Prop) : Prop :=
  ⦃fun ts => ⌜Lexed ts⌝⦄ r ⦃⇓? a => fun ts => ⌜Lexed ts ∧ P a⌝⦄

/-- Reading keeps to names. -/
abbrev Keeps (r : Reader α) : Prop := Reads r fun _ => True

/-- Reading ends in a fault. -/
abbrev Fails (r : Reader α) : Prop := Reads r fun _ => False

section
variable {α : Type} {P : α → Prop} {item : Reader α}

/-! ### Single tokens -/

@[spec]
theorem reads_current : Reads current (∀ n, · = .name n → IsName n) := by
  unfold current
  mvcgen
  next ts h =>
    cases e : front ts with
    | error fault => trivial
    | ok t => exact ⟨h, fun n eq => h.isName_of_front (eq ▸ e)⟩

@[spec]
theorem keeps_lookahead : Keeps lookahead := by
  unfold lookahead
  mvcgen
  next ts h =>
    cases e : front (ts.drop 1) with
    | error fault => trivial
    | ok t => exact h

@[spec]
theorem keeps_advance : Keeps advance := by
  unfold advance
  mvcgen
  exact Lexed.drop ‹_› 1

@[spec]
theorem keeps_place (ahead : Nat) : Keeps (place ahead) := by
  unfold place
  mvcgen

@[spec high]
theorem fails_throw (fault : SyntaxFault) : Fails (throw fault : Reader α) := fun _ _ => trivial

@[spec]
theorem fails_failAt (words : String) (ahead : Nat) : Fails (failAt words ahead : Reader α) := by
  unfold failAt
  mvcgen with grind

@[spec]
theorem fails_unexpected (token : Token) : Fails (unexpected token : Reader α) := fails_failAt _ _

@[spec]
theorem fails_expected (what : String) (token : Token) : Fails (expected what token : Reader α) :=
  fails_failAt _ _

@[spec]
theorem keeps_sees (m : String) : Keeps (sees m) := by
  unfold sees
  mvcgen with grind

@[spec]
theorem keeps_accepts (m : String) : Keeps (accepts m) := by
  unfold accepts
  mvcgen with grind

@[spec]
theorem keeps_mark (m : String) : Keeps (mark m) := by
  unfold mark
  mvcgen with grind

@[spec]
theorem reads_name : Reads name IsName := by
  unfold name
  mvcgen with grind

@[spec]
theorem keeps_acceptsKeyword (m : String) : Keeps (acceptsKeyword m) := by
  unfold acceptsKeyword
  mvcgen with grind

@[spec]
theorem keeps_keyword (m : String) : Keeps (keyword m) := by
  unfold keyword
  mvcgen with grind

/-! ### Lists -/

theorem reads_someUntil (h : Reads item P) (close : String) (limit : Nat) :
    Reads (someUntil close item limit) (∀ a ∈ ·, P a) := by
  induction limit with
  | zero =>
    unfold someUntil
    mvcgen
    all_goals grind
  | succ limit ih =>
    unfold someUntil
    mvcgen [h, ih]
    all_goals grind

theorem reads_someBetween (h : Reads item P) (opening close : String) (limit : Nat) :
    Reads (someBetween opening close item limit) (∀ a ∈ ·, P a) := by
  unfold someBetween
  have items := reads_someUntil h close limit
  mvcgen [items] with grind

theorem reads_anyBetween (h : Reads item P) (opening close : String) (limit : Nat) :
    Reads (anyBetween opening close item limit) (∀ a ∈ ·, P a) := by
  unfold anyBetween
  have items := reads_someUntil h close limit
  mvcgen [items] with grind

theorem reads_optionalBetween (h : Reads item P) (opening close : String) (limit : Nat) :
    Reads (optionalBetween opening close item limit) (∀ a ∈ ·, P a) := by
  unfold optionalBetween
  have items := reads_someUntil h close limit
  mvcgen [items] with grind

theorem reads_someSeparated (h : Reads item P) (separator : String) (limit : Nat) :
    Reads (someSeparated separator item limit) (∀ a ∈ ·, P a) := by
  induction limit with
  | zero =>
    unfold someSeparated
    mvcgen
    all_goals grind
  | succ limit ih =>
    unfold someSeparated
    mvcgen [h, ih]
    all_goals grind

theorem reads_someDelimited (h : Reads item P) (separator : String) (limit : Nat) :
    Reads (someDelimited separator item limit) (∀ a ∈ ·, P a) := by
  unfold someDelimited
  have items := reads_someSeparated h separator limit
  mvcgen [items] with grind

/-! ### Values and directives -/

@[spec]
theorem keeps_typeRef (limit : Nat) : Keeps (typeRef limit) := by
  induction limit with
  | zero =>
    unfold typeRef
    mvcgen
    all_goals grind
  | succ limit ih =>
    unfold typeRef
    mvcgen [ih]
    all_goals grind

@[spec]
theorem reads_variableName (constant : Bool) : Reads (variableName constant) IsName := by
  unfold variableName
  mvcgen with grind

@[spec]
theorem keeps_value (constant : Bool) (limit : Nat) : Keeps (value constant limit) := by
  induction limit with
  | zero =>
    unfold value
    mvcgen
    all_goals grind
  | succ limit ih =>
    have field : Keeps (do
        let key ← name
        mark ":"
        return (key, ← value constant limit)) := by
      mvcgen [ih]
      all_goals grind
    have items := reads_anyBetween ih "[" "]" limit
    have fields := reads_anyBetween field "\x7b" "\x7d" limit
    unfold value
    mvcgen [items, fields]
    all_goals grind

@[spec]
theorem keeps_argument (constant : Bool) (limit : Nat) : Keeps (argument constant limit) := by
  unfold argument
  mvcgen with grind

@[spec]
theorem keeps_arguments (constant : Bool) (limit : Nat) : Keeps (arguments constant limit) := by
  have items := reads_optionalBetween (keeps_argument constant limit) "(" ")" limit
  unfold arguments
  mvcgen [items]
  all_goals grind

@[spec]
theorem keeps_directives (constant : Bool) (most limit : Nat) :
    Keeps (directives constant most limit) := by
  induction limit with
  | zero =>
    unfold directives
    mvcgen
  | succ limit ih =>
    unfold directives
    mvcgen [ih]
    all_goals grind

/-! ### Selections -/

@[spec]
theorem keeps_fragmentName : Keeps fragmentName := by
  unfold fragmentName
  mvcgen with grind

theorem reads_selection (limit : Nat) : Reads (selection limit) Selection.HasNames := by
  induction limit with
  | zero =>
    unfold selection
    mvcgen
    all_goals grind
  | succ limit ih =>
    have items := reads_someBetween ih "\x7b" "\x7d" limit
    unfold selection
    mvcgen [items]
    all_goals grind

@[spec]
theorem reads_selectionSet (limit : Nat) : Reads (selectionSet limit) AllNamed := by
  have items := reads_someBetween (reads_selection limit) "\x7b" "\x7d" limit
  unfold selectionSet
  mvcgen [items] with grind

/-! ### Operations and fragments -/

@[spec]
theorem keeps_description : Keeps description := by
  unfold description
  mvcgen with grind

@[spec]
theorem keeps_operationKind : Keeps operationKind := by
  unfold operationKind
  mvcgen with grind

theorem reads_variableDefinition (limit : Nat) :
    Reads (variableDefinition limit) (IsName ·.name) := by
  unfold variableDefinition
  mvcgen with grind

@[spec]
theorem reads_operation (limit : Nat) : Reads (operation limit) Operation.HasNames := by
  have items := reads_optionalBetween (reads_variableDefinition limit) "(" ")" limit
  unfold operation
  mvcgen [items]
  all_goals grind [Operation.HasNames]

@[spec]
theorem reads_fragment (limit : Nat) : Reads (fragment limit) (AllNamed ·.selections) := by
  unfold fragment
  mvcgen with grind

/-! ### Type definitions -/

@[spec]
theorem keeps_inputValue (limit : Nat) : Keeps (inputValue limit) := by
  unfold inputValue
  mvcgen with grind

theorem keeps_fieldDefinition (limit : Nat) : Keeps (fieldDefinition limit) := by
  have items := reads_optionalBetween (keeps_inputValue limit) "(" ")" limit
  unfold fieldDefinition
  mvcgen [items] with grind

theorem keeps_enumValue (limit : Nat) : Keeps (enumValue limit) := by
  unfold enumValue
  mvcgen with grind

@[spec]
theorem keeps_interfaces (limit : Nat) : Keeps (interfaces limit) := by
  have items := reads_someDelimited reads_name "&" limit
  unfold interfaces
  mvcgen [items] with grind

@[spec]
theorem keeps_fieldDefinitions (limit : Nat) : Keeps (fieldDefinitions limit) := by
  have items := reads_optionalBetween (keeps_fieldDefinition limit) "\x7b" "\x7d" limit
  unfold fieldDefinitions
  mvcgen [items] with grind

@[spec]
theorem keeps_typeDefinition (description? : Option Value) (isExtension : Bool) (limit : Nat) :
    Keeps (typeDefinition description? isExtension limit) := by
  have members := reads_someDelimited reads_name "|" limit
  have values := reads_optionalBetween (keeps_enumValue limit) "\x7b" "\x7d" limit
  have fields := reads_optionalBetween (keeps_inputValue limit) "\x7b" "\x7d" limit
  unfold typeDefinition
  mvcgen [members, values, fields]
  all_goals grind

@[spec]
theorem keeps_root : Keeps root := by
  unfold root
  mvcgen with grind

@[spec]
theorem keeps_schemaDefinition (description? : Option Value) (limit : Nat) :
    Keeps (schemaDefinition description? limit) := by
  have items := reads_someBetween keeps_root "\x7b" "\x7d" limit
  unfold schemaDefinition
  mvcgen [items] with grind

@[spec]
theorem reads_extension (limit : Nat) : Reads (extension limit) Definition.HasNames := by
  have items := reads_optionalBetween keeps_root "\x7b" "\x7d" limit
  unfold extension
  mvcgen [items]
  all_goals grind [Definition.HasNames]

theorem keeps_directiveLocation : Keeps directiveLocation := by
  unfold directiveLocation
  mvcgen with grind

@[spec]
theorem keeps_directiveDefinition (description? : Option Value) (limit : Nat) :
    Keeps (directiveDefinition description? limit) := by
  have items := reads_optionalBetween (keeps_inputValue limit) "(" ")" limit
  have locations := reads_someDelimited keeps_directiveLocation "|" limit
  unfold directiveDefinition
  mvcgen [items, locations] with grind

/-! ### Documents -/

@[spec]
theorem reads_definition (limit : Nat) : Reads (definition limit) Definition.HasNames := by
  unfold definition
  mvcgen
  · grind [Definition.HasNames]
  · grind [Definition.HasNames]
  · next described _ _ =>
    clear_value described
    intro ts lexed _
    suffices goal : Reads _ Definition.HasNames from goal ts lexed
    -- what is read does not depend on whether there is a description, but the words of faults do
    cases described
    · simp only [Bool.false_eq_true, if_false]
      mvcgen
      all_goals grind [Definition.HasNames]
    · simp only [if_true]
      mvcgen
      all_goals grind [Definition.HasNames]

theorem reads_definitions (most limit : Nat) :
    Reads (definitions most limit) (∀ x ∈ ·, x.HasNames) := by
  induction limit with
  | zero =>
    unfold definitions
    mvcgen
    all_goals grind
  | succ limit ih =>
    unfold definitions
    mvcgen [ih]
    all_goals grind

end

end Reader

/-- What a reader gives has the property, if the names that are left are names. -/
theorem Reader.Reads.of_run' {r : Reader α} {P : α → Prop} (h : Reader.Reads r P)
    {tokens : List Lexeme} (lexed : Lexed tokens) {a : α} (ok : r.run' tokens = .ok a) : P a := by
  have gives := h tokens lexed
  unfold StateT.run' at ok
  cases run : r tokens with
  | error fault =>
    rw [run] at ok
    cases ok
  | ok result =>
    rw [run] at ok
    cases ok
    change (wp⟦r tokens⟧ _).down at gives
    rw [run] at gives
    exact gives.2

/-- **The names of a document that is read from a text are names.** -/
theorem hasNames_of_read {text : String} {document : Document} (h : read text = .ok document) :
    ∀ x ∈ document, x.HasNames :=
  (Reader.reads_definitions _ _).of_run' (lexed_scanFrom _ _) h

end QueryShape.Document
