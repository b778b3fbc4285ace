import QueryShape.Grammar.Statement
import QueryShape.Proofs.Grammar.Cuts

/-!
# The grammar of the module of a package

The module of a package is a string, imports of all classes, and a list of their names. It has the
grammar of a module exactly if all of them can be imported: neither the class nor its module is
named like a reserved word.

* `expression_of_atom`: an atom alone is an expression.
* `statement_import`: when a line that imports a class is a statement.
* `statements_package`: when the tokens of a package are statements.
-/

namespace QueryShape.Grammar

open Naming

/-! ## Atoms -/

/-- The token changes no value that comes after it. -/
def StartsAtom : Token → Prop
  | .name _ | .string _ => True
  | .mark m => m ∈ ["[", "]"]
  | _ => False

/-- The token ends an expression. -/
def EndsAtom : Token → Prop
  | .lineEnd => True
  | .mark m => m ∈ [",", "]", "="]
  | _ => False

variable {limit : Nat} {t u : Token} {ts rest : List Token} {shape : Shape}

theorem parts_of_ends (ends : EndsAtom u) (shape : Shape) (rest : List Token) :
    parts (limit + 1) shape (u :: rest) = some (shape, u :: rest) := by
  cases u with
  | lineEnd => simp only [parts]
  | mark m =>
    simp only [EndsAtom] at ends
    fin_cases ends <;> simp [parts]
  | _ => exact ends.elim

theorem after_of_ends (ends : EndsAtom u) (rest : List Token) :
    afterMark? "**" (u :: rest) = none ∧ afterOperator? (u :: rest) = none ∧
      afterComparison? (u :: rest) = none ∧ afterKeyword? "and" (u :: rest) = none ∧
      afterKeyword? "or" (u :: rest) = none ∧ afterKeyword? "if" (u :: rest) = none := by
  cases u with
  | lineEnd => exact ⟨rfl, rfl, rfl, rfl, rfl, rfl⟩
  | mark m =>
    simp only [EndsAtom] at ends
    fin_cases ends <;> exact ⟨rfl, rfl, rfl, rfl, rfl, rfl⟩
  | _ => exact ends.elim

theorem before_of_starts (starts : StartsAtom t) (ts : List Token) :
    afterKeyword? "lambda" (t :: ts) = none ∧ afterKeyword? "not" (t :: ts) = none ∧
      afterMark? "+" (t :: ts) = none ∧ afterMark? "-" (t :: ts) = none ∧
      afterMark? "~" (t :: ts) = none ∧ afterKeyword? "await" (t :: ts) = none ∧
      afterMark? "*" (t :: ts) = none := by
  cases t with
  | name _ => exact ⟨rfl, rfl, rfl, rfl, rfl, rfl, rfl⟩
  | string _ => exact ⟨rfl, rfl, rfl, rfl, rfl, rfl, rfl⟩
  | mark m =>
    simp only [StartsAtom] at starts
    fin_cases starts <;> exact ⟨rfl, rfl, rfl, rfl, rfl, rfl, rfl⟩
  | _ => exact starts.elim

/-- An atom alone is an expression. -/
theorem expression_of_atom (starts : StartsAtom t) (ends : EndsAtom u)
    (h : atom (limit + 1) (t :: ts) = some (shape, u :: rest)) :
    expression (limit + 8) (t :: ts) = some (shape, u :: rest) := by
  obtain ⟨noLambda, noNot, noPlus, noMinus, noTilde, noAwait, -⟩ := before_of_starts starts ts
  obtain ⟨noPower, noOperator, noComparison, noAnd, noOr, noIf⟩ := after_of_ends ends rest
  have value : value (limit + 2) (t :: ts) = some (shape, u :: rest) := by
    simp [value, h, parts_of_ends ends]
  have operand : operand (limit + 3) (t :: ts) = some (shape, u :: rest) := by
    simp [operand, noPlus, noMinus, noTilde, noAwait, value, noPower]
  have operands : operands (limit + 4) (t :: ts) = some (shape, u :: rest) := by
    simp [operands, operand, noOperator]
  have comparison : comparison (limit + 5) (t :: ts) = some (shape, u :: rest) := by
    simp [comparison, operands, noComparison]
  have inversion : inversion (limit + 6) (t :: ts) = some (shape, u :: rest) := by
    simp [inversion, noNot, comparison]
  have alternatives : alternatives (limit + 7) (t :: ts) = some (shape, u :: rest) := by
    simp [alternatives, inversion, noAnd, noOr]
  simp [expression, noLambda, alternatives, noIf]

/-- Where there is no atom, there is no expression. -/
theorem expression_eq_none (starts : StartsAtom t) (h : atom (limit + 1) (t :: ts) = none) :
    expression (limit + 8) (t :: ts) = none := by
  obtain ⟨noLambda, noNot, noPlus, noMinus, noTilde, noAwait, -⟩ := before_of_starts starts ts
  have value : value (limit + 2) (t :: ts) = none := by
    simp [value, h]
  have operand : operand (limit + 3) (t :: ts) = none := by
    simp [operand, noPlus, noMinus, noTilde, noAwait, value]
  have operands : operands (limit + 4) (t :: ts) = none := by
    simp [operands, operand]
  have inversion : inversion (limit + 6) (t :: ts) = none := by
    simp [inversion, noNot, comparison, operands]
  simp [expression, noLambda, alternatives, inversion]

theorem expressions_of_atom (starts : StartsAtom t) (ends : EndsAtom u) (noComma : u ≠ .mark ",")
    (h : atom (limit + 1) (t :: ts) = some (shape, u :: rest)) :
    expressions (limit + 10) (t :: ts) = some (shape, u :: rest) := by
  have starred : starred (limit + 9) (t :: ts) = some (shape, u :: rest) := by
    simp [starred, (before_of_starts starts ts).2.2.2.2.2.2, expression_of_atom starts ends h]
  have comma : afterMark? "," (u :: rest) = none := by
    cases u with
    | mark m =>
      refine if_neg ?_
      rintro rfl
      exact noComma rfl
    | _ => rfl
  simp [expressions, items, separated, starred, comma, Shape.ofItems]

/-! ## Lists of strings -/

/-- The tokens of strings with a comma after each. -/
def entryTokens (count : Nat) : List Token :=
  (List.replicate count [Token.string false, .mark ","]).flatten

theorem starredOrNaming_string (rest : List Token) :
    starredOrNaming (limit + 12) (.string false :: .mark "," :: rest) =
      some ({}, .mark "," :: rest) := by
  have starts : StartsAtom (.string false) := trivial
  have ends : EndsAtom (.mark ",") := by simp [EndsAtom]
  have single : atom (limit + 3) (.string false :: .mark "," :: rest) =
      some ({}, .mark "," :: rest) := by
    simp [atom, strings]
  have whole : expression (limit + 10) (.string false :: .mark "," :: rest) =
      some ({}, .mark "," :: rest) :=
    expression_of_atom starts ends single
  simp [starredOrNaming, naming, afterMark?, whole]

theorem starredOrNaming_close (rest : List Token) :
    starredOrNaming (limit + 12) (.mark "]" :: rest) = none := by
  have starts : StartsAtom (.mark "]") := by simp [StartsAtom]
  have noAtom : atom (limit + 3) (.mark "]" :: rest) = none := by
    simp [atom]
  have nothing : expression (limit + 10) (.mark "]" :: rest) = none :=
    expression_eq_none starts noAtom
  simp [starredOrNaming, naming, afterMark?, nothing]

theorem separated_entries (limit count : Nat) (rest : List Token) {more : Nat}
    (enough : count < more) :
    separated (starredOrNaming (limit + 12)) more (entryTokens (count + 1) ++ .mark "]" :: rest) =
      some (List.replicate (count + 1) {}, true, .mark "]" :: rest) := by
  obtain ⟨more, rfl⟩ := Nat.exists_eq_add_one_of_ne_zero (by omega : more ≠ 0)
  have comma (ts : List Token) : afterMark? "," (.mark "," :: ts) = some ts := rfl
  induction count generalizing more with
  | zero =>
    have none : separated (starredOrNaming (limit + 12)) more (.mark "]" :: rest) = none := by
      cases more with
      | zero => rfl
      | succ more => simp only [separated, starredOrNaming_close]
    simp [entryTokens, separated, starredOrNaming_string, comma, none]
  | succ count ih =>
    obtain ⟨more, rfl⟩ := Nat.exists_eq_add_one_of_ne_zero (by omega : more ≠ 0)
    have cons : entryTokens (count + 1 + 1) ++ .mark "]" :: rest =
        .string false :: .mark "," :: (entryTokens (count + 1) ++ .mark "]" :: rest) := rfl
    rw [cons, separated, starredOrNaming_string]
    simp only [comma]
    rw [ih more (by omega)]
    rfl

/-- A list of strings with a comma after each is an atom. -/
theorem atom_list (count : Nat) (rest : List Token) :
    atom (limit + 13) (.mark "[" :: (entryTokens count ++ .mark "]" :: rest)) =
      some (.several (List.replicate count {}), rest) := by
  cases count with
  | zero => simp [atom, entryTokens, afterMark?]
  | succ count =>
    have noEnd : afterMark? "]" (entryTokens (count + 1) ++ .mark "]" :: rest) = none := rfl
    have enough : count < (entryTokens (count + 1) ++ .mark "]" :: rest).length + 1 := by
      simp [entryTokens]
      omega
    have all := separated_entries limit count rest enough
    simp only [atom, noEnd, items, all]
    simp [afterMark?]

/-! ## Statements -/

/-- What begins with an atom is a statement on one line. -/
theorem statement_of_starts (starts : StartsAtom t) (other : t ≠ .name "match") (ts : List Token) :
    statement (limit + 2) (t :: ts) = (expressionStatement limit (t :: ts)).bind fun
      | .lineEnd :: rest => some rest
      | .mark ";" :: .lineEnd :: rest => some rest
      | .mark ";" :: rest => smallStatements limit rest
      | _ => none := by
  cases t with
  | name text =>
    have other : text ≠ "match" := fun same => other (congrArg Token.name same)
    rw [statement, smallStatements]
    · rfl
    all_goals simp_all
  | string ofBytes =>
    rw [statement, smallStatements]
    · rfl
    all_goals simp_all
  | mark m =>
    have other : m ≠ "@" := by
      rintro rfl
      simp [StartsAtom] at starts
    rw [statement, smallStatements]
    · rfl
    all_goals simp_all
  | _ => exact starts.elim

theorem assigned_of_starts (limit : Nat) (starts : StartsAtom t) (ts : List Token) :
    atKeyword "yield" (t :: ts) = false ∧
      assigned limit (t :: ts) = expressions limit (t :: ts) := by
  have noYield : atKeyword "yield" (t :: ts) = false := by
    cases t with
    | keyword _ => exact starts.elim
    | _ => rfl
  exact ⟨noYield, by rw [assigned, if_neg (by simp [noYield])]⟩

theorem statement_string (rest : List Token) :
    statement (limit + 14) (.string false :: .lineEnd :: rest) = some rest := by
  have starts : StartsAtom (.string false) := trivial
  obtain ⟨noYield, assigned⟩ := assigned_of_starts (limit + 12) starts (.lineEnd :: rest)
  have single : atom (limit + 3) (.string false :: .lineEnd :: rest) =
      some ({}, .lineEnd :: rest) := by
    simp [atom, strings]
  have whole : expressions (limit + 12) (.string false :: .lineEnd :: rest) =
      some ({}, .lineEnd :: rest) :=
    expressions_of_atom starts trivial nofun single
  rw [statement_of_starts starts nofun, expressionStatement, assigned, whole, noYield]
  rfl

theorem statement_list (name : String) (other : name ≠ "match") (count : Nat) (rest : List Token) :
    statement (limit + 25) (.name name :: .mark "=" :: .mark "[" ::
      (entryTokens count ++ .mark "]" :: .lineEnd :: rest)) = some rest := by
  have opens : StartsAtom (.mark "[") := by simp [StartsAtom]
  have named : StartsAtom (.name name) := trivial
  have ends : EndsAtom (.mark "=") := by simp [EndsAtom]
  have list : expressions (limit + 22)
      (.mark "[" :: (entryTokens count ++ .mark "]" :: .lineEnd :: rest)) =
      some (.several (List.replicate count {}), .lineEnd :: rest) :=
    expressions_of_atom opens trivial nofun (atom_list count _)
  have given : assignments (limit + 23)
      (.mark "[" :: (entryTokens count ++ .mark "]" :: .lineEnd :: rest)) =
      some (.lineEnd :: rest) := by
    rw [assignments, (assigned_of_starts _ opens _).2, list]
    rfl
  generalize .mark "[" :: (entryTokens count ++ .mark "]" :: .lineEnd :: rest) = value at given ⊢
  have single : atom (limit + 14) (.name name :: .mark "=" :: value) =
      some (.name, .mark "=" :: value) := by
    simp only [atom]
  have target : expressions (limit + 23) (.name name :: .mark "=" :: value) =
      some (.name, .mark "=" :: value) :=
    expressions_of_atom named ends (by simp) single
  obtain ⟨noYield, assigned⟩ := assigned_of_starts (limit + 23) named (.mark "=" :: value)
  rw [statement_of_starts named (by simp [other]), expressionStatement, assigned, target, noYield]
  change (assignments (limit + 23) value).bind _ = _
  rw [given]
  rfl

/-! ## The module of a package -/

/-- The tokens of a line that imports a class from the module that holds it. -/
def importTokens (name : String) : List Token :=
  [.keyword "from", .mark ".", word (moduleName name), .keyword "import", word name, .lineEnd]

/-- The class can be imported by its name, from a module that can be named. -/
def Importable (name : String) : Prop := moduleName name ∉ keywords ∧ name ∉ keywords

instance (name : String) : Decidable (Importable name) := inferInstanceAs (Decidable (_ ∧ _))

/-- The tokens of the list of classes. -/
def listTokens (count : Nat) : List Token :=
  .name "__all__" :: .mark "=" :: .mark "[" :: (entryTokens count ++ [.mark "]", .lineEnd])

/-- The tokens of the module of a package. -/
def packageTokens (classNames : List String) : List Token :=
  .string false :: .lineEnd :: (classNames.flatMap importTokens ++ listTokens classNames.length)

/-- The tokens after a statement that imports a class. -/
theorem afterFromImport?_import (name : String) (rest : List Token) :
    afterFromImport? (.mark "." :: word (moduleName name) :: .keyword "import" :: word name ::
      .lineEnd :: rest) = if Importable name then some (.lineEnd :: rest) else none := by
  generalize held : moduleName name = module
  have noPoint (text : String) : word text ≠ .mark "." ∧ word text ≠ .mark "..." := by
    unfold word
    split <;> simp
  have bare (ts : List Token) :
      dropPoints (.mark "." :: word module :: ts) = word module :: ts := by
    simp [dropPoints, noPoint module]
  have fewer (t : Token) (ts : List Token) : ts.length < (t :: ts).length := by simp
  have keyword (text : String) (ts : List Token) :
      items importedName (.keyword text :: ts) = none := by
    simp [items, separated, importedName, afterName?]
  have single (text : String) : items importedName (.name text :: .lineEnd :: rest) =
      some ([()], false, .lineEnd :: rest) := by
    simp [items, separated, importedName, afterName?, afterNewName?, afterMark?]
  unfold afterFromImport? Importable
  simp only [bare, fewer, if_true, held]
  by_cases m : module ∈ keywords
  · have noName (ts : List Token) : afterDotted? (.keyword module :: ts) = none := rfl
    rw [if_neg fun free => free.1 m, word, if_pos m]
    by_cases same : module = "import"
    · subst same
      simp [noName, afterKeyword?, keyword]
    · simp [noName, afterKeyword?, same]
  · simp only [word, m, if_false, not_false_iff, true_and]
    by_cases n : name ∈ keywords
    · simp [n, afterDotted?, afterKeyword?, keyword]
    · simp [n, afterDotted?, afterKeyword?, single]

theorem statement_import (name : String) (rest : List Token) :
    statement (limit + 2) (importTokens name ++ rest) =
      if Importable name then some rest else none := by
  have step (ts : List Token) : statement (limit + 2) (.keyword "from" :: ts) =
      smallStatements (limit + 1) (.keyword "from" :: ts) := by
    rw [statement]
    all_goals simp
  have small (ts : List Token) : smallStatement limit (.keyword "from" :: ts) =
      afterFromImport? ts := rfl
  change statement (limit + 2) (.keyword "from" :: (.mark "." :: word (moduleName name) ::
    .keyword "import" :: word name :: .lineEnd :: rest)) = _
  rw [step, smallStatements, small, afterFromImport?_import]
  split <;> rfl

theorem statements_cons (noEnd : t ≠ .blockEnd) (ts : List Token) :
    statements (limit + 1) (t :: ts) = (statement limit (t :: ts)).bind (statements limit) := by
  rw [statements]
  · rfl
  · simp
  · intro rest same
    exact noEnd (List.cons.inj same).1

/-- **The lines of imports are statements exactly if all classes can be imported.** -/
theorem statements_imports (classNames : List String) (rest : List Token) :
    statements (limit + 2 + classNames.length) (classNames.flatMap importTokens ++ rest) =
      if ∀ name ∈ classNames, Importable name then statements (limit + 2) rest else none := by
  induction classNames with
  | nil => simp
  | cons name others ih =>
    have one (ts : List Token) : statement (limit + 2 + others.length) (importTokens name ++ ts) =
        if Importable name then some ts else none := by
      rw [Nat.add_right_comm]
      exact statement_import name ts
    have split (ts : List Token) : statements (limit + 2 + others.length + 1)
        (importTokens name ++ ts) =
        (statement (limit + 2 + others.length) (importTokens name ++ ts)).bind
          (statements (limit + 2 + others.length)) :=
      statements_cons (t := .keyword "from") (by simp) _
    rw [List.flatMap_cons, List.append_assoc, List.length_cons, ← Nat.add_assoc, split, one]
    by_cases free : Importable name
    · simp [free, ih]
    · simp [free]

/-- **The module of a package has the grammar of one exactly if all classes can be imported.** -/
theorem statements_package (classNames : List String) :
    statements (limit + 28 + classNames.length) (packageTokens classNames) =
      if ∀ name ∈ classNames, Importable name then some [] else none := by
  have fuel : limit + 28 + classNames.length = limit + 13 + classNames.length + 14 + 1 := by omega
  have again : limit + 13 + classNames.length + 14 = limit + 25 + 2 + classNames.length := by omega
  have list : statements (limit + 27) (listTokens classNames.length) = some [] := by
    have whole : statement (limit + 26) (listTokens classNames.length) = some [] :=
      statement_list "__all__" (by simp) classNames.length []
    have cons : statements (limit + 27) (listTokens classNames.length) =
        (statement (limit + 26) (listTokens classNames.length)).bind (statements (limit + 26)) :=
      statements_cons (by simp) _
    have nothing : statements (limit + 26) [] = some [] := by
      simp only [statements]
    rw [cons, whole, Option.bind_some, nothing]
  rw [packageTokens, fuel, statements_cons (by simp), statement_string, Option.bind_some, again,
    statements_imports, list]

end QueryShape.Grammar
