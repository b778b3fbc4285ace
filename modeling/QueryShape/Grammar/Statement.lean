import QueryShape.Grammar.Pattern

/-!
# Statements

`isModule` tells whether a text is a module of generated code, as far as its grammar goes. Templates
of users may hold any code, so all statements of the language are read.
-/

namespace QueryShape.Grammar

/-! ## Small statements -/

/-- Names with points between them. -/
def afterDotted? : List Token → Option (List Token)
  | .name _ :: .mark "." :: rest => afterDotted? rest
  | .name _ :: rest => some rest
  | _ => none

/-- A new name for what is imported, if there is one. -/
def afterNewName? : List Token → Option (List Token)
  | .keyword "as" :: .name _ :: rest => some rest
  | .keyword "as" :: _ => none
  | rest => some rest

/-- A module with its new name. -/
def importedModule (ts : List Token) : Option (Unit × Rest) := do
  return ((), ← afterNewName? (← afterDotted? ts))

/-- A member of a module with its new name. -/
def importedName (ts : List Token) : Option (Unit × Rest) := do
  return ((), ← afterNewName? (← afterName? ts))

/-- The tokens after the points before the name of a module. -/
def dropPoints (ts : List Token) : List Token :=
  ts.dropWhile fun t => t == .mark "." || t == .mark "..."

/-- The tokens after the statement that imports modules. -/
def afterImport? (ts : List Token) : Option (List Token) := do
  let (_, comma, ts) ← items importedModule ts
  if comma then none else some ts

/-- The tokens after the statement that imports members of a module. -/
def afterFromImport? (ts : List Token) : Option (List Token) := do
  let bare := dropPoints ts
  let named ← if bare.length < ts.length then some ((afterDotted? bare).getD bare)
    else afterDotted? bare
  match ← afterKeyword? "import" named with
  | .mark "*" :: rest => some rest
  | .mark "(" :: rest => do
    let (_, _, ts) ← items importedName rest
    afterMark? ")" ts
  | rest => do
    let (_, comma, ts) ← items importedName rest
    if comma then none else some ts

/-- Names with commas between them. -/
def afterNames? (ts : List Token) : Option (List Token) := do
  let (_, comma, ts) ← items (fun ts => (afterName? ts).map fun rest => ((), rest)) ts
  if comma then none else some ts

/-- The marks that change what is assigned to. -/
def changingMarks : List String :=
  ["+=", "-=", "*=", "@=", "/=", "%=", "&=", "|=", "^=", "<<=", ">>=", "**=", "//="]

/-- The tokens after a value that is assigned, or given by a function that goes on. -/
def assigned (limit : Nat) (ts : List Token) : Option (Shape × Rest) :=
  if atKeyword "yield" ts then yielded limit ts else expressions limit ts

/-- The tokens after the values that are assigned one to the other. -/
def assignments : (limit : Nat) → List Token → Option (List Token)
  | 0, _ => none
  | limit + 1, ts => do
    let isYield := atKeyword "yield" ts
    let (shape, ts) ← assigned limit ts
    match afterMark? "=" ts with
    | some rest => if shape.isTarget && !isYield then assignments limit rest else none
    | none => some ts

/-- The tokens after an expression, or after what is assigned to it. -/
def expressionStatement (limit : Nat) (ts : List Token) : Option (List Token) := do
  let isYield := atKeyword "yield" ts
  let (shape, after) ← assigned limit ts
  if isYield then some after
  else
    match after with
    | .mark "=" :: rest => if shape.isTarget then assignments limit rest else none
    | .mark ":" :: rest => do
      if !shape.isSingle then none
      let (_, ts) ← expression limit rest
      match afterMark? "=" ts with
      | some rest => (assigned limit rest).map (·.2)
      | none => some ts
    | .mark m :: rest =>
      if changingMarks.contains m then
        if shape.isSingle then (assigned limit rest).map (·.2) else none
      else some after
    | after => some after

/-- The tokens after a statement on one line. -/
def smallStatement (limit : Nat) : List Token → Option (List Token)
  | .keyword word :: rest =>
    let optional (ts : List Token) : List Token :=
      match expressions limit ts with
      | some (_, ts) => ts
      | none => ts
    match word with
    | "pass" | "break" | "continue" => some rest
    | "return" => some (optional rest)
    | "raise" =>
      match expression limit rest with
      | some (_, ts) =>
        match afterKeyword? "from" ts with
        | some rest => (expression limit rest).map (·.2)
        | none => some ts
      | none => some rest
    | "global" | "nonlocal" => afterNames? rest
    | "del" => do
      let (shapes, _, ts) ← items (operands limit) rest
      if shapes.all (·.isDeletable) then some ts else none
    | "assert" => do
      let (_, ts) ← expression limit rest
      match afterMark? "," ts with
      | some rest => (expression limit rest).map (·.2)
      | none => some ts
    | "import" => afterImport? rest
    | "from" => afterFromImport? rest
    | word => expressionStatement limit (.keyword word :: rest)
  | ts => expressionStatement limit ts

/-- The tokens after statements on one line. -/
def smallStatements : (limit : Nat) → List Token → Option (List Token)
  | 0, _ => none
  | limit + 1, ts => do
    match ← smallStatement limit ts with
    | .lineEnd :: rest => some rest
    | .mark ";" :: .lineEnd :: rest => some rest
    | .mark ";" :: rest => smallStatements limit rest
    | _ => none

/-! ## Statements with blocks -/

/-- Something to enter and leave, with a name for it. -/
def entered (limit : Nat) (ts : List Token) : Option (Unit × Rest) := do
  let (_, ts) ← expression limit ts
  match afterKeyword? "as" ts with
  | some rest => do
    let (shape, ts) ← operands limit rest
    if shape.isTarget then some ((), ts) else none
  | none => some ((), ts)

/-- The tokens before the colon after things to enter, which may stand in parentheses. -/
def afterEntered? (limit : Nat) (ts : List Token) : Option (List Token) :=
  let inParentheses : Option (List Token) := do
    let (_, _, ts) ← items (entered limit) (← afterMark? "(" ts)
    let ts ← afterMark? ")" ts
    if atMark ":" ts then some ts else none
  inParentheses <|> do
    let (_, comma, ts) ← items (entered limit) ts
    if comma then none else some ts

mutual

/-- A statement, or none if a block or the text ends here. -/
def statement : (limit : Nat) → List Token → Option (List Token)
  | 0, _ => none
  | limit + 1, ts =>
    match ts with
    | .keyword "if" :: rest => do
      let (_, ts) ← naming limit rest
      alternativeBlocks limit (← block limit ts)
    | .keyword "while" :: rest => do
      let (_, ts) ← naming limit rest
      elseBlock limit (← block limit ts)
    | .keyword "async" :: rest =>
      if ["def", "for", "with"].any fun word => atKeyword word rest then statement limit rest
      else none
    | .keyword "for" :: rest => do
      let ts ← targets limit rest
      let (_, ts) ← expressions limit (← afterKeyword? "in" ts)
      elseBlock limit (← block limit ts)
    | .keyword "with" :: rest => do block limit (← afterEntered? limit rest)
    | .keyword "try" :: rest => do
      let ts ← block limit rest
      if atKeyword "finally" ts then finalBlock limit ts
      else
        let ts ← handlers limit (atMark "*" (ts.drop 1)) ts
        finalBlock limit (← elseBlock limit ts)
    | .keyword "def" :: .name _ :: .mark "(" :: rest => do
      let ts ← parameters limit true {} rest
      let ts ← afterMark? ")" ts
      match afterMark? "->" ts with
      | some rest =>
        let (_, ts) ← expression limit rest
        block limit ts
      | none => block limit ts
    | .keyword "class" :: .name _ :: rest => do
      match afterMark? "(" rest with
      | some rest => block limit (← arguments limit .start rest)
      | none => block limit rest
    | .mark "@" :: rest => do
      match ← naming limit rest with
      | (_, .lineEnd :: ts) =>
        if ["def", "class", "async"].any (atKeyword · ts) || atMark "@" ts then statement limit ts
        else none
      | _ => none
    | .name "match" :: rest => formStatement limit rest <|> smallStatements limit ts
    | ts => smallStatements limit ts

/-- The tokens after a value and the cases for its form. -/
def formStatement : (limit : Nat) → List Token → Option (List Token)
  | 0, _ => none
  | limit + 1, ts => do
    let (shapes, comma, ts) ← items (starredOrNaming limit) ts
    if shapes.length = 1 && !comma && shapes.any (·.isStarred) then none
    match ← afterMark? ":" ts with
    | .lineEnd :: .blockStart :: rest => cases limit rest
    | _ => none

/-- The tokens after cases for the form of a value, and the end of their block. -/
def cases : (limit : Nat) → List Token → Option (List Token)
  | 0, _ => none
  | limit + 1, ts =>
    match ts with
    | .name "case" :: rest => do
      let ts ← patterns limit rest
      let ts ← match afterKeyword? "if" ts with
        | some rest => (naming limit rest).map (·.2)
        | none => some ts
      match ← block limit ts with
      | .blockEnd :: rest => some rest
      | ts => cases limit ts
    | _ => none

/-- The tokens after a colon and the statements under it. -/
def block : (limit : Nat) → List Token → Option (List Token)
  | 0, _ => none
  | limit + 1, ts => do
    match ← afterMark? ":" ts with
    | .lineEnd :: .blockStart :: rest => do
      match ← statements limit (← statement limit rest) with
      | .blockEnd :: rest => some rest
      | _ => none
    | .lineEnd :: _ => none
    | rest => smallStatements limit rest

/-- The tokens after statements, up to the end of their block. -/
def statements : (limit : Nat) → List Token → Option (List Token)
  | 0, _ => none
  | limit + 1, ts =>
    match ts with
    | [] => some []
    | .blockEnd :: _ => some ts
    | ts => do statements limit (← statement limit ts)

/-- The tokens after the other cases of a condition. -/
def alternativeBlocks : (limit : Nat) → List Token → Option (List Token)
  | 0, _ => none
  | limit + 1, ts =>
    match afterKeyword? "elif" ts with
    | some rest => do
      let (_, ts) ← naming limit rest
      alternativeBlocks limit (← block limit ts)
    | none => elseBlock limit ts

/-- The tokens after a block for all other cases, if there is one. -/
def elseBlock : (limit : Nat) → List Token → Option (List Token)
  | 0, _ => none
  | limit + 1, ts =>
    match afterKeyword? "else" ts with
    | some rest => block limit rest
    | none => some ts

/-- The tokens after a block for the end, if there is one. -/
def finalBlock : (limit : Nat) → List Token → Option (List Token)
  | 0, _ => none
  | limit + 1, ts =>
    match afterKeyword? "finally" ts with
    | some rest => block limit rest
    | none => some ts

/-- The tokens after blocks for faults, at least one, all of them for groups or none. -/
def handlers : (limit : Nat) → (ofGroups : Bool) → List Token → Option (List Token)
  | 0, _, _ => none
  | limit + 1, ofGroups, ts => do
    let ts ← afterKeyword? "except" ts
    let ts ← if ofGroups then afterMark? "*" ts else some ts
    let ts ← match if ofGroups then none else afterMark? ":" ts with
      | some _ => block limit ts
      | none => do
        let (_, ts) ← expression limit ts
        match ts with
        | .keyword "as" :: .name _ :: rest => block limit rest
        | ts => block limit ts
    if atKeyword "except" ts then handlers limit ofGroups ts else some ts

end

/-- The text is a module of generated code. -/
def isModule (text : String) : Bool :=
  match tokens? text.toList with
  | some ts => (statements (20 * (text.length + 2)) ts).any (·.isEmpty)
  | none => false

end QueryShape.Grammar
