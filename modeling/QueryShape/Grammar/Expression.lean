import QueryShape.Grammar.Formatted
import QueryShape.Grammar.Token

/-!
# Expressions

`expressions` reads expressions with commas between them from the front of a list of tokens. What is
read comes as its `Shape`: what may be done with the expression where it stands, such as assigning
to it. That is all that statements ask for.

Operators of one level can stand between the same operands, so levels that differ in nothing else
are read as one.
-/

namespace QueryShape.Grammar

/-- What may be done with an expression. -/
structure Shape where
  /-- It is a name alone. -/
  isName : Bool := false
  /-- It may be assigned to, possibly part by part. -/
  isTarget : Bool := false
  /-- It may be assigned to as a whole. -/
  isSingle : Bool := false
  /-- It may be deleted. -/
  isDeletable : Bool := false
  /-- Its items are unpacked. -/
  isStarred : Bool := false
  /-- It gives a name to its value. -/
  isNaming : Bool := false
  deriving Inhabited

/-- The shape of a member or item of a value. -/
def Shape.part : Shape := { isTarget := true, isSingle := true, isDeletable := true }

/-- The shape of a name. -/
def Shape.name : Shape := { Shape.part with isName := true }

/-- The shape of several expressions with commas between them. -/
def Shape.several (items : List Shape) : Shape :=
  { isTarget := items.all (·.isTarget), isDeletable := items.all (·.isDeletable) }

/-- The shape of an expression in brackets. -/
def Shape.bracketed (s : Shape) : Shape := { s with isName := false }

/-- The tokens after what is read. -/
abbrev Rest := List Token

/-- The tokens after a mark. -/
def afterMark? (text : String) : List Token → Option (List Token)
  | .mark found :: rest => if found = text then some rest else none
  | _ => none

/-- The tokens after a keyword. -/
def afterKeyword? (text : String) : List Token → Option (List Token)
  | .keyword found :: rest => if found = text then some rest else none
  | _ => none

/-- The next token is the mark. -/
def atMark (text : String) (ts : List Token) : Bool := (afterMark? text ts).isSome

/-- The next token is the keyword. -/
def atKeyword (text : String) (ts : List Token) : Bool := (afterKeyword? text ts).isSome

/-- The tokens after a name. -/
def afterName? : List Token → Option (List Token)
  | .name _ :: rest => some rest
  | _ => none

/-- The next tokens begin a comprehension. -/
def atComprehension (ts : List Token) : Bool :=
  atKeyword "for" ts || (atKeyword "async" ts && atKeyword "for" (ts.drop 1))

/-- The tokens after an operator between two operands. -/
def afterOperator? : List Token → Option (List Token)
  | .mark m :: rest =>
    if ["|", "^", "&", "<<", ">>", "+", "-", "*", "/", "//", "%", "@"].contains m then some rest
    else none
  | _ => none

/-- The tokens after an operator that compares. -/
def afterComparison? : List Token → Option (List Token)
  | .mark m :: rest => if ["<", ">", "==", ">=", "<=", "!="].contains m then some rest else none
  | .keyword "in" :: rest => some rest
  | .keyword "not" :: .keyword "in" :: rest => some rest
  | .keyword "is" :: .keyword "not" :: rest => some rest
  | .keyword "is" :: rest => some rest
  | _ => none

/-- Items with commas between them, at least one, and whether a comma follows the last. There are no
more than tokens. -/
def separated (item : List Token → Option (α × Rest)) :
    (limit : Nat) → List Token → Option (List α × Bool × List Token)
  | 0, _ => none
  | limit + 1, ts =>
    match item ts with
    | none => none
    | some (first, ts) =>
      match afterMark? "," ts with
      | none => some ([first], false, ts)
      | some rest =>
        match separated item limit rest with
        | some (items, comma, ts) => some (first :: items, comma, ts)
        | none => some ([first], true, rest)

/-- Items with commas between them. -/
def items (item : List Token → Option (α × Rest)) (ts : List Token) :
    Option (List α × Bool × List Token) :=
  separated item (ts.length + 1) ts

/-- The shape of one item, or of several with commas. -/
def Shape.ofItems (shapes : List Shape) (comma : Bool) : Shape :=
  match shapes, comma with
  | [shape], false => shape
  | shapes, _ => .several shapes

/-- What the parameters so far have settled. -/
structure Parameters where
  hasAny : Bool := false
  /-- A parameter before has a default. -/
  hasDefault : Bool := false
  hasSlash : Bool := false
  hasStar : Bool := false
  /-- A star alone asks for a parameter after it. -/
  asksForMore : Bool := false
  /-- Nothing may follow. -/
  isComplete : Bool := false

/-- What the arguments so far allow after them. -/
inductive ArgumentPhase
  | start
  | positional
  | named
  | unpacked
  deriving DecidableEq

/-- What stands between the commas of a display in braces. -/
structure Entry where
  /-- It is an item of a set, and not an entry of a dictionary. -/
  isItem : Bool
  isUnpacked : Bool

mutual

/-- Expressions with commas between them, some of them possibly unpacked. -/
def expressions : (limit : Nat) → List Token → Option (Shape × Rest)
  | 0, _ => none
  | limit + 1, ts => do
    let (shapes, comma, ts) ← items (starred limit) ts
    return (.ofItems shapes comma, ts)

/-- An expression, or one that is unpacked. -/
def starred : (limit : Nat) → List Token → Option (Shape × Rest)
  | 0, _ => none
  | limit + 1, ts =>
    match afterMark? "*" ts with
    | some rest => unpacked limit rest
    | none => expression limit ts

/-- The operand after a star. -/
def unpacked : (limit : Nat) → List Token → Option (Shape × Rest)
  | 0, _ => none
  | limit + 1, ts => do
    let (shape, ts) ← operands limit ts
    return ({ isStarred := true, isTarget := shape.isTarget }, ts)

/-- An expression that may give its value a name, or one that is unpacked. -/
def starredOrNaming : (limit : Nat) → List Token → Option (Shape × Rest)
  | 0, _ => none
  | limit + 1, ts =>
    match afterMark? "*" ts with
    | some rest => unpacked limit rest
    | none => naming limit ts

/-- An expression that may give its value a name. -/
def naming : (limit : Nat) → List Token → Option (Shape × Rest)
  | 0, _ => none
  | limit + 1, ts =>
    match ts with
    | .name _ :: .mark ":=" :: rest => do
      let (_, ts) ← expression limit rest
      return ({ isNaming := true }, ts)
    | ts => expression limit ts

/-- An expression. -/
def expression : (limit : Nat) → List Token → Option (Shape × Rest)
  | 0, _ => none
  | limit + 1, ts =>
    match afterKeyword? "lambda" ts with
    | some rest => do
      let ts ← parameters limit false {} rest
      let (_, ts) ← expression limit (← afterMark? ":" ts)
      return ({}, ts)
    | none => do
      let (shape, ts) ← alternatives limit ts
      match afterKeyword? "if" ts with
      | some rest =>
        let (_, ts) ← alternatives limit rest
        let (_, ts) ← expression limit (← afterKeyword? "else" ts)
        return ({}, ts)
      | none => return (shape, ts)

/-- Comparisons with words of logic between them. -/
def alternatives : (limit : Nat) → List Token → Option (Shape × Rest)
  | 0, _ => none
  | limit + 1, ts => do
    let (shape, ts) ← inversion limit ts
    match afterKeyword? "and" ts <|> afterKeyword? "or" ts with
    | some rest =>
      let (_, ts) ← alternatives limit rest
      return ({}, ts)
    | none => return (shape, ts)

/-- A comparison, possibly denied. -/
def inversion : (limit : Nat) → List Token → Option (Shape × Rest)
  | 0, _ => none
  | limit + 1, ts =>
    match afterKeyword? "not" ts with
    | some rest => do
      let (_, ts) ← inversion limit rest
      return ({}, ts)
    | none => comparison limit ts

/-- Operands that are compared. -/
def comparison : (limit : Nat) → List Token → Option (Shape × Rest)
  | 0, _ => none
  | limit + 1, ts => do
    let (shape, ts) ← operands limit ts
    match afterComparison? ts with
    | some rest =>
      let (_, ts) ← comparison limit rest
      return ({}, ts)
    | none => return (shape, ts)

/-- Operands with operators between them. -/
def operands : (limit : Nat) → List Token → Option (Shape × Rest)
  | 0, _ => none
  | limit + 1, ts => do
    let (shape, ts) ← operand limit ts
    match afterOperator? ts with
    | some rest =>
      let (_, ts) ← operands limit rest
      return ({}, ts)
    | none => return (shape, ts)

/-- A value with its signs and its exponent. -/
def operand : (limit : Nat) → List Token → Option (Shape × Rest)
  | 0, _ => none
  | limit + 1, ts =>
    match afterMark? "+" ts <|> afterMark? "-" ts <|> afterMark? "~" ts with
    | some rest => do
      let (_, ts) ← operand limit rest
      return ({}, ts)
    | none => do
      let (shape, ts) ← match afterKeyword? "await" ts with
        | some rest => do
          let (_, ts) ← value limit rest
          pure (({} : Shape), ts)
        | none => value limit ts
      match afterMark? "**" ts with
      | some rest =>
        let (_, ts) ← operand limit rest
        return ({}, ts)
      | none => return (shape, ts)

/-- A value with its members, calls and items. -/
def value : (limit : Nat) → List Token → Option (Shape × Rest)
  | 0, _ => none
  | limit + 1, ts => do
    let (shape, ts) ← atom limit ts
    parts limit shape ts

/-- The members, calls and items after a value. -/
def parts : (limit : Nat) → Shape → List Token → Option (Shape × Rest)
  | 0, _, _ => none
  | limit + 1, shape, ts =>
    match ts with
    | .mark "." :: .name _ :: rest => parts limit .part rest
    | .mark "." :: _ => none
    | .mark "(" :: rest => do
      parts limit {} (← arguments limit .start rest)
    | .mark "[" :: rest => do
      let (_, _, ts) ← items (slice limit) rest
      parts limit .part (← afterMark? "]" ts)
    | ts => some (shape, ts)

/-- A name, literal or display. -/
def atom : (limit : Nat) → List Token → Option (Shape × Rest)
  | 0, _ => none
  | limit + 1, ts =>
    match ts with
    | .name _ :: rest => some (.name, rest)
    | .keyword word :: rest =>
      if ["None", "True", "False"].contains word then some ({}, rest) else none
    | .number :: rest => some ({}, rest)
    | .string ofBytes :: _ => (strings limit ofBytes ts).map fun ts => ({}, ts)
    | .formatted .. :: _ => (strings limit false ts).map fun ts => ({}, ts)
    | .mark "..." :: rest => some ({}, rest)
    | .mark "(" :: rest => group limit rest
    | .mark "[" :: rest =>
      match afterMark? "]" rest with
      | some ts => some (.several [], ts)
      | none => do
        let (shapes, comma, ts) ← items (starredOrNaming limit) rest
        if shapes.length = 1 && !comma && atComprehension ts then
          if shapes.any (·.isStarred) then none
          return ({}, ← afterMark? "]" (← clauses limit ts))
        return (.several shapes, ← afterMark? "]" ts)
    | .mark "\x7b" :: rest => (display limit rest).map fun ts => ({}, ts)
    | _ => none

/-- The tokens after strings that follow each other, all of characters or all of bytes. The
expressions in a formatted string are read as if in parentheses. -/
def strings : (limit : Nat) → (ofBytes : Bool) → List Token → Option (List Token)
  | 0, _, _ => none
  | limit + 1, ofBytes, ts =>
    match ts with
    | .string other :: rest => if other = ofBytes then strings limit ofBytes rest else none
    | .formatted inside isRaw :: rest => do
      if ofBytes then none
      let expressions ← Formatted.expressionsIn? isRaw inside.toList
      let isExpression (text : List Char) : Bool :=
        ((tokens? ('(' :: text ++ [')'])).bind (value limit)).any (·.2 == [.lineEnd])
      if expressions.all isExpression then strings limit false rest else none
    | ts => some ts

/-- What follows an opening parenthesis. -/
def group : (limit : Nat) → List Token → Option (Shape × Rest)
  | 0, _ => none
  | limit + 1, ts =>
    match ts with
    | .mark ")" :: rest => some (.several [], rest)
    | .keyword "yield" :: _ => do
      let (_, ts) ← yielded limit ts
      return ({}, ← afterMark? ")" ts)
    | ts => do
      let (shapes, comma, ts) ← items (starredOrNaming limit) ts
      match shapes, comma with
      | [shape], false =>
        if shape.isStarred then none
        if atComprehension ts then return ({}, ← afterMark? ")" (← clauses limit ts))
        return (shape.bracketed, ← afterMark? ")" ts)
      | shapes, _ => return (.several shapes, ← afterMark? ")" ts)

/-- The tokens after a dictionary or set. -/
def display : (limit : Nat) → List Token → Option (List Token)
  | 0, _ => none
  | limit + 1, ts =>
    match afterMark? "\x7d" ts with
    | some rest => some rest
    | none => do
      let (entries, comma, ts) ← items (entry limit) ts
      if entries.length = 1 && !comma && atComprehension ts then
        if entries.any (·.isUnpacked) then none
        afterMark? "\x7d" (← clauses limit ts)
      else
        if entries.any (·.isItem) && entries.any (!·.isItem) then none
        afterMark? "\x7d" ts

/-- An entry of a dictionary, or an item of a set. -/
def entry : (limit : Nat) → List Token → Option (Entry × Rest)
  | 0, _ => none
  | limit + 1, ts =>
    match afterMark? "**" ts with
    | some rest => do
      let (_, ts) ← operands limit rest
      return ({ isItem := false, isUnpacked := true }, ts)
    | none => do
      let (shape, ts) ← starredOrNaming limit ts
      match if shape.isStarred || shape.isNaming then none else afterMark? ":" ts with
      | some rest =>
        let (_, ts) ← expression limit rest
        return ({ isItem := false, isUnpacked := false }, ts)
      | none => return ({ isItem := true, isUnpacked := shape.isStarred }, ts)

/-- The clauses of a comprehension. -/
def clauses : (limit : Nat) → List Token → Option (List Token)
  | 0, _ => none
  | limit + 1, ts => do
    let ts := (afterKeyword? "async" ts).getD ts
    let ts ← targets limit (← afterKeyword? "for" ts)
    let (_, ts) ← alternatives limit (← afterKeyword? "in" ts)
    let ts ← conditions limit ts
    if atComprehension ts then clauses limit ts else return ts

/-- The conditions of a clause. -/
def conditions : (limit : Nat) → List Token → Option (List Token)
  | 0, _ => none
  | limit + 1, ts =>
    match afterKeyword? "if" ts with
    | some rest => do
      let (_, ts) ← alternatives limit rest
      conditions limit ts
    | none => some ts

/-- Targets with commas between them. -/
def targets : (limit : Nat) → List Token → Option (List Token)
  | 0, _ => none
  | limit + 1, ts => do
    let item (ts : List Token) : Option (Shape × Rest) :=
      match afterMark? "*" ts with
      | some rest => unpacked limit rest
      | none => operands limit ts
    let (shapes, comma, ts) ← items item ts
    if (Shape.ofItems shapes comma).isTarget then some ts else none

/-- An index or a slice. -/
def slice : (limit : Nat) → List Token → Option (Unit × Rest)
  | 0, _ => none
  | limit + 1, ts =>
    let bound (ts : List Token) : List Token :=
      match expression limit ts with
      | some (_, ts) => ts
      | none => ts
    match afterMark? ":" (bound ts) with
    | some rest =>
      let ts := bound rest
      match afterMark? ":" ts with
      | some rest => some ((), bound rest)
      | none => some ((), ts)
    | none => do
      let (_, ts) ← starredOrNaming limit ts
      return ((), ts)

/-- The tokens after the arguments of a call, in a phase of them, and the closing parenthesis. -/
def arguments : (limit : Nat) → ArgumentPhase → List Token → Option (List Token)
  | 0, _, _ => none
  | limit + 1, phase, ts =>
    match ts with
    | .mark ")" :: rest => some rest
    | .mark "**" :: rest => do
      let (_, ts) ← expression limit rest
      moreArguments limit .unpacked ts
    | .mark "*" :: rest => do
      if phase = .unpacked then none
      let (_, ts) ← expression limit rest
      moreArguments limit (if phase = .start then .positional else phase) ts
    | .name _ :: .mark "=" :: rest => do
      let (_, ts) ← expression limit rest
      moreArguments limit (if phase = .unpacked then .unpacked else .named) ts
    | ts => do
      if phase = .named ∨ phase = .unpacked then none
      let (_, ts) ← naming limit ts
      if phase = .start ∧ atComprehension ts then afterMark? ")" (← clauses limit ts)
      else moreArguments limit .positional ts

/-- The tokens after the rest of the arguments. -/
def moreArguments : (limit : Nat) → ArgumentPhase → List Token → Option (List Token)
  | 0, _, _ => none
  | limit + 1, phase, ts =>
    match ts with
    | .mark ")" :: rest => some rest
    | .mark "," :: rest => arguments limit phase rest
    | _ => none

/-- What a function gives while it goes on. -/
def yielded : (limit : Nat) → List Token → Option (Shape × Rest)
  | 0, _ => none
  | limit + 1, ts => do
    let ts ← afterKeyword? "yield" ts
    match afterKeyword? "from" ts with
    | some rest =>
      let (_, ts) ← expression limit rest
      return ({}, ts)
    | none =>
      match expressions limit ts with
      | some (_, ts) => return ({}, ts)
      | none => return ({}, ts)

/-- The tokens after parameters, which may have types noted. -/
def parameters : (limit : Nat) → (annotated : Bool) → Parameters → List Token →
    Option (List Token)
  | 0, _, _, _ => none
  | limit + 1, annotated, p, ts =>
    let noted (stars : Bool) (ts : List Token) : Option (List Token) :=
      match if annotated then afterMark? ":" ts else none with
      | some rest => ((if stars then starred limit else expression limit) rest).map (·.2)
      | none => some ts
    let more (p : Parameters) (ts : List Token) : Option (List Token) :=
      match afterMark? "," ts with
      | some rest => parameters limit annotated p rest
      | none => if p.asksForMore then none else some ts
    if p.isComplete then some ts
    else
      match ts with
      | .mark "/" :: rest =>
        if !p.hasAny || p.hasSlash || p.hasStar then none else more { p with hasSlash := true } rest
      | .mark "**" :: .name _ :: rest => do
        if p.asksForMore then none
        more { p with isComplete := true } (← noted false rest)
      | .mark "*" :: .name _ :: rest => do
        if p.hasStar then none
        more { p with hasAny := true, hasStar := true } (← noted true rest)
      | .mark "*" :: rest =>
        if p.hasStar then none else more { p with hasStar := true, asksForMore := true } rest
      | .name _ :: rest => do
        let ts ← noted false rest
        let p := { p with hasAny := true, asksForMore := false }
        match afterMark? "=" ts with
        | some rest =>
          let (_, ts) ← expression limit rest
          more { p with hasDefault := true } ts
        | none => if p.hasDefault && !p.hasStar then none else more p ts
      | ts => if p.asksForMore then none else some ts

end

end QueryShape.Grammar
