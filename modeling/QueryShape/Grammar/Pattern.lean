import QueryShape.Grammar.Expression

/-!
# Patterns

A statement that looks at the form of a value has a case for each form, and a case begins with a
pattern. `patterns` reads the pattern of a case from the front of a list of tokens.
-/

namespace QueryShape.Grammar

/-- The name that stands for any value. -/
def anyValue : String := "_"

/-- The tokens after a name that a value can be given. -/
def afterCapture? : List Token → Option (List Token)
  | .name text :: rest => if text = anyValue then none else some rest
  | _ => none

/-- The tokens after a number, which may have a sign, and another number added to it. -/
def afterNumbers? (ts : List Token) : Option (List Token) := do
  match (afterMark? "-" ts).getD ts with
  | .number :: rest =>
    match afterMark? "+" rest <|> afterMark? "-" rest with
    | some (.number :: rest) => some rest
    | some _ => none
    | none => some rest
  | _ => none

/-- The tokens after a constant. -/
def afterConstant? (limit : Nat) (ts : List Token) : Option (List Token) :=
  match ts with
  | .keyword word :: rest => if ["None", "True", "False"].contains word then some rest else none
  | .string ofBytes :: _ => strings limit ofBytes ts
  | .formatted .. :: _ => strings limit false ts
  | ts => afterNumbers? ts

/-- The tokens after a name with members of it, and whether there are any. -/
def afterReference? : List Token → Option (Bool × List Token)
  | .name _ :: .mark "." :: rest => do
    let (_, rest) ← afterReference? rest
    return (true, rest)
  | .name _ :: rest => some (false, rest)
  | _ => none

/-- What the entries of a pattern are. -/
inductive PatternEntry
  | plain
  /-- It takes what is left. -/
  | rest
  | named
  deriving DecidableEq

/-- The named entries come after all others. -/
def namedComeLast : List PatternEntry → Bool
  | [] => true
  | .named :: others => others.all (· == .named)
  | _ :: others => namedComeLast others

mutual

/-- A pattern, or several with commas between them. -/
def patterns : (limit : Nat) → List Token → Option (List Token)
  | 0, _ => none
  | limit + 1, ts => do
    let (found, comma, ts) ← items (starredPattern limit) ts
    if found == [.rest] && !comma then none else some ts

/-- A pattern, or a name for all items that are left. -/
def starredPattern : (limit : Nat) → List Token → Option (PatternEntry × Rest)
  | 0, _ => none
  | limit + 1, ts =>
    match afterMark? "*" ts with
    | some rest => (afterName? rest).map fun ts => (.rest, ts)
    | none => (pattern limit ts).map fun ts => (.plain, ts)

/-- Patterns of which one has to fit, and a name for the value. -/
def pattern : (limit : Nat) → List Token → Option (List Token)
  | 0, _ => none
  | limit + 1, ts => do
    let ts ← choices limit ts
    match afterKeyword? "as" ts with
    | some rest => afterCapture? rest
    | none => some ts

/-- Patterns of which one has to fit. -/
def choices : (limit : Nat) → List Token → Option (List Token)
  | 0, _ => none
  | limit + 1, ts => do
    let ts ← closedPattern limit ts
    match afterMark? "|" ts with
    | some rest => choices limit rest
    | none => some ts

/-- A pattern that ends by itself. -/
def closedPattern : (limit : Nat) → List Token → Option (List Token)
  | 0, _ => none
  | limit + 1, ts =>
    match ts with
    | .mark "(" :: .mark ")" :: rest | .mark "[" :: .mark "]" :: rest => some rest
    | .mark "(" :: rest => do
      let (found, comma, ts) ← items (starredPattern limit) rest
      if found == [.rest] && !comma then none else afterMark? ")" ts
    | .mark "[" :: rest => do
      let (_, _, ts) ← items (starredPattern limit) rest
      afterMark? "]" ts
    | .mark "\x7b" :: .mark "\x7d" :: rest => some rest
    | .mark "\x7b" :: rest => do
      let (found, _, ts) ← items (keyedPattern limit) rest
      if found.dropLast.contains .rest then none else afterMark? "\x7d" ts
    | .name _ :: _ => do
      let (_, ts) ← afterReference? ts
      match ts with
      | .mark "(" :: .mark ")" :: rest => some rest
      | .mark "(" :: rest => do
        let (found, _, ts) ← items (argumentPattern limit) rest
        if namedComeLast found then afterMark? ")" ts else none
      | ts => if atMark "=" ts then none else some ts
    | ts => afterConstant? limit ts

/-- The pattern of an entry of a dictionary, or a name for all that are left. -/
def keyedPattern : (limit : Nat) → List Token → Option (PatternEntry × Rest)
  | 0, _ => none
  | limit + 1, ts =>
    match afterMark? "**" ts with
    | some rest => (afterCapture? rest).map fun ts => (.rest, ts)
    | none => do
      let ts ← match afterReference? ts with
        | some (isMember, rest) => if isMember then some rest else none
        | none => afterConstant? limit ts
      return (.plain, ← pattern limit (← afterMark? ":" ts))

/-- The pattern of a member of an object, perhaps with its name. -/
def argumentPattern : (limit : Nat) → List Token → Option (PatternEntry × Rest)
  | 0, _ => none
  | limit + 1, ts =>
    match ts with
    | .name _ :: .mark "=" :: rest => (pattern limit rest).map fun ts => (.named, ts)
    | ts => (pattern limit ts).map fun ts => (.plain, ts)

end

end QueryShape.Grammar
