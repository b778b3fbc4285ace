import QueryShape.Letter.Casing

/-!
# Suggestions

What a reader may have meant by a name that is not there: the names within a few edits of it,
nearest first, and those equally near in natural order, in which runs of digits count as numbers.

An edit inserts, deletes or replaces a character or swaps two neighbours. A difference in case
alone counts as one edit.
-/

namespace QueryShape.Validation

/-! ## Distance -/

/-- The next row of the table of distances: `row` and `above` are the two rows before it, `a` and
`before?` the characters of the rows, `b` the characters of the columns. -/
def nextRow (a : Char) (before? : Option Char) (start : Nat) :
    (b : List Char) → (row above : List Nat) → (previous? : Option Char) → List Nat
  | b :: bs, diagonal :: up :: row, above, previous? =>
    let plain := min (min (up + 1) (start + 1)) (diagonal + if a = b then 0 else 1)
    let swapped := match before?, previous?, above with
      | some a', some b', corner :: _ :: _ => if a = b' ∧ a' = b then corner + 1 else plain
      | _, _, _ => plain
    let cell := min plain swapped
    let above := if previous?.isSome then above.drop 1 else above
    cell :: nextRow a before? cell bs (up :: row) above (some b)
  | _, _, _, _ => []

/-- The last row of the table of distances. -/
def lastRow (b : List Char) :
    (a : List Char) → (index : Nat) → (before? : Option Char) → (row above : List Nat) → List Nat
  | [], _, _, row, _ => row
  | c :: rest, index, before?, row, above =>
    let next := (index + 1) :: nextRow c before? (index + 1) b row above none
    lastRow b rest (index + 1) (some c) next row

/-- The least number of edits between two texts. -/
def editDistance (a b : List Char) : Nat :=
  (lastRow b a 0 none (List.range (b.length + 1)) []).getLast?.getD 0

/-- The distance of an option from the name that was written, if it is near enough. -/
def distanceWithin (threshold : Nat) (written option : String) : Option Nat :=
  let a := Letter.lower written.toList
  let b := Letter.lower option.toList
  if written = option then some 0
  else if a = b then some 1
  else
    let d := editDistance b a
    if d ≤ threshold then some d else none

/-! ## Natural order -/

/-- A part of a name: characters, or the number that digits write. -/
inductive NaturalPart
  | text (cs : List Char)
  | number (n : Nat) (digits : List Char)
  deriving DecidableEq

/-- The parts of a name, of which `digits` and `text` are being read. -/
def naturalParts (text digits : List Char) : List Char → List NaturalPart
  | [] =>
    if digits.isEmpty then [.text text.reverse]
    else [.number (digits.reverse.foldl (fun n c => 10 * n + (c.toNat - 0x30)) 0) digits.reverse,
      .text []]
  | c :: rest =>
    if c.isDigit then
      if digits.isEmpty then .text text.reverse :: naturalParts [] [c] rest
      else naturalParts [] (c :: digits) rest
    else if digits.isEmpty then naturalParts (c :: text) [] rest
    else
      .number (digits.reverse.foldl (fun n c => 10 * n + (c.toNat - 0x30)) 0) digits.reverse ::
        naturalParts [c] [] rest

/-- The order of parts. -/
def NaturalPart.compare : NaturalPart → NaturalPart → Ordering
  | .text a, .text b => Ord.compare (String.ofList a) (String.ofList b)
  | .number a x, .number b y =>
    (Ord.compare a b).then (Ord.compare (String.ofList x) (String.ofList y))
  | .text _, .number .. => .lt
  | .number .., .text _ => .gt

/-- The order of lists of parts. -/
def compareParts : List NaturalPart → List NaturalPart → Ordering
  | [], [] => .eq
  | [], _ :: _ => .lt
  | _ :: _, [] => .gt
  | a :: as, b :: bs => (a.compare b).then (compareParts as bs)

/-- The natural order of names. -/
def naturalCompare (a b : String) : Ordering :=
  compareParts (naturalParts [] [] a.toList) (naturalParts [] [] b.toList)

/-! ## Suggestions -/

/-- How many edits a name of a length may be away from what was meant. -/
def nearness (length : Nat) : Nat := 2 * length / 5 + 1

/-- The options that may have been meant by a name. -/
def suggestions (written : String) (options : List String) : List String :=
  let near := options.eraseDups.filterMap fun o =>
    (distanceWithin (nearness written.length) written o).map (·, o)
  (near.mergeSort fun a b =>
    ((Ord.compare a.1 b.1).then (naturalCompare a.2 b.2)).isLE).map (·.2)

/-- How many suggestions are made at most. -/
def mostSuggestions : Nat := 5

/-- Names in quotes, the last after an "or". -/
def orList : List String → String
  | [] => ""
  | [a] => "'" ++ a ++ "'"
  | [a, b] => "'" ++ a ++ "' or '" ++ b ++ "'"
  | names =>
    ", ".intercalate (names.dropLast.map fun n => "'" ++ n ++ "'") ++ ", or '" ++
      names.getLast?.getD "" ++ "'"

/-- The question whether one of the suggestions was meant, after a message. -/
def didYouMean (names : List String) (what : String := "") : String :=
  if names.isEmpty then ""
  else " Did you mean " ++ (if what.isEmpty then "" else what ++ " ") ++
    orList (names.take mostSuggestions) ++ "?"

end QueryShape.Validation
