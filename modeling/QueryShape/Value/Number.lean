import QueryShape.Decimal.Layout
import QueryShape.Letter.Digit
import QueryShape.Value.Basic

/-!
# Numbers of values

`toInt` and `toFloat` make a number of a value: of a number, a truth value or a text that writes
one. A text may have blanks around the number and single underscores between its digits, and its
digits may be of any script.
-/

namespace QueryShape.Value

/-! ## Texts that write numbers -/

/-- A blank that may stand around a number. The separators among the controls are none. -/
def isMargin (c : Char) : Bool := Letter.isBlank c && !('\x1c' ≤ c && c ≤ '\x1f')

/-- A text with the digits of all scripts as ASCII digits and without blanks around it. -/
def plainNumber (text : String) : List Char :=
  let plain := text.toList.map fun c =>
    match Letter.digit? c with
    | some d => Char.ofNat (0x30 + d)
    | none => c
  ((plain.dropWhile isMargin).reverse.dropWhile isMargin).reverse

/-- A sign, true for minus, and the text after it. -/
def takeSign : List Char → Bool × List Char
  | '-' :: rest => (true, rest)
  | '+' :: rest => (false, rest)
  | rest => (false, rest)

/-- The text without underscores, if each stands between two digits that `isDigit` admits. -/
def dropUnderscores? (isDigit : Char → Bool) : List Char → Option (List Char)
  | a :: '_' :: b :: rest =>
    if isDigit a && isDigit b then (dropUnderscores? isDigit (b :: rest)).map (a :: ·) else none
  | a :: rest => if a = '_' then none else (dropUnderscores? isDigit rest).map (a :: ·)
  | [] => some []

/-- The number that digits write in a base of at most sixteen. -/
def natOfDigits? (base : Nat) (cs : List Char) : Option Nat :=
  if cs.isEmpty then none
  else cs.foldl (fun n? c => do
    let n ← n?
    let d ← Letter.hexValue? c
    if d < base then some (base * n + d) else none) (some 0)

/-- The number of digits above which a text writes no integer. -/
def integerDigits : Nat := 4300

/-- The integer that a text writes in decimal digits. -/
def integerOfText? (text : String) : Option Int := do
  let (negative, rest) := takeSign (plainNumber text)
  let digits ← dropUnderscores? Char.isDigit rest
  let n ← natOfDigits? 10 digits
  if integerDigits < digits.length then none
  return if negative then -(n : Int) else n

/-- The letters in lower case, for the words that stand for numbers. -/
def lowerWord (cs : List Char) : String := .ofList (cs.map Char.toLower)

/-- An exponent that is the whole text, if there is any text. -/
def exponent? : List Char → Option Int
  | [] => some 0
  | e :: rest =>
    if e = 'e' ∨ e = 'E' then
      let (negative, digits) := takeSign rest
      (natOfDigits? 10 digits).map fun n => if negative then -(n : Int) else n
    else none

/-- The floating-point number that a text writes. -/
def floatOfText? (text : String) : Option Float := do
  let (negative, rest) := takeSign (plainNumber text)
  let word := lowerWord rest
  if word = "inf" ∨ word = "infinity" then return if negative then -1.0 / 0.0 else 1.0 / 0.0
  if word = "nan" then return 0.0 / 0.0
  let rest ← dropUnderscores? Char.isDigit rest
  let (whole, rest) := rest.span Char.isDigit
  let (fraction, rest) := match rest with
    | '.' :: rest => rest.span Char.isDigit
    | rest => ([], rest)
  let digits ← natOfDigits? 10 (whole ++ fraction)
  return Decimal.floatOfDecimal negative digits ((← exponent? rest) - fraction.length)

/-! ## Numbers -/

/-- The integer part of a finite floating-point number. -/
def integerPart (x : Float) : Int :=
  let (m, q) := Decimal.decode x
  let a : Nat := if 0 ≤ q then m * Nat.pow 2 q.toNat else m / Nat.pow 2 (-q).toNat
  if Decimal.isNegative x then -(a : Int) else a

/-- A value as an integer. -/
def toInt : Value → Except Fault Int
  | .bool value => .ok (if value then 1 else 0)
  | .int value => .ok value
  | .float value =>
    if value.isNaN then .error .wrongValue
    else if value.isInf then .error .overflow
    else .ok (integerPart value)
  | .text value | .enumMember _ _ value =>
    match integerOfText? value with
    | some n => .ok n
    | none => .error .wrongValue
  | _ => .error .wrongType

/-- A value as a floating-point number. -/
def toFloat : Value → Except Fault Float
  | .bool value => .ok (if value then 1.0 else 0.0)
  | .int value =>
    let x := Decimal.floatOfDecimal (value < 0) value.natAbs 0
    if x.isInf then .error .overflow else .ok x
  | .float value => .ok value
  | .text value | .enumMember _ _ value =>
    match floatOfText? value with
    | some x => .ok x
    | none => .error .wrongValue
  | _ => .error .wrongType

end QueryShape.Value
