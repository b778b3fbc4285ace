import QueryShape.Json.Basic
import QueryShape.Decimal.Layout
import QueryShape.Letter.Digit
import QueryShape.Literal

/-!
# Reading JSON

`Json.read?` reads a JSON text. Beyond the standard it takes the words `NaN`, `Infinity` and
`-Infinity` for numbers. A control character inside a string is a fault.

Values nest no deeper than the text is long, which bounds the reading.
-/

namespace QueryShape.Json

/-! ## Strings -/

/-- UTF-16 units and characters, as a string is written. -/
inductive Piece
  | char (c : Char)
  | unit (code : Nat)

/-- The characters of the pieces: two units that form a pair are one character, and half a pair
that stands alone is replaced. -/
def joinPieces : List Piece → List Char
  | [] => []
  | .char c :: rest => c :: joinPieces rest
  | .unit high :: .unit low :: rest =>
    if 0xD800 ≤ high ∧ high < 0xDC00 ∧ 0xDC00 ≤ low ∧ low < 0xE000 then
      Char.ofNat (0x10000 + (high - 0xD800) * 0x400 + (low - 0xDC00)) :: joinPieces rest
    else (if 0xD800 ≤ high ∧ high < 0xE000 then '\ufffd' else Char.ofNat high) ::
      joinPieces (.unit low :: rest)
  | .unit code :: rest =>
    (if 0xD800 ≤ code ∧ code < 0xE000 then '\ufffd' else Char.ofNat code) :: joinPieces rest

/-- The pieces of a string from after its opening quote, nearest last, and the text after it. -/
def readString (pieces : List Piece) : List Char → Option (String × List Char)
  | [] => none
  | '"' :: rest => some (.ofList (joinPieces pieces.reverse), rest)
  | '\\' :: 'u' :: a :: b :: c :: d :: rest => do
    let code ← Letter.fourHex? a b c d
    readString (.unit code :: pieces) rest
  | '\\' :: c :: rest => do
    let value ← Literal.escaped? c
    readString (.char value :: pieces) rest
  | c :: rest => if c.toNat < 0x20 then none else readString (.char c :: pieces) rest

/-! ## Numbers -/

/-- The number that digits write. -/
def digitsValue (digits : List Char) : Nat :=
  digits.foldl (fun n c => 10 * n + (c.toNat - 0x30)) 0

/-- The digits of a fraction, after its point. -/
def readFraction : List Char → List Char × List Char
  | '.' :: rest =>
    match rest.span Char.isDigit with
    | ([], _) => ([], '.' :: rest)
    | found => found
  | rest => ([], rest)

/-- The value of an exponent, if there is one. -/
def readExponent (cs : List Char) : Option Int × List Char :=
  match cs with
  | e :: rest =>
    if e = 'e' ∨ e = 'E' then
      let (negative, digits) := match rest with
        | '-' :: more => (true, more)
        | '+' :: more => (false, more)
        | more => (false, more)
      match digits.span Char.isDigit with
      | ([], _) => (none, cs)
      | (found, after) =>
        (some (if negative then -(digitsValue found : Int) else digitsValue found), after)
    else (none, cs)
  | [] => (none, cs)

/-- A number and the text after it. -/
def readNumber (cs : List Char) : Option (Json × List Char) :=
  let (negative, cs) := match cs with
    | '-' :: rest => (true, rest)
    | rest => (false, rest)
  let (whole, rest) := match cs with
    | '0' :: rest => (['0'], rest)
    | _ => cs.span Char.isDigit
  if whole.isEmpty then none
  else
    let (fraction, rest) := readFraction rest
    let (exponent?, rest) := readExponent rest
    if fraction.isEmpty ∧ exponent?.isNone then
      let n : Int := digitsValue whole
      some (.int (if negative then -n else n), rest)
    else
      some (.float (Decimal.floatOfDecimal negative (digitsValue (whole ++ fraction))
        (exponent?.getD 0 - fraction.length)), rest)

/-! ## Values -/

/-- The text without leading blanks. -/
def skipBlanks (cs : List Char) : List Char :=
  cs.dropWhile fun c => c == ' ' || c == '\t' || c == '\n' || c == '\r'

/-- The text after a word that it begins with. -/
def afterWord? (word : String) (cs : List Char) : Option (List Char) :=
  if word.toList.isPrefixOf cs then some (cs.drop word.length) else none

/-- The words that are values. -/
def words : List (String × Json) :=
  [("null", .null), ("true", .bool true), ("false", .bool false), ("NaN", .float (0.0 / 0.0)),
   ("Infinity", .float (1.0 / 0.0)), ("-Infinity", .float (-1.0 / 0.0))]

mutual

/-- A value, with no blanks before it, and the text after it. -/
def readValue : (limit : Nat) → List Char → Option (Json × List Char)
  | 0, _ => none
  | limit + 1, cs =>
    match cs with
    | '"' :: rest => do
      let (text, rest) ← readString [] rest
      return (.string text, rest)
    | '[' :: rest =>
      match skipBlanks rest with
      | ']' :: rest => some (.array [], rest)
      | rest => do
        let (items, rest) ← readItems limit rest
        return (.array items, rest)
    | '\x7b' :: rest =>
      match skipBlanks rest with
      | '\x7d' :: rest => some (.object [], rest)
      | rest => do
        let (fields, rest) ← readFields limit rest
        return (.object (distinctFields fields), rest)
    | _ =>
      match words.findSome? fun (word, json) => (afterWord? word cs).map (json, ·) with
      | some found => some found
      | none => readNumber cs

/-- The items of an array from the first on, and the text after it. -/
def readItems : (limit : Nat) → List Char → Option (List Json × List Char)
  | 0, _ => none
  | limit + 1, cs => do
    let (item, rest) ← readValue limit (skipBlanks cs)
    match skipBlanks rest with
    | ',' :: rest =>
      let (items, rest) ← readItems limit rest
      return (item :: items, rest)
    | ']' :: rest => return ([item], rest)
    | _ => none

/-- The fields of an object from the first on, and the text after it. -/
def readFields : (limit : Nat) → List Char → Option (List (String × Json) × List Char)
  | 0, _ => none
  | limit + 1, cs => do
    match skipBlanks cs with
    | '"' :: rest =>
      let (key, rest) ← readString [] rest
      match skipBlanks rest with
      | ':' :: rest =>
        let (value, rest) ← readValue limit (skipBlanks rest)
        match skipBlanks rest with
        | ',' :: rest =>
          let (fields, rest) ← readFields limit rest
          return ((key, value) :: fields, rest)
        | '\x7d' :: rest => return ([(key, value)], rest)
        | _ => none
      | _ => none
    | _ => none

end

/-- The value that a text is, if it is one. -/
def read? (text : String) : Option Json :=
  let cs := text.toList
  match readValue (cs.length + 2) (skipBlanks cs) with
  | some (json, rest) => if (skipBlanks rest).isEmpty then some json else none
  | none => none

end QueryShape.Json
