import QueryShape.Document.BlockText
import QueryShape.Letter.Digit
import QueryShape.Literal

/-!
# Tokens of a document

`scan` cuts a text into tokens. Spaces, commas, line ends and comments stand between tokens and are
left out. The list ends in `endOfInput`, or in `broken` where the text goes wrong: what comes
before a fault is read first, and a reader meets the fault when it gets there.

The place of a token or a fault is the number of characters that are left from there on.
-/

namespace QueryShape.Document

/-! ## Faults -/

/-- Why a text is not a document. -/
inductive SyntaxFault
  /-- A fault of form, in words, with so many characters left. -/
  | malformed (description : String) (left : Nat)
  /-- The text ends inside an escape of a string. -/
  | cutEscape
  deriving DecidableEq, Repr, Inhabited

/-- The text of a fault. -/
def SyntaxFault.message : SyntaxFault → String
  | .malformed description _ => "Syntax Error: " ++ description
  | .cutEscape => "string index out of range"

/-! ## Tokens -/

/-- A token of a document. -/
inductive Token
  | mark (text : String)
  | name (text : String)
  | int (digits : String)
  | float (digits : String)
  | string (text : String)
  | block (text : String)
  | endOfInput
  | broken (fault : SyntaxFault)
  deriving DecidableEq, Repr, Inhabited

/-- How messages name a token. -/
def Token.described : Token → String
  | .mark text => "'" ++ text ++ "'"
  | .name text => "Name '" ++ text ++ "'"
  | .int digits => "Int '" ++ digits ++ "'"
  | .float digits => "Float '" ++ digits ++ "'"
  | .string text => "String '" ++ text ++ "'"
  | .block text => "BlockString '" ++ text ++ "'"
  | .endOfInput => "<EOF>"
  | .broken fault => fault.message

/-- The text that a token carries. -/
def Token.text? : Token → Option String
  | .name text | .int text | .float text | .string text | .block text => some text
  | .mark _ | .endOfInput | .broken _ => none

/-! ## Characters -/

/-- A letter or the underscore. -/
def startsName (c : Char) : Bool := c.isAlpha || c == '_'

/-- A letter, a digit or the underscore. -/
def continuesName (c : Char) : Bool := c.isAlphanum || c == '_'

/-- The upper-case hexadecimal digits of a number, at least `width` of them. -/
def codeDigits (width n : Nat) : List Char :=
  let digits := (Nat.toDigits 16 n).map Char.toUpper
  List.replicate (width - digits.length) '0' ++ digits

/-- How messages name the next character of a text. -/
def describeNext : List Char → String
  | [] => "<EOF>"
  | c :: _ =>
    if 0x20 ≤ c.toNat ∧ c.toNat ≤ 0x7E then .ofList ['\'', c, '\'']
    else "U+" ++ .ofList (codeDigits 4 c.toNat)

/-! ## Numbers -/

/-- A fault in a number at the text that is left. -/
def badDigit (rest : List Char) : SyntaxFault :=
  .malformed ("Invalid number, expected digit but got: " ++ describeNext rest ++ ".") rest.length

/-- One or more digits, and the text after them. -/
def scanDigits (cs : List Char) : Except SyntaxFault (List Char × List Char) :=
  match cs.span Char.isDigit with
  | ([], rest) => .error (badDigit rest)
  | digits => .ok digits

/-- The whole part of a number: a zero alone, or digits. -/
def scanWhole (cs : List Char) : Except SyntaxFault (List Char × List Char) :=
  match cs with
  | '0' :: rest =>
    if rest.head?.any Char.isDigit then
      .error (.malformed
        ("Invalid number, unexpected digit after 0: " ++ describeNext rest ++ ".") rest.length)
    else .ok (['0'], rest)
  | _ => scanDigits cs

/-- The fraction of a number, with its point, if there is one. -/
def scanFraction (cs : List Char) : Except SyntaxFault (List Char × List Char) :=
  match cs with
  | '.' :: rest => do
    let (digits, rest) ← scanDigits rest
    return ('.' :: digits, rest)
  | _ => .ok ([], cs)

/-- The exponent of a number, with its letter and sign, if there is one. -/
def scanExponent (cs : List Char) : Except SyntaxFault (List Char × List Char) :=
  match cs with
  | e :: rest =>
    if e == 'e' || e == 'E' then do
      let (sign, rest) := match rest with
        | s :: more => if s == '+' || s == '-' then ([s], more) else ([], rest)
        | [] => ([], rest)
      let (digits, rest) ← scanDigits rest
      return (e :: sign ++ digits, rest)
    else .ok ([], cs)
  | [] => .ok ([], cs)

/-- A number: a whole one, or one with a fraction or an exponent. A letter or a point may not
follow it. -/
def scanNumber (cs : List Char) : Except SyntaxFault (Token × List Char) := do
  let (sign, rest) := match cs with
    | '-' :: rest => (['-'], rest)
    | _ => ([], cs)
  let (whole, rest) ← scanWhole rest
  let (fraction, rest) ← scanFraction rest
  let (exponent, rest) ← scanExponent rest
  if rest.head?.any (fun c => c == '.' || startsName c) then throw (badDigit rest)
  let text := String.ofList (sign ++ whole ++ fraction ++ exponent)
  return (if fraction.isEmpty && exponent.isEmpty then .int text else .float text, rest)

/-! ## Strings -/

/-- A Unicode scalar value: a code point that is not half of a pair. -/
def isScalar (n : Nat) : Bool := n < 0xD800 || (0xE000 ≤ n && n ≤ 0x10FFFF)

/-- A fault in an escape, of the given size, that a text begins with. -/
def badEscape (kind : String) (size : Nat) (cs : List Char) : SyntaxFault :=
  let shown := String.ofList (cs.take size)
  .malformed ("Invalid " ++ kind ++ " escape sequence: '" ++ shown ++ "'.") cs.length

/-- The digits between braces of a variable-width escape: `code` is the value of those read,
`size` how many characters the escape has so far. Gives the character's code and the escape's
size, or the size at which it went wrong. -/
def scanBracedCode (code size : Nat) : List Char → Except Nat (Nat × Nat)
  | [] => .error size
  | c :: rest =>
    if 12 ≤ size then .error size
    else if c = '\x7d' then
      if 5 ≤ size + 1 && isScalar code then .ok (code, size + 1) else .error (size + 1)
    else match Letter.hexValue? c with
      | some digit => scanBracedCode (code * 16 + digit) (size + 1) rest
      | none => .error (size + 1)

/-- The value of the four hexadecimal digits that a text begins with. The inner `none` stands for
a character that is no digit. -/
def scanFourDigits : List Char → Except SyntaxFault (Option Nat)
  | a :: b :: c :: d :: _ => .ok (Letter.fourHex? a b c d)
  | _ => .error .cutEscape

/-- The code of an escape of four digits, or of two such escapes that form a pair, and the number
of characters it takes up. `cs` begins at the backslash. -/
def scanFixedCode (cs : List Char) : Except SyntaxFault (Nat × Nat) := do
  let wrong := badEscape "Unicode" 6 cs
  match ← scanFourDigits (cs.drop 2) with
  | none => throw wrong
  | some code =>
    if isScalar code then return (code, 6)
    else if code < 0xDC00 ∧ (cs.drop 6).take 2 = ['\\', 'u'] then
      match ← scanFourDigits (cs.drop 8) with
      | some trail =>
        if 0xDC00 ≤ trail ∧ trail ≤ 0xDFFF then
          return (0x10000 + (code - 0xD800) * 0x400 + (trail - 0xDC00), 12)
        else throw wrong
      | none => throw wrong
    else throw wrong

/-- The character that an escape stands for and the number of characters that the escape takes up.
`cs` begins at the backslash. -/
def scanEscape (cs : List Char) : Except SyntaxFault (Char × Nat) := do
  match cs.drop 1 with
  | [] => throw .cutEscape
  | 'u' :: '\x7b' :: digits =>
    match scanBracedCode 0 3 digits with
    | .ok (code, size) => return (Char.ofNat code, size)
    | .error size => throw (badEscape "Unicode" size cs)
  | 'u' :: _ => do
    let (code, size) ← scanFixedCode cs
    return (Char.ofNat code, size)
  | c :: _ =>
    match Literal.escaped? c with
    | some value => return (value, 2)
    | none => throw (badEscape "character" 2 cs)

/-- The fault of a string that ends without a quote. -/
def unterminated (rest : List Char) : SyntaxFault := .malformed "Unterminated string." rest.length

/-- A string from after its opening quote. The first `skip` characters belong to an escape that
has been read. -/
def scanString (skip : Nat) : List Char → Except SyntaxFault (List Char × List Char)
  | [] => .error (unterminated [])
  | c :: rest =>
    match skip with
    | skip + 1 => scanString skip rest
    | 0 =>
      if c = '"' then .ok ([], rest)
      else if c = '\n' ∨ c = '\r' then .error (unterminated (c :: rest))
      else if c = '\\' then do
        let (value, size) ← scanEscape (c :: rest)
        let (more, rest) ← scanString (size - 1) rest
        return (value :: more, rest)
      else do
        let (more, rest) ← scanString 0 rest
        return (c :: more, rest)

/-- The raw text of a block string from after its opening quotes. -/
def scanBlock : List Char → Except SyntaxFault (List Char × List Char)
  | [] => .error (unterminated [])
  | '"' :: '"' :: '"' :: rest => .ok ([], rest)
  | '\\' :: '"' :: '"' :: '"' :: rest => do
    let (more, rest) ← scanBlock rest
    return ('"' :: '"' :: '"' :: more, rest)
  | c :: rest => do
    let (more, rest) ← scanBlock rest
    return (c :: more, rest)

/-- The text of a block string, its lines freed of indentation. -/
def blockText (raw : List Char) : String :=
  .ofList ((BlockText.dedent (BlockText.lines raw)).intersperse ['\n'] |>.flatten)

/-! ## Tokens of a text -/

/-- The marks of one character. -/
def marks : List Char :=
  ['!', '$', '&', '(', ')', ':', '=', '@', '[', ']', '\x7b', '|', '\x7d']

/-- A character that no token begins with. -/
def strayCharacter (cs : List Char) : SyntaxFault :=
  let words := if cs.head? = some '\'' then
      "Unexpected single quote character ('), did you mean to use a double quote (\")?"
    else "Unexpected character: " ++ describeNext cs ++ "."
  .malformed words cs.length

/-- The token that a text begins with, and the text after it. -/
def scanToken (cs : List Char) : Except SyntaxFault (Token × List Char) :=
  match cs with
  | '"' :: '"' :: '"' :: rest => do
    let (raw, rest) ← scanBlock rest
    return (.block (blockText raw), rest)
  | '"' :: rest => do
    let (text, rest) ← scanString 0 rest
    return (.string (.ofList text), rest)
  | '.' :: '.' :: '.' :: rest => .ok (.mark "...", rest)
  | c :: rest =>
    if c ∈ marks then .ok (.mark (.singleton c), rest)
    else if c.isDigit || c == '-' then scanNumber cs
    else if startsName c then
      .ok (.name (.ofList (cs.takeWhile continuesName)), cs.dropWhile continuesName)
    else .error (strayCharacter cs)
  | [] => .ok (.endOfInput, [])

/-- A character that stands between tokens. -/
def isIgnored (c : Char) : Bool :=
  c == ' ' || c == '\t' || c == ',' || c == '\n' || c == '\r' || c == '\ufeff'

/-- The text from its next token on: without leading blanks and comments. -/
def skipIgnored : Bool → List Char → List Char
  | _, [] => []
  | true, c :: rest => skipIgnored (c != '\n' && c != '\r') rest
  | false, c :: rest =>
    if isIgnored c then skipIgnored false rest
    else if c = '#' then skipIgnored true rest
    else c :: rest

/-- A token where it stands. -/
structure Lexeme where
  token : Token
  /-- The number of characters from its first one on. -/
  left : Nat
  deriving DecidableEq, Repr, Inhabited

/-- The tokens of a text, of which at most `limit` are read. -/
def scanFrom : (limit : Nat) → List Char → List Lexeme
  | 0, cs => [⟨.endOfInput, cs.length⟩]
  | limit + 1, cs =>
    match skipIgnored false cs with
    | [] => [⟨.endOfInput, 0⟩]
    | c :: rest =>
      match scanToken (c :: rest) with
      | .ok (token, after) => ⟨token, rest.length + 1⟩ :: scanFrom limit after
      | .error fault => [⟨.broken fault, rest.length + 1⟩]

/-- The tokens of a text. Each takes up a character at least, so the text's length is limit
enough. -/
def scan (text : String) : List Lexeme :=
  let cs := text.toList
  scanFrom (cs.length + 1) cs

end QueryShape.Document
