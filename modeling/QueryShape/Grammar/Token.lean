import QueryShape.Letter.Digit
import QueryShape.Letter.Identifier
import QueryShape.Naming
import QueryShape.Text.LineEnds

/-!
# Tokens of generated code

`tokens?` cuts a text into tokens, if it can be cut. Lines end in a token of their own unless a
bracket is open, and a block that is further in begins and ends with one.

What can go wrong: a character that begins no token, a string that does not end or holds a broken
escape, a number that runs into a name, brackets that do not match, and indentation that fits no
block around.
-/

namespace QueryShape.Grammar

/-- A token of generated code. -/
inductive Token
  | name (text : String)
  | keyword (text : String)
  | number
  /-- A string, of characters or of bytes. -/
  | string (ofBytes : Bool)
  /-- A formatted string, whose inside may be raw. -/
  | formatted (inside : String) (isRaw : Bool)
  | mark (text : String)
  | lineEnd
  | blockStart
  | blockEnd
  deriving DecidableEq, Repr

/-! ## Strings -/

/-- The words that may stand before the quote of a string. -/
def stringMarks : List String := ["r", "u", "b", "f", "br", "rb", "fr", "rf"]

/-- So many characters are hexadecimal digits, and the text after them. -/
def hexDigits? (width : Nat) (cs : List Char) : Option (List Char × List Char) :=
  if cs.length < width || !(cs.take width).all (fun c => (Letter.hexValue? c).isSome) then none
  else some (cs.take width, cs.drop width)

/-- The number that hexadecimal digits write. -/
def hexValue (cs : List Char) : Nat :=
  cs.foldl (fun n c => 16 * n + (Letter.hexValue? c).getD 0) 0

/-- The escapes in the inside of a string are whole, and bytes are ASCII. -/
def escapesFit (ofBytes : Bool) : List Char → Bool
  | [] => true
  | '\\' :: c :: rest =>
    let fits (width : Nat) : Bool :=
      match hexDigits? width rest with
      | some (digits, _) => hexValue digits < 0x110000
      | none => false
    escapesFit ofBytes rest &&
      if c = 'x' then fits 2
      else if ofBytes then c.toNat < 0x80
      else if c = 'u' then fits 4
      else if c = 'U' then fits 8
      else if c = 'N' then
        rest.head? == some '\x7b' && (rest.drop 1).head? != some '\x7d' && rest.contains '\x7d'
      else true
  | c :: rest => (!ofBytes || c.toNat < 0x80) && escapesFit ofBytes rest

/-- The inside of a string up to its closing quotes, and the text after them. -/
def takeString (quote : Char) (long : Bool) (inside : List Char) :
    List Char → Option (List Char × List Char)
  | [] => none
  | '\\' :: c :: rest => takeString quote long (c :: '\\' :: inside) rest
  | c :: rest =>
    if c = quote then
      if !long then some (inside.reverse, rest)
      else if rest.take 2 = [quote, quote] then some (inside.reverse, rest.drop 2)
      else takeString quote long (c :: inside) rest
    else if c = '\n' ∧ !long then none
    else takeString quote long (c :: inside) rest

/-- A string after the word before its quote, and the text after it. -/
def string? (before : String) (quote : Char) (rest : List Char) : Option (Token × List Char) := do
  let long := rest.take 2 = [quote, quote]
  let (inside, rest) ← takeString quote long [] (if long then rest.drop 2 else rest)
  let ofBytes := before.contains 'b'
  let isRaw := before.contains 'r'
  let fits := if isRaw then !ofBytes || inside.all (·.toNat < 0x80) else escapesFit ofBytes inside
  if !fits then none
  else if before.contains 'f' then some (.formatted (.ofList inside) isRaw, rest)
  else some (.string ofBytes, rest)

/-! ## Numbers -/

/-- Digits with single underscores between them, at least one, and the text after them. -/
def takeDigits (isDigit : Char → Bool) : List Char → Option (List Char × List Char)
  | c :: '_' :: rest => do
    if !isDigit c then none
    let (digits, rest) ← takeDigits isDigit rest
    return (c :: digits, rest)
  | c :: rest =>
    if !isDigit c then none
    else
      match takeDigits isDigit rest with
      | some (digits, after) => some (c :: digits, after)
      | none =>
        -- a digit or underscore that cannot go on here is a fault
        if rest.head?.any fun d => isDigit d || d == '_' then none else some ([c], rest)
  | [] => none

/-- The words that may follow a number at once. -/
def wordsAfterNumbers : List String := ["and", "else", "for", "if", "in", "is", "not", "or"]

/-- The text after a number goes on with something that can follow it. -/
def endsNumber (rest : List Char) : Bool :=
  wordsAfterNumbers.any (fun w => w.toList.isPrefixOf rest) ||
    !rest.head?.any fun c => c.isAlphanum || c == '_'

/-- The text after an exponent, if there is one. -/
def afterExponent? : List Char → Option (List Char)
  | e :: rest =>
    if e = 'e' ∨ e = 'E' then
      match rest with
      | c :: after =>
        if c = '+' ∨ c = '-' then (takeDigits Char.isDigit after).map (·.2)
        else if c.isDigit then (takeDigits Char.isDigit rest).map (·.2)
        else some (e :: rest)
      | [] => some [e]
    else some (e :: rest)
  | [] => some []

/-- The text after a fraction, if there is one. -/
def afterFraction? : List Char → Option (List Char)
  | '.' :: c :: rest =>
    if c.isDigit then (takeDigits Char.isDigit (c :: rest)).map (·.2) else some (c :: rest)
  | '.' :: [] => some []
  | rest => some rest

/-- The text after a number. -/
def afterNumber? (cs : List Char) : Option (List Char) := do
  let based (isDigit : Char → Bool) (rest : List Char) : Option (List Char) :=
    (takeDigits isDigit (if rest.head? = some '_' then rest.drop 1 else rest)).map (·.2)
  let rest ← match cs with
    | '0' :: x :: rest =>
      if x = 'x' ∨ x = 'X' then based (fun c => (Letter.hexValue? c).isSome) rest
      else if x = 'o' ∨ x = 'O' then based (fun c => '0' ≤ c && c ≤ '7') rest
      else if x = 'b' ∨ x = 'B' then based (fun c => c == '0' || c == '1') rest
      else decimal cs
    | _ => decimal cs
  if endsNumber rest then some rest else none
where
  /-- The text after a number in base ten. A whole number has no zero in front of other digits. -/
  decimal (cs : List Char) : Option (List Char) := do
    let (digits, rest) ← if cs.head? = some '.' then some ([], cs) else takeDigits Char.isDigit cs
    let after ← afterExponent? (← afterFraction? rest)
    let imaginary := after.head?.any fun c => c == 'j' || c == 'J'
    let isWhole := after.length = rest.length && !imaginary
    if isWhole && digits.head? = some '0' && digits.any (· ≠ '0') then none
    return if imaginary then after.drop 1 else after

/-! ## Marks -/

/-- The marks of more than one character, longest first. -/
def longMarks : List String :=
  ["**=", "//=", ">>=", "<<=", "...", "==", "!=", "<=", ">=", "->", ":=", "+=", "-=", "*=", "/=",
   "%=", "&=", "|=", "^=", "@=", "**", "//", "<<", ">>"]

/-- The marks of one character. -/
def shortMarks : List Char := "+-*/%&|^~<>()[]\x7b\x7d,:.;@=".toList

/-- The mark that a text begins with, and the text after it. -/
def mark? (cs : List Char) : Option (String × List Char) :=
  match longMarks.find? fun m => m.toList.isPrefixOf cs with
  | some m => some (m, cs.drop m.length)
  | none =>
    match cs with
    | c :: rest => if shortMarks.contains c then some (.singleton c, rest) else none
    | [] => none

/-- The bracket that closes the one that a mark opens. -/
def closing? (text : String) : Option String :=
  [("(", ")"), ("[", "]"), ("\x7b", "\x7d")].lookup text

/-- The mark closes a bracket. -/
def isClosing (text : String) : Bool := [")", "]", "\x7d"].contains text

/-! ## Lines -/

/-- How deep brackets may nest. -/
def bracketLimit : Nat := 200

/-- How deep blocks may nest. -/
def blockLimit : Nat := 100

/-- How far in a line begins: with tabs going on to the next multiple of eight, and with tabs as one
column. -/
structure Indent where
  wide : Nat := 0
  narrow : Nat := 0
  deriving DecidableEq

/-- How far in a line begins, and the text after that. Where lines are joined before their text
begins, the first that begins further in than nothing counts, with all of its tabs. -/
def takeIndent (joined : Nat) (i : Indent) : List Char → Option (Indent × List Char)
  | ' ' :: rest => takeIndent joined ⟨i.wide + 1, i.narrow + 1⟩ rest
  | '\t' :: rest => takeIndent joined ⟨(i.wide / 8 + 1) * 8, i.narrow + 1⟩ rest
  | '\x0c' :: rest => takeIndent joined {} rest
  | '\\' :: '\n' :: c :: rest => takeIndent (if joined = 0 then i.wide else joined) i (c :: rest)
  | '\\' :: _ => none
  | rest => some (if joined = 0 then i else ⟨joined, joined⟩, rest)

/-- The ends of the blocks around that a line further out ends, and the blocks that are left. -/
def leaveBlocks? (i : Indent) : List Indent → Option (List Token × List Indent)
  | [] => if i = {} then some ([], []) else none
  | block :: rest =>
    if i.wide = block.wide then
      if i.narrow = block.narrow then some ([], block :: rest) else none
    else if i.wide < block.wide then do
      let (ends, left) ← leaveBlocks? i rest
      return (.blockEnd :: ends, left)
    else none

/-- The tokens before a line that begins so far in, and the blocks around it. -/
def enterLine? (i : Indent) (blocks : List Indent) : Option (List Token × List Indent) :=
  let last := blocks.head?.getD {}
  if last.wide < i.wide then
    if last.narrow < i.narrow ∧ blocks.length + 1 < blockLimit then
      some ([.blockStart], i :: blocks)
    else none
  else leaveBlocks? i blocks

/-- The state of cutting. -/
structure State where
  /-- The blocks around, innermost first. -/
  blocks : List Indent := []
  /-- The marks that close the brackets that are open, innermost first. -/
  brackets : List String := []
  /-- The next character begins a line. -/
  atStart : Bool := true

/-- The text after a comment. -/
def dropComment (cs : List Char) : List Char :=
  if cs.head? = some '#' then cs.dropWhile (· ≠ '\n') else cs

/-- A name or keyword. -/
def word (text : String) : Token :=
  if text ∈ Naming.keywords then .keyword text else .name text

/-- The token that a text begins with, apart from marks, and the text after it. -/
def wordOrNumber? (cs : List Char) : Option (Token × List Char) := do
  let c ← cs.head?
  if c.isDigit || (c == '.' && (cs.drop 1).head?.any Char.isDigit) then
    return (.number, ← afterNumber? cs)
  if c = '"' ∨ c = '\'' then string? "" c (cs.drop 1)
  else
    let inName (d : Char) : Bool := d.isAlphanum || d == '_' || 0x80 ≤ d.toNat
    let name := cs.takeWhile inName
    let rest := cs.dropWhile inName
    let text := String.ofList name
    match rest with
    | quote :: after =>
      if (quote = '"' ∨ quote = '\'') ∧ text.toLower ∈ stringMarks then
        string? text.toLower quote after
      else if Letter.isIdentifier text then some (word text, rest) else none
    | [] => if Letter.isIdentifier text then some (word text, rest) else none

/-- The tokens of a text. Each step takes a character at least, a line or the end. -/
def scan : (limit : Nat) → State → List Char → Option (List Token)
  | 0, _, _ => none
  | limit + 1, s, cs =>
    if s.atStart then do
      let (i, rest) ← takeIndent 0 {} cs
      match dropComment rest with
      | [] => some (s.blocks.map fun _ => .blockEnd)
      | '\n' :: rest => scan limit s rest
      | rest => do
        let (tokens, blocks) ← enterLine? i s.blocks
        return tokens ++ (← scan limit { s with blocks, atStart := false } rest)
    else
      match dropComment (cs.dropWhile fun c => c == ' ' || c == '\t' || c == '\x0c') with
      | [] =>
        if s.brackets.isEmpty then some (.lineEnd :: s.blocks.map fun _ => .blockEnd) else none
      | '\n' :: rest =>
        if s.brackets.isEmpty then do
          return .lineEnd :: (← scan limit { s with atStart := true } rest)
        else scan limit s rest
      | '\\' :: rest =>
        match rest with
        | '\n' :: rest => if rest.isEmpty then none else scan limit s rest
        | _ => none
      | cs =>
        match wordOrNumber? cs with
        | some (token, rest) => do return token :: (← scan limit s rest)
        | none => do
          let (text, rest) ← mark? cs
          match closing? text with
          | some close =>
            if bracketLimit ≤ s.brackets.length then none
            return .mark text :: (← scan limit { s with brackets := close :: s.brackets } rest)
          | none =>
            if isClosing text then
              match s.brackets with
              | close :: left =>
                if close ≠ text then none
                return .mark text :: (← scan limit { s with brackets := left } rest)
              | [] => none
            else return .mark text :: (← scan limit s rest)

/-- The tokens of a text, if it can be cut into tokens. -/
def tokens? (text : List Char) : Option (List Token) :=
  let cs := Text.unifyLineEnds text
  if cs.contains '\x00' then none else scan (2 * cs.length + 2) {} cs

end QueryShape.Grammar
