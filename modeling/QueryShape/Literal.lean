import QueryShape.Letter.Printable

/-!
# String literals

Three written forms of a text:

* `double`: in double quotes, with a backslash escape for a quote, a backslash and a control;
  `ascii` also escapes all that is not printable ASCII, as UTF-16 units.
* `text`: the form in generated code. A text of several lines that needs no escape stands between
  triple quotes; any other is `double`.
* `shown`: the form in messages, in single quotes unless the text holds one and no double quote.
-/

namespace QueryShape.Literal

/-! ## Hexadecimal escapes -/

/-- The lower-case hexadecimal digit of a number below sixteen. -/
def hexDigit (n : Nat) : Char :=
  if n < 10 then Char.ofNat (0x30 + n) else Char.ofNat (0x61 + n - 10)

/-- The last `width` hexadecimal digits of a number. -/
def hex : Nat → Nat → List Char
  | 0, _ => []
  | width + 1, n => hex width (n / 16) ++ [hexDigit (n % 16)]

/-- A backslash escape: its letter and the digits of the code. -/
def escape (letter : Char) (width code : Nat) : List Char :=
  '\\' :: letter :: hex width code

/-- The escapes of a code point as UTF-16 units: one, or a surrogate pair. -/
def escapeUnits (code : Nat) : List Char :=
  if code < 0x10000 then escape 'u' 4 code
  else escape 'u' 4 (0xD800 + (code - 0x10000) / 0x400) ++
    escape 'u' 4 (0xDC00 + (code - 0x10000) % 0x400)

/-! ## Double quotes -/

/-- One character between double quotes; `keep` says which others stand for themselves. -/
def doubleChar (keep : Char → Bool) (c : Char) : List Char :=
  if c = '"' then ['\\', '"']
  else if c = '\\' then ['\\', '\\']
  else if c = '\n' then ['\\', 'n']
  else if c = '\r' then ['\\', 'r']
  else if c = '\t' then ['\\', 't']
  else if c = '\x08' then ['\\', 'b']
  else if c = '\x0c' then ['\\', 'f']
  else if c.toNat < 0x20 || !keep c then escapeUnits c.toNat
  else [c]

/-- The character that a one-letter escape between double quotes stands for. -/
def escaped? (c : Char) : Option Char :=
  if c = '"' ∨ c = '\\' ∨ c = '/' then some c
  else if c = 'b' then some '\x08'
  else if c = 'f' then some '\x0c'
  else if c = 'n' then some '\n'
  else if c = 'r' then some '\r'
  else if c = 't' then some '\t'
  else none

/-- The characters of a text between double quotes. -/
def doubleChars (keep : Char → Bool) (cs : List Char) : List Char :=
  '"' :: (cs.flatMap (doubleChar keep) ++ ['"'])

/-- A text in double quotes. -/
def double (text : String) : String :=
  .ofList (doubleChars (fun _ => true) text.toList)

/-- A text in double quotes, in printable ASCII alone. -/
def ascii (text : String) : String :=
  .ofList (doubleChars (·.toNat < 0x7F) text.toList)

/-! ## Generated code -/

/-- The list holds three double quotes in a row. -/
def hasTripleQuote : List Char → Bool
  | [] => false
  | '"' :: '"' :: '"' :: _ => true
  | _ :: rest => hasTripleQuote rest

/-- A text of several lines that can stand between triple quotes as it is. -/
def standsInTripleQuotes (cs : List Char) : Bool :=
  cs.contains '\n' && !hasTripleQuote cs && !cs.contains '\\' && cs.getLast? != some '"' &&
    cs.all fun c => Letter.isPrintable c || c == '\n'

/-- A text as a literal of generated code, over its characters. -/
def textChars (cs : List Char) : List Char :=
  if standsInTripleQuotes cs then ['"', '"', '"'] ++ cs ++ ['"', '"', '"']
  else doubleChars (fun _ => true) cs

/-- A text as a literal of generated code. -/
def text (s : String) : String :=
  .ofList (textChars s.toList)

/-! ## Messages -/

/-- One character of a shown text, inside the given quote. -/
def shownChar (quote : Char) (c : Char) : List Char :=
  if c = quote || c = '\\' then ['\\', c]
  else if c = '\n' then ['\\', 'n']
  else if c = '\r' then ['\\', 'r']
  else if c = '\t' then ['\\', 't']
  else if Letter.isPrintable c then [c]
  else if c.toNat < 0x100 then escape 'x' 2 c.toNat
  else if c.toNat < 0x10000 then escape 'u' 4 c.toNat
  else escape 'U' 8 c.toNat

/-- A text as messages show it. -/
def shown (s : String) : String :=
  let cs := s.toList
  let quote := if cs.contains '\'' && !cs.contains '"' then '"' else '\''
  .ofList (quote :: (cs.flatMap (shownChar quote) ++ [quote]))

end QueryShape.Literal
