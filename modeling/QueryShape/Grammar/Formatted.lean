/-!
# Formatted strings

The inside of a formatted string holds values in braces: an expression each, which an equals sign, a
conversion and a format may follow. A format can hold values in turn, but theirs cannot. Two braces
together stand for one of the text.

`expressionsIn?` gives the texts of the expressions, if the braces and what stands in them fit.
-/

namespace QueryShape.Grammar.Formatted

/-- The bracket that closes another. -/
def closing? (c : Char) : Option Char :=
  [('(', ')'), ('[', ']'), ('\x7b', '\x7d')].lookup c

/-- A bracket that closes one. -/
def isClosing (c : Char) : Bool := [')', ']', '\x7d'].contains c

/-- A character that says nothing in an expression. -/
def isBlank (c : Char) : Bool := c == ' ' || ('\t' ≤ c && c ≤ '\r')

/-- The text after the equals sign, the conversion and the blanks between an expression and its
format or its end. -/
def afterConversion? (cs : List Char) : Option (List Char) :=
  let cs := if cs.head? = some '=' then (cs.drop 1).dropWhile isBlank else cs
  match cs with
  | '!' :: c :: rest => if ['s', 'r', 'a'].contains c then some rest else none
  | '!' :: [] => none
  | cs => some cs

/-- Where an expression is being read: the quotes of the string it is in, the brackets that are
open, and what has been read, last first. -/
structure Reading where
  quotes : List Char := []
  brackets : List Char := []
  read : List Char := []

/-- The expression goes on with characters. -/
def Reading.taking (r : Reading) (cs : List Char) : Reading :=
  { r with read := cs.reverse ++ r.read }

/-- The reading of an expression after its next character, with what follows that. The expression
ends where there is none. -/
def Reading.next? (r : Reading) (c : Char) (rest : List Char) : Option (Reading × List Char) :=
  match r.quotes with
  | q :: more =>
    if c = q ∧ rest.take more.length = more then
      some ({ r with quotes := [] }.taking (q :: more), rest.drop more.length)
    else some (r.taking [c], rest)
  | [] =>
    if c = '\'' ∨ c = '"' then
      if rest.take 2 = [c, c] then
        some ({ r with quotes := [c, c, c] }.taking [c, c, c], rest.drop 2)
      else some ({ r with quotes := [c] }.taking [c], rest)
    else
      match closing? c with
      | some close => some ({ r with brackets := close :: r.brackets }.taking [c], rest)
      | none =>
        if r.brackets.isEmpty && ['!', '=', '<', '>'].contains c && rest.head? = some '=' then
          some (r.taking [c, '='], rest.drop 1)
        else if r.brackets.head? = some c then
          some ({ r with brackets := r.brackets.drop 1 }.taking [c], rest)
        else if r.brackets.isEmpty && ['!', ':', '=', '\x7d'].contains c then none
        else some (r.taking [c], rest)

/-- The character can stand in an expression where it is. -/
def Reading.admits (r : Reading) (c : Char) : Bool :=
  c != '\\' && (!r.quotes.isEmpty || c != '#') &&
    (!r.quotes.isEmpty || !isClosing c || r.brackets.head? == some c ||
      (r.brackets.isEmpty && c == '\x7d'))

mutual

/-- The expressions in a text inside so many formats. -/
def inText (isRaw : Bool) : (limit : Nat) → (level : Nat) → List Char → Option (List (List Char))
  | 0, _, _ => none
  | limit + 1, level, cs =>
    match cs with
    | [] => if level = 0 then some [] else none
    | '\\' :: 'N' :: '\x7b' :: rest =>
      if isRaw then inText isRaw limit level ('\x7b' :: rest)
      else inText isRaw limit level ((rest.dropWhile (· ≠ '\x7d')).drop 1)
    | '\\' :: c :: rest =>
      if isRaw || c == '\x7b' || c == '\x7d' then inText isRaw limit level (c :: rest)
      else inText isRaw limit level rest
    | '\x7b' :: rest =>
      if level = 0 ∧ rest.head? = some '\x7b' then inText isRaw limit level (rest.drop 1)
      else if 2 ≤ level then none
      else inValue isRaw limit level {} rest
    | '\x7d' :: rest =>
      match level with
      | 0 => if rest.head? = some '\x7d' then inText isRaw limit 0 (rest.drop 1) else none
      | level + 1 => inText isRaw limit level rest
    | _ :: rest => inText isRaw limit level rest

/-- The expressions in a value and in the text after it. -/
def inValue (isRaw : Bool) : (limit : Nat) → (level : Nat) → Reading → List Char →
    Option (List (List Char))
  | 0, _, _, _ => none
  | _, _, _, [] => none
  | limit + 1, level, r, c :: rest =>
    if !r.admits c then none
    else
      match r.next? c rest with
      | some (r, rest) => inValue isRaw limit level r rest
      | none => do
        if r.read.all isBlank then none
        let others ← match ← afterConversion? (c :: rest) with
          | ':' :: rest => inText isRaw limit (level + 1) rest
          | '\x7d' :: rest => inText isRaw limit level rest
          | _ => none
        return r.read.reverse :: others

end

/-- The texts of the expressions in the inside of a formatted string. -/
def expressionsIn? (isRaw : Bool) (inside : List Char) : Option (List (List Char)) :=
  inText isRaw (2 * inside.length + 2) 0 inside

end QueryShape.Grammar.Formatted
