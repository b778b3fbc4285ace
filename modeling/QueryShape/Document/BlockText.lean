/-!
# Block strings

A block string is written over several lines between triple quotes. Its text leaves out the
indentation that all lines but the first share, and the blank lines at both ends (`dedent`).
`blockText` writes a text in that form: on one line if it is short and has no trouble at its end.
-/

namespace QueryShape.Document.BlockText

/-- Indentation of a block string is made of spaces and tabs. -/
def isBlank (c : Char) : Bool := c == ' ' || c == '\t'

/-- The line holds nothing but indentation. -/
def blankLine (line : List Char) : Bool := line.all isBlank

/-- The width of a line's indentation. -/
def indentation (line : List Char) : Nat := (line.takeWhile isBlank).length

/-- The indentation that all lines of text share, if there are any. -/
def commonIndentation (lines : List (List Char)) : Option Nat :=
  (lines.filter (!blankLine ·)).map indentation |>.min?

/-- Lines without the blank ones at both ends. -/
def trimBlankLines (lines : List (List Char)) : List (List Char) :=
  ((lines.dropWhile blankLine).reverse.dropWhile blankLine).reverse

/-- The lines of text of a block string: shared indentation and outer blank lines are left out.
The first line follows the opening quotes, so it neither sets nor loses indentation. -/
def dedent : List (List Char) → List (List Char)
  | [] => []
  | first :: rest =>
    let indent := (commonIndentation rest).getD 0
    trimBlankLines (first :: rest.map (·.drop indent))

/-- The lines of a text; a carriage return and a line feed together end one line. -/
def lines : List Char → List (List Char)
  | [] => [[]]
  | '\r' :: '\n' :: rest => [] :: lines rest
  | c :: rest =>
    if c = '\n' ∨ c = '\r' then [] :: lines rest
    else match lines rest with
      | [] => [[c]]
      | line :: more => (c :: line) :: more

/-- A character that ends a line on a page. -/
def endsLine (c : Char) : Bool :=
  ('\n' ≤ c && c ≤ '\r') || ('\x1c' ≤ c && c ≤ '\x1e') || c == '\x85' || c == '\u2028' ||
    c == '\u2029'

/-- The lines of a text on a page. No line comes after the last end of one. -/
def pageLines : List Char → List (List Char)
  | [] => []
  | '\r' :: '\n' :: rest => [] :: pageLines rest
  | c :: rest =>
    if endsLine c then [] :: pageLines rest
    else match pageLines rest with
      | [] => [[c]]
      | line :: more => (c :: line) :: more

/-- A backslash before every three quotes in a row. -/
def escapeQuotes : List Char → List Char
  | [] => []
  | '"' :: '"' :: '"' :: rest => '\\' :: '"' :: '"' :: '"' :: escapeQuotes rest
  | c :: rest => c :: escapeQuotes rest

/-- A text between triple quotes. It starts on a line of its own unless it is short and on one
line, or its indentation would be lost; it ends before a line of its own also where its last
character would run into the closing quotes. -/
def block (text : List Char) : List Char :=
  let escaped := escapeQuotes text
  let parts := pageLines escaped
  let oneLine := parts.length ≤ 1
  let startsBlank (line : List Char) : Bool := line.head?.any isBlank
  let indented := !oneLine && (parts.drop 1).all fun line => line.isEmpty || startsBlank line
  let endsTriple := ['"', '"', '"', '\\'].isPrefixOf escaped.reverse
  let endsBadly := (text.getLast? == some '"' && !endsTriple) || text.getLast? == some '\\'
  let spread := !oneLine || 70 < text.length || endsBadly || indented || endsTriple
  let opening := if (spread && !(oneLine && startsBlank text)) || indented then ['\n'] else []
  let closing := if spread || endsBadly then ['\n'] else []
  ['"', '"', '"'] ++ opening ++ escaped ++ closing ++ ['"', '"', '"']

end QueryShape.Document.BlockText
