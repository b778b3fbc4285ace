import QueryShape.Document.Token

/-!
# Places in a text

A fault of form is shown with the place where it stands: the line and column, and the line itself
between those around it, with a mark below the column. A long line is cut into pieces.
-/

namespace QueryShape.Document

/-- A line and a column, each counted from one. -/
structure Location where
  line : Nat
  column : Nat
  deriving DecidableEq, Repr

/-- The place in a text that so many characters are left from. -/
def locationOf (text : List Char) (left : Nat) : Location :=
  let before := BlockText.lines (text.take (text.length - left))
  { line := before.length, column := (before.getLastD []).length + 1 }

/-- A text with spaces before it, up to a width. -/
def padLeft (width : Nat) (cs : List Char) : List Char :=
  List.replicate (width - cs.length) ' ' ++ cs

/-- Lines with marks before them, which are put below each other. -/
def markedLines (lines : List (String × List Char)) : String :=
  let width := lines.foldl (fun w l => max w l.1.length) 0
  "\n".intercalate <| lines.map fun (mark, line) =>
    .ofList (padLeft width mark.toList ++ if line.isEmpty then [] else ' ' :: line)

/-- The mark before a line of a text. -/
def lineMark (line : Nat) : String := toString line ++ " |"

/-- The length that the pieces of a long line have. -/
def pieceLength : Nat := 80

/-- The length above which a line is long. -/
def longLine : Nat := 120

/-- Pieces of a line, of which there are at most so many. -/
def pieces : (most : Nat) → List Char → List (List Char)
  | 0, _ => []
  | most + 1, cs =>
    if cs.isEmpty then [] else cs.take pieceLength :: pieces most (cs.drop pieceLength)

/-- A long line around a column, with a mark below the column. -/
def longExcerpt (place : Location) (line : List Char) : String :=
  let parts := pieces line.length line
  let index := place.column / pieceLength
  let before := (parts.take (index + 1)).zipIdx.map fun (part, i) =>
    (if i = 0 then lineMark place.line else "|", part)
  let pointer := ("|", padLeft (place.column % pieceLength) ['^'])
  let after := (parts[index + 1]?.map fun part => ("|", part)).toList
  markedLines (before ++ [pointer] ++ after)

/-- The lines around a place, with a mark below the column. -/
def excerpt (text : List Char) (place : Location) : String :=
  let lines := BlockText.lines text
  let line := lines.getD (place.line - 1) []
  if longLine < line.length then longExcerpt place line
  else
    let numbered (n : Nat) := (lines[n - 1]?.map fun line => (lineMark n, line)).toList
    let before := if place.line = 1 then [] else numbered (place.line - 1)
    markedLines (before ++ numbered place.line ++ [("|", padLeft place.column ['^'])] ++
      numbered (place.line + 1))

/-- What messages call a text that is read. -/
def textName : String := "GraphQL request"

/-- A fault in a text, with its place. -/
def SyntaxFault.report (text : String) (fault : SyntaxFault) : String :=
  match fault with
  | .malformed _ left =>
    let cs := text.toList
    let place := locationOf cs left
    fault.message ++ "\n\n" ++ textName ++ ":" ++ toString place.line ++ ":" ++
      toString place.column ++ "\n" ++ excerpt cs place
  | .cutEscape => fault.message

end QueryShape.Document
