/-!
# Line ends

A line ends in a line feed, a carriage return, or both together.
-/

namespace QueryShape.Text

/-- A text with line ends of one kind. -/
def unifyLineEnds : List Char → List Char
  | '\r' :: '\n' :: rest => '\n' :: unifyLineEnds rest
  | '\r' :: rest => '\n' :: unifyLineEnds rest
  | c :: rest => c :: unifyLineEnds rest
  | [] => []

end QueryShape.Text
