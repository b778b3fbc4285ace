/-!
# Stretches of a text

Whether a text holds another, and a text with every stretch of one kind replaced by another.
-/

namespace QueryShape.Text

/-- The text holds the other as a stretch. -/
def holds (part : List Char) : List Char → Bool
  | [] => part.isEmpty
  | c :: rest => part.isPrefixOf (c :: rest) || holds part rest

/-- A text with every stretch that is the given one replaced, from the left. The empty stretch is
before every character and at the end. -/
def replaceChars (old new : List Char) : List Char → List Char
  | [] => if old.isEmpty then new else []
  | c :: rest =>
    if old.isEmpty then new ++ c :: replaceChars old new rest
    else if old.isPrefixOf (c :: rest) then
      new ++ replaceChars old new (rest.drop (old.length - 1))
    else c :: replaceChars old new rest
termination_by cs => cs.length
decreasing_by
  · simp
  · simp only [List.length_drop, List.length_cons]
    omega
  · simp

/-- A text with every stretch that is the given one replaced. -/
def replace (old new text : String) : String :=
  .ofList (replaceChars old.toList new.toList text.toList)

end QueryShape.Text
