import QueryShape.Letter.Word

/-!
# The placeholder

A conversion is written over the placeholder `raw_value`, which stands for the value that is
converted. `fill` puts an expression in its place, wherever the placeholder is a whole word.
-/

namespace QueryShape.Code

/-- The word that stands for the value that is converted. -/
def placeholder : String := "raw_value"

/-- A text with every whole word that is the given one replaced. -/
def replaceWord (word replacement : List Char) : List Char → List Char
  | [] => []
  | c :: rest =>
    if Letter.isWord c then
      let found := c :: rest.takeWhile Letter.isWord
      (if found = word then replacement else found) ++
        replaceWord word replacement (rest.dropWhile Letter.isWord)
    else c :: replaceWord word replacement rest
termination_by cs => cs.length
decreasing_by
  · have := (rest.dropWhile_sublist Letter.isWord).length_le
    simp only [List.length_cons]
    omega
  · simp

/-- A text with the placeholder replaced. -/
def fill (text replacement : String) : String :=
  .ofList (replaceWord placeholder.toList replacement.toList text.toList)

end QueryShape.Code
