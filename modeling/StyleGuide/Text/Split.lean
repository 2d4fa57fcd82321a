/-!
# Splitting

Cutting a text at a character. There is always one piece more than there are cuts.
-/

namespace StyleGuide.Text

/-- The pieces of a text between the occurrences of `sep`. -/
def splitAt (sep : Char) : List Char → List (List Char)
  | [] => [[]]
  | c :: cs =>
    if c = sep then [] :: splitAt sep cs
    else match splitAt sep cs with
      | [] => [[c]]
      | s :: ss => (c :: s) :: ss

end StyleGuide.Text
