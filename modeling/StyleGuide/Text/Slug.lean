import StyleGuide.Text.Letter

/-!
# Slugs

A heading's anchor is made of the words of its text. A run of separators (blanks, `-` and `_`)
between two words becomes one dash, letters and digits are written in lower case, and everything
else is dropped. The one pass below carries whether a dash may be written next.
-/

namespace StyleGuide.Text.Slug

/-- Blanks, dashes and underscores stand between words. -/
def isSeparator (c : Char) : Bool :=
  isBlank c || c == '-' || c == '_'

/-- The slug of the rest of a text. `pending` says that a dash is still forbidden, at the start
or after another dash. -/
def slugFrom (pending : Bool) : List Char → List Char
  | [] => []
  | c :: cs =>
    if isAlphanumeric c then lower c ++ slugFrom false cs
    else if !pending && isSeparator c then '-' :: slugFrom true cs
    else slugFrom pending cs

def dropLastDash (cs : List Char) : List Char :=
  if cs.getLast? = some '-' then cs.dropLast else cs

def slug (text : String) : String :=
  String.ofList (dropLastDash (slugFrom true (trim text.toList)))

end StyleGuide.Text.Slug
