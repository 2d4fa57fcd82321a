/-!
# Comments

Removes `//` and `/* */` comments from a stylesheet and keeps its line breaks. Quoted text and the
inside of an unquoted `url(` are copied as they are. A quoted text ends at its quote or at the end
of the line, whichever comes first.
-/

namespace StyleGuide.Imports

/-- What the removal of comments is inside of. -/
inductive CommentMode where
  | plain
  | quoted (quote : Char)
  /-- After a backslash inside quotes. -/
  | escaped (quote : Char)
  | url
  /-- After the first of two slashes. -/
  | lineOpening
  | line
  /-- After the slash of `/*`. -/
  | blockOpening
  | block (star : Bool)
deriving DecidableEq, Repr

/-- The text without comments. `behind` is what has been written so far, latest first. -/
def stripFrom (mode : CommentMode) (behind : List Char) : List Char → List Char
  | [] => []
  | c :: cs =>
    match mode with
    | .plain =>
      if c = '"' ∨ c = '\'' then c :: stripFrom (.quoted c) (c :: behind) cs
      else if c = '(' ∧ behind.take 3 = ['l', 'r', 'u'] then
        c :: stripFrom .url (c :: behind) cs
      else if c = '/' ∧ cs.head? = some '/' then stripFrom .lineOpening behind cs
      else if c = '/' ∧ cs.head? = some '*' then stripFrom .blockOpening behind cs
      else c :: stripFrom .plain (c :: behind) cs
    | .quoted q =>
      if c = '\\' then c :: stripFrom (.escaped q) (c :: behind) cs
      else if c = q ∨ c = '\n' then c :: stripFrom .plain (c :: behind) cs
      else c :: stripFrom (.quoted q) (c :: behind) cs
    | .escaped q => c :: stripFrom (.quoted q) (c :: behind) cs
    | .url =>
      if c = ')' then c :: stripFrom .plain (c :: behind) cs
      else c :: stripFrom .url (c :: behind) cs
    | .lineOpening => stripFrom .line behind cs
    | .line =>
      if c = '\n' then c :: stripFrom .plain (c :: behind) cs else stripFrom .line behind cs
    | .blockOpening => stripFrom (.block false) behind cs
    | .block star =>
      if c = '\n' then c :: stripFrom (.block false) (c :: behind) cs
      else if star = true ∧ c = '/' then stripFrom .plain behind cs
      else stripFrom (.block (c == '*')) behind cs

/-- The stylesheet without its comments. -/
def stripComments (source : List Char) : List Char :=
  stripFrom .plain [] source

end StyleGuide.Imports
