import StyleGuide.Sass.Fault
import StyleGuide.Text.Find

/-!
# Outlines

A sheet cut into statements before any of them is understood: comments, lines, and blocks with the
statements in them. Here the cuts are made at semicolons and braces; those inside quotes, brackets,
interpolations and bare URLs do not count. Comments inside a statement become a space.
-/

namespace StyleGuide.Sass

/-- A statement of a sheet that is not understood yet. -/
inductive Outline where
  | comment (text : List Char)
  | line (head : List Char)
  | block (head : List Char) (body : List Outline)

/-- The dialects in which sheets are written. -/
inductive Dialect where
  | braces
  | indented
  | css
deriving DecidableEq

def Dialect.ofPath (p : Path) : Dialect :=
  if p.hasExtension "sass" then .indented else if p.hasExtension "css" then .css else .braces

/-! ## Characters -/

def isSpace (c : Char) : Bool :=
  c == ' ' || c == '\t' || c == '\n' || c == '\r' || c == '\x0c'

def skipSpaces (cs : List Char) : List Char :=
  cs.dropWhile isSpace

def trimSpaces (cs : List Char) : List Char :=
  ((skipSpaces cs).reverse.dropWhile isSpace).reverse

def isNameStart (c : Char) : Bool :=
  c.isAlpha || c == '_' || 128 ≤ c.toNat

def isNameChar (c : Char) : Bool :=
  isNameStart c || c.isDigit || c == '-'

/-! ## Comments -/

/-- The length of a comment whose opening has been read, up to and with its closing. -/
def commentLength? (cs : List Char) : Option Nat :=
  (Text.indexOf? "*/".toList cs).map (· + 2)

/-- A comment that starts in a column. Its further lines keep only the indentation they have
beyond that column. -/
def commentText (column : Nat) (cs : List Char) : List Char :=
  match Text.splitAt '\n' cs with
  | [] => []
  | first :: rest =>
    rest.foldl (fun text l ↦
      let body := skipSpaces l
      text ++ '\n' :: List.replicate (l.length - body.length - column) ' ' ++ body) first

/-! ## Marks -/

/-- Where a source is cut. -/
inductive Mark where
  | comment (text : List Char)
  | line (head : List Char)
  | opening (head : List Char)
  | closing

/-- The mark of a line whose reversed text is given; a blank line has none. -/
def lineMarks (head : List Char) (rest : List Mark) : List Mark :=
  let text := trimSpaces head.reverse
  if text = [] then rest else .line text :: rest

def columnAfter (column : Nat) (cs : List Char) : Nat :=
  cs.foldl (fun n c ↦ if c = '\n' then 0 else n + 1) column

/-- The length of a URL in parentheses that begins with `url(`. A quoted one is none. -/
def bareUrlLength? (cs : List Char) : Option Nat :=
  match cs with
  | u :: r :: l :: '(' :: rest =>
    if [u, r, l].map Char.toLower = "url".toList ∧ rest.contains ')' then
      match skipSpaces rest with
      | '"' :: _ => none
      | '\'' :: _ => none
      | _ => some (5 + (rest.takeWhile (· != ')')).length)
    else none
  | _ => none

/-- Whether the name of a function could begin after the reversed text. -/
def atWordStart (head : List Char) : Bool :=
  !(head.head?.any isNameChar)

/-- The marks of a source. `pending` holds what closes the quotes, brackets and interpolations
that are open, innermost first, and `head` the statement so far, reversed. -/
def marksFrom (d : Dialect) (pending head : List Char) (column : Nat) :
    List Char → Except Fault (List Mark)
  | [] => if pending = [] then .ok (lineMarks head []) else .error .endOfSource
  | c :: cs =>
    if pending.head? = some '"' ∨ pending.head? = some '\'' then
      if pending.head? = some c then marksFrom d pending.tail (c :: head) (column + 1) cs
      else if c = '\n' then .error (.unexpected c)
      else if c = '\\' then
        marksFrom d pending ((cs.take 1).reverse ++ c :: head) (column + 2) (cs.drop 1)
      else if c = '#' ∧ cs.head? = some '\x7b' then
        marksFrom d ('}' :: pending) ('{' :: c :: head) (column + 2) (cs.drop 1)
      else marksFrom d pending (c :: head) (column + 1) cs
    else if c = '/' ∧ cs.head? = some '*' then
      match commentLength? (cs.drop 1) with
      | none => .error .endOfSource
      | some n =>
        let text := c :: cs.take (n + 1)
        let after := columnAfter column text
        if pending = [] ∧ head.all isSpace then
          (marksFrom d pending head after (cs.drop (n + 1))).map
            (.comment (commentText column text) :: ·)
        else marksFrom d pending (' ' :: head) after (cs.drop (n + 1))
    else if c = '/' ∧ cs.head? = some '/' then
      if d = .css then .error (.unexpected c)
      else marksFrom d pending head column (cs.drop (cs.takeWhile (· != '\n')).length)
    else if c = '\\' then
      marksFrom d pending ((cs.take 1).reverse ++ c :: head) (column + 2) (cs.drop 1)
    else if c = '"' ∨ c = '\'' then marksFrom d (c :: pending) (c :: head) (column + 1) cs
    else if c = '#' ∧ cs.head? = some '\x7b' then
      if d = .css then .error (.unexpected c)
      else marksFrom d ('}' :: pending) ('{' :: c :: head) (column + 2) (cs.drop 1)
    else if pending.head? = some c then marksFrom d pending.tail (c :: head) (column + 1) cs
    else if c = '(' then marksFrom d (')' :: pending) (c :: head) (column + 1) cs
    else if c = '[' then marksFrom d (']' :: pending) (c :: head) (column + 1) cs
    else if c = ')' ∨ c = ']' then .error (.unexpected c)
    else if c = ';' ∨ c = '{' ∨ c = '}' then
      if pending ≠ [] then .error (.unexpected c)
      else do
        let rest ← marksFrom d [] [] (column + 1) cs
        if c = ';' then return lineMarks head rest
        else if c = '{' then return .opening (trimSpaces head.reverse) :: rest
        else return lineMarks head (.closing :: rest)
    else match (if atWordStart head then bareUrlLength? (c :: cs) else none) with
      | some n =>
        marksFrom d pending ((cs.take (n - 1)).reverse ++ c :: head) (column + n) (cs.drop (n - 1))
      | none =>
        marksFrom d pending (c :: head) (if c = '\n' then 0 else column + 1) cs
termination_by cs => cs.length
decreasing_by all_goals simp only [List.length_cons, List.length_drop]; omega

/-! ## Nesting -/

/-- Puts marks into blocks. `blocks` holds the heads of the open blocks with the statements
before them, innermost first, and `items` the statements of the innermost one, reversed. -/
def nest (blocks : List (List Char × List Outline)) (items : List Outline) :
    List Mark → Except Fault (List Outline)
  | [] => if blocks.isEmpty then .ok items.reverse else .error .endOfSource
  | .comment text :: marks => nest blocks (.comment text :: items) marks
  | .line head :: marks => nest blocks (.line head :: items) marks
  | .opening head :: marks => nest ((head, items) :: blocks) [] marks
  | .closing :: marks =>
    match blocks with
    | [] => .error (.unexpected '}')
    | (head, before) :: outer => nest outer (.block head items.reverse :: before) marks

def Outline.ofBraces (d : Dialect) (source : List Char) : Except Fault (List Outline) := do
  nest [] [] (← marksFrom d [] [] 0 source)

end StyleGuide.Sass
