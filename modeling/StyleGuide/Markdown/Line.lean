/-!
# Lines and columns

A document is read line by line. A cursor stands inside a line and counts columns: a tab reaches to
the next multiple of four, and when only a part of it is used up the rest of its columns is owed.
-/

namespace StyleGuide.Markdown

/-- A line with the end it is written with; a carriage return before a line feed is dropped. -/
structure Line where
  chars : List Char
  ending : List Char
deriving DecidableEq, Repr

/-- Splits a text whose current line, latest character first, is `line`. -/
def linesFrom (line : List Char) : List Char → List Line
  | [] => if line = [] then [] else [⟨line.reverse, []⟩]
  | '\r' :: '\n' :: cs => ⟨line.reverse, ['\n']⟩ :: linesFrom [] cs
  | c :: cs =>
    if c = '\n' ∨ c = '\r' then ⟨line.reverse, [c]⟩ :: linesFrom [] cs
    else linesFrom (c :: line) cs

def linesOf (text : List Char) : List Line :=
  linesFrom [] text

def isSpace (c : Char) : Bool :=
  c == ' ' || c == '\t' || c == '\x0b' || c == '\x0c'

def isWhite (c : Char) : Bool :=
  isSpace c || c == '\n' || c == '\r'

/-- Nothing but blanks. -/
def isBlankText (cs : List Char) : Bool :=
  cs.all isSpace

def trimRight (cs : List Char) : List Char :=
  (cs.reverse.dropWhile isSpace).reverse

structure Cursor where
  rest : List Char
  /-- Characters since the start of the line or the last tab. -/
  column : Nat
  /-- Columns of the last tab that are still to be used. -/
  owed : Nat
deriving DecidableEq, Repr

namespace Cursor

def ofLine (chars : List Char) : Cursor :=
  ⟨chars, 0, 0⟩

/-- Skips at most `n` columns of blanks from `column` on; answers with the columns it missed. -/
def skipFrom : (n column : Nat) → List Char → Nat × Cursor
  | 0, column, cs => (0, ⟨cs, column, 0⟩)
  | n + 1, column, [] => (n + 1, ⟨[], column, 0⟩)
  | n + 1, column, c :: cs =>
    if c = ' ' then skipFrom n (column + 1) cs
    else if c = '\t' then
      let width := 4 - column % 4
      if n + 1 < width then (0, ⟨cs, 0, width - (n + 1)⟩) else skipFrom (n + 1 - width) 0 cs
    else (n + 1, ⟨c :: cs, column, 0⟩)

/-- Skips at most `n` columns of blanks; answers with the columns it missed. -/
def skip (n : Nat) (c : Cursor) : Nat × Cursor :=
  if n ≤ c.owed then (0, { c with owed := c.owed - n })
  else skipFrom (n - c.owed) c.column c.rest

/-- Skips exactly `n` columns of blanks. -/
def skip? (n : Nat) (c : Cursor) : Option Cursor :=
  match c.skip n with
  | (0, c') => some c'
  | _ => none

/-- Skips at most `n` columns and tells how many there were. -/
def skipUpTo (n : Nat) (c : Cursor) : Nat × Cursor :=
  let (missed, c') := c.skip n
  (n - missed, c')

def skipAll (c : Cursor) : Cursor :=
  { c with rest := c.rest.dropWhile isSpace, owed := 0 }

def atEnd (c : Cursor) : Bool :=
  c.rest.isEmpty

def take? (ch : Char) (c : Cursor) : Option Cursor :=
  match c.rest with
  | d :: ds => if d = ch then some { c with rest := ds, column := c.column + 1 } else none
  | [] => none

/-- What is left of the line, with blanks for the columns that are owed. -/
def text (c : Cursor) : List Char :=
  List.replicate c.owed ' ' ++ c.rest

end Cursor

end StyleGuide.Markdown
