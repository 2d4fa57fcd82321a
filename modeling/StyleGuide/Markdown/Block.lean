import StyleGuide.Markdown.Html
import StyleGuide.Markdown.Link
import StyleGuide.Render.Event

/-!
# Blocks

The outline of a document, line by line. Containers (quotes, lists and their items) are kept open,
innermost first; a line first continues the containers that it can, then opens new ones, and what is
left of it starts a leaf. A leaf that spans several lines takes them at once. Text in paragraphs and
headings is kept as written until the inline scan reads it; definitions of link targets are taken
out of the text on the way.
-/

namespace StyleGuide.Markdown

open Render (ColumnAlignment)

inductive Block where
  /-- A paragraph; the first of a task item begins with its marker. -/
  | paragraph (task : Option Bool) (text : List Char)
  | heading (level : Nat) (text : List Char)
  | quote (body : List Block)
  | list (start : Option Nat) (tight : Bool) (items : List (List Block))
  /-- The marker of a task item without text. -/
  | task (checked : Bool)
  | code (info : Option (List Char)) (source : List Char)
  | html (source : List Char)
  | rule
  | table (columns : List ColumnAlignment) (head : List (List Char))
      (rows : List (List (List Char)))

/-- An open container with its finished blocks, latest first. -/
inductive Frame where
  | quote (body : List Block)
  | list (marker : Char) (start : Nat) (tight : Bool) (items : List (List Block))
  | item (indent : Nat) (body : List Block)

/-- What has been read of a document. -/
structure Outline where
  /-- Open containers, innermost first. -/
  frames : List Frame
  /-- Finished blocks outside all containers, latest first. -/
  top : List Block
  /-- The last line was blank. -/
  afterBlank : Bool
  /-- The innermost item has just begun and holds nothing. -/
  emptyItem : Bool
  /-- The marker of a task item whose text has not begun. -/
  task : Option Bool
  links : LinkTable

namespace Outline

def initial : Outline :=
  ⟨[], [], false, false, none, []⟩

def add (o : Outline) (b : Block) : Outline :=
  match o.frames with
  | .quote body :: fs => { o with frames := .quote (b :: body) :: fs }
  | .item n body :: fs => { o with frames := .item n (b :: body) :: fs }
  | .list m n t items :: fs => { o with frames := .list m n t ([b] :: items) :: fs }
  | [] => { o with top := b :: o.top }

def push (o : Outline) (f : Frame) : Outline :=
  { o with frames := f :: o.frames }

def listStart (marker : Char) (start : Nat) : Option Nat :=
  if marker = '.' ∨ marker = ')' then some start else none

def pop (o : Outline) : Outline :=
  match o.frames with
  | [] => o
  | .quote body :: fs => { o with frames := fs }.add (.quote body.reverse)
  | .list m n tight items :: fs =>
    { o with frames := fs, emptyItem := o.emptyItem && !tight }.add
      (.list (listStart m n) tight items.reverse)
  | .item _ body :: .list m n tight items :: fs =>
    { o with frames := .list m n tight (body.reverse :: items) :: fs }
  | .item _ body :: fs => { o with frames := fs, top := body ++ o.top }

/-- Closes containers until only the outermost `n` are open. -/
def popTo (o : Outline) (n : Nat) : Outline :=
  (List.range (o.frames.length - n)).foldl (fun o _ ↦ o.pop) o

def finishEmptyItem (o : Outline) : Outline :=
  let o := match o.frames with
    | .item _ _ :: _ => if o.emptyItem && o.afterBlank then o.pop else o
    | _ => o
  { o with emptyItem := false }

def loosen (o : Outline) : Outline :=
  match o.frames with
  | f :: .list m n _ items :: fs => { o with frames := f :: .list m n false items :: fs }
  | _ => o

/-- Closes a list that no item continues; two blocks of an item with a blank line between them make
the list around it loose. -/
def finishList (o : Outline) : Outline :=
  let o := o.finishEmptyItem
  let o := match o.frames with
    | .list _ _ _ _ :: _ => o.pop
    | _ => o
  if o.afterBlank then { o.loosen with afterBlank := false } else o

/-- Begins an item: in the open list if its marker is the same, else in a new one. -/
def continueList (o : Outline) (marker : Char) (number : Nat) : Outline :=
  let o := o.finishEmptyItem
  let fresh := fun (o : Outline) ↦
    { o.finishList.push (.list marker number true []) with afterBlank := false }
  match o.frames with
  | .list m n tight items :: fs =>
    if m = marker then
      { o with
        frames := .list m n (tight && !o.afterBlank) items :: fs
        afterBlank := false }
    else fresh o
  | _ => fresh o

end Outline

/-! ## Containers -/

/-- Continues containers, outermost first; answers with how many of them the line continues. -/
def continueContainers : List Frame → Cursor → Nat × Cursor
  | [], c => (0, c)
  | .quote _ :: fs, c =>
    match (c.skip 3).2.take? '>' with
    | some c' =>
      let (n, c'') := continueContainers fs (c'.skip 1).2
      (n + 1, c'')
    | none => (0, c)
  | .list _ _ _ _ :: fs, c =>
    let (n, c') := continueContainers fs c
    (n + 1, c')
  | .item indent _ :: fs, c =>
    let (missed, c') := c.skip indent
    if missed = 0 || c'.atEnd then
      let (n, c'') := continueContainers fs c'
      (n + 1, c'')
    else (0, c)

/-- Where a line stands in the open containers: how many it continues, and what is left of it. -/
def enter (frames : List Frame) (line : Line) : Nat × Cursor :=
  continueContainers frames.reverse (.ofLine line.chars)

def within? (frames : List Frame) (line : Line) : Option Cursor :=
  let (n, c) := enter frames line
  if n = frames.length then some c else none

/-! ## Recognising leaves -/

/-- A line of at least three `*`, `-` or `_` and nothing else. -/
def isRule (cs : List Char) : Bool :=
  match cs with
  | c :: _ =>
    (c == '*' || c == '-' || c == '_') && decide (3 ≤ cs.count c) &&
      cs.all fun d ↦ d == c || d == ' ' || d == '\t'
  | [] => false

def headingLevel? (cs : List Char) : Option Nat :=
  let n := (cs.takeWhile (· == '#')).length
  if 1 ≤ n ∧ n ≤ 6 then
    match cs.drop n with
    | [] => some n
    | c :: _ => if isWhite c then some n else none
  else none

/-- The level of a heading that a line of `=` or `-` underlines. -/
def underlineLevel? (cs : List Char) : Option Nat :=
  match cs with
  | c :: _ =>
    if (c = '=' ∨ c = '-') ∧ isBlankText (cs.dropWhile (· == c)) then
      some (if c = '=' then 1 else 2)
    else none
  | [] => none

def fence? (cs : List Char) : Option (Char × Nat) :=
  match cs with
  | c :: _ =>
    let n := (cs.takeWhile (· == c)).length
    if (c = '`' ∨ c = '~') ∧ 3 ≤ n ∧ (c = '`' → (cs.drop n).all (· ≠ '`')) then some (c, n)
    else none
  | [] => none

/-- The line closes a code block that opened with `n` marks `c`. -/
def closesFence (c : Char) (n : Nat) (cs : List Char) : Bool :=
  decide (n ≤ (cs.takeWhile (· == c)).length) && (cs.dropWhile (· == c)).all (· == ' ')

/-- A list marker: the character that tells lists apart, the number, the columns up to the text, and
what follows. `outer` is the indentation before it. -/
def listMarker? (outer : Nat) (c : Cursor) : Option (Char × Nat × Nat × Cursor) :=
  let finish (mark : Char) (number indent : Nat) (c : Cursor) :=
    match (if c.atEnd then some c else c.skip? 1) with
    | none => none
    | some c =>
      if isBlankText c.rest then some (mark, number, indent, c)
      else
        let (n, c') := c.skipUpTo 4
        if n < 4 then some (mark, number, indent + n, c') else some (mark, number, indent, c)
  match c.rest with
  | [] => none
  | ch :: rest =>
    if ch = '-' ∨ ch = '+' ∨ ch = '*' then
      if isRule (ch :: rest) then none
      else finish ch 0 (outer + 2) { c with rest := rest, column := c.column + 1 }
    else
      let (number, after) := readNumber 10 9 0 (ch :: rest)
      let width := (ch :: rest).length - after.length
      match after with
      | d :: after =>
        if 0 < width ∧ (d = '.' ∨ d = ')') then
          finish d number (outer + width + 2)
            { c with rest := after, column := c.column + width + 1 }
        else none
      | [] => none

/-- The marker of a task at the start of an item; a blank must follow it. -/
def taskMarker? (c : Cursor) : Option (Bool × Cursor) :=
  let c := (c.skip 3).2
  match c.rest with
  | '[' :: mark :: ']' :: next :: rest =>
    let checked := mark == 'x' || mark == 'X'
    if (checked || isSpace mark) && isSpace next then
      some (checked, { c with rest := next :: rest, column := c.column + 3 })
    else none
  | _ => none

/-! ## Tables -/

/-- The number of pipes in a line, those behind a backslash not counted, with what follows the last
of them. -/
def countPipes (pipes : Nat) (last : List Char) : List Char → Nat × List Char
  | [] => (pipes, last)
  | c :: cs =>
    if c = '\\' then
      match cs with
      | d :: ds =>
        if Text.isAsciiPunctuation d then countPipes pipes last ds
        else countPipes pipes last (d :: ds)
      | [] => (pipes, last)
    else if c = '|' then countPipes (pipes + 1) cs cs
    else countPipes pipes last cs
termination_by cs => cs.length

/-- The number of columns of a head line; none if it has no pipe. -/
def headColumns? (cs : List Char) : Option Nat :=
  let (pipes, last) := countPipes 0 [] cs
  if pipes = 0 then none
  else
    let pipes := if (cs.dropWhile isSpace).head? = some '|' then pipes - 1 else pipes
    some (if isBlankText last then pipes else pipes + 1)

/-- A column of the line under a table head as it is read. -/
structure Column where
  alignment : ColumnAlignment
  started : Bool
  dashed : Bool

def Column.start : Column :=
  ⟨.none, false, false⟩

def Column.colon (c : Column) : Column :=
  let alignment := match c.started, c.alignment with
    | false, .none => ColumnAlignment.left
    | true, .left => .center
    | true, .none => .right
    | _, a => a
  { c with alignment := alignment, started := true }

/-- Reads the line under a table head: the columns so far (latest first), whether there was a pipe
between or behind columns, and whether there was a dash. -/
def underHead? (done : List ColumnAlignment) (piped dashed : Bool) (c : Column) :
    List Char → Option (List ColumnAlignment)
  | [] =>
    if piped && dashed then
      some (if c.started then c.alignment :: done else done).reverse
    else none
  | ch :: cs =>
    if ch = ' ' then underHead? done piped dashed c cs
    else if ch = ':' then underHead? done piped dashed c.colon cs
    else if ch = '-' then underHead? done piped true { c with started := true, dashed := true } cs
    else if ch = '|' then
      if c.dashed then underHead? (c.alignment :: done) true dashed .start cs else none
    else none

def alignments? (cs : List Char) : Option (List ColumnAlignment) :=
  match cs with
  | [] => none
  | '|' :: rest => underHead? [] false false .start rest
  | _ => underHead? [] false false .start cs

def tableHead? (frames : List Frame) (head : List Char) (next : Line) :
    Option (List ColumnAlignment) :=
  (headColumns? head).bind fun n ↦
    (within? frames next).bind fun c ↦
      let (missed, c) := c.skip 4
      if missed = 0 then none
      else (alignments? c.rest).filter (·.length = n)

/-- Splits a row at its pipes; a pipe behind a backslash belongs to the cell, without the
backslash. `cell` is the current cell, latest character first. -/
def splitRow (cell : List Char) : List Char → List (List Char)
  | [] => [cell.reverse]
  | '\\' :: '|' :: cs => splitRow ('|' :: cell) cs
  | c :: cs => if c = '|' then cell.reverse :: splitRow [] cs else splitRow (c :: cell) cs

def trimCell (cs : List Char) : List Char :=
  trimRight (cs.dropWhile isSpace)

/-- The cells of a row. The pipes at both ends are no separators. -/
def rowCells (cs : List Char) : List (List Char) :=
  let cs := cs.dropWhile isSpace
  let cells := splitRow [] (match cs with
    | '|' :: rest => rest
    | _ => cs)
  let cells := match cells.reverse with
    | last :: before => if isBlankText last then before.reverse else cells
    | [] => []
  cells.map trimCell

/-- Exactly `n` cells: missing ones are empty, further ones are dropped. -/
def fitCells (n : Nat) (cells : List (List Char)) : List (List Char) :=
  cells.take n ++ List.replicate (n - cells.length) []

/-! ## Interruption -/

/-- The line starts a list item that may interrupt a paragraph: not an empty one, and not a number
other than one. -/
def interruptsAsItem (cs : List Char) (following : List Line) : Bool :=
  match listMarker? 0 (.ofLine cs) with
  | none => false
  | some (mark, number, _, c) =>
    (mark != '.' && mark != ')' || number == 1) &&
      !(isBlankText c.rest && following.head?.all fun l ↦ isBlankText l.chars)

def interruptsAsHtml (cs : List Char) : Bool :=
  match cs with
  | '<' :: rest => (Html.blockEnd? rest).isSome || Html.opensBlock rest
  | _ => false

/-- The line starts a table that may interrupt a paragraph: one whose head begins with a pipe. -/
def interruptsAsTable (frames : List Frame) (cs : List Char) (following : List Line) : Bool :=
  match cs, following with
  | '|' :: _, next :: _ => (tableHead? frames cs next).isSome
  | _, _ => false

/-- The rest of a line, after at most three blanks, ends a paragraph or a table. `inside` says that
the line continues all containers; any list item ends what does not, or a table. -/
def interrupts (tables inside inTable : Bool) (frames : List Frame) (cs : List Char)
    (following : List Line) : Bool :=
  cs.isEmpty || isRule cs || (headingLevel? cs).isSome || (fence? cs).isSome ||
    cs.head? == some '>' ||
    ((listMarker? 0 (.ofLine cs)).isSome &&
      (!inside || inTable || interruptsAsItem cs following)) ||
    interruptsAsHtml cs || (tables && interruptsAsTable frames cs following)

/-! ## Leaves -/

/-- What a line means to the paragraph before it. -/
inductive Continuation where
  /-- It underlines the paragraph. -/
  | underline (level : Nat)
  | stop
  /-- It belongs to the paragraph. -/
  | more (text : List Char)

def continuation (tables : Bool) (frames : List Frame) (line : Line) (following : List Line) :
    Continuation :=
  let (n, c) := enter frames line
  let inside := n == frames.length
  let (missed, shifted) := c.skip 4
  let level := if missed ≠ 0 ∧ inside then underlineLevel? shifted.rest else none
  match level with
  | some level => .underline level
  | none =>
    if missed ≠ 0 && interrupts tables inside false frames shifted.rest following then .stop
    else if shifted.skipAll.atEnd then .stop
    else .more c.rest

/-- The lines of a paragraph after its first, the level if it is underlined, and how many lines it
takes. -/
def paragraphRest (tables : Bool) (frames : List Frame) :
    List Line → List (List Char) × Option Nat × Nat
  | [] => ([], none, 0)
  | line :: following =>
    match continuation tables frames line following with
    | .underline level => ([], some level, 1)
    | .stop => ([], none, 0)
    | .more text =>
      let (lines, level, n) := paragraphRest tables frames following
      (text :: lines, level, n + 1)

def joinLines (lines : List (List Char)) : List Char :=
  (lines.intersperse ['\n']).flatten

/-- Takes definitions of link targets from the front of a paragraph that nothing precedes. `room`
bounds their number by the length of the text. -/
def takeDefinition? (text : List Char) : Option (List Char × LinkTarget × List Char) :=
  match text with
  | '[' :: _ => definition? text
  | _ => none

def tableRows (frames : List Frame) (columns : Nat) : List Line → List (List (List Char)) × Nat
  | [] => ([], 0)
  | line :: following =>
    match within? frames line with
    | none => ([], 0)
    | some c =>
      let rest := c.skipAll.rest
      if interrupts true true true frames rest following then ([], 0)
      else
        let (rows, n) := tableRows frames columns following
        (fitCells columns (rowCells rest) :: rows, n + 1)

/-- The lines of a fenced code block and how many lines it takes with its closing fence. -/
def fencedLines (frames : List Frame) (indent : Nat) (mark : Char) (length : Nat) :
    List Line → List Char × Nat
  | [] => ([], 0)
  | line :: following =>
    match within? frames line with
    | none => ([], 0)
    | some c =>
      let c := (c.skip indent).2
      let (missed, shifted) := c.skip (4 - indent)
      if missed ≠ 0 ∧ closesFence mark length shifted.rest then ([], 1)
      else
        let (text, n) := fencedLines frames indent mark length following
        (c.text ++ line.ending ++ text, n + 1)

/-- The further lines of an indented code block, each with whether it is blank. -/
def indentedLines (frames : List Frame) : List Line → List (List Char × Bool)
  | [] => []
  | line :: following =>
    match within? frames line with
    | none => []
    | some c =>
      let (missed, shifted) := c.skip 4
      if missed = 0 ∨ shifted.atEnd then
        (shifted.text ++ line.ending, isBlankText shifted.rest) :: indentedLines frames following
      else []

/-- The further lines of an HTML block that ends with a text, and how many there are. -/
def htmlLinesUntil (frames : List Frame) (mark : List Char) (previous : List Char) :
    List Line → List Char × Nat
  | [] => ([], 0)
  | line :: following =>
    if (Html.afterText? mark previous).isSome then ([], 0)
    else match within? frames line with
      | none => ([], 0)
      | some c =>
        let (text, n) := htmlLinesUntil frames mark c.rest following
        (c.text ++ line.ending ++ text, n + 1)

/-- The further lines of an HTML block that ends at a blank line, and how many there are. -/
def htmlLines (frames : List Frame) : List Line → List Char × Nat
  | [] => ([], 0)
  | line :: following =>
    match within? frames line with
    | none => ([], 0)
    | some c =>
      if isBlankText c.rest then ([], 0)
      else
        let (text, n) := htmlLines frames following
        (c.text ++ line.ending ++ text, n + 1)

/-- The text of a heading that opens with `#`, without the marks at its end. -/
def headingText (cs : List Char) : List Char :=
  let cs := cs.dropWhile isSpace
  let trimmed := (cs.reverse.dropWhile (· == ' ')).reverse
  let closer := (trimmed.reverse.dropWhile (· == '#')).reverse
  if closer = [] then []
  else
    let text := (closer.reverse.dropWhile (· == ' ')).reverse
    if text.length < closer.length then text else trimmed

/-! ## Reading lines -/

/-- What opening containers leaves of a line. -/
inductive Opened where
  /-- The line is used up. -/
  | finished (o : Outline)
  | leaf (o : Outline) (c : Cursor)

def openContainers (tasks : Bool) (o : Outline) (c : Cursor) : Opened :=
  let (outer, shifted) := c.skipUpTo 4
  if 4 ≤ outer then .leaf o c
  else match listMarker? outer shifted with
    | some (mark, number, indent, after) =>
      let o := (o.continueList mark number).push (.item indent [])
      if isBlankText after.rest then .finished { o with emptyItem := true }
      else match (if tasks then taskMarker? after else none) with
        | some (checked, after) =>
          if isBlankText after.rest then .finished { o.add (.task checked) with emptyItem := true }
          else if after.rest.length < c.rest.length then
            openContainers tasks { o with task := some checked } after
          else .leaf o after
        | none =>
          if after.rest.length < c.rest.length then openContainers tasks o after
          else .leaf o after
    | none =>
      match shifted.take? '>' with
      | some after =>
        let after := (after.skip 1).2
        if after.rest.length < c.rest.length then
          openContainers tasks (o.finishList.push (.quote [])) after
        else .leaf o after
      | none => .leaf o c
termination_by c.rest.length

def Outline.blank (o : Outline) : Outline :=
  match o.frames with
  | .quote _ :: _ => o
  | .item _ body :: fs =>
    if o.emptyItem then { o with frames := .item 0 body :: fs, afterBlank := true }
    else { o with afterBlank := true }
  | _ => { o with afterBlank := true }

/-- Adds an indented code block; answers with how many further lines it takes. -/
def Outline.addIndented (o : Outline) (first : List Char) (following : List Line) :
    Outline × Nat :=
  let o := o.finishList
  let lines := indentedLines o.frames following
  let kept := (lines.reverse.dropWhile (·.2)).reverse
  let o := o.add (.code none (first ++ kept.flatMap (·.1)))
  ({ o with afterBlank := decide (kept.length < lines.length) }, lines.length)

/-- Adds the leaf that a line starts; answers with how many further lines it takes. `lead` are the
columns before the text. -/
def Outline.addLeaf (gfm : Bool) (o : Outline) (lead : Nat) (cs ending : List Char)
    (following : List Line) : Outline × Nat :=
  let task := o.task
  let o := o.finishList
  let frames := o.frames
  let indented := List.replicate lead ' ' ++ cs ++ ending
  let html := match cs with
    | '<' :: rest =>
      match Html.blockEnd? rest with
      | some mark => some (htmlLinesUntil frames mark cs following)
      | none =>
        if Html.opensBlock rest || Html.isLoneTag rest then some (htmlLines frames following)
        else none
    | _ => none
  match html with
  | some (text, n) => (o.add (.html (indented ++ text)), n)
  | none =>
    if isRule cs then (o.add .rule, 0)
    else match headingLevel? cs with
      | some level => (o.add (.heading level (headingText (cs.drop level))), 0)
      | none =>
        match fence? cs with
        | some (mark, length) =>
          let info := unescape (trimCell (cs.drop length))
          let (source, n) := fencedLines frames lead mark length following
          (o.add (.code (some info) source), n)
        | none =>
          let (lines, level, n) := paragraphRest gfm frames following
          let text := joinLines (cs :: lines)
          match takeDefinition? text with
          | some (label, target, left) =>
            let used := text.take (text.length - left.length)
            let consumed := if left = [] then lines.length else used.count '\n' - 1
            ({ o with links := o.links ++ [(label, target)] }, consumed)
          | none =>
            match following with
            | next :: below =>
              match (if gfm then tableHead? frames cs next else none) with
              | some columns =>
                let (rows, n) := tableRows frames columns.length below
                (o.add (.table columns (fitCells columns.length (rowCells cs)) rows), n + 1)
              | none =>
                match level with
                | some level => (o.add (.heading level (trimRight text)), n)
                | none => (o.add (.paragraph task (trimRight text)), n)
            | [] => (o.add (.paragraph task (trimRight text)), n)

/-- Reads a line; answers with how many of the following lines its leaf takes. -/
def Outline.readLine (gfm : Bool) (o : Outline) (line : Line) (following : List Line) :
    Outline × Nat :=
  let (n, c) := enter o.frames line
  match openContainers gfm { o.popTo n with task := none } c with
  | .finished o => (o, 0)
  | .leaf o c =>
    if isBlankText c.rest then (o.blank, 0)
    else
      let (lead, shifted) := c.skipUpTo 4
      if lead = 4 then o.addIndented (shifted.text ++ line.ending) following
      else o.addLeaf gfm lead shifted.rest line.ending following

def readLines (gfm : Bool) (o : Outline) : List Line → Outline
  | [] => o
  | line :: following =>
    let (o, n) := o.readLine gfm line following
    readLines gfm o (following.drop n)
termination_by lines => lines.length
decreasing_by simp only [List.length_drop, List.length_cons]; omega

def parseBlocks (gfm : Bool) (text : List Char) : List Block × LinkTable :=
  let o := (readLines gfm .initial (linesOf text)).popTo 0
  (o.top.reverse, o.links)

end StyleGuide.Markdown
