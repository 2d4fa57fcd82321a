import StyleGuide.Markdown.Emphasis
import StyleGuide.Markdown.Html

/-!
# Inline content

Reads the text of a paragraph, a heading or a table cell from left to right. Code spans, links in
angle brackets and raw HTML are taken where they begin. A closing bracket makes a link of what
stands since the nearest opening one, if a target or a known label goes with it; a link deactivates
the opening brackets around it, since links do not nest. Emphasis is resolved once per link text and
once for what is left.
-/

namespace StyleGuide.Markdown

open Text

/-- What inline content depends on. -/
structure InlineSettings where
  strikethrough : Bool
  links : LinkTable

/-! ## Single constructs -/

/-- The inside of a code span that `n` backticks have opened, with what follows it. `run` counts
the backticks just read. -/
def codeSpan? (n : Nat) (run : Nat) (acc : List Char) :
    List Char → Option (List Char × List Char)
  | [] => if run = n then some (acc.drop n, []) else none
  | c :: cs =>
    if c = '`' then codeSpan? n (run + 1) (c :: acc) cs
    else if run = n then some (acc.drop n, c :: cs)
    else codeSpan? n 0 (c :: acc) cs

/-- The text of a code span: line ends become blanks, and one blank at each side is dropped unless
there is nothing but blanks. -/
def codeText (cs : List Char) : List Char :=
  let cs := cs.map fun c ↦ if c = '\n' ∨ c = '\r' then ' ' else c
  if cs.head? = some ' ' ∧ cs.getLast? = some ' ' ∧ cs.any (· ≠ ' ') then
    (cs.drop 1).dropLast
  else cs

def isSchemeChar (c : Char) : Bool :=
  c.isAlphanum || c == '.' || c == '-' || c == '+'

def uri? (cs : List Char) : Option (List Char × List Char) :=
  let scheme := cs.takeWhile isSchemeChar
  match cs.drop scheme.length with
  | ':' :: rest =>
    let start := scheme.head?.any Char.isAlpha
    let body := rest.takeWhile fun c ↦ !(c == '>' || c == '<' || c.toNat ≤ 0x20)
    match rest.drop body.length with
    | '>' :: after =>
      if start ∧ 2 ≤ scheme.length ∧ scheme.length ≤ 32 then
        some (scheme ++ ':' :: body, after)
      else none
    | _ => none
  | _ => none

def isMailChar (c : Char) : Bool :=
  c.isAlphanum || ".!#$%&'*+/=?^_`\x7b|\x7d~-".toList.contains c

/-- A part of a domain name: letters, digits and inner dashes, at most 63. -/
def isDomainLabel (cs : List Char) : Bool :=
  cs ≠ [] && decide (cs.length ≤ 63) && cs.all (fun c ↦ c.isAlphanum || c == '-') &&
    cs.head? != some '-' && cs.getLast? != some '-'

def mail? (cs : List Char) : Option (List Char × List Char) :=
  let name := cs.takeWhile isMailChar
  match cs.drop name.length with
  | '@' :: rest =>
    let domain := rest.takeWhile fun c ↦ c.isAlphanum || c == '-' || c == '.'
    match rest.drop domain.length with
    | '>' :: after =>
      if name ≠ [] ∧ (splitAt '.' domain).all isDomainLabel then
        some (name ++ '@' :: domain, after)
      else none
    | _ => none
  | _ => none

def autolink? (cs : List Char) : Option (List Char × List Char) :=
  uri? cs <|> mail? cs

/-- Whether a run of marks can open emphasis, by the characters beside it. -/
def runCanOpen (mark : Char) (length : Nat) (before after : Option Char) : Bool :=
  match after, before with
  | none, _ => false
  | some a, b =>
    if isBlank a then false
    else match b with
      | none => true
      | some b =>
        if (mark == '*' || (mark == '~' && decide (1 < length))) && !isPunctuation a then true
        else if mark == '~' && b == '~' && !isPunctuation a then true
        else isBlank b || isPunctuation b

/-- Whether a run of marks can close emphasis, by the characters beside it. -/
def runCanClose (mark : Char) (length : Nat) (before after : Option Char) : Bool :=
  match before, after with
  | none, _ => false
  | some b, a =>
    if isBlank b then false
    else match a with
      | none => true
      | some a =>
        if (mark == '*' || (mark == '~' && decide (1 < length))) && !isPunctuation b then true
        else if mark == '~' && b == '~' then true
        else isBlank a || isPunctuation a

/-! ## Brackets -/

/-- An opening bracket that may still begin a link or an image. -/
structure Bracket where
  image : Bool
  /-- A link may begin here. -/
  active : Bool
  /-- The source after the bracket. -/
  source : List Char
  /-- What has been read before it, latest first. -/
  before : List Piece

/-- A scan: open brackets, innermost first, and what has been read since the innermost. -/
structure InlineScan where
  brackets : List Bracket
  pieces : List Piece
  /-- Closing brackets that end no label of their own, by how much source follows them. -/
  spent : List Nat

namespace InlineScan

def add (s : InlineScan) (i : Inline) : InlineScan :=
  { s with pieces := .content i :: s.pieces }

def addText (s : InlineScan) (cs : List Char) : InlineScan :=
  if cs = [] then s else s.add (.text cs)

def openBracket (s : InlineScan) (image : Bool) (source : List Char) : InlineScan :=
  { s with brackets := ⟨image, true, source, s.pieces⟩ :: s.brackets, pieces := [] }

def bracketText (image : Bool) : Piece :=
  .content (.text (if image then ['!', '['] else ['[']))

def closeAsText (s : InlineScan) : InlineScan :=
  match s.brackets with
  | [] => s.addText [']']
  | b :: bs =>
    { s with brackets := bs, pieces := s.pieces ++ bracketText b.image :: b.before }.addText [']']

/-- Makes a link or an image of what stands since the innermost bracket. -/
def closeAsLink (s : InlineScan) (target : LinkTarget) : InlineScan :=
  match s.brackets with
  | [] => s
  | b :: bs =>
    let body := resolveEmphasis s.pieces.reverse
    let node := if b.image then Inline.image target body else .link target body
    let bs := if b.image then bs
      else bs.map fun o ↦ if o.image then o else { o with active := false }
    { s with brackets := bs, pieces := .content node :: b.before }

/-- What a closing bracket refers to when no target in parentheses follows it. -/
inductive Reference where
  /-- A label in brackets follows. -/
  | full (label after : List Char)
  /-- The text itself is the label; empty brackets may follow. -/
  | own (after : List Char)

/-- The reference that a closing bracket with this source behind it makes. -/
def reference (after : List Char) : Reference :=
  match after with
  | '[' :: ']' :: rest => .own rest
  | _ =>
    match label? after with
    | some (label, rest) => .full label rest
    | none => .own after

/-- The text since a bracket as a label, if it is one that ends here. -/
def ownLabel? (b : Bracket) (after : List Char) : Option (List Char) :=
  (label? ('[' :: b.source)).bind fun (label, rest) ↦
    if rest.length = after.length then some label else none

/-- A closing bracket with the source behind it; answers with what is left to be read. -/
def closeBracket (links : LinkTable) (s : InlineScan) (after : List Char) :
    InlineScan × List Char :=
  match s.brackets with
  | [] => (s.closeAsText, after)
  | b :: _ =>
    if !b.image && !b.active then (s.closeAsText, after)
    else match inlineTarget? after with
      | some (target, rest) => (s.closeAsLink target, rest)
      | none =>
        let spent := s.spent.contains after.length
        match reference after with
        | .full label rest =>
          let s := { s with spent := rest.length :: s.spent }
          match links.lookup label with
          | some target => (s.closeAsLink target, rest)
          | none => (s.closeAsText, after)
        | .own rest =>
          if spent then (s.closeAsText, after)
          else match (ownLabel? b after).bind (fun label ↦ links.lookup label) with
            | some target => (s.closeAsLink target, rest)
            | none => (s.closeAsText, after)

def finish (s : InlineScan) : List Piece :=
  (s.brackets.foldl (fun ps b ↦ ps ++ bracketText b.image :: b.before) s.pieces).reverse

end InlineScan

/-! ## The scan -/

def isSpecial (settings : InlineSettings) (c : Char) : Bool :=
  c == '\\' || c == '`' || c == '*' || c == '_' || c == '&' || c == '<' || c == '!' || c == '[' ||
    c == ']' || isSpace c || c == '\n' || (c == '~' && settings.strikethrough)

/-- Reads what begins with `c`, where `before` stands before it and `cs` behind it; answers with
what is left to be read. -/
def readSpecial (settings : InlineSettings) (s : InlineScan) (before : Option Char) (c : Char)
    (cs : List Char) : InlineScan × List Char :=
  if c = '\\' then
    match cs with
    | '\n' :: rest => (s.add .hardBreak, rest.dropWhile isSpace)
    | d :: rest =>
      if isAsciiPunctuation d then (s.addText [d], rest) else (s.addText [c], d :: rest)
    | [] => (s.addText [c], [])
  else if c = '`' then
    let n := (cs.takeWhile (· == '`')).length + 1
    let rest := cs.drop (n - 1)
    match codeSpan? n 0 [] rest with
    | some (body, after) => (s.add (.code (codeText body.reverse)), after)
    | none => (s.addText (List.replicate n '`'), rest)
  else if c = '&' then
    match reference? cs with
    | some (value, rest) => (s.addText value, rest)
    | none => (s.addText [c], cs)
  else if c = '<' then
    match autolink? cs with
    | some (url, rest) => (s.add (.link ⟨url, []⟩ [.text url]), rest)
    | none =>
      match Html.inline? cs with
      | some rest => (s.add (.html (c :: cs.take (cs.length - rest.length))), rest)
      | none => (s.addText [c], cs)
  else if c = '!' then
    match cs with
    | '[' :: rest => (s.openBracket true rest, rest)
    | _ => (s.addText [c], cs)
  else if c = '[' then (s.openBracket false cs, cs)
  else if c = ']' then s.closeBracket settings.links cs
  else if c = '\n' then (s.add .softBreak, cs.dropWhile isSpace)
  else if isSpace c then
    let blanks := c :: cs.takeWhile isSpace
    match cs.dropWhile isSpace with
    | [] => (s, [])
    | '\n' :: rest =>
      (s.add (if 2 ≤ blanks.length then .hardBreak else .softBreak), rest.dropWhile isSpace)
    | rest => (s.addText blanks, rest)
  else
    let n := (cs.takeWhile (· == c)).length + 1
    let rest := cs.drop (n - 1)
    let r : Run := ⟨c, n, runCanOpen c n before rest.head?, runCanClose c n before rest.head?⟩
    if (r.canOpen || r.canClose) && (c != '~' || decide (n ≤ 2)) then
      ({ s with pieces := .run r :: s.pieces }, rest)
    else (s.addText (List.replicate n c), rest)

/-- Scans the rest of a text. Every step leaves less than it was given. -/
def scanInline (settings : InlineSettings) (s : InlineScan) (before : Option Char) :
    List Char → InlineScan
  | [] => s
  | c :: cs =>
    if isSpecial settings c then
      let (s, rest) := readSpecial settings s before c cs
      let read := cs.length - rest.length
      scanInline settings s (if read = 0 then some c else cs[read - 1]?) (cs.drop read)
    else
      let plain := cs.takeWhile fun d ↦ !isSpecial settings d
      scanInline settings (s.addText (c :: plain)) ((c :: plain).getLast?)
        (cs.drop plain.length)
termination_by cs => cs.length
decreasing_by all_goals simp only [List.length_cons, List.length_drop]; omega

def parseInline (settings : InlineSettings) (text : List Char) : List Inline :=
  resolveEmphasis (scanInline settings ⟨[], [], []⟩ none text).finish

end StyleGuide.Markdown
