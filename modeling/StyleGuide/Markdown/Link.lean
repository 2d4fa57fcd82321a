import StyleGuide.Markdown.Entity
import StyleGuide.Markdown.Line

/-!
# Links

The parts of links and of link definitions: targets, titles and labels. Labels are compared without
regard to case and with runs of blanks as one. A definition stands at the start of a paragraph and
takes whole lines.
-/

namespace StyleGuide.Markdown

open Text

structure LinkTarget where
  url : List Char
  title : List Char
deriving DecidableEq, Repr

/-- Link definitions by label; the first one of a label counts. -/
abbrev LinkTable := List (List Char × LinkTarget)

/-- How deep parentheses may nest in a link target in running text. -/
def maxParentheses : Nat := 5

/-- The inside of a target in angle brackets, with what follows it. -/
def angledTarget? (acc : List Char) : List Char → Option (List Char × List Char)
  | [] => none
  | c :: cs =>
    if c = '>' then some (acc.reverse, cs)
    else if c = '<' ∨ c = '\n' ∨ c = '\r' then none
    else if c = '\\' then
      match cs with
      | d :: ds =>
        if isAsciiPunctuation d then angledTarget? (d :: c :: acc) ds
        else angledTarget? (c :: acc) (d :: ds)
      | [] => none
    else angledTarget? (c :: acc) cs
termination_by cs => cs.length

/-- A target without brackets, which ends at a blank or an unbalanced parenthesis. -/
def plainTarget? (limit nest : Nat) (acc : List Char) :
    List Char → Option (List Char × List Char)
  | [] => if nest = 0 then some (acc.reverse, []) else none
  | c :: cs =>
    let ended := if nest = 0 then some (acc.reverse, c :: cs) else none
    if c.toNat ≤ 0x20 then ended
    else if c = '(' then
      if limit < nest then none else plainTarget? limit (nest + 1) (c :: acc) cs
    else if c = ')' then
      if nest = 0 then ended else plainTarget? limit (nest - 1) (c :: acc) cs
    else if c = '\\' then
      match cs with
      | d :: ds =>
        if isAsciiPunctuation d then plainTarget? limit nest (d :: c :: acc) ds
        else plainTarget? limit nest (c :: acc) (d :: ds)
      | [] => plainTarget? limit nest (c :: acc) []
    else plainTarget? limit nest (c :: acc) cs
termination_by cs => cs.length

def target? (limit : Nat) (cs : List Char) : Option (List Char × List Char) :=
  match cs with
  | '<' :: rest => angledTarget? [] rest
  | _ => plainTarget? limit 0 [] cs

/-- The closing mark of a title that opens with the given character. -/
def titleClose? (c : Char) : Option Char :=
  if c = '"' ∨ c = '\'' then some c else if c = '(' then some ')' else none

/-- The inside of a title up to its closing mark, as spelled, with what follows it. Blanks at the
start of a line are dropped. -/
def titleBody? (opening close : Char) (acc : List Char) :
    List Char → Option (List Char × List Char)
  | [] => none
  | c :: cs =>
    if c = close then some (acc.reverse, cs)
    else if c = opening then none
    else if c = '\\' then
      match cs with
      | d :: ds =>
        if isAsciiPunctuation d then titleBody? opening close (d :: c :: acc) ds
        else titleBody? opening close (c :: acc) (d :: ds)
      | [] => none
    else if c = '\n' then titleBody? opening close (c :: acc) (cs.dropWhile isSpace)
    else titleBody? opening close (c :: acc) cs
termination_by cs => cs.length
decreasing_by
  all_goals simp only [List.length_cons]
  all_goals try omega
  have := (List.dropWhile_suffix (l := cs) isSpace).length_le
  omega

def title? (cs : List Char) : Option (List Char × List Char) :=
  match cs with
  | c :: rest => (titleClose? c).bind fun close ↦ titleBody? c close [] rest
  | [] => none

def skipSeparator (cs : List Char) : List Char :=
  match cs.dropWhile isSpace with
  | '\n' :: rest => rest.dropWhile isSpace
  | rest => rest

/-- The target and title in parentheses after a link text, with what follows them. -/
def inlineTarget? (cs : List Char) : Option (LinkTarget × List Char) :=
  match cs with
  | '(' :: rest =>
    (target? maxParentheses (skipSeparator rest)).bind fun (url, rest) ↦
      let rest := skipSeparator rest
      let (title, rest) := match title? rest with
        | some (title, rest) => (title, skipSeparator rest)
        | none => ([], rest)
      match rest with
      | ')' :: after => some (⟨unescape url, unescape title⟩, after)
      | _ => none
  | _ => none

/-! ## Labels -/

def normalizeLabel (label : List Char) : List Char :=
  let words := (label.map fun c ↦ if isWhite c then ' ' else c)
  let words := (splitAt ' ' words).filter (· ≠ [])
  ((words.map fun w ↦ w.flatMap fold).intersperse [' ']).flatten

/-- The inside of a label up to its closing bracket, with what follows it. A label is shorter than
a thousand characters and holds no bracket that is not escaped. -/
def labelBody? : (room : Nat) → (acc : List Char) → List Char → Option (List Char × List Char)
  | 0, _, _ => none
  | _ + 1, _, [] => none
  | room + 1, acc, c :: cs =>
    if c = ']' then some (acc.reverse, cs)
    else if c = '[' then none
    else if c = '\\' then
      match cs with
      | d :: ds => labelBody? room (d :: c :: acc) ds
      | [] => none
    else labelBody? room (c :: acc) cs

def label? (cs : List Char) : Option (List Char × List Char) :=
  match cs with
  | '[' :: rest =>
    match labelBody? 1000 [] rest with
    | some (label, after) =>
      if label.all isWhite then none else some (normalizeLabel label, after)
    | none => none
  | _ => none

/-! ## Definitions -/

/-- Blanks and line ends before a part of a definition: what follows them, and how many line ends
there were; none if there is more than one. -/
def definitionSpace? (cs : List Char) : Option (List Char × Nat) :=
  match cs.dropWhile isSpace with
  | '\n' :: rest =>
    match rest.dropWhile isSpace with
    | '\n' :: _ => none
    | rest => some (rest, 1)
  | rest => some (rest, 0)

def lineEnd? (cs : List Char) : Option (List Char) :=
  match cs.dropWhile isSpace with
  | [] => some []
  | '\n' :: rest => some rest
  | _ => none

/-- A definition at the start of a paragraph: its label and target, and what is left of the
paragraph. A title that does not end its line is no title, and then must start on a line of its
own for the definition to hold without it. -/
def definition? (cs : List Char) : Option (List Char × LinkTarget × List Char) := do
  let (label, rest) ← label? cs
  let rest ← match rest with
    | ':' :: rest => some rest
    | _ => none
  let (rest, _) ← definitionSpace? rest
  let (url, afterUrl) ← target? 1 rest
  if afterUrl.length = rest.length then none else
  let bare := (lineEnd? afterUrl).map fun left ↦ (label, LinkTarget.mk (unescape url) [], left)
  match definitionSpace? afterUrl with
  | none => bare
  | some (titleStart, newlines) =>
    if titleStart = [] then bare
    else if titleStart.length = afterUrl.length then none
    else match title? titleStart with
      | none => if newlines = 0 then none else bare
      | some (title, afterTitle) =>
        match lineEnd? afterTitle with
        | some left => some (label, ⟨unescape url, unescape title⟩, left)
        | none => if newlines = 0 then none else bare

end StyleGuide.Markdown
