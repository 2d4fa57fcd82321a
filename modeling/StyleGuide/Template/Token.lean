import StyleGuide.Text.Find

/-!
# Template tokens

A template is text with marked places: `{{ … }}` prints a value, `{% … %}` is a statement, `{# … #}`
is a comment, and what stands between the statements `raw` and `endraw` is text. A `-` next to a
marker removes the blanks on that side. One line end at the very end of the template is not part of
it.
-/

namespace StyleGuide.Template

inductive RenderError where
  | malformed
  | badEscape
  | undefinedValue
  | unknownFilter
  | unknownTest
  | unknownFunction
  | unknownMethod
  | missingArgument
  | tooManyArguments
  | invalidOperation
  | cannotUnpack
  | noSuchTemplate
deriving DecidableEq, Repr

inductive Token where
  | text (cs : List Char)
  | openPrint
  | closePrint
  | openStatement
  | closeStatement
  | name (s : String)
  | quoted (cs : List Char)
  | number (n : Nat)
  | sign (s : String)
  /-- What cannot be read; it ends the tokens. -/
  | broken (e : RenderError)
deriving DecidableEq, Repr

/-- Where the reader stands. -/
inductive Place where
  /-- In text, where blanks may have to be skipped first. -/
  | inText (trim : Bool)
  /-- Between markers, inside some brackets. -/
  | inPrint (brackets : Nat)
  | inStatement (brackets : Nat)

def isGap (c : Char) : Bool :=
  c == ' ' || c == '\t' || c == '\n' || c == '\x0c' || c == '\r'

def markerIndex : List Char → Option Nat
  | '{' :: c :: cs =>
    if c = '{' ∨ c = '%' ∨ c = '#' then some 0 else (markerIndex (c :: cs)).map (· + 1)
  | _ :: cs => (markerIndex cs).map (· + 1)
  | [] => none

/-- Drops a sign that controls blanks; the flag says whether blanks are removed. -/
def blankSign : List Char → Bool × List Char
  | '-' :: cs => (true, cs)
  | '+' :: cs => (false, cs)
  | cs => (false, cs)

/-- A bare statement `word` after its opening marker: whether its end removes the blanks after it,
and how many characters it takes. -/
def bareStatement? (word : String) (cs : List Char) : Option (Bool × Nat) :=
  let start := (blankSign cs).2.dropWhile isGap
  match Text.stripLead? word.toList start with
  | none => none
  | some after =>
    let close := blankSign (after.dropWhile isGap)
    (Text.stripLead? ['%', '}'] close.2).map fun rest ↦ (close.1, cs.length - rest.length)

structure RawText where
  textLength : Nat
  /-- Whether the last blanks of the text are removed. -/
  trimBefore : Bool
  /-- Whether the blanks after the statement are removed. -/
  trimAfter : Bool
  /-- The length of text and statement. -/
  length : Nat

def rawText? : List Char → Option RawText
  | [] => none
  | c :: cs =>
    let more := (rawText? cs).map fun r ↦
      { r with textLength := r.textLength + 1, length := r.length + 1 }
    match Text.stripLead? ['{', '%'] (c :: cs) with
    | none => more
    | some inner =>
      match bareStatement? "endraw" inner with
      | some (trim, n) => some ⟨0, (blankSign inner).1, trim, n + 2⟩
      | none => more

def hexValue? (cs : List Char) : Option Nat :=
  cs.foldlM (fun n c ↦
    if c.isDigit then some (n * 16 + (c.toNat - 48))
    else if 'a' ≤ c.toLower ∧ c.toLower ≤ 'f' then some (n * 16 + (c.toLower.toNat - 87))
    else none) 0

def escaped? (c : Char) : Option Char :=
  match c with
  | '"' => some c
  | '\\' => some c
  | '/' => some c
  | '\'' => some c
  | 'b' => some '\x08'
  | 'f' => some '\x0c'
  | 'n' => some '\n'
  | 'r' => some '\r'
  | 't' => some '\t'
  | _ => none

/-- The text that a quoted text stands for; `\u` takes four digits, and two such escapes may make
up one character. -/
def unquote : List Char → Except RenderError (List Char)
  | [] => .ok []
  | '\\' :: 'u' :: a :: b :: c :: d :: cs =>
    match hexValue? [a, b, c, d] with
    | none => .error .badEscape
    | some n =>
      if 0xD800 ≤ n ∧ n < 0xDC00 then
        match cs with
        | '\\' :: 'u' :: e :: f :: g :: h :: rest =>
          match hexValue? [e, f, g, h] with
          | some m =>
            if 0xDC00 ≤ m ∧ m < 0xE000 then do
              let more ← unquote rest
              return Char.ofNat (0x10000 + (n - 0xD800) * 0x400 + (m - 0xDC00)) :: more
            else .error .badEscape
          | none => .error .badEscape
        | _ => .error .badEscape
      else if 0xDC00 ≤ n ∧ n < 0xE000 then .error .badEscape
      else do
        let more ← unquote cs
        return Char.ofNat n :: more
  | '\\' :: c :: cs =>
    match escaped? c with
    | some e => do
      let more ← unquote cs
      return e :: more
    | none => .error .badEscape
  | '\\' :: [] => .error .badEscape
  | c :: cs => do
    let more ← unquote cs
    return c :: more

def quoteIndex (quote : Char) : List Char → Option Nat
  | [] => none
  | '\\' :: [] => none
  | '\\' :: _ :: cs => (quoteIndex quote cs).map (· + 2)
  | c :: cs => if c = quote then some 0 else (quoteIndex quote cs).map (· + 1)

def longSigns : List String := ["//", "**", "==", "!=", ">=", "<="]

def shortSigns : String := "+-*/%.,:~|=><()[]\x7b\x7d"

def bracketsAfter (brackets : Nat) (c : Char) : Nat :=
  if c = '(' ∨ c = '[' ∨ c = '{' then brackets + 1
  else if c = ')' ∨ c = ']' ∨ c = '}' then brackets - 1
  else brackets

def isNameStart (c : Char) : Bool :=
  c == '_' || c.isAlpha

def isNamePart (c : Char) : Bool :=
  c == '_' || c.isAlphanum

/-- A token between markers: the token, how many characters it takes, and whether it may change
the brackets. -/
def expressionToken (c : Char) (cs : List Char) : Token × Nat :=
  if longSigns.contains (String.ofList (c :: cs.take 1)) then
    (.sign (String.ofList (c :: cs.take 1)), 2)
  else if c = '"' ∨ c = '\'' then
    match quoteIndex c cs with
    | none => (.broken .malformed, 1)
    | some n =>
      match unquote (cs.take n) with
      | .ok text => (.quoted text, n + 2)
      | .error e => (.broken e, n + 2)
  else if c.isDigit then
    let digits := c :: cs.takeWhile fun d ↦ d.isDigit || d == '_'
    (.number (digits.foldl (fun n d ↦ if d = '_' then n else n * 10 + (d.toNat - 48)) 0),
      digits.length)
  else if isNameStart c then
    let letters := c :: cs.takeWhile isNamePart
    (.name (String.ofList letters), letters.length)
  else if shortSigns.toList.contains c then (.sign (String.singleton c), 1)
  else (.broken .malformed, 1)

/-- The end of a print or statement: whether the blanks after it are removed, and its length. -/
def closing? (close : List Char) (cs : List Char) : Option (Bool × Nat) :=
  if Text.startsWith close cs then some (false, 2)
  else if Text.startsWith ('-' :: close) cs then some (true, 3)
  else if Text.startsWith ('+' :: close) cs then some (false, 3)
  else none

/-- A text token, unless it is empty. -/
def textToken (cs : List Char) : List Token :=
  if cs.isEmpty then [] else [.text cs]

def openingLength (cs : List Char) : Nat :=
  match cs.drop 2 with
  | '-' :: _ => 3
  | '+' :: _ => 3
  | _ => 2

/-- The rest of the tokens, given where the reader stands. Only text stands at the outermost level,
and a marker that is never closed is broken. -/
def tokensFrom (place : Place) (cs : List Char) : List Token :=
  match place, cs with
  | _, [] => []
  | .inText trim, c :: rest =>
    if trim && Text.isBlank c then tokensFrom (.inText true) rest
    else
      match markerIndex (c :: rest) with
      | none => textToken (c :: rest)
      | some n =>
        let before := (c :: rest).take n
        let marker := (c :: rest).drop n
        let width := openingLength marker
        let trimmed := if (blankSign (marker.drop 2)).1 then Text.trimEnd before else before
        textToken trimmed ++
          match marker.drop 1 with
          | '#' :: inner =>
            match Text.indexOf? ['#', '}'] inner with
            | none => [.broken .malformed]
            | some m =>
              tokensFrom (.inText ((inner.take m).getLast? = some '-')) (rest.drop (n + m + 3))
          | '%' :: inner =>
            match bareStatement? "raw" inner with
            | none => .openStatement :: tokensFrom (.inStatement 0) (rest.drop (n + width - 1))
            | some (trimStart, m) =>
              let body := inner.drop m
              match rawText? body with
              | none => [.broken .malformed]
              | some raw =>
                let text := body.take raw.textLength
                let text := if trimStart then Text.trimStart text else text
                let text := if raw.trimBefore then Text.trimEnd text else text
                textToken text ++
                  tokensFrom (.inText raw.trimAfter) (rest.drop (n + m + raw.length + 1))
          | _ => .openPrint :: tokensFrom (.inPrint 0) (rest.drop (n + width - 1))
  | .inPrint brackets, c :: rest =>
    if isGap c then tokensFrom (.inPrint brackets) rest
    else
      match if brackets = 0 then closing? ['}', '}'] (c :: rest) else none with
      | some (trim, n) => .closePrint :: tokensFrom (.inText trim) (rest.drop (n - 1))
      | none =>
        let t := expressionToken c rest
        match t.1 with
        | .broken e => [.broken e]
        | _ =>
          t.1 :: tokensFrom (.inPrint (bracketsAfter brackets c)) (rest.drop (t.2 - 1))
  | .inStatement brackets, c :: rest =>
    if isGap c then tokensFrom (.inStatement brackets) rest
    else
      match if brackets = 0 then closing? ['%', '}'] (c :: rest) else none with
      | some (trim, n) => .closeStatement :: tokensFrom (.inText trim) (rest.drop (n - 1))
      | none =>
        let t := expressionToken c rest
        match t.1 with
        | .broken e => [.broken e]
        | _ =>
          t.1 :: tokensFrom (.inStatement (bracketsAfter brackets c)) (rest.drop (t.2 - 1))
termination_by cs.length
decreasing_by all_goals simp only [List.length_cons, List.length_drop]; omega

def withoutLastLineEnd (cs : List Char) : List Char :=
  let drop (c : Char) (cs : List Char) := if cs.getLast? = some c then cs.dropLast else cs
  drop '\r' (drop '\n' cs)

def tokens (source : String) : List Token :=
  tokensFrom (.inText false) (withoutLastLineEnd source.toList)

end StyleGuide.Template
