import StyleGuide.Text.Letter

/-!
# Quoted texts

The four ways to write a text: between double quotes with escapes, between single quotes without,
and both in triple form over several lines. A line end right after the opening of a triple form is
not part of the text. Control characters other than the tab are refused.
-/

namespace StyleGuide.Toml

def isPlain (c : Char) : Bool :=
  c == '\t' || (' ' ≤ c && c != '\x7f')

def hexNumber? (cs : List Char) : Option Nat :=
  cs.foldlM (fun n c ↦
    if c.isDigit then some (n * 16 + (c.toNat - 48))
    else if 'a' ≤ c.toLower ∧ c.toLower ≤ 'f' then some (n * 16 + (c.toLower.toNat - 87))
    else none) 0

/-- The character of exactly `n` hexadecimal digits. -/
def hexChar? (n : Nat) (cs : List Char) : Option Char :=
  if (cs.take n).length = n then
    match hexNumber? (cs.take n) with
    | some v => if v < 0xD800 ∨ (0xE000 ≤ v ∧ v < 0x110000) then some (Char.ofNat v) else none
    | none => none
  else none

/-- The character that an escape stands for, and the length of the escape after its backslash. -/
def escape? : List Char → Option (Char × Nat)
  | 'b' :: _ => some ('\x08', 1)
  | 't' :: _ => some ('\t', 1)
  | 'n' :: _ => some ('\n', 1)
  | 'f' :: _ => some ('\x0c', 1)
  | 'r' :: _ => some ('\r', 1)
  | 'e' :: _ => some ('\x1b', 1)
  | '"' :: _ => some ('"', 1)
  | '\\' :: _ => some ('\\', 1)
  | 'x' :: cs => (hexChar? 2 cs).map fun c ↦ (c, 3)
  | 'u' :: cs => (hexChar? 4 cs).map fun c ↦ (c, 5)
  | 'U' :: cs => (hexChar? 8 cs).map fun c ↦ (c, 9)
  | _ => none

/-- Text between double quotes, after the opening one: the text and what follows it. -/
def basic? : List Char → Option (List Char × List Char)
  | [] => none
  | c :: cs =>
    if c = '"' then some ([], cs)
    else if c = '\\' then
      match escape? cs with
      | some (e, n) => (basic? (cs.drop n)).map fun r ↦ (e :: r.1, r.2)
      | none => none
    else if isPlain c then (basic? cs).map fun r ↦ (c :: r.1, r.2)
    else none
termination_by cs => cs.length
decreasing_by all_goals simp only [List.length_cons, List.length_drop]; omega

/-- Text between single quotes, after the opening one: the text and what follows it. -/
def literal? : List Char → Option (List Char × List Char)
  | [] => none
  | c :: cs =>
    if c = '\'' then some ([], cs)
    else if isPlain c then (literal? cs).map fun r ↦ (c :: r.1, r.2)
    else none

/-- The length of the line end at the front; 0 if there is none. -/
def lineEndLength : List Char → Nat
  | '\n' :: _ => 1
  | '\r' :: '\n' :: _ => 2
  | _ => 0

/-- The number of quotes at the front, if they close a triple form. Up to two of them may still
belong to the text. -/
def closingQuotes (quote : Char) (cs : List Char) : Option Nat :=
  let n := ((cs.take 5).takeWhile (· == quote)).length
  if 3 ≤ n then some n else none

/-- The length of the blanks and line ends that an escaped line end skips; 0 if the rest of the
line is not blank. -/
def skippedLength (cs : List Char) : Nat :=
  let blank (c : Char) := c == ' ' || c == '\t'
  let gap := (cs.takeWhile blank).length
  if lineEndLength (cs.drop gap) = 0 then 0
  else (cs.takeWhile fun c ↦ blank c || c == '\n' || c == '\r').length

def longBasic? : List Char → Option (List Char × List Char)
  | [] => none
  | c :: cs =>
    match closingQuotes '"' (c :: cs) with
    | some n => some (List.replicate (n - 3) '"', (c :: cs).drop n)
    | none =>
      if c = '\\' then
        if skippedLength cs = 0 then
          match escape? cs with
          | some (e, n) => (longBasic? (cs.drop n)).map fun r ↦ (e :: r.1, r.2)
          | none => none
        else longBasic? (cs.drop (skippedLength cs))
      else if lineEndLength (c :: cs) = 0 then
        if isPlain c then (longBasic? cs).map fun r ↦ (c :: r.1, r.2) else none
      else (longBasic? (cs.drop (lineEndLength (c :: cs) - 1))).map fun r ↦ ('\n' :: r.1, r.2)
termination_by cs => cs.length
decreasing_by all_goals simp only [List.length_cons, List.length_drop]; omega

def longLiteral? : List Char → Option (List Char × List Char)
  | [] => none
  | c :: cs =>
    match closingQuotes '\'' (c :: cs) with
    | some n => some (List.replicate (n - 3) '\'', (c :: cs).drop n)
    | none =>
      if lineEndLength (c :: cs) = 0 then
        if isPlain c then (longLiteral? cs).map fun r ↦ (c :: r.1, r.2) else none
      else (longLiteral? (cs.drop (lineEndLength (c :: cs) - 1))).map fun r ↦ ('\n' :: r.1, r.2)
termination_by cs => cs.length
decreasing_by all_goals simp only [List.length_cons, List.length_drop]; omega

/-- A quoted text of any form: the text and what follows it. -/
def quoted? (cs : List Char) : Option (List Char × List Char) :=
  match cs with
  | '"' :: '"' :: '"' :: rest => longBasic? (rest.drop (lineEndLength rest))
  | '\'' :: '\'' :: '\'' :: rest => longLiteral? (rest.drop (lineEndLength rest))
  | '"' :: rest => basic? rest
  | '\'' :: rest => literal? rest
  | _ => none

end StyleGuide.Toml
