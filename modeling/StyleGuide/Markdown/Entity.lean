import StyleGuide.Markdown.NamedCharacter
import StyleGuide.Text.Split
import StyleGuide.Text.Letter

/-!
# Character references

`&name;`, `&#10;` and `&#xA;` stand for characters. A number that is no character stands for the
replacement character; a name must be one that HTML knows. Backslash escapes and references are
undone together in link targets and info texts.
-/

namespace StyleGuide.Markdown

def digitValue? (base : Nat) (c : Char) : Option Nat :=
  let v := if c.isDigit then some (c.toNat - 48)
    else if 'a' ≤ c ∧ c ≤ 'f' then some (c.toNat - 87)
    else if 'A' ≤ c ∧ c ≤ 'F' then some (c.toNat - 55)
    else none
  v.filter (· < base)

/-- The number that leading digits write, at most `limit` of them, with what follows. -/
def readNumber (base : Nat) : (limit value : Nat) → List Char → Nat × List Char
  | 0, value, cs => (value, cs)
  | _ + 1, value, [] => (value, [])
  | limit + 1, value, c :: cs =>
    match digitValue? base c with
    | some d => readNumber base limit (value * base + d) cs
    | none => (value, c :: cs)

/-- The character of a code point; the replacement character if there is none. -/
def characterOf (n : Nat) : Char :=
  if n ≠ 0 ∧ n.isValidChar then Char.ofNat n else Char.ofNat 0xFFFD

/-- A name with the characters it means, from an entry `name:hex+hex`. -/
def parseNamed (entry : List Char) : List Char × List Char :=
  match Text.splitAt ':' entry with
  | [name, codes] =>
    (name, (Text.splitAt '+' codes).map fun code ↦ characterOf (readNumber 16 6 0 code).1)
  | _ => (entry, [])

def namedCharacters : List (List Char × List Char) :=
  namedCharacterTexts.flatMap fun part ↦ (Text.splitAt ' ' part.toList).map parseNamed

def named? (name : List Char) : Option (List Char) :=
  if name = [] then none
  else (namedCharacters.find? fun e ↦ e.1 == name).map (·.2)

/-- The reference that follows an ampersand: what it stands for, and what follows it. -/
def reference? (cs : List Char) : Option (List Char × List Char) :=
  let closed (value : List Char) (rest : List Char) :=
    match rest with
    | ';' :: rest => some (value, rest)
    | _ => none
  let numeric (base limit : Nat) (digits : List Char) :=
    let (value, rest) := readNumber base limit 0 digits
    if rest.length = digits.length then none else closed [characterOf value] rest
  match cs with
  | '#' :: 'x' :: digits => numeric 16 6 digits
  | '#' :: 'X' :: digits => numeric 16 6 digits
  | '#' :: digits => numeric 10 7 digits
  | _ =>
    let name := cs.takeWhile Char.isAlphanum
    match cs.drop name.length with
    | ';' :: rest => (named? name).map (·, rest)
    | _ => none

def unescape : List Char → List Char
  | [] => []
  | c :: cs =>
    if c = '\\' then
      match cs with
      | d :: ds => if Text.isAsciiPunctuation d then d :: unescape ds else c :: unescape (d :: ds)
      | [] => [c]
    else if c = '&' then
      match reference? cs with
      | some (value, rest) => value ++ unescape (cs.drop (cs.length - rest.length))
      | none => c :: unescape cs
    else c :: unescape cs
termination_by cs => cs.length
decreasing_by all_goals simp only [List.length_cons, List.length_drop]; omega

end StyleGuide.Markdown
