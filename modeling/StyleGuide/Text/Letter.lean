import StyleGuide.Text.LetterTable
import StyleGuide.Text.FoldTable
import StyleGuide.Text.PunctuationTable
import StyleGuide.Text.UpperTable

/-!
# Character classes

Which characters are letters or digits, blanks, or punctuation, and how a letter is written in
lower and upper case. The ASCII part of each class is spelled out; the rest is read from the tables
of the sibling modules. No locale and no context takes part: a final sigma is lowered like any
other.
-/

namespace StyleGuide.Text

/-- Membership in a list of closed ranges of code points. -/
def inRanges (ranges : List (Nat × Nat)) (n : Nat) : Bool :=
  ranges.any fun r ↦ r.1 ≤ n && n ≤ r.2

def isAlphanumeric (c : Char) : Bool :=
  if c.toNat < 128 then c.isAlphanum else inRanges letterRanges c.toNat

/-- The white space of all scripts: tab to carriage return, space, the next-line control, the
no-break space, and the spaces and separators of general punctuation. -/
def isBlank (c : Char) : Bool :=
  let n := c.toNat
  (9 ≤ n && n ≤ 13) || n == 32 || n == 0x85 || n == 0xA0 || n == 0x1680 ||
    (0x2000 ≤ n && n ≤ 0x200A) || n == 0x2028 || n == 0x2029 || n == 0x202F || n == 0x205F ||
    n == 0x3000

def isPunctuation (c : Char) : Bool :=
  if c.toNat < 128 then 33 ≤ c.toNat && c.toNat < 127 && !c.isAlphanum
  else inRanges punctuationRanges c.toNat

/-- ASCII punctuation, the characters that a backslash can escape in markup. -/
def isAsciiPunctuation (c : Char) : Bool :=
  33 ≤ c.toNat && c.toNat < 127 && !c.isAlphanum

/-- The code point that a run maps `n` to, if the run holds `n`. -/
def CaseRun.otherCase? (r : CaseRun) (n : Nat) : Option Nat :=
  if r.first ≤ n ∧ n < r.first + r.count * r.step ∧ (n - r.first) % r.step = 0 then
    some ((n : Int) + r.offset).toNat
  else none

/-- Lower case of one character. Only the dotted capital I needs two characters. -/
def lower (c : Char) : List Char :=
  if c.toNat < 128 then [c.toLower]
  else if c.toNat = 0x130 then ['i', Char.ofNat 0x307]
  else match lowerRuns.findSome? (·.otherCase? c.toNat) with
    | some n => [Char.ofNat n]
    | none => [c]

def upper (c : Char) : List Char :=
  if c.toNat < 128 then [c.toUpper]
  else match upperRuns.findSome? (·.otherCase? c.toNat) with
    | some n => [Char.ofNat n]
    | none => ((upperExceptions.lookup c.toNat).map (·.map Char.ofNat)).getD [c]

/-- The form in which two texts are compared without regard to case. -/
def fold (c : Char) : List Char :=
  if c.toNat < 128 then [c.toLower]
  else match foldExceptions.lookup c.toNat with
    | some ns => ns.map Char.ofNat
    | none => lower c

def trimStart (cs : List Char) : List Char :=
  cs.dropWhile isBlank

def trimEnd (cs : List Char) : List Char :=
  (cs.reverse.dropWhile isBlank).reverse

def trim (cs : List Char) : List Char :=
  trimEnd (trimStart cs)

/-- What follows `lead` in `cs`, if `cs` begins with it. -/
def stripLead? : List Char → List Char → Option (List Char)
  | [], cs => some cs
  | _ :: _, [] => none
  | l :: ls, c :: cs => if l = c then stripLead? ls cs else none

/-- Whether `cs` begins with `lead`. -/
def startsWith (lead cs : List Char) : Bool :=
  (stripLead? lead cs).isSome

/-- Whether `cs` ends with `tail`. -/
def endsWith (tail cs : List Char) : Bool :=
  (stripLead? tail.reverse cs.reverse).isSome

end StyleGuide.Text
