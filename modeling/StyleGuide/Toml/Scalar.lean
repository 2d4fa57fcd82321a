import StyleGuide.Text.Letter
import StyleGuide.Toml.Item

/-!
# Scalars

Which bare words are truth values, integers, floats, or dates and times. Underscores may stand
between two digits, a decimal number has no leading zero, and the fields of dates and times are in
their ranges.
-/

namespace StyleGuide.Toml

def isGrouped (digit : Char → Bool) : List Char → Bool
  | [] => false
  | [c] => digit c
  | c :: '_' :: rest => digit c && isGrouped digit rest
  | c :: rest => digit c && isGrouped digit rest

def isHexDigit (c : Char) : Bool :=
  c.isDigit || ('a' ≤ c.toLower && c.toLower ≤ 'f')

/-- A decimal number without a sign. -/
def isDecimal (cs : List Char) : Bool :=
  isGrouped Char.isDigit cs && (cs.head? != some '0' || cs.length == 1)

/-- A word without its sign. -/
def unsigned (cs : List Char) : List Char :=
  match cs with
  | '+' :: rest => rest
  | '-' :: rest => rest
  | cs => cs

/-- An integer, in one of four bases; only a decimal one may have a sign. -/
def isInteger (cs : List Char) : Bool :=
  match cs with
  | '0' :: 'x' :: rest => isGrouped isHexDigit rest
  | '0' :: 'o' :: rest => isGrouped (fun c ↦ '0' ≤ c && c ≤ '7') rest
  | '0' :: 'b' :: rest => isGrouped (fun c ↦ c == '0' || c == '1') rest
  | cs => isDecimal (unsigned cs)

/-- A text cut at the first character of a kind: what precedes it and, if there is one, what
follows. -/
def cutAt (p : Char → Bool) (cs : List Char) : List Char × Option (List Char) :=
  match cs.dropWhile fun c ↦ !p c with
  | [] => (cs, none)
  | _ :: after => (cs.takeWhile fun c ↦ !p c, some after)

/-- A float: a decimal number with a fraction, an exponent or both, or one of the special values. -/
def isFloat (cs : List Char) : Bool :=
  let word := unsigned cs
  if word = "inf".toList ∨ word = "nan".toList then true
  else
    let (mantissa, exponent) := cutAt (fun c ↦ c == 'e' || c == 'E') word
    let (whole, fraction) := cutAt (· == '.') mantissa
    isDecimal whole && (exponent.isSome || fraction.isSome) &&
      (fraction.map (isGrouped Char.isDigit)).getD true &&
      (exponent.map fun e ↦ isGrouped Char.isDigit (unsigned e)).getD true

/-! ## Dates and times -/

/-- The value of exactly `n` digits at the front, and what follows. -/
def digits? (n : Nat) (cs : List Char) : Option (Nat × List Char) :=
  let ds := cs.take n
  if ds.length = n ∧ ds.all Char.isDigit then
    some (ds.foldl (fun v d ↦ v * 10 + (d.toNat - 48)) 0, cs.drop n)
  else none

/-- A number of two digits that is at most `greatest`. -/
def field? (greatest : Nat) (cs : List Char) : Option (List Char) :=
  match digits? 2 cs with
  | some (n, rest) => if n ≤ greatest then some rest else none
  | none => none

def after? (c : Char) : List Char → Option (List Char)
  | d :: rest => if c = d then some rest else none
  | [] => none

def daysIn (year month : Nat) : Nat :=
  if month = 2 then
    if year % 4 = 0 ∧ (year % 100 ≠ 0 ∨ year % 400 = 0) then 29 else 28
  else if [4, 6, 9, 11].contains month then 30
  else 31

def date? (cs : List Char) : Option (List Char) := do
  let (year, rest) ← digits? 4 cs
  let (month, rest) ← digits? 2 (← after? '-' rest)
  let (day, rest) ← digits? 2 (← after? '-' rest)
  if 1 ≤ month ∧ month ≤ 12 ∧ 1 ≤ day ∧ day ≤ daysIn year month then some rest else none

def time? (cs : List Char) : Option (List Char) := do
  let rest ← field? 59 (← after? ':' (← field? 23 cs))
  match rest with
  | ':' :: rest =>
    match ← field? 60 rest with
    | '.' :: fraction =>
      if (fraction.takeWhile Char.isDigit).isEmpty then none
      else some (fraction.dropWhile Char.isDigit)
    | rest => some rest
  | rest => some rest

/-- Whether a text is a time zone, or nothing. -/
def isZone (cs : List Char) : Bool :=
  match cs with
  | [] => true
  | ['Z'] => true
  | ['z'] => true
  | sign :: rest =>
    (sign == '+' || sign == '-') &&
      ((field? 23 rest).bind fun r ↦ (after? ':' r).bind (field? 59)) == some []

/-- A date, a time, or both with or without a zone. -/
def isMoment (cs : List Char) : Bool :=
  match date? cs with
  | some [] => true
  | some (between :: rest) =>
    (between == 'T' || between == 't' || between == ' ') &&
      ((time? rest).map isZone).getD false
  | none => time? cs == some []

def scalar? (cs : List Char) : Option Scalar :=
  if cs = "true".toList ∨ cs = "false".toList then some .boolean
  else if isInteger cs then some .integer
  else if isFloat cs then some .float
  else if isMoment cs then some .moment
  else none

def isWordChar (c : Char) : Bool :=
  c.isAlphanum || c == '_' || c == '+' || c == '-' || c == '.' || c == ':'

/-- The length of the bare word at the front. A date may go on with a time after a space. -/
def wordLength (cs : List Char) : Nat :=
  let word := cs.takeWhile isWordChar
  match cs.drop word.length with
  | ' ' :: d :: rest =>
    if date? word = some [] ∧ d.isDigit then
      word.length + 1 + ((d :: rest).takeWhile isWordChar).length
    else word.length
  | _ => word.length

end StyleGuide.Toml
