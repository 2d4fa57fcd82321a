import StyleGuide.Sass.Color
import StyleGuide.Sass.Decimal
import StyleGuide.Sass.Outline

/-!
# Expressions

The right-hand sides of declarations and variables, and the texts with expressions in them that
names, selectors and quotes are. An expression is a list with commas of lists with spaces; a slash
binds tighter than a space. Nothing is computed with numbers: arithmetic is refused.

Reading is by recursive descent, bounded by the length of the text.
-/

namespace StyleGuide.Sass

/-- What stands between the items of a list. -/
inductive Separator where
  | comma
  | space
  | slash
deriving DecidableEq, Repr

mutual

/-- A part of a text: plain, or to be replaced by the value of an expression. -/
inductive Piece where
  | plain (text : List Char)
  | code (e : Expr)

inductive Expr where
  | null
  | number (value : Decimal) (unit : List Char)
  /-- A colour with its spelling; fully transparent without a value. -/
  | color (value : Option Nat) (spelling : List Char)
  | reference (name : List Char)
  | word (pieces : List Piece)
  | quoted (pieces : List Piece)
  | call (name : List Piece) (args : List Expr)
  | list (sep : Separator) (bracketed : Bool) (items : List Expr)

end

abbrev Found (α : Type) := α × List Char

/-! ## Words and numbers -/

/-- Names in which `_` and `-` are the same. -/
def variableName (cs : List Char) : List Char :=
  cs.map fun c ↦ if c = '_' then '-' else c

def consPlain (cs : List Char) (pieces : List Piece) : List Piece :=
  if cs = [] then pieces
  else match pieces with
    | .plain text :: rest => .plain (cs ++ text) :: rest
    | _ => .plain cs :: pieces

def plainText? (pieces : List Piece) : Option (List Char) :=
  pieces.foldlM (fun text p ↦
    match p with
    | .plain more => some (text ++ more)
    | .code _ => none) []

def Expr.ofWord (pieces : List Piece) : Expr :=
  match plainText? pieces with
  | none => .word pieces
  | some text =>
    if text = "null".toList then .null
    else if text.map Char.toLower = "transparent".toList then .color none text
    else match namedColor? text with
      | some value => .color (some value) text
      | none => .word pieces

def takeDigits (cs : List Char) : List Char :=
  cs.takeWhile Char.isDigit

def exponentAt (cs : List Char) : Int × Nat :=
  match cs with
  | c :: rest =>
    let (negative, skipped) : Bool × Nat := match rest with
      | '-' :: _ => (true, 1)
      | '+' :: _ => (false, 1)
      | _ => (false, 0)
    let digits := takeDigits (rest.drop skipped)
    if (c = 'e' ∨ c = 'E') ∧ digits ≠ [] then
      let value := (Decimal.ofDigits digits [] 0).mantissa
      (if negative then -value else value, 1 + skipped + digits.length)
    else (0, 0)
  | [] => (0, 0)

def unitLength (cs : List Char) : Nat :=
  match cs with
  | '%' :: _ => 1
  | '-' :: c :: _ => if isNameStart c then (cs.takeWhile isNameChar).length else 0
  | c :: _ => if isNameStart c then (cs.takeWhile isNameChar).length else 0
  | [] => 0

def number? (cs : List Char) : Option (Found Expr) :=
  let (negative, skipped) : Bool × Nat := match cs with
    | '-' :: _ => (true, 1)
    | '+' :: _ => (false, 1)
    | _ => (false, 0)
  let body := cs.drop skipped
  let whole := takeDigits body
  let afterWhole := body.drop whole.length
  let fraction := match afterWhole with
    | '.' :: rest => takeDigits rest
    | _ => []
  if whole = [] ∧ fraction = [] then none
  else
    let after := afterWhole.drop (if fraction = [] then 0 else fraction.length + 1)
    let (power, powerLength) := exponentAt after
    let value := Decimal.ofDigits whole fraction power
    let rest := after.drop powerLength
    let n := unitLength rest
    some (.number (if negative then value.negate else value) (rest.take n), rest.drop n)

def rawFunctions : List String :=
  ["calc", "clamp", "element", "env", "expression", "max", "min", "url", "var"]

/-- Whether a name begins a function with raw arguments, given what follows its parenthesis. A URL
in quotes is an ordinary argument. -/
def isRawFunction (name : List Char) (args : List Char) : Bool :=
  let lowered := String.ofList (name.map Char.toLower)
  if lowered = "url" then
    match skipSpaces args with
    | '"' :: _ => false
    | '\'' :: _ => false
    | _ => true
  else rawFunctions.contains lowered

/-! ## Operators -/

/-- The refusal of an operator sign between two operands; a sign that belongs to the second operand
is none. -/
def operatorFault? (blankBefore : Bool) (cs : List Char) : Option Fault :=
  match cs with
  | c :: next =>
    let sign := c = '+' ∨ c = '-'
    if sign ∧ (blankBefore = false ∨ next.head?.any isSpace) then
      some (.unsupported "arithmetic")
    else none
  | [] => none

/-- Whether an expression may be divided: only literal operands keep their slash. -/
def Expr.isOperand : Expr → Bool
  | .reference _ => true
  | .call _ _ => true
  | .list _ false _ => true
  | _ => false

/-- Items with their separator; one item stands for itself. -/
def Expr.ofItems (sep : Separator) : List Expr → Expr
  | [e] => e
  | es => .list sep false es

/-- The length of `!important` at the front of a text. -/
def importantLength? (cs : List Char) : Option Nat :=
  match cs with
  | '!' :: rest =>
    let blanks := (rest.takeWhile isSpace).length
    let name := (rest.drop blanks).takeWhile isNameChar
    if name.map Char.toLower = "important".toList then some (1 + blanks + name.length) else none
  | _ => none

def endsItems (cs : List Char) : Bool :=
  match cs with
  | [] => true
  | c :: _ => [',', ')', ']', '}', ':', ';'].contains c ||
    (c == '!' && (importantLength? cs).isNone)

/-- The character of a hexadecimal escape, and its length after the backslash. -/
def codePointAt (cs : List Char) : Option (Char × Nat) :=
  let digits := (cs.takeWhile fun c ↦ (hexDigit? c).isSome).take 6
  if digits = [] then none
  else
    let value : Nat := digits.foldl (fun n c ↦ n * 16 + (hexDigit? c).getD 0) 0
    let blank := if (cs.drop digits.length).head?.any isSpace then 1 else 0
    let c := if value = 0 ∨ 0x110000 ≤ value then Char.ofNat 0xFFFD else Char.ofNat value
    some (c, digits.length + blank)

/-! ## Reading -/

mutual

def readList (fuel : Nat) (cs : List Char) : Except Fault (Found Expr) :=
  match fuel with
  | 0 => .error .endOfSource
  | fuel + 1 => do
    let (first, rest) ← readItems fuel cs
    match skipSpaces rest with
    | ',' :: more =>
      let (others, rest) ← readListTail fuel more
      return (.list .comma false (first :: others), rest)
    | _ => return (first, rest)

/-- The items of a list after a comma; a trailing comma is allowed. -/
def readListTail (fuel : Nat) (cs : List Char) : Except Fault (Found (List Expr)) :=
  match fuel with
  | 0 => .error .endOfSource
  | fuel + 1 => do
    if endsItems (skipSpaces cs) then return ([], cs)
    let (item, rest) ← readItems fuel cs
    match skipSpaces rest with
    | ',' :: more =>
      let (others, rest) ← readListTail fuel more
      return (item :: others, rest)
    | _ => return ([item], rest)

def readItems (fuel : Nat) (cs : List Char) : Except Fault (Found Expr) :=
  match fuel with
  | 0 => .error .endOfSource
  | fuel + 1 => do
    let (first, rest) ← readSlashed fuel (skipSpaces cs)
    let (others, rest) ← readItemsTail fuel rest
    return (Expr.ofItems .space (first :: others), rest)

def readItemsTail (fuel : Nat) (cs : List Char) : Except Fault (Found (List Expr)) :=
  match fuel with
  | 0 => .error .endOfSource
  | fuel + 1 => do
    let start := skipSpaces cs
    if endsItems start then return ([], start)
    if let some fault := operatorFault? (cs.head?.any isSpace) start then throw fault
    let (item, rest) ← readSlashed fuel start
    let (others, rest) ← readItemsTail fuel rest
    return (item :: others, rest)

def readSlashed (fuel : Nat) (cs : List Char) : Except Fault (Found Expr) :=
  match fuel with
  | 0 => .error .endOfSource
  | fuel + 1 => do
    let (first, rest) ← readItem fuel cs
    match skipSpaces rest with
    | '/' :: more =>
      let (second, rest) ← readSlashed fuel (skipSpaces more)
      let items := match second with
        | .list .slash false items => items
        | e => [e]
      if first.isOperand || items.any Expr.isOperand then throw (.unsupported "division")
      return (.list .slash false (first :: items), rest)
    | _ => return (first, rest)

def readItem (fuel : Nat) (cs : List Char) : Except Fault (Found Expr) :=
  match fuel with
  | 0 => .error .endOfSource
  | fuel + 1 =>
    match cs with
    | [] => .error (.expected "expression")
    | '$' :: rest =>
      let name := rest.takeWhile isNameChar
      if name = [] then .error (.expected "identifier")
      else .ok (.reference (variableName name), rest.drop name.length)
    | '(' :: rest => do
      match skipSpaces rest with
      | ')' :: rest => return (.list .space false [], rest)
      | rest =>
        let (e, rest) ← readList fuel rest
        match skipSpaces rest with
        | ')' :: rest => return (e, rest)
        | _ => throw (.expected "\")\"")
    | '[' :: rest => do
      match skipSpaces rest with
      | ']' :: rest => return (.list .space true [], rest)
      | rest =>
        let (e, rest) ← readList fuel rest
        match skipSpaces rest with
        | ']' :: rest =>
          match e with
          | .list sep false items => return (.list sep true items, rest)
          | e => return (.list .space true [e], rest)
        | _ => throw (.expected "\"]\"")
    | '"' :: rest => do
      let (pieces, rest) ← readQuoted fuel '"' rest
      return (.quoted pieces, rest)
    | '\'' :: rest => do
      let (pieces, rest) ← readQuoted fuel '\'' rest
      return (.quoted pieces, rest)
    | '!' :: rest =>
      match importantLength? cs with
      | some n => .ok (.word [.plain "!important".toList], rest.drop (n - 1))
      | none => .error (.expected "expression")
    | c :: rest =>
      if c = '#' ∧ rest.head? ≠ some '\x7b' then
        let digits := rest.takeWhile isNameChar
        match hexColor? digits with
        | some value => .ok (.color (some value) ('#' :: digits), rest.drop digits.length)
        | none => .error (.expected "hex digit")
      else match number? cs with
        | some found => .ok found
        | none => do
          let (pieces, rest) ← readWord fuel cs
          match pieces, rest with
          | [], _ => throw (.expected "expression")
          | pieces, '(' :: args =>
            if isRawFunction ((plainText? pieces).getD []) args then
              let (inner, rest) ← readRaw fuel 0 args
              return (.word (pieces ++ consPlain ['('] inner), rest)
            else
              let (args, rest) ← readListTail fuel args
              match skipSpaces rest with
              | ')' :: rest => return (.call pieces args, rest)
              | _ => throw (.expected "\")\"")
          | pieces, rest =>
            match plainText? pieces with
            | some ['a', 'n', 'd'] => throw (.unsupported "and")
            | some ['o', 'r'] => throw (.unsupported "or")
            | some ['n', 'o', 't'] => throw (.unsupported "not")
            | some ['-'] => throw (.unsupported "arithmetic")
            | _ => return (Expr.ofWord pieces, rest)

/-- A word: name characters, escapes and interpolations. -/
def readWord (fuel : Nat) (cs : List Char) : Except Fault (Found (List Piece)) :=
  match fuel with
  | 0 => .error .endOfSource
  | fuel + 1 =>
    match cs with
    | '#' :: '\x7b' :: rest => do
      let (e, rest) ← readInterpolation fuel rest
      let (pieces, rest) ← readWord fuel rest
      return (.code e :: pieces, rest)
    | '\\' :: c :: rest => do
      let (pieces, rest) ← readWord fuel rest
      return (consPlain ['\\', c] pieces, rest)
    | c :: rest =>
      if isNameChar c then do
        let (pieces, rest) ← readWord fuel rest
        return (consPlain [c] pieces, rest)
      else .ok ([], cs)
    | [] => .ok ([], [])

def readInterpolation (fuel : Nat) (cs : List Char) : Except Fault (Found Expr) :=
  match fuel with
  | 0 => .error .endOfSource
  | fuel + 1 => do
    let (e, rest) ← readList fuel cs
    match skipSpaces rest with
    | '}' :: rest => return (e, rest)
    | _ => throw (.expected "a closing brace")

def readQuoted (fuel : Nat) (quote : Char) (cs : List Char) : Except Fault (Found (List Piece)) :=
  match fuel with
  | 0 => .error .endOfSource
  | fuel + 1 =>
    match cs with
    | [] => .error .endOfSource
    | '\\' :: '\n' :: rest => readQuoted fuel quote rest
    | '\\' :: rest => do
      let (c, n) := (codePointAt rest).getD ((rest.head?).getD '\\', 1)
      let (pieces, rest) ← readQuoted fuel quote (rest.drop n)
      return (consPlain [c] pieces, rest)
    | '#' :: '\x7b' :: rest => do
      let (e, rest) ← readInterpolation fuel rest
      let (pieces, rest) ← readQuoted fuel quote rest
      return (.code e :: pieces, rest)
    | c :: rest =>
      if c = quote then .ok ([], rest)
      else do
        let (pieces, rest) ← readQuoted fuel quote rest
        return (consPlain [c] pieces, rest)

/-- Text up to the parenthesis that closes it, which is part of it. -/
def readRaw (fuel depth : Nat) (cs : List Char) : Except Fault (Found (List Piece)) :=
  match fuel with
  | 0 => .error .endOfSource
  | fuel + 1 =>
    match cs with
    | [] => .error .endOfSource
    | '#' :: '\x7b' :: rest => do
      let (e, rest) ← readInterpolation fuel rest
      let (pieces, rest) ← readRaw fuel depth rest
      return (.code e :: pieces, rest)
    | '\\' :: c :: rest => do
      let (pieces, rest) ← readRaw fuel depth rest
      return (consPlain ['\\', c] pieces, rest)
    | '$' :: rest => do
      let name := rest.takeWhile isNameChar
      let (pieces, rest) ← readRaw fuel depth (rest.drop name.length)
      return (.code (.reference (variableName name)) :: pieces, rest)
    | c :: rest =>
      if c = ')' ∧ depth = 0 then .ok ([.plain [c]], rest)
      else do
        let inner := if c = '(' then depth + 1 else if c = ')' then depth - 1 else depth
        let (pieces, rest) ← readRaw fuel inner rest
        return (consPlain [c] pieces, rest)

def readPieces (fuel : Nat) (cs : List Char) : Except Fault (List Piece) :=
  match fuel with
  | 0 => .error .endOfSource
  | fuel + 1 =>
    match cs with
    | [] => .ok []
    | '\\' :: c :: rest => return consPlain ['\\', c] (← readPieces fuel rest)
    | '#' :: '\x7b' :: rest => do
      let (e, rest) ← readInterpolation fuel rest
      return .code e :: (← readPieces fuel rest)
    | c :: rest => return consPlain [c] (← readPieces fuel rest)

end

/-- Fuel that suffices for a text: no reader calls more than seven others before it reads a
character. -/
def readingFuel (cs : List Char) : Nat :=
  8 * (cs.length + 1)

def Expr.read (cs : List Char) : Except Fault (Found Expr) := do
  let (e, rest) ← readList (readingFuel cs) cs
  return (e, skipSpaces rest)

def Expr.ofText (cs : List Char) : Except Fault Expr := do
  match ← Expr.read cs with
  | (e, []) => return e
  | (_, c :: _) => throw (.unexpected c)

def piecesOf (cs : List Char) : Except Fault (List Piece) :=
  readPieces (readingFuel cs) cs

end StyleGuide.Sass
