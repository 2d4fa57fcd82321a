import StyleGuide.Sass.Expr
import StyleGuide.Options

/-!
# Values

What expressions stand for, and how values are written: numbers without superfluous zeros, colours
as they are spelled or the shortest way, quotes with double quotes unless that needs an escape.
Nothing is written for null.
-/

namespace StyleGuide.Sass

/-- What an expression stands for. -/
inductive Value where
  | null
  | number (value : Decimal) (unit : List Char)
  /-- A colour with its spelling; fully transparent without a value. -/
  | color (value : Option Nat) (spelling : List Char)
  /-- Text without quotes. -/
  | word (text : List Char)
  | quoted (text : List Char)
  | list (sep : Separator) (bracketed : Bool) (items : List Value)

/-! ## Writing -/

def quotedChar (quote c : Char) : List Char :=
  if c = quote ∨ c = '\\' then ['\\', c]
  else if c.toNat < 32 ∧ c ≠ '\t' then '\\' :: Nat.toDigits 16 c.toNat ++ [' ']
  else [c]

def quotedText (cs : List Char) : List Char :=
  let quote := if cs.contains '"' && !cs.contains '\'' then '\'' else '"'
  quote :: cs.flatMap (quotedChar quote) ++ [quote]

def Separator.text (sep : Separator) (style : OutputStyle) : List Char :=
  match sep with
  | .comma => if style = .compressed then [','] else [',', ' ']
  | .space => [' ']
  | .slash => ['/']

def colorText (style : OutputStyle) (value : Option Nat) (spelling : List Char) : List Char :=
  match style, value with
  | .expanded, _ => spelling
  | .compressed, some color => shortestColor color
  | .compressed, none => "rgba(0,0,0,0)".toList

mutual

/-- Whether nothing is written for a value. -/
def Value.isBlank : Value → Bool
  | .null => true
  | .word text => text.isEmpty
  | .list _ false items => Value.areBlank items
  | _ => false

/-- Whether nothing is written for any of the values. -/
def Value.areBlank : List Value → Bool
  | [] => true
  | v :: vs => v.isBlank && Value.areBlank vs

end

mutual

/-- A value as it is written; `quotes` says whether quotes are kept. -/
def Value.text (style : OutputStyle) (quotes : Bool) : Value → List Char
  | .null => []
  | .number value unit => value.text (style = .compressed) ++ unit
  | .color value spelling => colorText style value spelling
  | .word text => text
  | .quoted text => if quotes then quotedText text else text
  | .list sep bracketed items =>
    let inner := (sep.text style).intercalate (Value.texts style quotes items)
    if bracketed then '[' :: inner ++ [']'] else inner

def Value.texts (style : OutputStyle) (quotes : Bool) : List Value → List (List Char)
  | [] => []
  | v :: vs =>
    if v.isBlank then Value.texts style quotes vs
    else v.text style quotes :: Value.texts style quotes vs

end

/-! ## Evaluation -/

/-- The variables in sight, those of the innermost block first; the last are global. -/
structure Variables where
  locals : List (List (List Char × Value))
  globals : List (List Char × Value)

namespace Variables

def none : Variables :=
  ⟨[], []⟩

def find? (vars : Variables) (name : List Char) : Option Value :=
  (vars.locals ++ [vars.globals]).findSome? (·.lookup name)

def setIn (block : List (List Char × Value)) (name : List Char) (value : Value) :
    List (List Char × Value) :=
  (name, value) :: block.filter fun e ↦ e.1 != name

/-- Sets a variable in the innermost block that has it, otherwise in the innermost block. -/
def setLocal (name : List Char) (value : Value) :
    List (List (List Char × Value)) → List (List (List Char × Value))
  | [] => []
  | [block] => [setIn block name value]
  | block :: blocks =>
    if (block.lookup name).isSome then setIn block name value :: blocks
    else if blocks.any fun b ↦ (b.lookup name).isSome then block :: setLocal name value blocks
    else setIn block name value :: blocks

/-- Sets a variable. Outside of blocks, or if so asked, it is global. -/
def set (vars : Variables) (name : List Char) (value : Value) (isGlobal : Bool) : Variables :=
  if isGlobal || vars.locals.isEmpty then ⟨vars.locals, setIn vars.globals name value⟩
  else ⟨setLocal name value vars.locals, vars.globals⟩

/-- The variables inside a new block. -/
def enter (vars : Variables) : Variables :=
  ⟨[] :: vars.locals, vars.globals⟩

/-- The variables after the innermost block. -/
def leave (vars : Variables) : Variables :=
  ⟨vars.locals.tail, vars.globals⟩

end Variables

mutual

def Expr.value (style : OutputStyle) (vars : Variables) : Expr → Except Fault Value
  | .null => .ok .null
  | .number value unit => .ok (.number value unit)
  | .color value spelling => .ok (.color value spelling)
  | .reference name =>
    match vars.find? name with
    | some v => .ok v
    | Option.none => .error (.undefinedVariable (String.ofList name))
  | .word pieces => return .word (← Piece.textOf style vars pieces)
  | .quoted pieces => return .quoted (← Piece.textOf style vars pieces)
  | .call name args => do
    let called ← Piece.textOf style vars name
    let values ← Expr.values style vars args
    let inner := ", ".toList.intercalate (Value.texts style true values)
    return .word (called ++ '(' :: inner ++ [')'])
  | .list sep bracketed items => return .list sep bracketed (← Expr.values style vars items)

def Expr.values (style : OutputStyle) (vars : Variables) : List Expr → Except Fault (List Value)
  | [] => .ok []
  | e :: es => do
    let v ← Expr.value style vars e
    return v :: (← Expr.values style vars es)

/-- The text of pieces; what expressions in them stand for loses its quotes. -/
def Piece.textOf (style : OutputStyle) (vars : Variables) :
    List Piece → Except Fault (List Char)
  | [] => .ok []
  | p :: ps => do
    let text ← Piece.text style vars p
    return text ++ (← Piece.textOf style vars ps)

def Piece.text (style : OutputStyle) (vars : Variables) : Piece → Except Fault (List Char)
  | .plain text => .ok text
  | .code e => return (← Expr.value style vars e).text style false

end

end StyleGuide.Sass
