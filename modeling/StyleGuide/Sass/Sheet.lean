import StyleGuide.Sass.Indentation
import StyleGuide.Sass.MediaQuery

/-!
# Sheets

The statements of a sheet. `statementsOf` understands an outline: the head of a statement begins
with `$`, with `@`, or is a declaration or a selector, and where it stands decides between the last
two. Definitions of mixins and functions are skipped, for nothing can call them.
-/

namespace StyleGuide.Sass

inductive Statement where
  | comment (text : List Piece)
  | assign (name : List Char) (value : Expr) (isDefault isGlobal : Bool)
  | declare (name : List Piece) (value : Expr)
  /-- A property whose value is kept as it is written. -/
  | custom (name text : List Piece)
  /-- Declarations whose names begin with the same name. -/
  | family (name : List Piece) (value : Option Expr) (body : List Statement)
  | rule (selector : List Piece) (body : List Statement)
  | media (queries : List Piece) (body : List Statement)
  /-- An import that is left to the reader of the output. -/
  | plainImport (text : List Piece)
  | sheetImport (url : List Char)
  /-- A message; a fatal one ends the compilation. -/
  | report (fatal : Bool) (message : Expr)
  | atRule (name : List Char) (params : List Piece) (body : Option (List Statement))

/-- What encloses a statement. Media queries do not count. -/
inductive Place where
  | root
  | rule
  | atRule
deriving DecidableEq

/-! ## Declarations -/

/-- The length of a name with escapes and interpolations; `fuel` bounds the steps. -/
def spanOfName (fuel : Nat) (cs : List Char) : Nat :=
  match fuel, cs with
  | fuel + 1, '#' :: '\x7b' :: rest =>
    match Selector.closedLength? '{' '}' 0 rest with
    | some n => 2 + n + spanOfName fuel (rest.drop n)
    | none => 0
  | fuel + 1, '\\' :: _ :: rest => 2 + spanOfName fuel rest
  | fuel + 1, c :: rest => if isNameChar c then 1 + spanOfName fuel rest else 0
  | _, _ => 0

/-- A head cut at the colon of a declaration: the name and what follows the colon. -/
def declaration? (head : List Char) : Option (List Char × List Char) :=
  let lead := match head with
    | '*' :: _ => 1
    | _ => 0
  let n := lead + spanOfName head.length (head.drop lead)
  match skipSpaces (head.drop n) with
  | ':' :: rest => if n = lead then none else some (head.take n, rest)
  | _ => none

def declaration (name value : List Char) : Except Fault Statement := do
  let pieces ← piecesOf name
  if Text.startsWith ['-', '-'] name then return .custom pieces (← piecesOf value)
  else return .declare pieces (← Expr.ofText value)

/-- The flags behind the value of a variable: default and global. -/
def flags (fuel : Nat) (cs : List Char) : Except Fault (Bool × Bool) :=
  match fuel, skipSpaces cs with
  | _, [] => .ok (false, false)
  | 0, c :: _ => .error (.unexpected c)
  | fuel + 1, c :: rest => do
    let name := rest.takeWhile isNameChar
    let (isDefault, isGlobal) ← flags fuel (rest.drop name.length)
    if c = '!' ∧ name = "default".toList then return (true, isGlobal)
    else if c = '!' ∧ name = "global".toList then return (isDefault, true)
    else throw (.unexpected c)

/-- The assignment of a variable, after its `$`. -/
def assignment (cs : List Char) : Except Fault Statement := do
  let name := cs.takeWhile isNameChar
  match name, skipSpaces (cs.drop name.length) with
  | [], _ => throw (.expected "identifier")
  | _, ':' :: rest =>
    let (value, rest) ← Expr.read rest
    let (isDefault, isGlobal) ← flags rest.length rest
    return .assign (variableName name) value isDefault isGlobal
  | _, _ => throw (.expected "\":\"")

/-! ## Imports -/

def isPlainUrl (url : List Char) : Bool :=
  let lowered := url.map Char.toLower
  5 ≤ (String.ofList url).utf8ByteSize &&
    (Text.endsWith ".css".toList lowered || Text.startsWith "http://".toList lowered ||
      Text.startsWith "https://".toList lowered || Text.startsWith "//".toList lowered)

def quotedLength? (quote : Char) : List Char → Option Nat
  | [] => none
  | '\\' :: _ :: cs => (quotedLength? quote cs).map (· + 2)
  | c :: cs => if c = quote then some 1 else (quotedLength? quote cs).map (· + 1)

/-- The import of one argument; none if the text is only a continuation of the one before. -/
def importArgument? (d : Dialect) (arg : List Char) : Except Fault (Option Statement) := do
  let plain (text : List Char) : Except Fault (Option Statement) := do
    return some (.plainImport (← piecesOf text))
  match arg with
  | [] => throw (.expected "string")
  | q :: rest =>
    if q = '"' ∨ q = '\'' then
      match quotedLength? q rest with
      | none => throw .endOfSource
      | some n =>
        let (pieces, _) ← readQuoted (readingFuel rest) q rest
        let url := (plainText? pieces).getD (rest.take (n - 1))
        if d = .css ∨ isPlainUrl url ∨ trimSpaces (rest.drop n) ≠ [] then plain arg
        else return some (.sheetImport url)
    else if Text.startsWith "url(".toList (arg.map Char.toLower) then plain arg
    else if d = .indented then
      if isPlainUrl arg then plain ('"' :: arg ++ ['"']) else return some (.sheetImport arg)
    else return none

/-- The imports of arguments. A part that is no argument continues the conditions of the import
before it. -/
def imports (d : Dialect) (cs : List Char) : Except Fault (List Statement) :=
  ((Selector.splitCommas [] cs).map trimSpaces).foldlM (fun found arg ↦ do
    match ← importArgument? d arg with
    | some statement => return found ++ [statement]
    | none =>
      match found.reverse with
      | .plainImport text :: before =>
        return before.reverse ++ [.plainImport (text ++ .plain [',', ' '] :: (← piecesOf arg))]
      | _ => throw (.expected "string")) []

/-! ## Statements -/

/-- Statements that are refused because they call for a computation. -/
def refusedRules : List String :=
  ["include", "extend", "if", "else", "for", "each", "while", "return", "use", "forward",
    "at-root", "content"]

def definingRules : List String :=
  ["mixin", "function"]

/-- The name of an at-rule and what follows it; none for other heads. -/
def atRule? (head : List Char) : Option (List Char × List Char) :=
  match head with
  | '@' :: rest =>
    let name := rest.takeWhile isNameChar
    some (name, trimSpaces (rest.drop name.length))
  | _ => none

mutual

def Outline.hasImport : Outline → Bool
  | .comment _ => false
  | .line head => (atRule? head).any (·.1 == "import".toList)
  | .block _ body => Outline.haveImport body

def Outline.haveImport : List Outline → Bool
  | [] => false
  | o :: os => o.hasImport || Outline.haveImport os

end

def atLine (d : Dialect) (name rest : List Char) : Except Fault (List Statement) := do
  let text := String.ofList name
  if text = "import" then imports d rest
  else if text = "charset" then return []
  else if text = "error" ∨ text = "warn" ∨ text = "debug" then
    if d = .css then throw (.unsupported text)
    return [.report (text = "error") (← Expr.ofText rest)]
  else if refusedRules.contains text ∨ name = [] then throw (.unsupported text)
  else if text = "media" ∨ definingRules.contains text then throw (.expected "a block")
  else return [.atRule name (← piecesOf rest) none]

def lineStatements (d : Dialect) (place : Place) (head : List Char) :
    Except Fault (List Statement) := do
  match head, atRule? head with
  | '$' :: rest, _ => if d = .css then throw (.unexpected '$') else return [← assignment rest]
  | _, some (name, rest) => atLine d name rest
  | _, none =>
    match (if place = .root then none else declaration? head) with
    | some (name, value) => return [← declaration name value]
    | none =>
      if d = .indented then return [.rule (← piecesOf head) []]
      else throw (.expected "a block")

/-- Whether a block with the given head holds declarations with a common name. -/
def family? (place : Place) (head : List Char) : Option (List Char × List Char) :=
  match (if place = .root then none else declaration? head) with
  | some (name, rest) =>
    if rest.head?.all isSpace && !Text.startsWith ['-', '-'] name then some (name, rest) else none
  | none => none

mutual

def statementsOfItem (d : Dialect) (place : Place) : Outline → Except Fault (List Statement)
  | .comment text => do
    if d = .css then return [.comment [.plain text]] else return [.comment (← piecesOf text)]
  | .line head => do
    match atRule? head with
    | some (name, rest) =>
      if d = .indented ∧ name = "media".toList then return [.media (← MediaQuery.pieces rest) []]
      else lineStatements d place head
    | none => lineStatements d place head
  | .block head body => do
    match atRule? head with
    | some (name, rest) =>
      let text := String.ofList name
      if definingRules.contains text ∧ d ≠ .css then
        if Outline.haveImport body then throw .misplacedImport else return []
      else if text = "media" then
        return [.media (← MediaQuery.pieces rest) (← statementsOf d place body)]
      else if refusedRules.contains text ∨ definingRules.contains text ∨ name = [] then
        throw (.unsupported text)
      else
        return [.atRule name (← piecesOf rest) (some (← statementsOf d .atRule body))]
    | none =>
      if head = [] then throw (.expected "selector")
      else match family? place head with
        | some (name, value) =>
          let value ← if trimSpaces value = [] then pure none else some <$> Expr.ofText value
          return [.family (← piecesOf name) value (← statementsOf d .rule body)]
        | none =>
          if d = .css ∧ place = .rule then throw (.unexpected '\x7b')
          else return [.rule (← piecesOf head) (← statementsOf d .rule body)]

def statementsOf (d : Dialect) (place : Place) : List Outline → Except Fault (List Statement)
  | [] => .ok []
  | o :: os => do
    let statements ← statementsOfItem d place o
    return statements ++ (← statementsOf d place os)

end

def Statement.ofSource (d : Dialect) (source : String) : Except Fault (List Statement) := do
  statementsOf d .root (← Outline.ofSource d source.toList)

end StyleGuide.Sass
