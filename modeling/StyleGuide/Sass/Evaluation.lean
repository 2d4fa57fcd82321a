import StyleGuide.Imports.Scan
import StyleGuide.Sass.Css
import StyleGuide.Sass.Lookup
import StyleGuide.Sass.Sheet
import StyleGuide.Sass.Value

/-!
# Evaluation

What the statements of a sheet put out. A rule inside a rule stands beside it in the output, with
both selectors in one; media queries inside a rule take the rule in; and media queries whose
conditions can be merged with those around them leave them. An import puts out what the imported
sheet does, in its place. The sheets being evaluated form a chain without repetitions, so
evaluation ends.
-/

namespace StyleGuide.Sass

/-- Where a node goes, seen from the block that it is put out in. -/
inductive Reach where
  /-- In front of everything. -/
  | front
  /-- Into the rule itself. -/
  | inside
  /-- Beside the rule, in the block that the rule stands in. -/
  | beside
  /-- Beside the media queries around the rule. -/
  | beyond
deriving DecidableEq

/-- A node that is put out. -/
structure Emitted where
  node : CssNode
  reach : Reach
  /-- Whether a group of rules ends with the node. -/
  isClosed : Bool

namespace Emitted

def inside (node : CssNode) : Emitted := ⟨node, .inside, false⟩

def beside (node : CssNode) : Emitted := ⟨node, .beside, false⟩

def own (found : List Emitted) : List CssNode :=
  (found.filter (·.reach = .inside)).map (·.node)

/-- The nodes that do not. -/
def others (found : List Emitted) : List Emitted :=
  found.filter (·.reach ≠ .inside)

def closed (found : List Emitted) : List Emitted :=
  match found.reverse.span (·.reach ≠ .beside) with
  | (after, last :: before) => before.reverse ++ { last with isClosed := true } :: after.reverse
  | (_, []) => found

/-- A block of media queries for what it holds, and what goes beyond it. The block is left before
every node that goes beyond, and entered again behind it. -/
def inMedia (queries : List MediaQuery) (reach : Reach) (found : List Emitted) : List Emitted :=
  let block (held : List CssNode) : Emitted := ⟨.media queries held.reverse, reach, false⟩
  let (held, left) := found.foldl (fun (held, left) (e : Emitted) ↦
    if e.reach = .beyond then ([], left ++ [block held, { e with reach := reach }])
    else (e.node :: held, left)) (([] : List CssNode), ([] : List Emitted))
  left ++ [block held]

end Emitted

structure Enclosure where
  /-- The selector of the rule around. -/
  selector : Option Selector
  /-- The queries of the media block around. -/
  media : Option (List MediaQuery)
  /-- Whether rules are the stages of an animation. -/
  inStages : Bool
  /-- Whether any block is around. -/
  inBlock : Bool
  /-- What the names of declarations begin with. -/
  family : List Char

def Enclosure.none : Enclosure :=
  ⟨Option.none, Option.none, false, false, []⟩

/-- What an evaluation is set up with. -/
structure Settings where
  loadPaths : List Path
  style : OutputStyle

def Enclosure.fullName (e : Enclosure) (name : List Char) : List Char :=
  if e.family = [] then name else e.family ++ '-' :: name

/-- The name of an at-rule without the mark of a vendor. -/
def unvendored (name : List Char) : List Char :=
  match name with
  | '-' :: rest =>
    match rest.dropWhile (· != '-') with
    | '-' :: base => base
    | _ => name
  | _ => name

def declarationNode (style : OutputStyle) (name : List Char) (value : Value) : List Emitted :=
  if value.isBlank then [] else [.inside (.declaration name (value.text style true))]

def readSheet (fs : FileSystem) (p : Path) : Except Fault (List Statement) := do
  match fs.read p with
  | .error cause => throw (.unreadable p cause)
  | .ok bytes =>
    match String.fromUTF8? bytes with
    | some source => Statement.ofSource (.ofPath p) source
    | none => throw (.unreadable p .notText)

/-- Gives a rule its selector and body, with what leaves the rule behind it. -/
def ruleNodes (selector : Selector) (found : List Emitted) : List Emitted :=
  .beside (.rule selector (Emitted.own found)) :: Emitted.others found

def Enclosure.content (e : Enclosure) (found : List Emitted) : List Emitted :=
  match e.selector with
  | some selector => if e.inStages then found else ruleNodes selector found
  | Option.none => found

/-- What statements put out, and the variables after them. `file` is the sheet that they stand in,
and `active` the canonical paths of the sheets being evaluated. -/
def evaluate (fs : FileSystem) (settings : Settings) (chain : Imports.Chain fs)
    (active : List Path) (file : Path) (e : Enclosure) (vars : Variables) :
    List Statement → Except Fault (List Emitted × Variables)
  | [] => .ok ([], vars)
  | s :: rest => do
    let style := settings.style
    let (found, vars) ← match s with
      | .comment text =>
        pure ([.inside (.comment (← Piece.textOf style vars text))], vars)
      | .assign name value isDefault isGlobal =>
        let known := match (if isGlobal then vars.globals.lookup name else vars.find? name) with
          | Option.none => false
          | some .null => false
          | some _ => true
        if isDefault && known then pure ([], vars)
        else pure ([], vars.set name (← value.value style vars) isGlobal)
      | .declare name value =>
        let name := e.fullName (← Piece.textOf style vars name)
        pure (declarationNode style name (← value.value style vars), vars)
      | .custom name text =>
        let name := e.fullName (← Piece.textOf style vars name)
        pure ([.inside (.custom name (← Piece.textOf style vars text))], vars)
      | .family name value body =>
        let name := e.fullName (← Piece.textOf style vars name)
        let own ← match value with
          | some value => pure (declarationNode style name (← value.value style vars))
          | Option.none => pure []
        let (found, inner) ← evaluate fs settings chain active file { e with family := name }
          vars.enter body
        pure (own ++ found, inner.leave)
      | .rule selector body =>
        let text ← Piece.textOf style vars selector
        if e.inStages then
          let stages := (Selector.splitCommas [] text).map trimSpaces
          let (found, inner) ← evaluate fs settings chain active file
            { e with inBlock := true } vars.enter body
          pure (.beside (.stage stages (Emitted.own found)) :: Emitted.others found, inner.leave)
        else
          let selector ← Selector.resolve e.selector (← Selector.ofText text)
          let (found, inner) ← evaluate fs settings chain active file
            { e with selector := some selector, inBlock := true } vars.enter body
          let nodes := ruleNodes selector found
          pure (if e.selector.isSome then nodes else Emitted.closed nodes, inner.leave)
      | .media queries body =>
        let queries ← MediaQuery.ofText (← Piece.textOf style vars queries)
        let merged := e.media.bind (MediaQuery.mergeAll · queries)
        if merged = some [] then pure ([], vars)
        else
          let queries := merged.getD queries
          let (found, inner) ← evaluate fs settings chain active file
            { e with media := some queries, inBlock := true } vars.enter body
          let reach := if merged.isSome then Reach.beyond else Reach.beside
          pure (Emitted.inMedia queries reach (e.content found), inner.leave)
      | .plainImport text =>
        let node := CssNode.plainImport (← Piece.textOf style vars text)
        pure ([if e.inBlock then .inside node else ⟨node, .front, false⟩], vars)
      | .sheetImport url =>
        let name : Path := ⟨String.ofList url⟩
        match h : findSheet fs settings.loadPaths (file.parent.getD ⟨""⟩) name with
        | Option.none => throw (.sheetNotFound name.text)
        | some path =>
          if new : chain.contains path = false then
            if active.any (·.same (fs.canonical path)) then throw (.importLoop path)
            let statements ← readSheet fs path
            evaluate fs settings (chain.push path (isFile_of_findSheet h) new)
              (fs.canonical path :: active) path e vars statements
          else throw (.importLoop path)
      | .report fatal message =>
        let value ← message.value style vars
        if fatal then throw (.raised (String.ofList (value.text .expanded true)))
        pure ([], vars)
      | .atRule name params Option.none =>
        let params ← Piece.textOf style vars params
        pure ([.inside (.atRule name params Option.none)], vars)
      | .atRule name params (some body) =>
        let params ← Piece.textOf style vars params
        let stages := e.inStages || unvendored name = "keyframes".toList
        let (found, inner) ← evaluate fs settings chain active file
          { e with inStages := stages, inBlock := true } vars.enter body
        let content := { e with inStages := stages }.content found
        pure ([.beside (.atRule name params (some (content.map (·.node))))], inner.leave)
    let (more, vars) ← evaluate fs settings chain active file e vars rest
    return (found ++ more, vars)
termination_by statements => (chain.room, sizeOf statements)
decreasing_by
  all_goals first
    | exact Prod.Lex.left _ _ (Imports.Chain.room_push_lt chain path (isFile_of_findSheet h) new)
    | (apply Prod.Lex.right; simp; omega)
    | (apply Prod.Lex.right; simp)

def groupsOf (fs : FileSystem) (settings : Settings) (d : Dialect) (source : String) :
    Except Fault (List CssGroup) := do
  let statements ← Statement.ofSource d source
  let (found, _) ← evaluate fs settings (.start fs none) [] ⟨"stdin"⟩ .none .none statements
  let (front, rest) := found.partition (·.reach = .front)
  return (front ++ rest).map fun e ↦ ⟨e.node, e.isClosed⟩

def compile (fs : FileSystem) (settings : Settings) (d : Dialect) (source : String) :
    Except Fault String := do
  return cssText settings.style (← groupsOf fs settings d source)

end StyleGuide.Sass
