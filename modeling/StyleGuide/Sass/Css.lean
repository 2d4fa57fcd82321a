import StyleGuide.Sass.MediaQuery

/-!
# Style sheets

The output of a compilation: a tree in which rules no longer nest, and how it is written. What
applies to nothing is not written. In the expanded style every declaration has a line of its own; in
the compressed style there is no blank that is not needed, and the last semicolon of a block is left
out.
-/

namespace StyleGuide.Sass

/-- A node of a style sheet. -/
inductive CssNode where
  | comment (text : List Char)
  | plainImport (text : List Char)
  | declaration (name value : List Char)
  /-- A declaration whose value is written right behind the colon. -/
  | custom (name value : List Char)
  | rule (selector : Selector) (body : List CssNode)
  /-- A stage of an animation. -/
  | stage (selector : List (List Char)) (body : List CssNode)
  | media (queries : List MediaQuery) (body : List CssNode)
  | atRule (name params : List Char) (body : Option (List CssNode))

namespace CssNode

def endsWithSemicolon : CssNode → Bool
  | .plainImport _ => true
  | .declaration _ _ => true
  | .custom _ _ => true
  | .atRule _ _ none => true
  | _ => false

mutual

def isVisible : CssNode → Bool
  | .rule selector body => !selector.visible.isEmpty && anyVisible body
  | .media _ body => anyVisible body
  | _ => true

def anyVisible : List CssNode → Bool
  | [] => false
  | n :: ns => n.isVisible || anyVisible ns

end

/-- Whether something is written for a node: short output keeps only comments that ask for it. -/
def isWritten (style : OutputStyle) (n : CssNode) : Bool :=
  match n with
  | .comment text => style = .expanded || Text.startsWith "/*!".toList text
  | n => n.isVisible

def margin (style : OutputStyle) (depth : Nat) : List Char :=
  match style with
  | .expanded => List.replicate (2 * depth) ' '
  | .compressed => []

def lineEnd : OutputStyle → List Char
  | .expanded => ['\n']
  | .compressed => []

/-- A blank that short output does without. -/
def blank : OutputStyle → List Char
  | .expanded => [' ']
  | .compressed => []

mutual

/-- A node as it is written, `depth` blocks inside. -/
def text (style : OutputStyle) (depth : Nat) : CssNode → List Char
  | .comment text => margin style depth ++ text
  | .plainImport text => margin style depth ++ "@import ".toList ++ text
  | .declaration name value => margin style depth ++ name ++ ':' :: blank style ++ value
  | .custom name value => margin style depth ++ name ++ ':' :: value
  | .rule selector body =>
    margin style depth ++ selector.text style (margin style depth) ++ blockText style depth body
  | .stage selector body =>
    margin style depth ++ (',' :: blank style).intercalate selector ++ blockText style depth body
  | .media queries body =>
    margin style depth ++ "@media ".toList ++
      (',' :: blank style).intercalate (queries.map MediaQuery.text) ++ blockText style depth body
  | .atRule name params body =>
    margin style depth ++ '@' :: name ++ (if params = [] then [] else ' ' :: params) ++
      match body with
      | none => []
      | some body => blockText style depth body

def blockText (style : OutputStyle) (depth : Nat) (body : List CssNode) : List Char :=
  blank style ++ '{' :: lineEnd style ++ linesText style (depth + 1) body ++
    margin style depth ++ ['}']

def linesText (style : OutputStyle) (depth : Nat) : List CssNode → List Char
  | [] => []
  | n :: ns =>
    let semicolon : List Char :=
      if n.endsWithSemicolon && !(ns.isEmpty && style = .compressed) then [';'] else []
    let line := if n.isWritten style then n.text style depth ++ semicolon ++ lineEnd style else []
    line ++ linesText style depth ns

end

end CssNode

/-- A node of the top level, and whether a group of rules ends with it. -/
structure CssGroup where
  node : CssNode
  isClosed : Bool

/-- The lines of groups after a text. A blank line follows a group that is closed. -/
def groupsText (style : OutputStyle) (written : List Char) (closed semicolon : Bool) :
    List CssGroup → List Char
  | [] =>
    let written := if semicolon then written ++ [';'] else written
    if written = [] then [] else written ++ CssNode.lineEnd style
  | g :: gs =>
    if g.node.isVisible then
      let written := if semicolon then written ++ [';'] else written
      let gap := if written = [] then []
        else CssNode.lineEnd style ++ (if closed then CssNode.lineEnd style else [])
      let text := if g.node.isWritten style then g.node.text style 0 else []
      groupsText style (written ++ gap ++ text) g.isClosed g.node.endsWithSemicolon gs
    else groupsText style written closed semicolon gs

/-- A style sheet as it is written. One with characters beyond ASCII says so in front: in words, or
by a mark where space is short. -/
def cssText (style : OutputStyle) (groups : List CssGroup) : String :=
  let text := groupsText style [] false false groups
  if text.all fun c ↦ c.toNat < 128 then String.ofList text
  else match style with
    | .expanded => "@charset \"UTF-8\";\n" ++ String.ofList text
    | .compressed => String.ofList ('\uFEFF' :: text)

end StyleGuide.Sass
