import StyleGuide.Sass.Outline

/-!
# Indented sheets

The outline of a source whose blocks are shown by indentation. Every line is a statement, a deeper
line belongs to the line above it, and a line that ends with a comma goes on in the next one. The
lines of one block have one indentation.
-/

namespace StyleGuide.Sass

structure SourceLine where
  indentation : Nat
  text : List Char

namespace SourceLine

def ofSource (source : List Char) : List SourceLine :=
  (Text.splitAt '\n' source).filterMap fun l ↦
    let text := trimSpaces l
    if text = [] then none else some ⟨(l.takeWhile isSpace).length, text⟩

def isSilentComment (l : SourceLine) : Bool :=
  Text.startsWith "//".toList l.text

def isLoudComment (l : SourceLine) : Bool :=
  Text.startsWith "/*".toList l.text

def isOpen (l : SourceLine) : Bool :=
  Text.endsWith [','] l.text && !l.isSilentComment && !l.isLoudComment

def joined : List SourceLine → List SourceLine
  | [] => []
  | [l] => [l]
  | l :: m :: rest =>
    if l.isOpen then joined (⟨l.indentation, l.text ++ '\n' :: m.text⟩ :: rest)
    else l :: joined (m :: rest)
termination_by ls => ls.length

/-- A comment with the deeper lines below it, closed if it is not. -/
def comment (l : SourceLine) (below : List SourceLine) : List Char :=
  let text := below.foldl (fun text m ↦ text ++ "\n * ".toList ++ m.text) l.text
  if Text.endsWith "*/".toList text then text else text ++ " */".toList

/-- The statement on a line; none if there is but a comment. -/
def statement? (l : SourceLine) : Except Fault (Option Mark) :=
  if Text.endsWith [';'] l.text then .error (.unexpected ';')
  else match marksFrom .indented [] [] 0 l.text with
    | .ok [] => .ok none
    | .ok [.line head] => .ok (some (.line head))
    | .ok _ => .error (.expected "newline")
    | .error fault => .error fault

end SourceLine

def indentedStatements : List SourceLine → Except Fault (List (Nat × Mark))
  | [] => .ok []
  | l :: rest =>
    let below := rest.takeWhile (l.indentation < ·.indentation)
    if l.isSilentComment then indentedStatements (rest.drop below.length)
    else if l.isLoudComment then do
      let statements ← indentedStatements (rest.drop below.length)
      return (l.indentation, .comment (l.comment below)) :: statements
    else do
      let statement ← l.statement?
      let statements ← indentedStatements rest
      return (statement.map (l.indentation, ·)).toList ++ statements
termination_by ls => ls.length
decreasing_by all_goals simp only [List.length_cons, List.length_drop]; omega

/-- Leaves the blocks that are deeper than an indentation, which must be that of a block. -/
def leaveBlocks (indentation : Nat) : List Nat → Except Fault (List Mark × List Nat)
  | [] => .error .badIndentation
  | level :: levels =>
    if level = indentation then .ok ([], level :: levels)
    else if level < indentation then .error .badIndentation
    else (leaveBlocks indentation levels).map fun r ↦ (.closing :: r.1, r.2)

/-- The marks of statements. `levels` holds the indentations of the open blocks, innermost
first. -/
def marksOfStatements (levels : List Nat) : List (Nat × Mark) → Except Fault (List Mark)
  | [] => .ok (levels.tail.map fun _ ↦ .closing)
  | [(_, mark)] => .ok (mark :: levels.tail.map fun _ ↦ .closing)
  | (n, mark) :: (m, next) :: rest => do
    if n < m then
      match mark with
      | .line head =>
        return .opening head :: (← marksOfStatements (m :: levels) ((m, next) :: rest))
      | _ => .error .badIndentation
    else
      let (closings, levels) ← leaveBlocks m levels
      return mark :: closings ++ (← marksOfStatements levels ((m, next) :: rest))

def Outline.ofIndentation (source : List Char) : Except Fault (List Outline) := do
  let statements ← indentedStatements (SourceLine.joined (SourceLine.ofSource source))
  match statements.head? with
  | some (_ + 1, _) => .error .badIndentation
  | _ => nest [] [] (← marksOfStatements [0] statements)

def Outline.ofSource (d : Dialect) (source : List Char) : Except Fault (List Outline) :=
  if d = .indented then ofIndentation source else ofBraces d source

end StyleGuide.Sass
