import StyleGuide.Fragments.Glob
import StyleGuide.Fragments.Pattern

/-!
# Searching a disk for a pattern

A pattern is followed component by component, and what is found keeps its spelling where it has no
pattern characters. A component without them is only asked for; otherwise the directory is read.
-/

namespace StyleGuide.Pattern

/-- One component of a path pattern. -/
inductive Step where
  | literal (name : List Char)
  /-- A name in the directory. -/
  | child (tokens : List Token)
  /-- A name at any depth below the directory. -/
  | descendant (tokens : List Token)
  /-- All directories below the directory. -/
  | directories
deriving DecidableEq, Repr

/-- The step of a component that is matched against names. -/
def Step.ofTokens (tokens : List Token) : Step :=
  match literal? tokens with
  | some name => .literal name
  | none => .child tokens

/-- The steps of compiled components. Consecutive `**` count once, and the component after them is
looked for at any depth. -/
def steps : List (List Token) → List Step
  | [] => []
  | [.anyDepth] :: [] => [.directories]
  | [.anyDepth] :: [.anyDepth] :: rest => steps ([.anyDepth] :: rest)
  | [.anyDepth] :: tokens :: rest => .descendant tokens :: steps rest
  | tokens :: rest => .ofTokens tokens :: steps rest

/-- The components of a relative pattern text; one separator at the end closes the last of them. -/
def pieces (cs : List Char) : List (List Char) :=
  match Path.segments cs with
  | segments => if segments.getLast? = some [] then segments.dropLast else segments

/-- The directory a pattern starts in, and its steps; none if the pattern is invalid. -/
def compile? (pattern : Path) : Option (Path × List Step) := do
  let cs := pattern.text.toList
  let _ ← tokens? cs
  let (scope, relative) := if pattern.isAbsolute then ("/", cs.drop 1) else (".", cs)
  let components ← (pieces relative).mapM tokens?
  return (⟨scope⟩, steps components)

/-- The path of a name in a directory; the working directory leaves no trace. -/
def entryPath (dir : Path) (name : List Char) : Path :=
  if dir.same ⟨"."⟩ then ⟨String.ofList name⟩ else dir.join ⟨String.ofList name⟩

/-- The paths below a directory, at any depth, with the names they end in. -/
def below (d : Disk) (dir : Path) : List (Path × List Char) :=
  match d.locate dir with
  | .error _ => []
  | .ok loc => (d.below loc).filterMap fun l ↦
    match (l.take (l.length - loc.length)).reverse, l with
    | first :: inner, name :: _ =>
      some (inner.foldl (fun p n ↦ p.join ⟨String.ofList n⟩) (entryPath dir first), name)
    | _, _ => none

/-- The paths directly in a directory, with the names they end in. -/
def inside (d : Disk) (dir : Path) : List (Path × List Char) :=
  match d.locate dir with
  | .error _ => []
  | .ok loc => (d.below loc).filterMap fun l ↦
    match l with
    | name :: parent => if parent = loc then some (entryPath dir name, name) else none
    | [] => none

/-- The special names that a pattern with a leading dot may match. -/
def specials (dir : Path) (tokens : List Token) : List Path :=
  if tokens.head? = some (.char '.') then
    ([['.'], ['.', '.']].filter (covers tokens)).map fun name ↦ dir.join ⟨String.ofList name⟩
  else []

def reach (d : Disk) : List Step → Path → List Path
  | [], p => [p]
  | .literal name :: rest, p =>
    let next := entryPath p name
    let special := name = ['.'] ∨ name = ['.', '.']
    if (if special then d.isDirectory p else d.contains next) then reach d rest next else []
  | .child tokens :: rest, p =>
    if d.isDirectory p then
      let found := ((inside d p).filter fun e ↦ covers tokens e.2).map (·.1)
      (found ++ specials p tokens).flatMap (reach d rest)
    else []
  | .descendant tokens :: rest, p =>
    if d.isDirectory p then
      (((below d p).filter fun e ↦ covers tokens e.2).map (·.1)).flatMap (reach d rest)
    else []
  | .directories :: rest, p =>
    if d.isDirectory p then
      (((below d p).map (·.1)).filter d.isDirectory).flatMap (reach d rest)
    else []

end StyleGuide.Pattern

namespace StyleGuide

/-- Looks for a pattern step by step, from the directory it starts in. -/
def Glob.walk : Glob := fun d pattern ↦
  (Pattern.compile? pattern).map fun found ↦ (Pattern.reach d found.2 found.1).map .ok

def fragmentsOnDisk (d : Disk) (stylesheet : Path) : List Path :=
  fragmentsBy .walk d stylesheet

end StyleGuide
