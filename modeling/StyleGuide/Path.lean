import StyleGuide.Text.Split

/-!
# Paths

A path is kept as it is spelled and read as a list of components. Repeated separators, a trailing
separator and a `.` that is not the first component are spelling only; a leading `.` is a component
of its own, and `..` is never resolved. Two paths are the same when their components are. Nothing
here looks at a disk.
-/

namespace StyleGuide

/-- A path as spelled, with `/` between its parts. -/
structure Path where
  text : String
deriving DecidableEq, Inhabited, Repr

namespace Path

inductive Component where
  | root
  | here
  | up
  | name (chars : List Char)
deriving DecidableEq, Repr

/-- A component with the part of the text it stands in, counted in characters. -/
structure Span where
  component : Component
  start : Nat
  stop : Nat
deriving DecidableEq, Repr

def segments (cs : List Char) : List (List Char) :=
  Text.splitAt '/' cs

/-- What a segment after the first component stands for. An empty segment and `.` stand for
nothing. -/
def Component.ofSegment : List Char → Option Component
  | [] => none
  | ['.'] => none
  | ['.', '.'] => some .up
  | cs => some (.name cs)

/-- The components of segments whose first one starts at `start`. -/
def spansFrom (start : Nat) : List (List Char) → List Span
  | [] => []
  | s :: ss =>
    let rest := spansFrom (start + s.length + 1) ss
    match Component.ofSegment s with
    | some c => ⟨c, start, start + s.length⟩ :: rest
    | none => rest

/-- The components of a text and where they stand. -/
def spansOf (cs : List Char) : List Span :=
  match segments cs with
  | [] :: s :: ss => ⟨.root, 0, 1⟩ :: spansFrom 1 (s :: ss)
  | ['.'] :: ss => ⟨.here, 0, 1⟩ :: spansFrom 2 ss
  | ss => spansFrom 0 ss

/-- The components of the path and where they stand. -/
def spans (p : Path) : List Span :=
  spansOf p.text.toList

def components (p : Path) : List Component :=
  p.spans.map (·.component)

/-- Equality of paths component by component. -/
def same (p q : Path) : Bool :=
  p.components == q.components

/-- A path that starts at the root. -/
def isAbsolute (p : Path) : Bool :=
  p.text.toList.head? == some '/'

/-- The text up to character `n`. -/
def take (p : Path) (n : Nat) : Path :=
  ⟨String.ofList (p.text.toList.take n)⟩

/-- The text of the characters from `start` to `stop`. -/
def slice (p : Path) (start stop : Nat) : Path :=
  ⟨String.ofList ((p.text.toList.take stop).drop start)⟩

/-- The path without its last component; none for the empty path and the root. The inner spelling
is kept and nothing trails. -/
def parent (p : Path) : Option Path :=
  match p.spans.reverse with
  | [] => none
  | [last] => if last.component = .root then none else some ⟨""⟩
  | _ :: before :: _ => some (p.take before.stop)

/-- The last component, if it is a name. -/
def fileName (p : Path) : Option (List Char) :=
  match p.spans.getLast? with
  | some ⟨.name cs, _, _⟩ => some cs
  | _ => none

/-- Appends a path; an absolute one replaces. Joining the empty path leaves a trailing separator. -/
def join (p q : Path) : Path :=
  if q.isAbsolute then q
  else match p.text.toList.getLast? with
    | none => q
    | some '/' => ⟨p.text ++ q.text⟩
    | some _ => ⟨p.text ++ "/" ++ q.text⟩

/-- Replaces the last component if it is a name, and appends otherwise. -/
def withFileName (p : Path) (name : List Char) : Path :=
  let dir := if p.fileName.isSome then p.parent.getD p else p
  dir.join ⟨String.ofList name⟩

/-- A name cut at its last dot: what precedes it, and what follows. A name without a dot, or with
its only dot in front, has no second part. -/
def splitName (name : List Char) : List Char × Option (List Char) :=
  let after := (name.reverse.takeWhile (· != '.')).reverse
  match name.reverse.dropWhile (· != '.') with
  | [] => (name, none)
  | [_] => (name, none)
  | _ :: before => (before.reverse, some after)

/-- The part of the file name after its last dot. -/
def extension (p : Path) : Option (List Char) :=
  p.fileName.bind fun n ↦ (splitName n).2

/-- The part of the file name before its last dot. -/
def stem (p : Path) : Option (List Char) :=
  p.fileName.map fun n ↦ (splitName n).1

/-- Whether the extension is the given one. -/
def hasExtension (p : Path) (ext : String) : Bool :=
  p.extension == some ext.toList

/-- Cuts the text after the stem and writes a new extension; a path without a file name stays. -/
def replaceExtension (p : Path) (ext : String) : Path :=
  match p.spans.getLast? with
  | some ⟨.name cs, start, _⟩ =>
    let kept := p.text.toList.take (start + (splitName cs).1.length)
    if ext.isEmpty then ⟨String.ofList kept⟩ else ⟨String.ofList kept ++ "." ++ ext⟩
  | _ => p

/-- The path with another extension. The old extension is cut from the end of the text first; what
is then left may have no file name, as for `..scss`, and stays as it is. -/
def withExtension (p : Path) (ext : String) : Path :=
  let cut := (p.extension.map List.length).getD 0
  (p.take (p.text.toList.length - cut)).replaceExtension ext

/-- The path without a leading `.`; without one it is unchanged. -/
def withoutHere (p : Path) : Path :=
  match p.spans with
  | ⟨.here, _, _⟩ :: [] => ⟨""⟩
  | ⟨.here, _, _⟩ :: first :: rest =>
    p.slice first.start (((first :: rest).getLast?.map (·.stop)).getD first.stop)
  | _ => p

/-- Order of components: root, `.`, `..`, then names by their characters. -/
def Component.le : Component → Component → Bool
  | .root, _ => true
  | .here, .root => false
  | .here, _ => true
  | .up, .root => false
  | .up, .here => false
  | .up, _ => true
  | .name a, .name b => !b.lex a (·.toNat < ·.toNat)
  | .name _, _ => false

def componentsLe : List Component → List Component → Bool
  | [], _ => true
  | _ :: _, [] => false
  | a :: as, b :: bs => if a = b then componentsLe as bs else a.le b

/-- Order of paths by their components. -/
def le (p q : Path) : Bool :=
  componentsLe p.components q.components

/-- Whether the first components of `p` are those of `dir`. -/
def startsWith (p dir : Path) : Bool :=
  dir.components.isPrefixOf p.components

/-- A stylesheet has the extension `scss` or `sass`. -/
def isStylesheet (p : Path) : Bool :=
  p.hasExtension "scss" || p.hasExtension "sass"

end Path

end StyleGuide
