import StyleGuide.Proofs.Imports.Scanning

/-!
# Import graphs

The stylesheets of a place form a graph: an import argument leads from one stylesheet to another if
it means a file that can be read and is no plain style sheet. A route follows arguments of imports
at the top level, each given by its position. Nothing here depends on how a graph is gone through,
and a graph may well have cycles.
-/

namespace StyleGuide.Imports

def Statement.topLevel : Statement → List String
  | load args => args
  | block _ => []

/-- A stylesheet as far as its imports go. -/
structure Stylesheet where
  importer : Importer
  statements : List Statement

namespace Stylesheet

/-- The stylesheet of a source that may have a name; its imports are relative to a directory. -/
def ofSource (file : Option Path) (dir : Path) (source : String) : Stylesheet :=
  ⟨⟨file, dir⟩, Imports.statements ((file.map Syntax.ofPath).getD .scss) source⟩

def ofFile (p : Path) (source : String) : Stylesheet :=
  ⟨.ofFile p, Imports.statements (.ofPath p) source⟩

/-- The arguments of all imports at the top level, in order. -/
def loads (s : Stylesheet) : List String :=
  s.statements.flatMap Statement.topLevel

/-- The name of the stylesheet, if it has one with the extension of a stylesheet. -/
def ownFile (s : Stylesheet) : Option Path :=
  s.importer.file.filter Path.isStylesheet

end Stylesheet

variable (fs : FileSystem) (loadPaths : List Path)

/-- An import argument leads to a stylesheet. -/
inductive Enters (importer : Importer) (arg : String) : Stylesheet → Prop
  | intro {target path source} (named : sassTarget? arg = some target)
      (found : resolve fs (importer.dir :: loadPaths) target = some path)
      (sheet : path.hasExtension "css" = false) (read : readStylesheet fs path = .ok source) :
      Enters importer arg (.ofFile path source)

/-- A route leads from a stylesheet to a file that is listed. At each stylesheet it takes the
top-level import argument that stands at a position. -/
inductive LeadsTo : Stylesheet → List Nat → Path → Prop
  | here {s p} (own : s.ownFile = some p) : LeadsTo s [] p
  | through {s i arg s' route p} (stands : s.loads[i]? = some arg)
      (enters : Enters fs loadPaths s.importer arg s') (next : LeadsTo s' route p) :
      LeadsTo s (i :: route) p

variable {fs loadPaths}

/-- An argument leads to one stylesheet at most. -/
theorem Enters.unique {importer : Importer} {arg : String} {s s' : Stylesheet}
    (h : Enters fs loadPaths importer arg s) (h' : Enters fs loadPaths importer arg s') :
    s = s' := by
  obtain ⟨named, found, _, read⟩ := h
  obtain ⟨named', found', _, read'⟩ := h'
  obtain rfl := Option.some.inj (named.symm.trans named')
  obtain rfl := Option.some.inj (found.symm.trans found')
  obtain rfl := Except.ok.inj (read.symm.trans read')
  rfl

end StyleGuide.Imports
