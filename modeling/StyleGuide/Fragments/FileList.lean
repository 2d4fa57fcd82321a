import StyleGuide.Path

/-!
# Fragments and file lists

A stylesheet is documented by fragments beside it: the same path with the extension `md`. The files
of a page are its stylesheets, in order and as often as they are imported, followed by the fragments
of each in turn. Fragments are never looked up for fragments.
-/

namespace StyleGuide

/-- The path a fragment of a stylesheet is looked for at. A path that is no stylesheet keeps its
extension. -/
def fragmentPath (p : Path) : Path :=
  if p.isStylesheet then p.withExtension "md" else ⟨p.text ++ ".md"⟩

/-- Stylesheets followed by their fragments, with the number of the stylesheets. -/
structure FileList where
  paths : List Path
  stylesheetCount : Nat
deriving DecidableEq, Repr

namespace FileList

def ofFragments (stylesheets fragments : List Path) : FileList :=
  ⟨stylesheets ++ fragments, stylesheets.length⟩

/-- The list of some stylesheets, with `find` for the fragments of each. -/
def resolve (find : Path → List Path) (stylesheets : List Path) : FileList :=
  ofFragments stylesheets (stylesheets.flatMap find)

def stylesheets (l : FileList) : List Path :=
  l.paths.take l.stylesheetCount

def fragments (l : FileList) : List Path :=
  l.paths.drop l.stylesheetCount

end FileList

end StyleGuide
