import StyleGuide.Files

/-!
# Looking for imported sheets

Which file a sheet's import means. A name with an extension of its own is looked for beside the
importing sheet only; any other name with each extension, there first and then in every load path,
as a file and as the index of a directory. A partial stands behind the file of the same name.
-/

namespace StyleGuide.Sass

def sheetExtensions : List String := ["sass", "scss", "css"]

/-- Extensions in the order in which they are tried. Files meant for imports alone come first. -/
def triedEndings : List String :=
  sheetExtensions.map ("import." ++ ·) ++ sheetExtensions

def withPartial (p : Path) : List Path :=
  let dir := p.parent.getD ⟨""⟩
  let name := p.fileName.getD ['.', '.']
  [p, dir.join ⟨String.ofList ('_' :: name)⟩]

/-- The files that a path without an extension may mean. -/
def withEndings (p : Path) : List Path :=
  triedEndings.flatMap fun ending ↦ withPartial (p.withExtension ending)

/-- The files that a path may mean, those in a directory of that name last. -/
def sheetFiles (fs : FileSystem) (p : Path) : List Path :=
  withEndings p ++ (if fs.isDirectory p then withEndings (p.join ⟨"index"⟩) else [])

/-- All files that an import may mean, in the order in which they are tried. -/
def importedFiles (fs : FileSystem) (loadPaths : List Path) (dir name : Path) : List Path :=
  let near := dir.join name
  match sheetExtensions.find? near.hasExtension with
  | some ext => withPartial (near.withExtension (".import." ++ ext)) ++ withPartial near
  | none => sheetFiles fs near ++ loadPaths.flatMap fun load ↦ sheetFiles fs (load.join name)

def findSheet (fs : FileSystem) (loadPaths : List Path) (dir name : Path) : Option Path :=
  (importedFiles fs loadPaths dir name).find? fs.isFile

theorem isFile_of_findSheet {fs : FileSystem} {loadPaths : List Path} {dir name p : Path}
    (h : findSheet fs loadPaths dir name = some p) : fs.isFile p = true :=
  List.find?_some h

end StyleGuide.Sass
