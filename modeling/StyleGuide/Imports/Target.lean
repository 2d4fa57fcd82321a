import StyleGuide.Text.Letter
import StyleGuide.Files

/-!
# Import targets

An import argument either names a stylesheet or is a plain CSS import, which is passed through.
A name is looked for in the importing file's directory first and then in every load path; in each
directory the spelled name, its partial (`_name`) and the index files of a directory are tried in
a fixed order. `resolve` answers with a path that is a file.
-/

namespace StyleGuide.Imports

open Text

/-! ## Plain CSS imports -/

/-- A URL, or a name that ends in `.css`. -/
def isPlainCss (target : List Char) : Bool :=
  startsWith "url(".toList target || startsWith "http://".toList target ||
    startsWith "https://".toList target || startsWith "//".toList target ||
    endsWith ".css".toList target

/-- The stylesheet that an argument names; none for a plain CSS import. A quoted name must not be
followed by anything but blanks. -/
def sassTarget? (arg : String) : Option String :=
  let named (target : List Char) :=
    if isPlainCss target then none else some (String.ofList target)
  match arg.toList with
  | [] => named []
  | c :: rest =>
    if c = '"' ∨ c = '\'' then
      match rest.dropWhile (· != c) with
      | [] => none
      | _ :: after =>
        if trim after = [] then named (rest.takeWhile (· != c)) else none
    else named (c :: rest)

/-! ## Resolution -/

def spelledExtensions : List String := ["scss", "sass"]

/-- Extensions tried for a target that spells none, in order. -/
def triedExtensions : List String := ["scss", "sass", "css"]

/-- The file beside `path` with the given name, and its partial. -/
def besides (path : Path) (name : List Char) : List Path :=
  [path.withFileName name, path.withFileName ('_' :: name)]

/-- The index files of the directory `path` with an extension. -/
def indexFiles (path : Path) (ext : String) : List Path :=
  [path.join ⟨"_index." ++ ext⟩, path.join ⟨"index." ++ ext⟩]

/-- The files that a target may mean, first choice first. -/
def candidates (path : Path) : List Path :=
  match path.fileName with
  | none => []
  | some name =>
    if spelledExtensions.any path.hasExtension then [path, path.withFileName ('_' :: name)]
    else
      triedExtensions.flatMap (fun ext ↦ besides path (name ++ '.' :: ext.toList)) ++
        triedExtensions.flatMap (indexFiles path)

/-- All files a target may mean, directory by directory. -/
def allCandidates (dirs : List Path) (target : String) : List Path :=
  dirs.flatMap fun dir ↦ candidates (dir.withoutHere.join ⟨target⟩)

/-- The stylesheet that a target means: the first candidate that is a file. -/
def resolve (fs : FileSystem) (dirs : List Path) (target : String) : Option Path :=
  (allCandidates dirs target).find? fs.isFile

theorem isFile_of_resolve {fs : FileSystem} {dirs : List Path} {target : String} {p : Path}
    (h : resolve fs dirs target = some p) : fs.isFile p = true :=
  List.find?_some h

end StyleGuide.Imports
