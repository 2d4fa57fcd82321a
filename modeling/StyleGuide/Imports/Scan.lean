import StyleGuide.Imports.Comments
import StyleGuide.Imports.Statement
import StyleGuide.Imports.Target
import StyleGuide.Imports.Tree
import StyleGuide.Text.Utf8

/-!
# Scanning for imports

Builds the import tree of a stylesheet by reading its import statements and entering every file
they mean. The files being entered form a chain in which no path occurs twice, so a file that is
reached again while it is still being scanned is an error, and a scan of a finite place ends. An
imported `.css` file is a leaf and is not entered.
-/

namespace StyleGuide

inductive Syntax where
  | scss
  | sass
deriving DecidableEq, Repr

/-- The syntax a file name implies: indented for `.sass`, braces for everything else. -/
def Syntax.ofPath (p : Path) : Syntax :=
  if p.hasExtension "sass" then .sass else .scss

/-- Why a stylesheet does not compile. -/
inductive CompileError where
  /-- The stylesheet language rejects the source. -/
  | sass (message : String)
  | notFound (target : String) (importer : Option Path)
  | importLoop (path : Path)
  | read (path : Path) (cause : FileError)
deriving DecidableEq, Repr

def CompileError.message : CompileError → String
  | .sass message => "Sass error: " ++ message
  | .notFound target none => "Cannot find stylesheet to import: " ++ target
  | .notFound target (some importer) =>
    "Cannot find stylesheet to import: " ++ target ++ " (imported from " ++ importer.text ++ ")"
  | .importLoop path => "Import loop detected at " ++ path.text
  | .read path cause => "Failed to read " ++ path.text ++ ": " ++ cause.message

namespace Imports

/-- The files being scanned, innermost first, below a root that may have a name of its own. -/
structure Chain (fs : FileSystem) where
  root : Option Path
  files : List Path
  isFile : ∀ p ∈ files, fs.isFile p = true
  distinct : (files.map Path.components).Nodup

namespace Chain

def start (fs : FileSystem) (root : Option Path) : Chain fs :=
  ⟨root, [], by simp, by simp⟩

def contains {fs : FileSystem} (chain : Chain fs) (p : Path) : Bool :=
  chain.root.any (·.same p) || chain.files.any (·.same p)

def push {fs : FileSystem} (chain : Chain fs) (p : Path) (file : fs.isFile p = true)
    (new : chain.contains p = false) : Chain fs where
  root := chain.root
  files := p :: chain.files
  isFile := by simpa [file] using chain.isFile
  distinct := by
    simp only [contains, Bool.or_eq_false_iff, List.any_eq_false] at new
    simp only [List.map_cons, List.nodup_cons, List.mem_map, not_exists, not_and]
    exact ⟨fun q hq he ↦ new.2 q hq (by simp [Path.same, he]), chain.distinct⟩

/-- The bound on the length of chains. -/
noncomputable def bound (fs : FileSystem) : Nat :=
  Classical.choose fs.finite

/-- How much longer the chain may still grow. -/
noncomputable def room {fs : FileSystem} (chain : Chain fs) : Nat :=
  bound fs + 1 - chain.files.length

theorem length_le_bound {fs : FileSystem} (chain : Chain fs) :
    chain.files.length ≤ bound fs :=
  Classical.choose_spec fs.finite chain.files chain.distinct chain.isFile

theorem room_push_lt {fs : FileSystem} (chain : Chain fs) (p : Path) (file : fs.isFile p = true)
    (new : chain.contains p = false) : (chain.push p file new).room < chain.room := by
  have h := (chain.push p file new).length_le_bound
  simp only [room, push, List.length_cons] at *
  omega

end Chain

def statements (syn : Syntax) (source : String) : List Statement :=
  let stripped := stripComments source.toList
  match syn with
  | .scss => statementsInBraces stripped
  | .sass => indentedStatements stripped

/-- A file to look for imports in: its name and the directory its imports are relative to. -/
structure Importer where
  file : Option Path
  dir : Path

def Importer.ofFile (p : Path) : Importer :=
  ⟨some p, p.parent.getD ⟨"."⟩⟩

/-- Reads a stylesheet; bytes that are no text are replaced. -/
def readStylesheet (fs : FileSystem) (p : Path) : Except CompileError String :=
  match fs.read p with
  | .ok bytes => .ok (Text.Utf8.decodeLossy bytes)
  | .error cause => .error (.read p cause)

mutual

def argumentNodes (fs : FileSystem) (loadPaths : List Path) (chain : Chain fs)
    (importer : Importer) : List String → Except CompileError (List ImportTree)
  | [] => .ok []
  | arg :: args => do
    let node ← importNode fs loadPaths chain importer arg
    let nodes ← argumentNodes fs loadPaths chain importer args
    return node :: nodes
termination_by args => (chain.room, 1, args.length)

def statementNodes (fs : FileSystem) (loadPaths : List Path) (chain : Chain fs)
    (importer : Importer) : List Statement → Except CompileError (List ImportTree)
  | [] => .ok []
  | .load args :: rest => do
    let nodes ← argumentNodes fs loadPaths chain importer args
    let more ← statementNodes fs loadPaths chain importer rest
    return nodes ++ more
  | .block args :: rest => do
    let nodes ← argumentNodes fs loadPaths chain importer args
    let more ← statementNodes fs loadPaths chain importer rest
    return .rule none nodes :: more
termination_by rest => (chain.room, 2, rest.length)

/-- The node of one import argument, with the tree of the file it means. -/
def importNode (fs : FileSystem) (loadPaths : List Path) (chain : Chain fs)
    (importer : Importer) (arg : String) : Except CompileError ImportTree :=
  match sassTarget? arg with
  | none => .ok (.plainCss arg none [])
  | some target =>
    match h : resolve fs (importer.dir :: loadPaths) target with
    | none => .error (.notFound target importer.file)
    | some path =>
      if path.hasExtension "css" then .ok (.imported target (.root (some path) []) none [])
      else if new : chain.contains path = false then do
        let source ← readStylesheet fs path
        let inner := chain.push path (isFile_of_resolve h) new
        let nodes ← statementNodes fs loadPaths inner (.ofFile path)
          (statements (.ofPath path) source)
        return .imported target (.root (some path) nodes) none []
      else .error (.importLoop path)
termination_by (chain.room, 0, 0)
decreasing_by
  exact Prod.Lex.left _ _ (Chain.room_push_lt chain path (isFile_of_resolve h) new)

end

/-- The import tree of a source. The name, if any, selects the syntax and becomes the file of the
root; imports are relative to `dir`. -/
def scanSource (fs : FileSystem) (loadPaths : List Path) (file : Option Path) (dir : Path)
    (source : String) : Except CompileError ImportTree := do
  let syn := (file.map Syntax.ofPath).getD .scss
  let nodes ← statementNodes fs loadPaths (.start fs file) ⟨file, dir⟩ (statements syn source)
  return .root file nodes

def scanFile (fs : FileSystem) (loadPaths : List Path) (p : Path) :
    Except CompileError ImportTree := do
  let source ← readStylesheet fs p
  scanSource fs loadPaths (some p) (p.parent.getD ⟨"."⟩) source

end Imports

end StyleGuide
