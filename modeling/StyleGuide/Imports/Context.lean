import StyleGuide.Imports.Scan
import StyleGuide.Options

/-!
# Compile context

What a stylesheet compiler is told about the page it compiles for: the options, its own settings,
the file the source comes from, and the directory that imports of inline source are relative to.
-/

namespace StyleGuide

/-- What a compiler may know about the source it compiles. -/
structure CompileContext where
  options : Options
  sass : SassSettings
  file : Option Path
  baseDir : Path

namespace CompileContext

/-- The directory that imports are relative to: the file's own, unless that is empty. -/
def importDir (file : Option Path) (baseDir : Path) : Path :=
  match file.bind Path.parent with
  | some dir => if dir.text = "" then baseDir else dir
  | none => baseDir

def sheetSyntax (file : Option Path) : Syntax :=
  (file.map Syntax.ofPath).getD .scss

end CompileContext

structure CompiledStylesheet where
  css : String
  tree : ImportTree

end StyleGuide
