import StyleGuide.Imports.Context
import StyleGuide.Sass.Evaluation

/-!
# The stylesheet compiler

Compiles the source of a page and finds out what it imports. The two look for imports on their own,
the compilation first beside the importing sheet and the scan first in the import directory, so
what they name may differ. A source that does not compile is not scanned.
-/

namespace StyleGuide.Sass

def Dialect.ofSyntax : Syntax → Dialect
  | .scss => .braces
  | .sass => .indented

/-- The style sheet of a source and the tree of its imports. -/
def compileStylesheet (fs : FileSystem) (source : String) (ctx : CompileContext) :
    Except CompileError CompiledStylesheet := do
  let dir := CompileContext.importDir ctx.file ctx.baseDir
  let settings : Settings := ⟨dir :: ctx.sass.loadPaths, ctx.sass.style⟩
  let dialect := Dialect.ofSyntax (CompileContext.sheetSyntax ctx.file)
  match compile fs settings dialect source with
  | .error fault => .error (.sass fault.message)
  | .ok css => do
    let tree ← Imports.scanSource fs ctx.sass.loadPaths ctx.file dir source
    return ⟨css, tree⟩

end StyleGuide.Sass
