import StyleGuide.Engine.Accessors
import StyleGuide.Fragments.Search
import StyleGuide.Markdown.Document
import StyleGuide.Sass.Compiler

/-!
# Engines on a disk

The engine of a stylesheet on a disk: Sass is compiled, fragments are searched for by pattern and
read, and their text is Markdown with live examples. Nothing of this changes the disk.
-/

namespace StyleGuide

/-- The documentation that a text of fragments means: Markdown in which blocks of code without a
language have the default one, and examples are shown live. -/
def documentation (options : Options) (markdown : String) : String :=
  (Markdown.renderMarkdown true ⟨[.example], options.defaultLanguage⟩ (Render.State.initial ())
    markdown).1.html

/-- The collaborators of an engine whose files are on a disk. -/
def Collaborators.onDisk (layout : Page.Layout) : Collaborators Disk where
  compile source ctx d := (Sass.compileStylesheet d.toFileSystem source ctx, d)
  fragments p d := (fragmentsOnDisk d p, d)
  readFragment p d := (d.readText p, d)
  convert markdown options d := (.ok (documentation options markdown), d)
  layOut bindings d := (layout.render bindings, d)

/-- The settings of a compiler that nobody has set up. -/
def SassSettings.default : SassSettings :=
  ⟨[], .expanded⟩

def Engine.ofSource {W : Type} (source : String) (options : Options)
    (collaborators : Collaborators W) : Engine W :=
  ⟨source, none, ⟨"."⟩, options, .default, collaborators⟩

def Engine.ofFile {W : Type} (read : Path → Except FileError String) (p : Path)
    (options : Options) (collaborators : Collaborators W) : Except EngineError (Engine W) :=
  match read p with
  | .error cause => .error (.source p cause)
  | .ok source =>
    let dir : Path := match p.parent with
      | some dir => if dir.text = "" then ⟨"."⟩ else dir
      | none => ⟨"."⟩
    .ok { ofSource source options collaborators with file := some p, baseDir := dir }

end StyleGuide
