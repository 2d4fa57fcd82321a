import StyleGuide.Engine.Stage

/-!
# Engines

An engine makes one page. What it is asked for is made on first demand, together with everything
that it is made from, and kept for good. The order of demands does not matter to what is made.
-/

namespace StyleGuide

/-- What a page is made from, and who makes it. -/
structure Engine (W : Type) where
  source : String
  /-- The file the source was read from. -/
  file : Option Path
  baseDir : Path
  options : Options
  sass : SassSettings
  collaborators : Collaborators W

namespace Engine

variable {W : Type} (e : Engine W)

def context : CompileContext :=
  ⟨e.options, e.sass, e.file, e.baseDir⟩

def compiled : Step W CompiledStylesheet :=
  .remembered Memo.compiled (fun c m ↦ { m with compiled := some c })
    (.asking (e.collaborators.compile e.source e.context) .compilation)

/-- The stylesheets and fragments of the page. -/
def fileList : Step W FileList :=
  .remembered Memo.files (fun l m ↦ { m with files := some l })
    (e.compiled.andThen fun c ↦ .told fun w ↦
      let (found, w) := fragmentsOfAll e.collaborators.fragments c.tree.flatten w
      (.ofFragments c.tree.flatten found, w))

def markdown : Step W String :=
  .remembered Memo.markdown (fun text m ↦ { m with markdown := some text })
    (e.fileList.andThen fun l ↦
      .asking (readInTurn e.collaborators.readFragment l.fragments) .missingFragment)

/-- The documentation, before it is laid out. -/
def html : Step W String :=
  .remembered Memo.html (fun text m ↦ { m with html := some text })
    (e.markdown.andThen fun text ↦
      .asking (e.collaborators.convert text e.options) .conversion)

/-- The compiled stylesheet's text. -/
def css : Step W String :=
  e.compiled.map (·.css)

def files : Step W (List Path) :=
  e.fileList.map (·.paths)

def document : Step W String :=
  .remembered Memo.document (fun text m ↦ { m with document := some text })
    (e.css.andThen fun css ↦ e.html.andThen fun html ↦
      .asking (e.collaborators.layOut (.ofOptions e.options css html)) .layout)

end Engine

/-! ## Demands -/

inductive Demand where
  | css
  | files
  | markdown
  | html
  | document
deriving DecidableEq, Repr

inductive Answer where
  | text (s : String)
  | paths (ps : List Path)
deriving DecidableEq, Repr

def Engine.answer {W : Type} (e : Engine W) : Demand → Step W Answer
  | .css => e.css.map .text
  | .files => e.files.map .paths
  | .markdown => e.markdown.map .text
  | .html => e.html.map .text
  | .document => e.document.map .text

end StyleGuide
