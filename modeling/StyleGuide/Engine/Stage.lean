import StyleGuide.Fragments.FileList
import StyleGuide.Fragments.Reading
import StyleGuide.Imports.Context
import StyleGuide.Page.Layout

/-!
# Stages

A page is made in stages, each from the results of those before it: the stylesheet is compiled, its
files are listed, their fragments are put together, the text is converted, and the page is laid
out. `Memo` keeps the results of the stages that have succeeded, and `remembered` runs a stage only
if its result is missing. A stage that fails keeps nothing.

The work is done by collaborators that live in a world of their own: a call may change the world,
so the same call may answer differently the next time.
-/

namespace StyleGuide

/-- Why there is no page. -/
inductive EngineError where
  | source (path : Path) (cause : FileError)
  | compilation (cause : CompileError)
  | missingFragment (cause : MissingFragment)
  | conversion (reason : String)
  | layout (cause : Page.LayoutError)
deriving DecidableEq, Repr

def EngineError.message : EngineError → String
  | .source path cause => "Failed to read stylesheet " ++ path.text ++ ": " ++ cause.message
  | .compilation cause => cause.message
  | .missingFragment cause => cause.message
  | .conversion reason => "Markup conversion failed: " ++ reason
  | .layout cause => cause.message

/-- Those who do the work of the stages in a world `W`. -/
structure Collaborators (W : Type) where
  compile : String → CompileContext → W → Except CompileError CompiledStylesheet × W
  fragments : Path → W → List Path × W
  readFragment : Path → W → Except FileError String × W
  convert : String → Options → W → Except String String × W
  layOut : Page.Bindings → W → Except Page.LayoutError String × W

/-- The results of the stages that have succeeded. -/
structure Memo where
  compiled : Option CompiledStylesheet
  files : Option FileList
  markdown : Option String
  html : Option String
  document : Option String

def Memo.empty : Memo :=
  ⟨none, none, none, none, none⟩

/-- How far a page is, and the world as it is by now. -/
structure Progress (W : Type) where
  memo : Memo
  world : W

/-- Something that is done towards a page. It changes the progress even if it fails. -/
abbrev Step (W α : Type) := Progress W → Except EngineError α × Progress W

namespace Step

variable {W α β ε : Type}

/-- One step and then another; the second is not done if the first fails. -/
def andThen (first : Step W α) (next : α → Step W β) : Step W β := fun p ↦
  match first p with
  | (.ok a, p) => next a p
  | (.error e, p) => (.error e, p)

def asking (call : W → Except ε α × W) (wrap : ε → EngineError) : Step W α := fun p ↦
  match call p.world with
  | (.ok a, world) => (.ok a, ⟨p.memo, world⟩)
  | (.error e, world) => (.error (wrap e), ⟨p.memo, world⟩)

/-- A call to a collaborator that cannot fail. -/
def told (call : W → α × W) : Step W α := fun p ↦
  (.ok (call p.world).1, ⟨p.memo, (call p.world).2⟩)

/-- A stage whose result is kept: `slot` says where, and `make` is done if it is not there. -/
def remembered (slot : Memo → Option α) (keep : α → Memo → Memo) (make : Step W α) :
    Step W α := fun p ↦
  match slot p.memo with
  | some a => (.ok a, p)
  | none =>
    match make p with
    | (.ok a, p) => (.ok a, ⟨keep a p.memo, p.world⟩)
    | (.error e, p) => (.error e, p)

/-- A step whose result is seen through a function. -/
def map (f : α → β) (step : Step W α) : Step W β := fun p ↦
  match step p with
  | (.ok a, p) => (.ok (f a), p)
  | (.error e, p) => (.error e, p)

end Step

/-! ## Calls in turn -/

/-- The fragments of several stylesheets, asked for one after another. -/
def fragmentsOfAll {W : Type} (fragments : Path → W → List Path × W) :
    List Path → W → List Path × W
  | [], w => ([], w)
  | p :: ps, w =>
    let (found, w) := fragments p w
    let (more, w) := fragmentsOfAll fragments ps w
    (found ++ more, w)

/-- The texts of fragments, read one after another up to the first that cannot be read. -/
def readInTurn {W : Type} (read : Path → W → Except FileError String × W) :
    List Path → W → Except MissingFragment String × W
  | [], w => (.ok "", w)
  | p :: ps, w =>
    match read p w with
    | (.error cause, w) => (.error ⟨p, cause⟩, w)
    | (.ok text, w) =>
      match readInTurn read ps w with
      | (.ok rest, w) => (.ok (text ++ rest), w)
      | (.error e, w) => (.error e, w)

/-- Reading in turn is reading at once where reading changes nothing. -/
theorem readInTurn_still {W : Type} (read : W → Path → Except FileError String) (ps : List Path)
    (w : W) : readInTurn (fun p w ↦ (read w p, w)) ps w = (readFragments (read w) ps, w) := by
  induction ps with
  | nil => rfl
  | cons p ps ih =>
    rw [readInTurn, readFragments]
    cases read w p with
    | error cause => rfl
    | ok text =>
      simp only [ih]
      cases readFragments (read w) ps <;> rfl

end StyleGuide
