import StyleGuide.Engine.Accessors

/-!
# Journals of engines

What an engine asks of its collaborators shows in no answer. A watched engine works in a world
that holds a journal as well: every call is written down with its answer. Watching changes nothing,
so the calls of a demand are read off the watched engine and all else off the engine itself.

A history is a sequence of demands with changes of the world in between. The changes are
arbitrary; files may come and go, and collaborators may change their minds.
-/

namespace StyleGuide

/-- A call to a collaborator, with its answer. -/
inductive Call where
  | compile (source : String) (context : CompileContext)
      (answer : Except CompileError CompiledStylesheet)
  | search (stylesheet : Path) (found : List Path)
  | read (fragment : Path) (answer : Except FileError String)
  | convert (markdown : String) (options : Options) (answer : Except String String)
  | layOut (bindings : Page.Bindings) (answer : Except Page.LayoutError String)

/-- A world with the calls that were made in it, oldest first. -/
structure Watched (W : Type) where
  world : W
  calls : List Call

namespace Watched

variable {W α : Type}

def noting (call : W → α × W) (note : α → Call) : Watched W → α × Watched W := fun w ↦
  ((call w.world).1, ⟨(call w.world).2, w.calls ++ [note (call w.world).1]⟩)

end Watched

/-- Collaborators whose calls are written down. -/
def Collaborators.watched {W : Type} (c : Collaborators W) : Collaborators (Watched W) where
  compile source context := Watched.noting (c.compile source context) (.compile source context)
  fragments p := Watched.noting (c.fragments p) (.search p)
  readFragment p := Watched.noting (c.readFragment p) (.read p)
  convert text options := Watched.noting (c.convert text options) (.convert text options)
  layOut bindings := Watched.noting (c.layOut bindings) (.layOut bindings)

/-- The same engine with its calls written down. -/
def Engine.watched {W : Type} (e : Engine W) : Engine (Watched W) where
  source := e.source
  file := e.file
  baseDir := e.baseDir
  options := e.options
  sass := e.sass
  collaborators := e.collaborators.watched

def Progress.unwatched {W : Type} (p : Progress (Watched W)) : Progress W :=
  ⟨p.memo, p.world.world⟩

/-! ## Watching changes nothing -/

namespace Step

variable {W α β ε : Type}

def Shows (watched : Step (Watched W) α) (plain : Step W α) : Prop :=
  ∀ p, plain p.unwatched = ((watched p).1, (watched p).2.unwatched)

theorem Shows.andThen {first : Step (Watched W) α} {first' : Step W α}
    {next : α → Step (Watched W) β} {next' : α → Step W β} (hfirst : first.Shows first')
    (hnext : ∀ a, (next a).Shows (next' a)) : (first.andThen next).Shows (first'.andThen next') := by
  intro p
  simp only [Step.andThen, hfirst p]
  rcases first p with ⟨_ | a, q⟩
  · rfl
  · exact hnext a q

theorem Shows.map {step : Step (Watched W) α} {step' : Step W α} (h : step.Shows step')
    (f : α → β) : (step.map f).Shows (step'.map f) := by
  intro p
  simp only [Step.map, h p]
  rcases step p with ⟨_ | a, q⟩ <;> rfl

theorem Shows.remembered {make : Step (Watched W) α} {make' : Step W α} (h : make.Shows make')
    (slot : Memo → Option α) (keep : α → Memo → Memo) :
    (Step.remembered slot keep make).Shows (Step.remembered slot keep make') := by
  intro p
  simp only [Step.remembered]
  have hmemo : p.unwatched.memo = p.memo := rfl
  rw [hmemo, h p]
  cases slot p.memo with
  | some a => rfl
  | none => rcases make p with ⟨_ | a, q⟩ <;> rfl

/-- A call shows another one if it answers the same and leaves the same world behind. -/
theorem Shows.asking {call : Watched W → Except ε α × Watched W} {call' : W → Except ε α × W}
    (h : ∀ w, call' w.world = ((call w).1, (call w).2.world)) (wrap : ε → EngineError) :
    (Step.asking call wrap).Shows (Step.asking call' wrap) := by
  intro p
  simp only [Step.asking]
  have hworld : p.unwatched.world = p.world.world := rfl
  rw [hworld, h p.world]
  rcases call p.world with ⟨_ | a, w⟩ <;> rfl

theorem Shows.told {call : Watched W → α × Watched W} {call' : W → α × W}
    (h : ∀ w, call' w.world = ((call w).1, (call w).2.world)) :
    (Step.told call).Shows (Step.told call') := by
  intro p
  simp only [Step.told]
  have hworld : p.unwatched.world = p.world.world := rfl
  rw [hworld, h p.world]
  rfl

end Step

section Turns

variable {W : Type}

theorem fragmentsOfAll_noting (fragments : Path → W → List Path × W) (ps : List Path)
    (w : Watched W) :
    fragmentsOfAll fragments ps w.world =
      ((fragmentsOfAll (fun p ↦ Watched.noting (fragments p) (.search p)) ps w).1,
        (fragmentsOfAll (fun p ↦ Watched.noting (fragments p) (.search p)) ps w).2.world) := by
  induction ps generalizing w with
  | nil => rfl
  | cons p ps ih =>
    simp only [fragmentsOfAll]
    rw [show (fragments p w.world).2 = (Watched.noting (fragments p) (.search p) w).2.world from rfl,
      ih]
    rfl

theorem readInTurn_noting (read : Path → W → Except FileError String × W) (ps : List Path)
    (w : Watched W) :
    readInTurn read ps w.world =
      ((readInTurn (fun p ↦ Watched.noting (read p) (.read p)) ps w).1,
        (readInTurn (fun p ↦ Watched.noting (read p) (.read p)) ps w).2.world) := by
  induction ps generalizing w with
  | nil => rfl
  | cons p ps ih =>
    have hfirst : read p w.world = ((Watched.noting (read p) (.read p) w).1,
        (Watched.noting (read p) (.read p) w).2.world) := rfl
    simp only [readInTurn]
    rw [hfirst]
    rcases Watched.noting (read p) (.read p) w with ⟨_ | text, w'⟩
    · rfl
    · simp only [ih w']
      rcases readInTurn (fun p ↦ Watched.noting (read p) (.read p)) ps w' with ⟨_ | rest, w''⟩ <;>
        rfl

end Turns

namespace Engine

variable {W : Type} (e : Engine W)

theorem compiled_shows : e.watched.compiled.Shows e.compiled :=
  .remembered (.asking (fun _ ↦ rfl) _) _ _

theorem fileList_shows : e.watched.fileList.Shows e.fileList := by
  refine .remembered (.andThen e.compiled_shows fun c ↦ .told fun w ↦ ?_) _ _
  rw [fragmentsOfAll_noting e.collaborators.fragments c.tree.flatten w]
  rfl

theorem markdown_shows : e.watched.markdown.Shows e.markdown :=
  .remembered (.andThen e.fileList_shows fun l ↦
    .asking (fun w ↦ readInTurn_noting e.collaborators.readFragment l.fragments w) _) _ _

theorem html_shows : e.watched.html.Shows e.html :=
  .remembered (.andThen e.markdown_shows fun _ ↦ .asking (fun _ ↦ rfl) _) _ _

theorem css_shows : e.watched.css.Shows e.css :=
  e.compiled_shows.map _

theorem document_shows : e.watched.document.Shows e.document :=
  .remembered (.andThen e.css_shows fun _ ↦ .andThen e.html_shows fun _ ↦
    .asking (fun _ ↦ rfl) _) _ _

/-- An engine answers the same, keeps the same and changes its world the same, watched or not. -/
theorem answer_shows (d : Demand) : (e.watched.answer d).Shows (e.answer d) := by
  cases d with
  | css => exact e.css_shows.map _
  | files => exact (e.fileList_shows.map _).map _
  | markdown => exact e.markdown_shows.map _
  | html => exact e.html_shows.map _
  | document => exact e.document_shows.map _

def calls (d : Demand) (p : Progress W) : List Call :=
  (e.watched.answer d ⟨p.memo, ⟨p.world, []⟩⟩).2.world.calls

end Engine

/-! ## Histories -/

/-- Something that happens to an engine or around it. -/
inductive Event (W : Type) where
  | demand (d : Demand)
  | change (f : W → W)

/-- A demand, what came of it, and the calls it made. -/
structure Reply where
  demand : Demand
  outcome : Except EngineError Answer
  calls : List Call

/-- The progress of an engine that has not been asked for anything yet. -/
def Progress.fresh {W : Type} (w : W) : Progress W :=
  ⟨.empty, w⟩

namespace Engine

variable {W : Type} (e : Engine W)

def after : List (Event W) → Progress W → Progress W
  | [], p => p
  | .demand d :: rest, p => after rest (e.answer d p).2
  | .change f :: rest, p => after rest ⟨p.memo, f p.world⟩

def replies : List (Event W) → Progress W → List Reply
  | [], _ => []
  | .demand d :: rest, p =>
    ⟨d, (e.answer d p).1, e.calls d p⟩ :: replies rest (e.answer d p).2
  | .change f :: rest, p => replies rest ⟨p.memo, f p.world⟩

def journal (events : List (Event W)) (p : Progress W) : List Call :=
  (e.replies events p).flatMap (·.calls)

theorem after_append (before rest : List (Event W)) (p : Progress W) :
    e.after (before ++ rest) p = e.after rest (e.after before p) := by
  induction before generalizing p with
  | nil => rfl
  | cons event before ih => cases event <;> exact ih _

end Engine

end StyleGuide
