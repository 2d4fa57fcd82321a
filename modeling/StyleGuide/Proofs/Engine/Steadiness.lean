import Mathlib.Data.Set.Insert
import StyleGuide.Engine.OnDisk
import StyleGuide.Proofs.Engine.Stages

/-!
# Answers without a past

Where every call is answered the same whenever it is made, nothing that an engine was asked for
before shows in its answers. `resultIn` makes each stage from the one before it without a memo, and
an engine whose memo holds only such results answers with them and keeps nothing else.
-/

namespace StyleGuide

/-! ## Calls that are always answered the same -/

/-- A call has one answer in some worlds, none of which it leaves. -/
def SteadyCall {W α : Type} (worlds : Set W) (call : W → α × W) : Prop :=
  ∃ answer, ∀ w ∈ worlds, (call w).1 = answer ∧ (call w).2 ∈ worlds

/-- Equal requests are answered equally, with success or with the same error. -/
structure Collaborators.Steady {W : Type} (c : Collaborators W) (worlds : Set W) : Prop where
  compile : ∀ source context, SteadyCall worlds (c.compile source context)
  fragments : ∀ p, SteadyCall worlds (c.fragments p)
  readFragment : ∀ p, SteadyCall worlds (c.readFragment p)
  convert : ∀ text options, SteadyCall worlds (c.convert text options)
  layOut : ∀ bindings, SteadyCall worlds (c.layOut bindings)

/-- The calls that an engine makes are answered alike whenever they are made. Nothing is asked of the
stylesheets that it does not compile. -/
structure Engine.Repeatable {W : Type} (e : Engine W) (worlds : Set W) : Prop where
  compile : SteadyCall worlds (e.collaborators.compile e.source e.context)
  fragments : ∀ p, SteadyCall worlds (e.collaborators.fragments p)
  readFragment : ∀ p, SteadyCall worlds (e.collaborators.readFragment p)
  convert : ∀ text, SteadyCall worlds (e.collaborators.convert text e.options)
  layOut : ∀ bindings, SteadyCall worlds (e.collaborators.layOut bindings)

theorem Collaborators.Steady.repeatable {W : Type} {e : Engine W} {worlds : Set W}
    (steady : e.collaborators.Steady worlds) : e.Repeatable worlds :=
  ⟨steady.compile e.source e.context, steady.fragments, steady.readFragment,
    fun text ↦ steady.convert text e.options, steady.layOut⟩

/-- A disk that nobody changes answers every call the same. -/
theorem steady_onDisk (layout : Page.Layout) (d : Disk) :
    (Collaborators.onDisk layout).Steady {d} := by
  have hstill {α : Type} (answer : Disk → α) : SteadyCall {d} fun d ↦ (answer d, d) :=
    ⟨answer d, fun w hw ↦ ⟨congrArg answer hw, hw⟩⟩
  exact ⟨fun _ _ ↦ hstill _, fun _ ↦ hstill _, fun _ ↦ hstill _, fun _ _ ↦ hstill _,
    fun _ ↦ hstill _⟩

namespace SteadyCall

variable {W α β : Type} {worlds : Set W}

theorem map {call : W → α × W} (h : SteadyCall worlds call) (f : α → β) :
    SteadyCall worlds fun w ↦ (f (call w).1, (call w).2) := by
  obtain ⟨answer, hanswer⟩ := h
  exact ⟨f answer, fun w hw ↦ ⟨congrArg f (hanswer w hw).1, (hanswer w hw).2⟩⟩

theorem fragmentsOfAll {fragments : Path → W → List Path × W}
    (h : ∀ p, SteadyCall worlds (fragments p)) (ps : List Path) :
    SteadyCall worlds (fragmentsOfAll fragments ps) := by
  induction ps with
  | nil => exact ⟨[], fun _ hw ↦ ⟨rfl, hw⟩⟩
  | cons p ps ih =>
    obtain ⟨found, hfound⟩ := h p
    obtain ⟨more, hmore⟩ := ih
    refine ⟨found ++ more, fun w hw ↦ ?_⟩
    obtain ⟨hanswer, hworld⟩ := hfound w hw
    obtain ⟨hanswer', hworld'⟩ := hmore _ hworld
    exact ⟨congrArg₂ _ hanswer hanswer', hworld'⟩

theorem readInTurn {read : Path → W → Except FileError String × W}
    (h : ∀ p, SteadyCall worlds (read p)) (ps : List Path) :
    SteadyCall worlds (readInTurn read ps) := by
  induction ps with
  | nil => exact ⟨.ok "", fun _ hw ↦ ⟨rfl, hw⟩⟩
  | cons p ps ih =>
    obtain ⟨first, hfirst⟩ := h p
    obtain ⟨others, hothers⟩ := ih
    refine ⟨match first with
      | .error cause => .error ⟨p, cause⟩
      | .ok text => others.map (text ++ ·), fun w hw ↦ ?_⟩
    obtain ⟨hanswer, hworld⟩ := hfirst w hw
    simp only [StyleGuide.readInTurn]
    generalize read p w = r at hanswer hworld
    obtain ⟨answer, v⟩ := r
    subst hanswer
    cases answer with
    | error cause => exact ⟨rfl, hworld⟩
    | ok text =>
      obtain ⟨hrest, hworld'⟩ := hothers v hworld
      dsimp only
      generalize StyleGuide.readInTurn read ps v = r at hrest hworld'
      obtain ⟨outcome, v'⟩ := r
      subst hrest
      cases outcome <;> exact ⟨rfl, hworld'⟩

end SteadyCall

/-! ## Results without a memo -/

namespace Engine

section Results

variable {W : Type} (e : Engine W) (w : W)

def compiledIn : Except EngineError CompiledStylesheet :=
  (e.collaborators.compile e.source e.context w).1.mapError .compilation

def fileListIn : Except EngineError FileList := do
  let c ← e.compiledIn w
  return .ofFragments c.tree.flatten (fragmentsOfAll e.collaborators.fragments c.tree.flatten w).1

def markdownIn : Except EngineError String := do
  let l ← e.fileListIn w
  (readInTurn e.collaborators.readFragment l.fragments w).1.mapError .missingFragment

/-- The documentation as it is converted in a world. -/
def htmlIn : Except EngineError String := do
  let text ← e.markdownIn w
  (e.collaborators.convert text e.options w).1.mapError .conversion

def documentIn : Except EngineError String := do
  let c ← e.compiledIn w
  let html ← e.htmlIn w
  (e.collaborators.layOut (.ofOptions e.options c.css html) w).1.mapError .layout

/-- What a stage comes to if all calls are answered as in a world. -/
def resultIn : (s : Stage) → Except EngineError s.Result
  | .compiled => e.compiledIn w
  | .files => e.fileListIn w
  | .markdown => e.markdownIn w
  | .html => e.htmlIn w
  | .document => e.documentIn w

def answerIn : Demand → Except EngineError Answer
  | .css => ((e.compiledIn w).map (·.css)).map .text
  | .files => ((e.fileListIn w).map (·.paths)).map .paths
  | .markdown => (e.markdownIn w).map .text
  | .html => (e.htmlIn w).map .text
  | .document => (e.documentIn w).map .text

/-- Every result in a memo is what its stage comes to. -/
def Fits (m : Memo) : Prop :=
  ∀ s r, m.slot s = some r → e.resultIn w s = .ok r

end Results

variable {W : Type} {e : Engine W} {worlds : Set W} {w : W}

theorem fits_empty : e.Fits w .empty := fun s _ hr ↦ (nomatch (Memo.slot_empty s).symm.trans hr)

theorem Fits.put {m : Memo} (h : e.Fits w m) {s : Stage} {r : s.Result}
    (hr : e.resultIn w s = .ok r) : e.Fits w (m.put s r) := by
  intro t r' hr'
  obtain rfl | hts := eq_or_ne t s
  · rw [Memo.slot_put] at hr'
    rwa [← Option.some.inj hr']
  · exact h t r' ((Memo.slot_put_of_ne m r hts).symm.trans hr')

/-- From a memo that fits, a step comes to a value and leaves a memo that fits. -/
def Yields {α : Type} (e : Engine W) (worlds : Set W) (w : W) (step : Step W α)
    (value : Except EngineError α) : Prop :=
  ∀ p : Progress W, p.world ∈ worlds → e.Fits w p.memo →
    (step p).1 = value ∧ (step p).2.world ∈ worlds ∧ e.Fits w (step p).2.memo

namespace Yields

variable {α β ε : Type}

theorem andThen {first : Step W α} {next : α → Step W β} {value : Except EngineError α}
    {value' : α → Except EngineError β} (hfirst : e.Yields worlds w first value)
    (hnext : ∀ a, e.Yields worlds w (next a) (value' a)) :
    e.Yields worlds w (first.andThen next) (value >>= value') := by
  intro p hworld hfits
  obtain ⟨rfl, hworld', hfits'⟩ := hfirst p hworld hfits
  simp only [Step.andThen]
  generalize first p = r at *
  rcases r with ⟨x | a, q⟩
  · exact ⟨rfl, hworld', hfits'⟩
  · exact hnext a q hworld' hfits'

theorem map {step : Step W α} {value : Except EngineError α} (h : e.Yields worlds w step value)
    (f : α → β) : e.Yields worlds w (step.map f) (value.map f) := by
  intro p hworld hfits
  obtain ⟨rfl, hrest⟩ := h p hworld hfits
  simp only [Step.map]
  generalize step p = r at *
  rcases r with ⟨x | a, q⟩ <;> exact ⟨rfl, hrest⟩

theorem asking {call : W → Except ε α × W} (h : SteadyCall worlds call) (hw : w ∈ worlds)
    (wrap : ε → EngineError) :
    e.Yields worlds w (.asking call wrap) ((call w).1.mapError wrap) := by
  intro p hworld hfits
  obtain ⟨answer, hanswer⟩ := h
  obtain ⟨rfl, hworld'⟩ := hanswer p.world hworld
  rw [(hanswer w hw).1]
  simp only [Step.asking]
  generalize call p.world = r at *
  rcases r with ⟨x | a, v⟩ <;> exact ⟨rfl, hworld', hfits⟩

theorem told {call : W → α × W} (h : SteadyCall worlds call) (hw : w ∈ worlds) :
    e.Yields worlds w (.told call) (.ok (call w).1) := by
  intro p hworld hfits
  obtain ⟨answer, hanswer⟩ := h
  obtain ⟨rfl, hworld'⟩ := hanswer p.world hworld
  exact ⟨congrArg _ (hanswer w hw).1.symm, hworld', hfits⟩

/-- A stage comes to its result, whether it is in the memo or made now. -/
theorem remembered {s : Stage} {make : Step W s.Result}
    (h : e.Yields worlds w make (e.resultIn w s)) :
    e.Yields worlds w (.remembered (Memo.slot · s) (fun r m ↦ m.put s r) make)
      (e.resultIn w s) := by
  intro p hworld hfits
  simp only [Step.remembered]
  cases hslot : p.memo.slot s with
  | some r => exact ⟨(hfits s r hslot).symm, hworld, hfits⟩
  | none =>
    obtain ⟨hvalue, hworld', hfits'⟩ := h p hworld hfits
    dsimp only
    generalize make p = made at *
    rcases made with ⟨x | r, q⟩
    · exact ⟨hvalue, hworld', hfits'⟩
    · exact ⟨hvalue, hworld', hfits'.put hvalue.symm⟩

end Yields

section Accessors

variable (repeatable : e.Repeatable worlds) (hw : w ∈ worlds)

include repeatable hw

theorem compiled_yields : e.Yields worlds w e.compiled (e.compiledIn w) :=
  .remembered (s := .compiled) (.asking repeatable.compile hw _)

theorem fileList_yields : e.Yields worlds w e.fileList (e.fileListIn w) :=
  .remembered (s := .files) (.andThen (compiled_yields repeatable hw) fun c ↦
    .told ((SteadyCall.fragmentsOfAll repeatable.fragments c.tree.flatten).map _) hw)

theorem markdown_yields : e.Yields worlds w e.markdown (e.markdownIn w) :=
  .remembered (s := .markdown) (.andThen (fileList_yields repeatable hw) fun l ↦
    .asking (.readInTurn repeatable.readFragment l.fragments) hw _)

theorem html_yields : e.Yields worlds w e.html (e.htmlIn w) :=
  .remembered (s := .html) (.andThen (markdown_yields repeatable hw) fun text ↦
    .asking (repeatable.convert text) hw _)

theorem document_yields : e.Yields worlds w e.document (e.documentIn w) := by
  have hdocument : e.documentIn w = (e.compiledIn w).map (·.css) >>= fun css ↦
      e.htmlIn w >>= fun html ↦
        (e.collaborators.layOut (.ofOptions e.options css html) w).1.mapError .layout := by
    rw [documentIn]
    cases e.compiledIn w <;> rfl
  refine .remembered (s := .document) ?_
  rw [resultIn, hdocument]
  exact .andThen ((compiled_yields repeatable hw).map _) fun css ↦
    .andThen (html_yields repeatable hw) fun html ↦
      .asking (repeatable.layOut (.ofOptions e.options css html)) hw _

/-- Whatever has been made so far, a demand is answered as if nothing had. -/
theorem answer_yields (d : Demand) : e.Yields worlds w (e.answer d) (e.answerIn w d) := by
  cases d with
  | css => exact ((compiled_yields repeatable hw).map _).map _
  | files => exact ((fileList_yields repeatable hw).map _).map _
  | markdown => exact (markdown_yields repeatable hw).map _
  | html => exact (html_yields repeatable hw).map _
  | document => exact (document_yields repeatable hw).map _

theorem Fits.after_demands {p : Progress W} (hworld : p.world ∈ worlds) (hfits : e.Fits w p.memo)
    (demands : List Demand) :
    (e.after (demands.map .demand) p).world ∈ worlds ∧
      e.Fits w (e.after (demands.map .demand) p).memo := by
  induction demands generalizing p with
  | nil => exact ⟨hworld, hfits⟩
  | cons d demands ih =>
    obtain ⟨-, hworld', hfits'⟩ := answer_yields repeatable hw d p hworld hfits
    exact ih hworld' hfits'

/-- Whatever was asked for before, a demand is answered as it is in any of the worlds. -/
theorem answer_eq_answerIn {v : W} (hv : v ∈ worlds) (earlier : List Demand) (d : Demand) :
    (e.answer d (e.after (earlier.map .demand) (.fresh v))).1 = e.answerIn w d := by
  obtain ⟨hworld, hfits⟩ :=
    Fits.after_demands repeatable hw (p := .fresh v) hv fits_empty earlier
  exact (answer_yields repeatable hw d _ hworld hfits).1

end Accessors

/-- Two histories of demands that end alike are answered alike in the end. -/
theorem answer_after_demands (e : Engine W) (worlds : Set W)
    (steady : e.collaborators.Steady worlds) (w w' : W) (hw : w ∈ worlds) (hw' : w' ∈ worlds)
    (earlier earlier' : List Demand) (d : Demand) :
    (e.answer d (e.after (earlier.map .demand) (.fresh w))).1 =
      (e.answer d (e.after (earlier'.map .demand) (.fresh w'))).1 := by
  rw [answer_eq_answerIn steady.repeatable hw hw, answer_eq_answerIn steady.repeatable hw hw']

def countedCalls : Engine Nat where
  source := "$margin: 0;"
  file := some ⟨"a.scss"⟩
  baseDir := ⟨"."⟩
  options := .default
  sass := .default
  collaborators := {
    compile := fun source context n ↦ (.ok ⟨source, .root context.file []⟩, n + 1)
    fragments := fun p n ↦ ([fragmentPath p], n + 1)
    readFragment := fun _ n ↦ (.error .noEntry, n + 1)
    convert := fun text _ n ↦ (.ok text, n + 1)
    layOut := fun bindings n ↦ (.ok bindings.html, n + 1) }

theorem answer_countedCalls : countedCalls.collaborators.Steady Set.univ ∧
    (countedCalls.answer .html
      (countedCalls.after ([.files, .document, .html].map .demand) (.fresh 0))).1 =
      (countedCalls.answer .html (countedCalls.after ([].map .demand) (.fresh 7))).1 := by
  have steady : countedCalls.collaborators.Steady Set.univ :=
    ⟨fun _ _ ↦ ⟨_, fun _ _ ↦ ⟨rfl, trivial⟩⟩, fun _ ↦ ⟨_, fun _ _ ↦ ⟨rfl, trivial⟩⟩,
      fun _ ↦ ⟨_, fun _ _ ↦ ⟨rfl, trivial⟩⟩, fun _ _ ↦ ⟨_, fun _ _ ↦ ⟨rfl, trivial⟩⟩,
      fun _ ↦ ⟨_, fun _ _ ↦ ⟨rfl, trivial⟩⟩⟩
  exact ⟨steady, answer_after_demands countedCalls Set.univ steady 0 7 trivial trivial
    [.files, .document, .html] [] .html⟩

end Engine

end StyleGuide
