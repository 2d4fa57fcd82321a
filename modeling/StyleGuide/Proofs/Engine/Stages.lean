import Mathlib.Data.Nat.Basic
import Mathlib.Order.Lattice
import StyleGuide.Proofs.Engine.Journal

/-!
# Stages of engines

A page is made in five stages, and a memo has a slot for the result of each. `Makes` says what a
stage makes of the results before it and by which calls, and `Breaks` how it may fail. Neither
mentions how an engine goes about it.
-/

namespace StyleGuide

/-- The stages of a page, named for what they result in. -/
inductive Stage where
  | compiled
  | files
  | markdown
  | html
  | document
deriving DecidableEq, Repr

namespace Stage

abbrev Result : Stage → Type
  | compiled => CompiledStylesheet
  | files => FileList
  | markdown => String
  | html => String
  | document => String

def before : Stage → List Stage
  | compiled => []
  | files => [compiled]
  | markdown => [compiled, files]
  | html => [compiled, files, markdown]
  | document => [compiled, files, markdown, html]

def upTo (s : Stage) : List Stage :=
  s.before ++ [s]

/-- Stages are ordered as they are done. -/
instance : LinearOrder Stage :=
  LinearOrder.lift' (fun s ↦ s.before.length) fun s t h ↦ by
    cases s <;> cases t <;> first | rfl | exact absurd h (by decide)

@[simp]
theorem mem_before {s t : Stage} : t ∈ s.before ↔ t < s := by
  cases s <;> cases t <;> decide

@[simp]
theorem mem_upTo {s t : Stage} : t ∈ s.upTo ↔ t ≤ s := by
  cases s <;> cases t <;> decide

end Stage

def Demand.stage : Demand → Stage
  | css => .compiled
  | files => .files
  | markdown => .markdown
  | html => .html
  | document => .document

def Call.stage : Call → Stage
  | compile .. => .compiled
  | search .. => .files
  | read .. => .markdown
  | convert .. => .html
  | layOut .. => .document

/-- The stage that an error comes from; none if the engine could not even be made. -/
def EngineError.stage? : EngineError → Option Stage
  | source .. => none
  | compilation _ => some .compiled
  | missingFragment _ => some .markdown
  | conversion _ => some .html
  | layout _ => some .document

/-! ## Slots -/

namespace Memo

def slot (m : Memo) : (s : Stage) → Option s.Result
  | .compiled => m.compiled
  | .files => m.files
  | .markdown => m.markdown
  | .html => m.html
  | .document => m.document

def put (m : Memo) : (s : Stage) → s.Result → Memo
  | .compiled, c => { m with compiled := some c }
  | .files, l => { m with files := some l }
  | .markdown, text => { m with markdown := some text }
  | .html, text => { m with html := some text }
  | .document, text => { m with document := some text }

def has (m : Memo) (s : Stage) : Prop :=
  m.slot s ≠ none

def view (m : Memo) : Demand → Option Answer
  | .css => m.compiled.map (.text ·.css)
  | .files => m.files.map (.paths ·.paths)
  | .markdown => m.markdown.map .text
  | .html => m.html.map .text
  | .document => m.document.map .text

/-- One memo comes before another if each of its results is in the other as well. -/
instance : Preorder Memo where
  le m m' := ∀ s r, m.slot s = some r → m'.slot s = some r
  le_refl _ _ _ h := h
  le_trans _ _ _ h h' s r hr := h' s r (h s r hr)

@[simp]
theorem slot_empty (s : Stage) : empty.slot s = none := by
  cases s <;> rfl

@[simp]
theorem slot_put (m : Memo) (s : Stage) (r : s.Result) : (m.put s r).slot s = some r := by
  cases s <;> rfl

theorem slot_put_of_ne (m : Memo) {s t : Stage} (r : s.Result) (h : t ≠ s) :
    (m.put s r).slot t = m.slot t := by
  cases s <;> cases t <;> first | rfl | exact absurd rfl h

theorem le_put {m : Memo} {s : Stage} (h : m.slot s = none) (r : s.Result) : m ≤ m.put s r := by
  intro t r' hr
  by_cases ht : t = s
  · subst ht
    rw [h] at hr
    cases hr
  · rwa [slot_put_of_ne m r ht]

theorem has_iff {m : Memo} {s : Stage} : m.has s ↔ ∃ r, m.slot s = some r :=
  Option.ne_none_iff_exists'

theorem has_mono {m m' : Memo} (h : m ≤ m') {s : Stage} (hs : m.has s) : m'.has s := by
  obtain ⟨r, hr⟩ := has_iff.mp hs
  exact has_iff.mpr ⟨r, h s r hr⟩

theorem view_mono {m m' : Memo} (h : m ≤ m') {d : Demand} {a : Answer}
    (ha : m.view d = some a) : m'.view d = some a := by
  cases d <;> obtain ⟨r, hr, rfl⟩ := Option.map_eq_some_iff.mp ha
  · exact Option.map_eq_some_iff.mpr ⟨r, h .compiled r hr, rfl⟩
  · exact Option.map_eq_some_iff.mpr ⟨r, h .files r hr, rfl⟩
  · exact Option.map_eq_some_iff.mpr ⟨r, h .markdown r hr, rfl⟩
  · exact Option.map_eq_some_iff.mpr ⟨r, h .html r hr, rfl⟩
  · exact Option.map_eq_some_iff.mpr ⟨r, h .document r hr, rfl⟩

end Memo

/-! ## What stages do -/

namespace Engine

variable {W : Type} (e : Engine W)

/-- A stage's result in a memo is what the stage makes of the results before it by some calls. -/
inductive Makes (m : Memo) : Stage → List Call → Prop
  | compiled (c : CompiledStylesheet) (kept : m.compiled = some c) :
      Makes m .compiled [.compile e.source e.context (.ok c)]
  | files (c : CompiledStylesheet) (found : List (Path × List Path))
      (given : m.compiled = some c) (asked : found.map (·.1) = c.tree.flatten)
      (kept : m.files = some (.ofFragments c.tree.flatten (found.flatMap (·.2)))) :
      Makes m .files (found.map fun f ↦ .search f.1 f.2)
  | markdown (l : FileList) (texts : List (Path × String))
      (given : m.files = some l) (asked : texts.map (·.1) = l.fragments)
      (kept : m.markdown = some (String.join (texts.map (·.2)))) :
      Makes m .markdown (texts.map fun t ↦ .read t.1 (.ok t.2))
  | html (text html : String) (given : m.markdown = some text) (kept : m.html = some html) :
      Makes m .html [.convert text e.options (.ok html)]
  | document (c : CompiledStylesheet) (html document : String)
      (styled : m.compiled = some c) (given : m.html = some html)
      (kept : m.document = some document) :
      Makes m .document [.layOut (.ofOptions e.options c.css html) (.ok document)]

/-- Some calls of a stage on the results before it end in an error. Listing files cannot. -/
inductive Breaks (m : Memo) : Stage → List Call → EngineError → Prop
  | compiled (cause : CompileError) :
      Breaks m .compiled [.compile e.source e.context (.error cause)] (.compilation cause)
  | markdown (l : FileList) (texts : List (Path × String)) (p : Path) (unread : List Path)
      (cause : FileError) (given : m.files = some l)
      (asked : l.fragments = texts.map (·.1) ++ p :: unread) :
      Breaks m .markdown ((texts.map fun t ↦ .read t.1 (.ok t.2)) ++ [.read p (.error cause)])
        (.missingFragment ⟨p, cause⟩)
  | html (text reason : String) (given : m.markdown = some text) :
      Breaks m .html [.convert text e.options (.error reason)] (.conversion reason)
  | document (c : CompiledStylesheet) (html : String) (cause : Page.LayoutError)
      (styled : m.compiled = some c) (given : m.html = some html) :
      Breaks m .document [.layOut (.ofOptions e.options c.css html) (.error cause)] (.layout cause)

variable {e} {m m' : Memo} {s : Stage} {cs : List Call} {x : EngineError}

theorem Makes.mono (h : m ≤ m') (hm : e.Makes m s cs) : e.Makes m' s cs := by
  cases hm with
  | compiled c kept => exact .compiled c (h .compiled c kept)
  | files c found given asked kept =>
    exact .files c found (h .compiled c given) asked (h .files _ kept)
  | markdown l texts given asked kept =>
    exact .markdown l texts (h .files l given) asked (h .markdown _ kept)
  | html text html given kept => exact .html text html (h .markdown text given) (h .html html kept)
  | document c html document styled given kept =>
    exact .document c html document (h .compiled c styled) (h .html html given)
      (h .document document kept)

theorem Breaks.mono (h : m ≤ m') (hm : e.Breaks m s cs x) : e.Breaks m' s cs x := by
  cases hm with
  | compiled cause => exact .compiled cause
  | markdown l texts p unread cause given asked =>
    exact .markdown l texts p unread cause (h .files l given) asked
  | html text reason given => exact .html text reason (h .markdown text given)
  | document c html cause styled given =>
    exact .document c html cause (h .compiled c styled) (h .html html given)

theorem Makes.has (h : e.Makes m s cs) : m.has s := by
  cases h <;> exact Memo.has_iff.mpr ⟨_, by assumption⟩

theorem Makes.stage_eq (h : e.Makes m s cs) {call : Call} (hc : call ∈ cs) : call.stage = s := by
  cases h with
  | files c found =>
    obtain ⟨f, -, rfl⟩ := List.mem_map.mp hc
    rfl
  | markdown l texts =>
    obtain ⟨t, -, rfl⟩ := List.mem_map.mp hc
    rfl
  | _ => rw [List.mem_singleton.mp hc]; rfl

theorem Breaks.stage_eq (h : e.Breaks m s cs x) {call : Call} (hc : call ∈ cs) :
    call.stage = s := by
  cases h with
  | markdown l texts =>
    rcases List.mem_append.mp hc with ht | hp
    · obtain ⟨t, -, rfl⟩ := List.mem_map.mp ht
      rfl
    · rw [List.mem_singleton.mp hp]
      rfl
  | _ => rw [List.mem_singleton.mp hc]; rfl

theorem Breaks.error_stage (h : e.Breaks m s cs x) : x.stage? = some s := by
  cases h <;> rfl

def Grounded (e : Engine W) (m : Memo) : Prop :=
  ∀ s, m.has s → ∃ cs, e.Makes m s cs

theorem grounded_empty : e.Grounded .empty := fun s h ↦ absurd (Memo.slot_empty s) h

/-- A stage works on the result of the stage right before it. -/
theorem Makes.has_previous (h : e.Makes m s cs) : ∀ t ∈ s.before.getLast?, m.has t := by
  intro t ht
  cases h <;> cases ht <;> exact Memo.has_iff.mpr ⟨_, by assumption⟩

/-- With the result of a stage there are the results of all stages before it. -/
theorem Grounded.has_of_le (h : e.Grounded m) {t : Stage} (hs : m.has s) (hle : t ≤ s) :
    m.has t := by
  have hprevious (u v : Stage) (huv : v ∈ u.before.getLast?) (hu : m.has u) : m.has v := by
    obtain ⟨_, hmakes⟩ := h u hu
    exact hmakes.has_previous v huv
  have hfiles := hprevious .files .compiled rfl
  have hmarkdown := hprevious .markdown .files rfl
  have hhtml := hprevious .html .markdown rfl
  have hdocument := hprevious .document .html rfl
  cases s <;> cases t <;> first | exact absurd hle (by decide) | simp_all only

end Engine

end StyleGuide
