import Mathlib.Data.List.Basic
import Mathlib.Data.Set.Defs
import StyleGuide.Fragments.Glob
import StyleGuide.Proofs.Engine.Assembly

/-!
# What demands leave alone

An engine changes its world through its collaborators only, so a set of worlds that none of them
leaves is not left by any demand. A disk that nobody changes is one such set, and searches that are
answered from it are another. On such a disk the files of a page are those of `FileList.resolve`, and
its text is what the disk holds at the fragments, whoever compiles, converts and lays out.
-/

namespace StyleGuide

variable {W α β ε : Type} {worlds : Set W}

/-- No call leaves a set of worlds. -/
structure Collaborators.Keeps (c : Collaborators W) (worlds : Set W) : Prop where
  compile : ∀ source context, ∀ w ∈ worlds, (c.compile source context w).2 ∈ worlds
  fragments : ∀ p, ∀ w ∈ worlds, (c.fragments p w).2 ∈ worlds
  readFragment : ∀ p, ∀ w ∈ worlds, (c.readFragment p w).2 ∈ worlds
  convert : ∀ text options, ∀ w ∈ worlds, (c.convert text options w).2 ∈ worlds
  layOut : ∀ bindings, ∀ w ∈ worlds, (c.layOut bindings w).2 ∈ worlds

theorem keeps_onDisk (layout : Page.Layout) (disks : Set Disk) :
    (Collaborators.onDisk layout).Keeps disks :=
  ⟨fun _ _ _ hw ↦ hw, fun _ _ hw ↦ hw, fun _ _ hw ↦ hw, fun _ _ _ hw ↦ hw, fun _ _ hw ↦ hw⟩

/-! ## Steps -/

namespace Step

def Keeps (worlds : Set W) (step : Step W α) : Prop :=
  ∀ p, p.world ∈ worlds → (step p).2.world ∈ worlds

theorem Keeps.andThen {first : Step W α} {next : α → Step W β} (hfirst : first.Keeps worlds)
    (hnext : ∀ a, (next a).Keeps worlds) : (first.andThen next).Keeps worlds := by
  intro p hp
  have hq := hfirst p hp
  simp only [Step.andThen]
  generalize first p = made at hq
  rcases made with ⟨_ | a, q⟩
  · exact hq
  · exact hnext a q hq

theorem Keeps.map {step : Step W α} (h : step.Keeps worlds) (f : α → β) :
    (step.map f).Keeps worlds := by
  intro p hp
  rw [snd_map]
  exact h p hp

theorem Keeps.remembered {make : Step W α} (h : make.Keeps worlds) (slot : Memo → Option α)
    (keep : α → Memo → Memo) : (Step.remembered slot keep make).Keeps worlds := by
  intro p hp
  have hq := h p hp
  simp only [Step.remembered]
  generalize make p = made at hq
  cases slot p.memo with
  | some a => exact hp
  | none => rcases made with ⟨_ | a, q⟩ <;> exact hq

theorem Keeps.asking {call : W → Except ε α × W} (h : ∀ w ∈ worlds, (call w).2 ∈ worlds)
    (wrap : ε → EngineError) : (Step.asking call wrap).Keeps worlds := by
  intro p hp
  have hw := h p.world hp
  simp only [Step.asking]
  generalize call p.world = answer at hw
  rcases answer with ⟨_ | a, w⟩ <;> exact hw

theorem Keeps.told {call : W → α × W} (h : ∀ w ∈ worlds, (call w).2 ∈ worlds) :
    (Step.told call).Keeps worlds :=
  fun p hp ↦ h p.world hp

end Step

theorem fragmentsOfAll_mem {fragments : Path → W → List Path × W}
    (h : ∀ p, ∀ w ∈ worlds, (fragments p w).2 ∈ worlds) (ps : List Path) :
    ∀ w ∈ worlds, (fragmentsOfAll fragments ps w).2 ∈ worlds := by
  induction ps with
  | nil => exact fun _ hw ↦ hw
  | cons p ps ih => exact fun w hw ↦ ih _ (h p w hw)

theorem readInTurn_mem {read : Path → W → Except FileError String × W}
    (h : ∀ p, ∀ w ∈ worlds, (read p w).2 ∈ worlds) (ps : List Path) :
    ∀ w ∈ worlds, (readInTurn read ps w).2 ∈ worlds := by
  induction ps with
  | nil => exact fun _ hw ↦ hw
  | cons p ps ih =>
    intro w hw
    have hfirst := h p w hw
    simp only [readInTurn]
    generalize read p w = answer at hfirst
    rcases answer with ⟨_ | text, w'⟩
    · exact hfirst
    · have hothers := ih w' hfirst
      dsimp only
      generalize readInTurn read ps w' = others at hothers
      rcases others with ⟨_ | rest, w''⟩ <;> exact hothers

/-! ## Demands -/

namespace Engine

variable {e : Engine W}

section Demands

variable (keeps : e.collaborators.Keeps worlds)

include keeps

theorem compiled_keeps : e.compiled.Keeps worlds :=
  .remembered (.asking (keeps.compile e.source e.context) _) _ _

theorem fileList_keeps : e.fileList.Keeps worlds := by
  refine .remembered (.andThen (compiled_keeps keeps) fun c ↦ .told ?_) _ _
  exact fragmentsOfAll_mem keeps.fragments c.tree.flatten

theorem markdown_keeps : e.markdown.Keeps worlds :=
  .remembered (.andThen (fileList_keeps keeps) fun l ↦
    .asking (readInTurn_mem keeps.readFragment l.fragments) _) _ _

theorem html_keeps : e.html.Keeps worlds :=
  .remembered (.andThen (markdown_keeps keeps) fun text ↦
    .asking (keeps.convert text e.options) _) _ _

theorem document_keeps : e.document.Keeps worlds :=
  .remembered (.andThen ((compiled_keeps keeps).map _) fun css ↦
    .andThen (html_keeps keeps) fun html ↦
      .asking (keeps.layOut (.ofOptions e.options css html)) _) _ _

/-- No demand leaves a set of worlds that no call leaves. -/
theorem answer_keeps (d : Demand) : (e.answer d).Keeps worlds := by
  cases d with
  | css => exact ((compiled_keeps keeps).map _).map _
  | files => exact ((fileList_keeps keeps).map _).map _
  | markdown => exact (markdown_keeps keeps).map _
  | html => exact (html_keeps keeps).map _
  | document => exact (document_keeps keeps).map _

theorem world_after_demands {p : Progress W} (hp : p.world ∈ worlds) (demands : List Demand) :
    (e.after (demands.map .demand) p).world ∈ worlds := by
  induction demands generalizing p with
  | nil => exact hp
  | cons d demands ih => exact ih (answer_keeps keeps d p hp)

end Demands

/-! ## Engines on a disk -/

/-- Fragments are searched for and read on the disk that the world has, and no call changes it. -/
structure WorksOn (e : Engine W) (glob : Glob) (disk : W → Disk) : Prop where
  still : ∀ d, e.collaborators.Keeps {w | disk w = d}
  searches : ∀ p w, (e.collaborators.fragments p w).1 = fragmentsBy glob (disk w) p
  reads : e.ReadsFrom disk

variable {glob : Glob} {disk : W → Disk}

def Truthful (glob : Glob) (d : Disk) (cs : List Call) : Prop :=
  ∀ f ∈ findings cs, f.2 = fragmentsBy glob d f.1

theorem truthful_append_singleton {d : Disk} {cs : List Call} {call : Call}
    (h : Truthful glob d cs) (hcall : ∀ f ∈ call.finding?, f.2 = fragmentsBy glob d f.1) :
    Truthful glob d (cs ++ [call]) := by
  intro f hf
  unfold findings at hf
  rw [List.filterMap_append, List.mem_append] at hf
  rcases hf with hf | hf
  · exact h f hf
  · obtain ⟨call', hmem, hfound⟩ := List.mem_filterMap.mp hf
    rw [List.mem_singleton.mp hmem] at hfound
    exact hcall f hfound

/-- A watched engine on a disk writes down true searches only. -/
theorem WorksOn.watched (works : e.WorksOn glob disk) (d : Disk) :
    e.watched.collaborators.Keeps {w | disk w.world = d ∧ Truthful glob d w.calls} := by
  have hother {call : Call} (hnone : call.finding? = none) :
      ∀ f ∈ call.finding?, f.2 = fragmentsBy glob d f.1 := by
    rw [hnone]
    exact fun f hf ↦ nomatch hf
  refine ⟨fun source context w hw ↦ ?_, fun p w hw ↦ ?_, fun p w hw ↦ ?_,
    fun text options w hw ↦ ?_, fun bindings w hw ↦ ?_⟩
  · exact ⟨(works.still d).compile source context w.world hw.1,
      truthful_append_singleton hw.2 (hother rfl)⟩
  · refine ⟨(works.still d).fragments p w.world hw.1, truthful_append_singleton hw.2 ?_⟩
    rintro f ⟨⟩
    rw [← hw.1]
    exact works.searches p w.world
  · exact ⟨(works.still d).readFragment p w.world hw.1,
      truthful_append_singleton hw.2 (hother rfl)⟩
  · exact ⟨(works.still d).convert text options w.world hw.1,
      truthful_append_singleton hw.2 (hother rfl)⟩
  · exact ⟨(works.still d).layOut bindings w.world hw.1,
      truthful_append_singleton hw.2 (hother rfl)⟩

theorem truthful_journal (works : e.WorksOn glob disk) (demands : List Demand) (p : Progress W) :
    Truthful glob (disk p.world) (e.journal (demands.map .demand) p) := by
  induction demands generalizing p with
  | nil => exact fun f hf ↦ nomatch hf
  | cons d demands ih =>
    have hcalls := (answer_keeps (works.watched (disk p.world)) d ⟨p.memo, ⟨p.world, []⟩⟩
      ⟨rfl, fun f hf ↦ nomatch hf⟩).2
    have hworld : disk (e.answer d p).2.world = disk p.world :=
      answer_keeps (works.still (disk p.world)) d p rfl
    have hrest := ih (e.answer d p).2
    rw [hworld] at hrest
    have hjournal : e.journal ((d :: demands).map .demand) p =
        e.calls d p ++ e.journal (demands.map .demand) (e.answer d p).2 := rfl
    intro f hf
    rw [hjournal, findings, List.filterMap_append, List.mem_append] at hf
    exact hf.elim (hcalls f) (hrest f)

/-- The files of a page are the stylesheets with the fragments that are found for each. -/
theorem fileList_eq_resolve (works : e.WorksOn glob disk) {demands : List Demand} {w : W}
    {l : FileList} (h : (e.after (demands.map .demand) (.fresh w)).memo.files = some l) :
    ∃ c, (e.after (demands.map .demand) (.fresh w)).memo.compiled = some c ∧
      l = .resolve (fragmentsBy glob (disk w)) c.tree.flatten := by
  obtain ⟨c, listed⟩ := listed_of_kept h
  have hfragments : l.fragments = c.tree.flatten.flatMap (fragmentsBy glob (disk w)) :=
    calc l.fragments
      _ = (findings (e.journal (demands.map .demand) (.fresh w))).flatMap Prod.snd :=
        listed.fragments
      _ = (findings (e.journal (demands.map .demand) (.fresh w))).flatMap
          fun f ↦ fragmentsBy glob (disk w) f.1 :=
        List.flatMap_congr (truthful_journal works demands (.fresh w))
      _ = ((findings (e.journal (demands.map .demand) (.fresh w))).map Prod.fst).flatMap
          (fragmentsBy glob (disk w)) := (List.flatMap_map ..).symm
      _ = c.tree.flatten.flatMap (fragmentsBy glob (disk w)) := by
        rw [listed.searched, ImportTree.flatten_eq_stylesheets]
  have hgrounded : e.Grounded (e.after (demands.map .demand) (.fresh w)).memo :=
    grounded_empty.after (demands.map .demand)
  obtain ⟨_, hmakes⟩ := hgrounded .files (Memo.has_iff.mpr ⟨l, h⟩)
  cases hmakes with
  | files c' found given asked kept =>
    cases listed.compiled.symm.trans given
    cases h.symm.trans kept
    refine ⟨c, given, ?_⟩
    have hfound : (FileList.ofFragments c.tree.flatten (found.flatMap (·.2))).fragments =
        found.flatMap (·.2) := List.drop_left
    rw [FileList.resolve, ← hfragments, hfound]

/-- A demand that the compiler has refused leaves no stylesheet. -/
theorem compiled_of_refused {p : Progress W} (hp : e.Grounded p.memo) {d : Demand}
    (h : e.Refused d p) : (e.answer d p).2.memo.compiled = none := by
  obtain ⟨x, hx, -⟩ := h
  have hcourse := (e.course_answer d p hp).1
  rw [hx] at hcourse
  obtain ⟨_, s, _, _, _, -, -, -, hmissing, hbreaks⟩ := hcourse.failed
  cases hbreaks with
  | compiled => exact hmissing

/-- Whatever was asked for before, a page is answered with what is read in the end. -/
theorem exists_joined_markdown (works : e.WorksOn glob disk) (demands : List Demand) (w : W)
    {c : CompiledStylesheet}
    (hc : (e.answer .markdown (e.after (demands.map .demand) (.fresh w))).2.memo.compiled =
      some c) :
    ∃ outcome, Joined (disk w) (c.tree.flatten.flatMap (fragmentsBy glob (disk w))) outcome ∧
      (e.answer .markdown (e.after (demands.map .demand) (.fresh w))).1 = told outcome := by
  have hp : e.Grounded (e.after (demands.map .demand) (.fresh w)).memo :=
    grounded_empty.after (demands.map .demand)
  have hafter : (e.answer .markdown (e.after (demands.map .demand) (.fresh w))).2 =
      e.after ((demands ++ [Demand.markdown]).map .demand) (.fresh w) := by
    rw [List.map_append]
    exact (after_append_demand ..).symm
  have hfragments {l : FileList}
      (hl : (e.answer .markdown (e.after (demands.map .demand) (.fresh w))).2.memo.files =
        some l) : l.fragments = c.tree.flatten.flatMap (fragmentsBy glob (disk w)) := by
    rw [hafter] at hl hc
    obtain ⟨c', hc', rfl⟩ := fileList_eq_resolve works hl
    cases hc.symm.trans hc'
    exact List.drop_left
  have hdisk (earlier : List Demand) :
      disk (e.answer .markdown (e.after (earlier.map .demand) (.fresh w))).2.world = disk w :=
    answer_keeps (works.still (disk w)) .markdown _
      (world_after_demands (works.still (disk w)) (p := .fresh w) rfl earlier)
  cases hmarkdown : (e.after (demands.map .demand) (.fresh w)).memo.markdown with
  | none =>
    rcases markdown_assembled works.reads hp hmarkdown with hrefused | ⟨l, outcome, hl, htold, hjoined⟩
    · cases hc.symm.trans (compiled_of_refused hp hrefused)
    · rw [hdisk, hfragments hl] at hjoined
      exact ⟨outcome, hjoined, htold⟩
  | some text =>
    obtain ⟨l, before, rest, hl, hevents, -, hjoined⟩ :=
      exists_markdown_assembled works.reads hmarkdown
    obtain ⟨earlier, _, _, rfl, -⟩ := List.map_eq_append_iff.mp hevents
    have hview : (e.after (demands.map .demand) (.fresh w)).memo.view .markdown =
        some (.text text) := by
      rw [Memo.view, hmarkdown, Option.map_some]
    have hlater := (e.course_answer .markdown _ hp).1.le .files l hl
    rw [hdisk, hfragments hlater] at hjoined
    exact ⟨.ok text, hjoined, answer_of_view hp hview⟩

/-- Collaborators that answer from a disk alone do not change it. -/
theorem worksOn_onDisk {e : Engine Disk} {layout : Page.Layout}
    (honDisk : e.collaborators = .onDisk layout) : e.WorksOn .walk id := by
  refine ⟨fun d ↦ ?_, fun p d ↦ ?_, fun p d ↦ ?_⟩
  · rw [honDisk]
    exact keeps_onDisk layout _
  · rw [honDisk]
    rfl
  · rw [honDisk]
    rfl

/-- The engine of a stylesheet that has nothing in it, so there is nothing to compile either. -/
def ofBlank (file : Path) : Engine Disk :=
  { Engine.ofSource "" .default { Collaborators.onDisk .builtIn with
      compile := fun source context d ↦ (.ok ⟨source, .root context.file []⟩, d) } with
    file := some file }

theorem worksOn_ofBlank (file : Path) : (ofBlank file).WorksOn .walk id :=
  ⟨fun _ ↦ ⟨fun _ _ _ hw ↦ hw, fun _ _ hw ↦ hw, fun _ _ hw ↦ hw, fun _ _ _ hw ↦ hw,
    fun _ _ hw ↦ hw⟩, fun _ _ ↦ rfl, fun _ _ ↦ rfl⟩

end Engine

end StyleGuide
