import StyleGuide.Engine.OnDisk
import StyleGuide.Proofs.Disk.Texts
import StyleGuide.Proofs.Engine.Memoization
import StyleGuide.Proofs.Engine.Resumption
import StyleGuide.Proofs.Imports.Walk

/-!
# Files and text of a page

The files of a page are the stylesheets of its import tree, and behind them what the searches for
their fragments have found, one search for each stylesheet and none for a fragment. The text of a
page is what a disk holds at these fragments, put together in order, or there is none because one
of them is no text.
-/

namespace StyleGuide

/-! ## Texts on a disk -/

/-- What comes of reading some fragments on a disk: their texts one after another, or the first
fragment that is no text. -/
inductive Joined (d : Disk) (fragments : List Path) : Except MissingFragment String → Prop
  | all (texts : List (Path × String)) (asked : texts.map Prod.fst = fragments)
      (held : ∀ t ∈ texts, d.Holds t.1 t.2)
      (within : ∀ t ∈ texts, t.2.toList <:+: (String.join (texts.map Prod.snd)).toList) :
      Joined d fragments (.ok (String.join (texts.map Prod.snd)))
  | missing (before : List Path) (p : Path) (after : List Path) (cause : FileError)
      (asked : fragments = before ++ p :: after)
      (held : ∀ q ∈ before, ∃ text, d.Holds q text) (lacks : ¬ ∃ text, d.Holds p text) :
      Joined d fragments (.error ⟨p, cause⟩)

/-- A text lies unbroken in what it is joined into. -/
theorem infix_join_of_mem {texts : List String} {text : String} (h : text ∈ texts) :
    text.toList <:+: (String.join texts).toList := by
  rw [String.toList_join, List.flatMap_def]
  exact List.infix_of_mem_flatten (List.mem_map_of_mem h)

theorem joined_readFragments (d : Disk) (fragments : List Path) :
    Joined d fragments (readFragments d.readText fragments) := by
  induction fragments with
  | nil => exact .all [] rfl (List.forall_mem_nil _) (List.forall_mem_nil _)
  | cons p ps ih =>
    rw [readFragments]
    cases hread : d.readText p with
    | error cause =>
      refine .missing [] p ps cause rfl (List.forall_mem_nil _) ?_
      rintro ⟨text, htext⟩
      cases hread.symm.trans (Disk.readText_eq_ok.mpr htext)
    | ok text =>
      have hfirst : d.Holds p text := Disk.readText_eq_ok.mp hread
      dsimp only
      generalize readFragments d.readText ps = others at ih
      cases ih with
      | all texts asked held =>
        dsimp only
        rw [← String.join_cons, ← List.map_cons (f := Prod.snd) (a := (p, text))]
        refine .all ((p, text) :: texts) (by rw [List.map_cons, asked]) ?_ fun t ht ↦
          infix_join_of_mem (List.mem_map_of_mem ht)
        exact List.forall_mem_cons.mpr ⟨hfirst, held⟩
      | missing before q after cause asked held lacks =>
        exact .missing (p :: before) q after cause (by rw [asked, List.cons_append])
          (List.forall_mem_cons.mpr ⟨⟨text, hfirst⟩, held⟩) lacks

@[simp]
theorem Step.snd_map {W α β : Type} (f : α → β) (step : Step W α) (p : Progress W) :
    (step.map f p).2 = (step p).2 := by
  simp only [Step.map]
  rcases step p with ⟨_ | _, _⟩ <;> rfl

@[simp]
theorem Step.memo_asking {W α ε : Type} (call : W → Except ε α × W) (wrap : ε → EngineError)
    (p : Progress W) : (Step.asking call wrap p).2.memo = p.memo := by
  simp only [Step.asking]
  rcases call p.world with ⟨_ | _, _⟩ <;> rfl

def Call.finding? : Call → Option (Path × List Path)
  | search stylesheet found => some (stylesheet, found)
  | _ => none

namespace Engine

variable {W : Type} {e : Engine W} {p : Progress W}

/-! ## Files -/

/-- All searches with what they found, oldest first. -/
def findings (cs : List Call) : List (Path × List Path) :=
  cs.filterMap Call.finding?

/-- The compiler was asked and has refused, and nothing else was done. -/
def Refused (e : Engine W) (d : Demand) (p : Progress W) : Prop :=
  ∃ x, (e.answer d p).1 = .error (.compilation x) ∧
    e.calls d p = [.compile e.source e.context (.error x)]

/-- The files after some events, as the tree and all searches have them. -/
structure Listed (e : Engine W) (events : List (Event W)) (w : W) (c : CompiledStylesheet)
    (l : FileList) : Prop where
  compiled : (e.after events (.fresh w)).memo.compiled = some c
  kept : (e.after events (.fresh w)).memo.files = some l
  /-- Every stylesheet was searched for, as often as it is listed and in this order, and nothing
  else was. -/
  searched : (findings (e.journal events (.fresh w))).map Prod.fst = c.tree.stylesheets
  stylesheets : l.stylesheets = c.tree.stylesheets
  fragments : l.fragments = (findings (e.journal events (.fresh w))).flatMap Prod.snd
  paths : l.paths = l.stylesheets ++ l.fragments

theorem listed_of_kept {events : List (Event W)} {w : W} {l : FileList}
    (h : (e.after events (.fresh w)).memo.files = some l) : ∃ c, e.Listed events w c l := by
  obtain ⟨broken, made, hcalls, hbroken, hmade⟩ :=
    journal_callsAt_of_missing (e := e) (p := .fresh w) grounded_empty (s := .files) rfl events
  have hnone : broken = [] := List.eq_nil_iff_forall_not_mem.mpr fun b hb ↦ by
    obtain ⟨y, hy⟩ := hbroken b hb
    cases hy
  have hmakes := hmade.resolve_left fun hmissing ↦ by cases h.symm.trans hmissing.1
  rw [hnone, List.flatten_nil, List.nil_append] at hcalls
  have hfindings : findings (e.journal events (.fresh w)) = made.filterMap Call.finding? := by
    rw [← hcalls]
    exact (filterMap_callsAt (fun call hs ↦ by
      cases call <;> first | rfl | exact absurd rfl hs) _).symm
  cases hmakes with
  | files c found given asked kept =>
    have hfound : findings (e.journal events (.fresh w)) = found := by
      rw [hfindings, List.filterMap_map]
      exact List.filterMap_some
    obtain rfl := Option.some.inj (h.symm.trans kept)
    refine ⟨c, given, h, ?_, ?_, ?_, ?_⟩
    · rw [hfound, asked, ImportTree.flatten_eq_stylesheets]
    · rw [← ImportTree.flatten_eq_stylesheets]
      exact List.take_left
    · rw [hfound]
      exact List.drop_left
    · exact (List.take_append_drop ..).symm

/-- A demand that fails leaves its stage without a result. -/
theorem slot_of_failed (hp : e.Grounded p.memo) {d : Demand} {x : EngineError}
    (h : (e.answer d p).1 = .error x) : (e.answer d p).2.memo.slot d.stage = none := by
  have hcourse := (e.course_answer d p hp).1
  rw [h] at hcourse
  obtain ⟨earlier, s, later, -, -, hstages, -, -, hmissing, -⟩ := hcourse.failed
  have hs : s ≤ d.stage :=
    Stage.mem_upTo.mp (hstages ▸ List.mem_append_right _ List.mem_cons_self)
  by_contra hhas
  exact (hp.answer d).has_of_le hhas hs hmissing

theorem refused_of_compilation (hp : e.Grounded p.memo) {d : Demand} {x : CompileError}
    (h : (e.answer d p).1 = .error (.compilation x)) : e.Refused d p := by
  have hcourse := (e.course_answer d p hp).1
  rw [h] at hcourse
  obtain ⟨earlier, s, later, now, broken, hstages, hcalls, hnow, -, hbreaks⟩ := hcourse.failed
  obtain rfl := Stage.eq_before_of_upTo_eq hstages
  generalize (e.answer d p).2.memo = m at hnow hbreaks
  cases hbreaks with
  | compiled =>
    cases hnow with
    | done => exact ⟨x, h, hcalls⟩

/-- The files are there, unless the compiler refuses. -/
theorem files_cases (hp : e.Grounded p.memo) :
    (∃ x, (e.answer .files p).1 = .error (.compilation x)) ∨
      ∃ l, (e.answer .files p).1 = .ok (.paths l.paths) ∧
        (e.answer .files p).2.memo.files = some l := by
  obtain ⟨hcourse, hview⟩ := e.course_answer .files p hp
  cases houtcome : (e.answer .files p).1 with
  | ok a =>
    obtain ⟨l, hl, rfl⟩ := Option.map_eq_some_iff.mp (hview a houtcome)
    exact .inr ⟨l, rfl, hl⟩
  | error x =>
    rw [houtcome] at hcourse
    obtain ⟨earlier, s, later, now, broken, hstages, -, -, -, hbreaks⟩ := hcourse.failed
    have hs : s ∈ Stage.files.upTo := hstages ▸ List.mem_append_right _ List.mem_cons_self
    cases hbreaks with
    | compiled cause => exact .inl ⟨cause, rfl⟩
    | _ => exact absurd (Stage.mem_upTo.mp hs) (by decide)

/-! ## Text -/

/-- Fragments are read from the disk that the world has, which reading does not change. -/
def ReadsFrom (e : Engine W) (disk : W → Disk) : Prop :=
  ∀ p w, e.collaborators.readFragment p w = ((disk w).readText p, w)

def told : Except MissingFragment String → Except EngineError Answer
  | .ok text => .ok (.text text)
  | .error x => .error (.missingFragment x)

/-- A result that is remembered is in its slot. -/
theorem slot_of_remembered {α : Type} (slot : Memo → Option α) {keep : α → Memo → Memo}
    {make : Step W α} (hkeep : ∀ a m, slot (keep a m) = some a) {a : α} {q : Progress W}
    (h : Step.remembered slot keep make p = (.ok a, q)) : slot q.memo = some a := by
  simp only [Step.remembered] at h
  cases hslot : slot p.memo with
  | some b =>
    simp only [hslot] at h
    cases h
    exact hslot
  | none =>
    simp only [hslot] at h
    rcases hmake : make p with ⟨x | b, q'⟩ <;> simp only [hmake] at h <;> cases h
    exact hkeep a q'.memo

/-- A text that is missing is made from the files, by reading what the disk then holds. -/
theorem markdown_cases {disk : W → Disk} (reads : e.ReadsFrom disk)
    (missing : p.memo.markdown = none) :
    (∃ x q, e.fileList p = (.error x, q) ∧ e.answer .markdown p = (.error x, q)) ∨
    ∃ l outcome, (e.answer .markdown p).2.memo.files = some l ∧
      (e.answer .markdown p).1 = told outcome ∧
      Joined (disk (e.answer .markdown p).2.world) l.fragments outcome := by
  rcases hfiles : e.fileList p with ⟨x | l, q⟩
  · left
    refine ⟨x, q, rfl, ?_⟩
    simp only [answer, Step.map, markdown, Step.remembered, missing, Step.andThen, hfiles]
  · right
    have hkept : q.memo.files = some l := slot_of_remembered Memo.files (fun _ _ ↦ rfl) hfiles
    have hstill : e.collaborators.readFragment = fun p w ↦ ((disk w).readText p, w) :=
      funext fun p ↦ funext fun w ↦ reads p w
    have hread : readInTurn e.collaborators.readFragment l.fragments q.world =
        (readFragments (disk q.world).readText l.fragments, q.world) := by
      rw [hstill]
      exact readInTurn_still (fun w ↦ (disk w).readText) l.fragments q.world
    refine ⟨l, readFragments (disk q.world).readText l.fragments, ?_⟩
    have hjoined := joined_readFragments (disk q.world) l.fragments
    simp only [answer, Step.map, markdown, Step.remembered, missing, Step.andThen, hfiles,
      Step.asking, hread]
    generalize readFragments (disk q.world).readText l.fragments = outcome at hjoined
    cases outcome <;> exact ⟨hkept, rfl, hjoined⟩

/-- Once the stylesheet is compiled, the text is made as it would be made without. -/
theorem markdown_of_compiled (hp : e.Grounded p.memo) (missing : p.memo.markdown = none)
    {c : CompiledStylesheet} {q : Progress W} (h : e.compiled p = (.ok c, q)) :
    e.markdown q = e.markdown p := by
  cases hcompiled : p.memo.compiled with
  | some c' =>
    simp only [compiled, Step.remembered, hcompiled] at h
    cases h
    rfl
  | none =>
    have hfiles : p.memo.files = none := by
      by_contra hhas
      exact hp.has_of_le (s := .files) (t := .compiled) hhas (by decide) hcompiled
    have hq : q.memo = { p.memo with compiled := some c } := by
      simp only [compiled, Step.remembered, hcompiled, Step.asking] at h
      generalize e.collaborators.compile e.source e.context p.world = answer at h
      rcases answer with ⟨x | c', w⟩ <;> cases h
      rfl
    have hagain : e.compiled q = (.ok c, q) := by
      simp only [compiled, Step.remembered, hq]
    have hlist : e.fileList q = e.fileList p := by
      simp only [fileList, Step.remembered, Step.andThen, hq, hfiles, h]
      rw [hagain]
    simp only [markdown, Step.remembered, Step.andThen, hq, missing, hlist]

/-- A stage whose own work leaves the memo alone keeps in the slots before its own what it has
found there. -/
theorem slot_of_stage {α : Type} {s t : Stage} {first : Step W α} {next : α → Step W s.Result}
    (ht : t < s) (missing : p.memo.slot s = none)
    (hnext : ∀ a q, (next a q).2.memo = q.memo) :
    (Step.remembered (Memo.slot · s) (fun r m ↦ m.put s r) (first.andThen next) p).2.memo.slot t =
      (first p).2.memo.slot t := by
  simp only [Step.remembered, Step.andThen, missing]
  rcases first p with ⟨x | a, q⟩
  · rfl
  · have hmemo := hnext a q
    dsimp only
    generalize next a q = r at hmemo
    rcases r with ⟨x | b, q'⟩
    · exact congrArg (Memo.slot · t) hmemo
    · exact (Memo.slot_put_of_ne q'.memo b ht.ne).trans (congrArg (Memo.slot · t) hmemo)

theorem slot_html {t : Stage} (ht : t < .html) (missing : p.memo.html = none) :
    (e.html p).2.memo.slot t = (e.markdown p).2.memo.slot t :=
  slot_of_stage ht missing fun _ _ ↦ Step.memo_asking ..

theorem slot_document {t : Stage} (ht : t < .document) (missing : p.memo.document = none)
    {c : CompiledStylesheet} {q : Progress W} (h : e.compiled p = (.ok c, q)) :
    (e.document p).2.memo.slot t = (e.html q).2.memo.slot t := by
  rw [document, ← Step.pair_andThen e.css e.html fun given ↦
    .asking (e.collaborators.layOut (.ofOptions e.options given.1 given.2)) .layout]
  refine (slot_of_stage ht missing fun _ _ ↦ Step.memo_asking ..).trans ?_
  simp only [Step.andThen, css, Step.map, h]
  rcases e.html q with ⟨x | html, q'⟩ <;> rfl

/-- A demand leaves the slots of later stages alone. -/
theorem slot_of_earlier (hp : e.Grounded p.memo) {d : Demand} {s : Stage} (hs : d.stage < s)
    (missing : p.memo.slot s = none) : (e.answer d p).2.memo.slot s = none := by
  by_contra hhas
  rcases (e.course_answer d p hp).1.has_or_mem hhas with hbefore | hmem
  · exact hbefore missing
  · exact absurd hs (not_lt.mpr (Stage.mem_upTo.mp hmem))

/-- A demand that puts the text together leaves behind what a demand for the text alone does. -/
theorem slot_of_filled (hp : e.Grounded p.memo) (missing : p.memo.slot .markdown = none)
    {d : Demand} (h : (e.answer d p).2.memo.has .markdown) {t : Stage} (ht : t ≤ .markdown) :
    (e.answer d p).2.memo.slot t = (e.answer .markdown p).2.memo.slot t := by
  have hlater (s : Stage) (hs : .markdown ≤ s) : p.memo.slot s = none := by
    by_contra hhas
    exact hp.has_of_le hhas hs missing
  have hmarkdown : (e.answer .markdown p).2 = (e.markdown p).2 := Step.snd_map ..
  rw [hmarkdown]
  cases d with
  | css => exact absurd (slot_of_earlier hp (by decide) missing) h
  | files => exact absurd (slot_of_earlier hp (by decide) missing) h
  | markdown => rw [hmarkdown]
  | html =>
    have hhtml : (e.answer .html p).2 = (e.html p).2 := Step.snd_map ..
    rw [hhtml, slot_html (ht.trans_lt (by decide)) (hlater .html (by decide))]
  | document =>
    have hdocument : (e.answer .document p).2 = (e.document p).2 := Step.snd_map ..
    have hcss : (e.answer .css p).2 = (e.compiled p).2 := (Step.snd_map ..).trans (Step.snd_map ..)
    rw [hdocument] at h ⊢
    have hmissing : p.memo.document = none := hlater .document (by decide)
    rcases hc : e.compiled p with ⟨x | c, q⟩ <;> rw [hc] at hcss <;> dsimp only at hcss
    · have hfailed : (e.document p).2 = q := by
        simp only [document, css, Step.remembered, Step.andThen, Step.map, hmissing, hc]
      rw [hfailed, ← hcss] at h
      exact absurd (slot_of_earlier hp (by decide) missing) h
    · have hhtml : q.memo.html = none :=
        hcss ▸ slot_of_earlier (s := .html) (d := .css) hp (by decide) (hlater .html (by decide))
      rw [slot_document (ht.trans_lt (by decide)) hmissing hc,
        slot_html (ht.trans_lt (by decide)) hhtml, markdown_of_compiled hp missing hc]

/-! ## Histories -/

/-- After some events an engine that is asked for its text answers with what comes of reading some
fragments. They are read at once or, if the text is there already, were read after the first of the
events, when it was made. -/
structure Read (e : Engine W) (disk : W → Disk) (events : List (Event W)) (w : W)
    (fragments : List Path) (outcome : Except MissingFragment String)
    (before rest : List (Event W)) : Prop where
  answered : (e.answer .markdown (e.after events (.fresh w))).1 = told outcome
  /-- A fragment that cannot be read leaves no text. -/
  noneKept : ∀ x, outcome = .error x →
    (e.answer .markdown (e.after events (.fresh w))).2.memo.markdown = none
  split : events = before ++ rest
  atOnce : (e.after events (.fresh w)).memo.markdown = none → rest = []
  missing : (e.after before (.fresh w)).memo.markdown = none
  joined : Joined (disk (e.answer .markdown (e.after before (.fresh w))).2.world) fragments outcome

/-- What an engine answers after some events when it is asked for its files or its text. -/
structure Assembled (e : Engine W) (disk : W → Disk) (events : List (Event W)) (w : W) : Prop where
  files : e.Refused .files (e.after events (.fresh w)) ∨ ∃ c l,
    e.Listed (events ++ [.demand .files]) w c l ∧
    (e.answer .files (e.after events (.fresh w))).1 = .ok (.paths l.paths)
  markdown : e.Refused .markdown (e.after events (.fresh w)) ∨ ∃ c l outcome before rest,
    e.Listed (events ++ [.demand .markdown]) w c l ∧
    e.Read disk events w l.fragments outcome before rest

theorem files_assembled (hp : e.Grounded p.memo) :
    e.Refused .files p ∨ ∃ l, (e.answer .files p).2.memo.files = some l ∧
      (e.answer .files p).1 = .ok (.paths l.paths) := by
  rcases files_cases hp with ⟨x, hx⟩ | ⟨l, houtcome, hl⟩
  · exact .inl (refused_of_compilation hp hx)
  · exact .inr ⟨l, hl, houtcome⟩

variable {disk : W → Disk}

/-- A text that is missing is assembled at once. -/
theorem markdown_assembled (reads : e.ReadsFrom disk) (hp : e.Grounded p.memo)
    (missing : p.memo.markdown = none) :
    e.Refused .markdown p ∨ ∃ l outcome, (e.answer .markdown p).2.memo.files = some l ∧
      (e.answer .markdown p).1 = told outcome ∧
      Joined (disk (e.answer .markdown p).2.world) l.fragments outcome := by
  refine (markdown_cases reads missing).imp_left fun ⟨x, q, hfiles, hmarkdown⟩ ↦ ?_
  have hfailed : (e.answer .files p).1 = .error x := by
    simp only [answer, Engine.files, Step.map, hfiles]
  rcases files_cases hp with ⟨y, hy⟩ | ⟨l, hl, -⟩
  · cases hfailed.symm.trans hy
    exact refused_of_compilation hp (congrArg Prod.fst hmarkdown)
  · cases hfailed.symm.trans hl

/-- A text that is there was assembled at some time, from the files that are there. -/
theorem exists_markdown_assembled (reads : e.ReadsFrom disk) {events : List (Event W)} {w : W}
    {text : String} (h : (e.after events (.fresh w)).memo.markdown = some text) :
    ∃ l before rest, (e.after events (.fresh w)).memo.files = some l ∧ events = before ++ rest ∧
      (e.after before (.fresh w)).memo.markdown = none ∧
      Joined (disk (e.answer .markdown (e.after before (.fresh w))).2.world) l.fragments
        (.ok text) := by
  have hfresh : e.Grounded (Progress.fresh w).memo := grounded_empty
  obtain ⟨before, d, rest, rfl, hmissing, hfilled⟩ :=
    exists_demand_of_has (s := .markdown) (Memo.slot_empty _) (Memo.has_iff.mpr ⟨text, h⟩)
  rw [after_append_demand] at hfilled
  have hp := hfresh.after before
  have hle := le_after (hp.answer d) rest
  rw [after_append_demand_append] at h ⊢
  -- What is there afterwards is what a demand for the text alone would have left.
  have hslot {t : Stage} (ht : t ≤ .markdown) := slot_of_filled hp hmissing hfilled ht
  have hkept : (e.answer .markdown (e.after before (.fresh w))).2.memo.markdown = some text := by
    obtain ⟨text', htext'⟩ := Memo.has_iff.mp hfilled
    cases (hle .markdown text' htext').symm.trans h
    exact (hslot le_rfl).symm.trans htext'
  have hnotFailed {x : EngineError}
      (hx : (e.answer .markdown (e.after before (.fresh w))).1 = .error x) : False := by
    cases hkept.symm.trans (slot_of_failed hp hx)
  rcases markdown_assembled reads hp hmissing with ⟨x, hx, -⟩ | ⟨l, outcome, hl, houtcome, hjoined⟩
  · exact (hnotFailed hx).elim
  refine ⟨l, before, .demand d :: rest, ?_, rfl, hmissing, ?_⟩
  · exact hle .files l ((hslot (t := .files) (by decide)).trans hl)
  · cases outcome with
    | error x => exact (hnotFailed houtcome).elim
    | ok text' =>
      have hview := (e.course_answer .markdown _ hp).2 _ houtcome
      obtain ⟨text'', htext'', heq⟩ := Option.map_eq_some_iff.mp hview
      cases heq
      rw [← Option.some.inj (htext''.symm.trans hkept)]
      exact hjoined

/-- Whatever happens to an engine that reads from a disk, its files are the stylesheets of the tree
with what was found for them, and its text is what the disk holds at the fragments. -/
theorem assembled_history (e : Engine W) (disk : W → Disk) (reads : e.ReadsFrom disk)
    (events : List (Event W)) (w : W) : e.Assembled disk events w := by
  have hp : e.Grounded (e.after events (.fresh w)).memo := grounded_empty.after events
  have hlisted {d : Demand} {l : FileList}
      (hl : (e.answer d (e.after events (.fresh w))).2.memo.files = some l) :
      ∃ c, e.Listed (events ++ [.demand d]) w c l :=
    listed_of_kept (by rwa [after_append_demand])
  constructor
  · refine (files_assembled hp).imp_right fun ⟨l, hl, houtcome⟩ ↦ ?_
    obtain ⟨c, hc⟩ := hlisted hl
    exact ⟨c, l, hc, houtcome⟩
  · cases hmarkdown : (e.after events (.fresh w)).memo.markdown with
    | none =>
      refine (markdown_assembled reads hp hmarkdown).imp_right
        fun ⟨l, outcome, hl, houtcome, hjoined⟩ ↦ ?_
      obtain ⟨c, hc⟩ := hlisted hl
      refine ⟨c, l, outcome, events, [], hc, ⟨houtcome, fun x hx ↦ ?_, (List.append_nil _).symm,
        fun _ ↦ rfl, hmarkdown, hjoined⟩⟩
      rw [hx] at houtcome
      exact slot_of_failed hp houtcome
    | some text =>
      right
      obtain ⟨l, before, rest, hl, hevents, hmissing, hjoined⟩ :=
        exists_markdown_assembled reads hmarkdown
      have hview : (e.after events (.fresh w)).memo.view .markdown = some (.text text) := by
        rw [Memo.view, hmarkdown, Option.map_some]
      obtain ⟨c, hc⟩ := hlisted (d := .markdown) ((e.course_answer .markdown _ hp).1.le .files l hl)
      refine ⟨c, l, .ok text, before, rest, hc, ⟨answer_of_view hp hview, fun x hx ↦ ?_,
        hevents, fun hnone ↦ ?_, hmissing, hjoined⟩⟩
      · cases hx
      · cases hmarkdown.symm.trans hnone

def twiceImported : Engine Disk where
  source := "$margin: 0;"
  file := none
  baseDir := ⟨"."⟩
  options := .default
  sass := .default
  collaborators := { Collaborators.onDisk .builtIn with
    compile := fun source _ d ↦
      let a := .imported "a" (.root (some ⟨"a.scss"⟩) []) none []
      let b := .imported "b" (.root (some ⟨"b.sass"⟩) [a]) none []
      (.ok ⟨source, .root none [a, .rule none [b], b]⟩, d)
    fragments := fun p d ↦ ([fragmentPath p], d) }

def twoFragments : Disk where
  entries := [(["a.md".toList], .file "# A".toUTF8), (["b.md".toList], .file "# B\n".toUTF8)]
  workingDirectory := []

theorem assembled_twiceImported : twiceImported.ReadsFrom id ∧
    twiceImported.Assembled id [.demand .files] twoFragments :=
  ⟨fun _ _ ↦ rfl, assembled_history twiceImported id (fun _ _ ↦ rfl) [.demand .files] twoFragments⟩

example : (twiceImported.answer .markdown (.fresh twoFragments)).1 = .ok (.text "# A# B\n# A") := by
  decide +kernel

end Engine

end StyleGuide
