import StyleGuide.Proofs.Engine.Stages

/-!
# Courses of demands

The accessors of an engine call one another, and each looks into its own slot first. A `Course`
knows nothing of that: it takes some stages in order, passes over those that have a result, and
ends with the first that fails. The main statement is `course_answer`: whatever an engine is asked
for, it takes the course of the stages up to the one that makes it.
-/

namespace StyleGuide

def failure? {ε α : Type} : Except ε α → Option ε
  | .ok _ => none
  | .error x => some x

/-- A pair of results is made by making one after the other. -/
theorem Step.pair_andThen {W α β γ : Type} (first : Step W α) (second : Step W β)
    (next : α × β → Step W γ) :
    (first.andThen fun a ↦ second.map (a, ·)).andThen next =
      first.andThen fun a ↦ second.andThen fun b ↦ next (a, b) := by
  funext p
  simp only [Step.andThen, Step.map]
  rcases first p with ⟨_ | a, q⟩
  · rfl
  · dsimp only
    rcases second q with ⟨_ | b, q'⟩ <;> rfl

namespace Engine

variable {W : Type} {e : Engine W}

/-- What is done about some stages, in order: the calls, the error that ended it if there was one,
and the memo it left. -/
inductive Course (e : Engine W) : List Stage → Memo → List Call → Option EngineError → Memo → Prop
  | done (m : Memo) : Course e [] m [] none m
  | kept {s rest m cs x m'} (has : m.has s) (next : Course e rest m cs x m') :
      Course e (s :: rest) m cs x m'
  | made {s rest m now later x m'} {r : s.Result} (missing : m.slot s = none)
      (makes : e.Makes (m.put s r) s now) (next : Course e rest (m.put s r) later x m') :
      Course e (s :: rest) m (now ++ later) x m'
  | broken {s rest m cs x} (missing : m.slot s = none) (breaks : e.Breaks m s cs x) :
      Course e (s :: rest) m cs (some x) m

namespace Course

variable {s : Stage} {stages rest : List Stage} {m m' m'' : Memo} {cs cs' : List Call}
  {x : Option EngineError}

/-- No result is lost or replaced. -/
theorem le (h : e.Course stages m cs x m') : m ≤ m' := by
  induction h with
  | done => exact le_refl _
  | kept _ _ ih => exact ih
  | made missing _ _ ih => exact (Memo.le_put missing _).trans ih
  | broken => exact le_refl _

theorem grounded (h : e.Course stages m cs x m') (hm : e.Grounded m) : e.Grounded m' := by
  induction h with
  | done => exact hm
  | kept _ _ ih => exact ih hm
  | @made s _ m now _ _ _ r missing makes _ ih =>
    refine ih fun t ht ↦ ?_
    obtain rfl | hts := eq_or_ne t s
    · exact ⟨now, makes⟩
    · rw [Memo.has, Memo.slot_put_of_ne m r hts] at ht
      obtain ⟨made, hmade⟩ := hm t ht
      exact ⟨made, hmade.mono (Memo.le_put missing r)⟩
  | broken => exact hm

/-- A course without an error leaves no stage without a result. -/
theorem has (h : e.Course stages m cs none m') (hs : s ∈ stages) : m'.has s := by
  generalize hx : (none : Option EngineError) = x at h
  induction h with
  | done => cases hs
  | kept has next ih =>
    rcases List.mem_cons.mp hs with rfl | hs
    · exact Memo.has_mono next.le has
    · exact ih hs hx
  | made _ makes next ih =>
    rcases List.mem_cons.mp hs with rfl | hs
    · exact Memo.has_mono next.le makes.has
    · exact ih hs hx
  | broken => cases hx

/-- Only stages of the course get a result. -/
theorem has_or_mem (h : e.Course stages m cs x m') (hs : m'.has s) : m.has s ∨ s ∈ stages := by
  induction h with
  | done => exact .inl hs
  | kept _ _ ih => exact (ih hs).imp_right (List.mem_cons_of_mem _)
  | @made t _ m _ _ _ _ r _ _ _ ih =>
    by_cases hst : s = t
    · exact .inr (hst ▸ List.mem_cons_self)
    · have hput : (m.put t r).has s ↔ m.has s := by
        rw [Memo.has, Memo.slot_put_of_ne m r hst, Memo.has]
      exact (ih hs).imp hput.mp (List.mem_cons_of_mem _)
  | broken => exact .inl hs

/-- A stage that has a result is not called for again. -/
theorem missing_of_mem (h : e.Course stages m cs x m') {call : Call} (hc : call ∈ cs) :
    m.slot call.stage = none := by
  induction h with
  | done => cases hc
  | kept _ _ ih => exact ih hc
  | @made t _ m now _ _ _ r missing makes _ ih =>
    rcases List.mem_append.mp hc with hnow | hlater
    · rwa [makes.stage_eq hnow]
    · have hput := ih hlater
      by_cases hst : call.stage = t
      · rwa [hst]
      · rwa [Memo.slot_put_of_ne m r hst] at hput
  | broken missing breaks => rwa [breaks.stage_eq hc]

theorem of_has (h : ∀ s ∈ stages, m.has s) : e.Course stages m [] none m := by
  induction stages with
  | nil => exact .done m
  | cons s rest ih =>
    exact .kept (h s List.mem_cons_self) (ih fun t ht ↦ h t (List.mem_cons_of_mem s ht))

theorem append (h : e.Course stages m cs none m') (h' : e.Course rest m' cs' x m'') :
    e.Course (stages ++ rest) m (cs ++ cs') x m'' := by
  generalize hx : (none : Option EngineError) = y at h
  induction h with
  | done => exact h'
  | kept has _ ih => exact .kept has (ih h' hx)
  | made missing makes _ ih =>
    rw [List.append_assoc]
    exact .made missing makes (ih h' hx)
  | broken => cases hx

theorem append_failed {y : EngineError} (h : e.Course stages m cs (some y) m')
    (rest : List Stage) : e.Course (stages ++ rest) m cs (some y) m' := by
  generalize hx : some y = x at h
  induction h with
  | done => cases hx
  | kept has _ ih => exact .kept has (ih hx)
  | made missing makes _ ih => exact .made missing makes (ih hx)
  | broken missing breaks => exact .broken missing breaks

/-- Taking a stage twice in a row is taking it once. -/
theorem dedup (h : e.Course (s :: s :: rest) m cs x m') : e.Course (s :: rest) m cs x m' := by
  cases h with
  | kept _ next => exact next
  | made missing makes next =>
    cases next with
    | kept _ next => exact .made missing makes next
    | made missing' => exact absurd missing' makes.has
    | broken missing' => exact absurd missing' makes.has
  | broken missing breaks => exact .broken missing breaks

/-- Before the stage that fails, a course is one without an error. -/
theorem failed {y : EngineError} (h : e.Course stages m cs (some y) m') :
    ∃ earlier s later now broken, stages = earlier ++ s :: later ∧ cs = now ++ broken ∧
      e.Course earlier m now none m' ∧ m'.slot s = none ∧ e.Breaks m' s broken y := by
  generalize hx : some y = x at h
  induction h with
  | done => cases hx
  | @kept t _ _ _ _ _ has _ ih =>
    obtain ⟨earlier, s, later, now, broken, rfl, rfl, hcourse, hmissing, hbreaks⟩ := ih hx
    exact ⟨t :: earlier, s, later, now, broken, rfl, rfl, .kept has hcourse, hmissing, hbreaks⟩
  | @made t _ _ first _ _ _ _ missing makes _ ih =>
    obtain ⟨earlier, s, later, now, broken, rfl, rfl, hcourse, hmissing, hbreaks⟩ := ih hx
    exact ⟨t :: earlier, s, later, first ++ now, broken, rfl, (List.append_assoc ..).symm,
      .made missing makes hcourse, hmissing, hbreaks⟩
  | @broken s later _ broken _ missing breaks =>
    cases hx
    exact ⟨[], s, later, [], broken, rfl, rfl, .done _, missing, breaks⟩

end Course

/-! ## Calls in turn -/

theorem fragmentsOfAll_calls (c : Collaborators W) (ps : List Path) (w : Watched W) :
    ∃ found : List (Path × List Path), found.map (·.1) = ps ∧
      (fragmentsOfAll c.watched.fragments ps w).1 = found.flatMap (·.2) ∧
      (fragmentsOfAll c.watched.fragments ps w).2.calls =
        w.calls ++ found.map fun f ↦ .search f.1 f.2 := by
  induction ps generalizing w with
  | nil => exact ⟨[], rfl, rfl, (List.append_nil _).symm⟩
  | cons p ps ih =>
    obtain ⟨found, hps, hfound, hcalls⟩ := ih (c.watched.fragments p w).2
    refine ⟨(p, (c.watched.fragments p w).1) :: found, ?_, ?_, ?_⟩
    · rw [List.map_cons, hps]
    · rw [List.flatMap_cons, ← hfound]
      rfl
    · simp only [fragmentsOfAll]
      rw [hcalls, List.map_cons, ← List.singleton_append, ← List.append_assoc]
      rfl

/-- Reading in turn reads all texts, or all up to the first that cannot be read. -/
theorem readInTurn_calls (c : Collaborators W) (ps : List Path) (w : Watched W) :
    ∃ texts : List (Path × String),
      (texts.map (·.1) = ps ∧
        (readInTurn c.watched.readFragment ps w).1 = .ok (String.join (texts.map (·.2))) ∧
        (readInTurn c.watched.readFragment ps w).2.calls =
          w.calls ++ texts.map fun t ↦ .read t.1 (.ok t.2)) ∨
      ∃ p unread cause, ps = texts.map (·.1) ++ p :: unread ∧
        (readInTurn c.watched.readFragment ps w).1 = .error ⟨p, cause⟩ ∧
        (readInTurn c.watched.readFragment ps w).2.calls =
          w.calls ++ ((texts.map fun t ↦ .read t.1 (.ok t.2)) ++ [.read p (.error cause)]) := by
  induction ps generalizing w with
  | nil => exact ⟨[], .inl ⟨rfl, rfl, (List.append_nil _).symm⟩⟩
  | cons p ps ih =>
    have hlog : (c.watched.readFragment p w).2.calls =
        w.calls ++ [.read p (c.watched.readFragment p w).1] := rfl
    simp only [readInTurn]
    generalize c.watched.readFragment p w = first at *
    rcases first with ⟨cause | text, w'⟩
    · exact ⟨[], .inr ⟨p, ps, cause, rfl, rfl, hlog⟩⟩
    · obtain ⟨texts, hread⟩ := ih w'
      dsimp only at hlog ⊢
      generalize readInTurn c.watched.readFragment ps w' = others at *
      obtain ⟨outcome, w''⟩ := others
      dsimp only at hread
      rcases hread with ⟨rfl, rfl, hcalls⟩ | ⟨q, unread, cause, rfl, rfl, hcalls⟩
      · refine ⟨(p, text) :: texts, .inl ⟨rfl, ?_, ?_⟩⟩
        · rw [List.map_cons, String.join_cons]
        · rw [hcalls, hlog, List.append_assoc]
          rfl
      · refine ⟨(p, text) :: texts, .inr ⟨q, unread, cause, rfl, rfl, ?_⟩⟩
        rw [hcalls, hlog, List.append_assoc]
        rfl

/-! ## Accessors -/

/-- A step takes the course of some stages, and what it gives back is seen in the memo. -/
def Follows {α : Type} (e : Engine W) (stages : List Stage) (see : Memo → Option α)
    (step : Step (Watched W) α) : Prop :=
  ∀ p, e.Grounded p.memo → ∃ cs, (step p).2.world.calls = p.world.calls ++ cs ∧
    e.Course stages p.memo cs (failure? (step p).1) (step p).2.memo ∧
    ∀ a, (step p).1 = .ok a → see (step p).2.memo = some a

/-- A step makes the calls of one stage and gives back its result, but does not keep it. -/
def Attempts (e : Engine W) (s : Stage) (m : Memo) (step : Step (Watched W) s.Result) : Prop :=
  ∀ w, ∃ cs, (step ⟨m, w⟩).2.memo = m ∧ (step ⟨m, w⟩).2.world.calls = w.calls ++ cs ∧
    (∀ r, (step ⟨m, w⟩).1 = .ok r → e.Makes (m.put s r) s cs) ∧
    ∀ x, (step ⟨m, w⟩).1 = .error x → e.Breaks m s cs x

namespace Follows

variable {α β : Type} {stages : List Stage} {see : Memo → Option α}

theorem map {step : Step (Watched W) α} (h : e.Follows stages see step) (f : α → β) :
    e.Follows stages (fun m ↦ (see m).map f) (step.map f) := by
  intro p hp
  obtain ⟨cs, hcalls, hcourse, hsee⟩ := h p hp
  refine ⟨cs, ?_⟩
  simp only [Step.map]
  generalize step p = q at *
  rcases q with ⟨x | a, q⟩
  · exact ⟨hcalls, hcourse, fun b hb ↦ by cases hb⟩
  · refine ⟨hcalls, hcourse, fun b hb ↦ ?_⟩
    cases hb
    simp only [hsee a rfl, Option.map_some]

/-- An accessor runs its stage on what an accessor before it has left. -/
theorem remembered {s : Stage} {first : Step (Watched W) α}
    {next : α → Step (Watched W) s.Result} (hfirst : e.Follows s.before see first)
    (hnext : ∀ m a, see m = some a → e.Attempts s m (next a)) :
    e.Follows s.upTo (Memo.slot · s)
      (.remembered (Memo.slot · s) (fun r m ↦ m.put s r) (first.andThen next)) := by
  intro p hp
  simp only [Step.remembered]
  cases hslot : p.memo.slot s with
  | some r =>
    have hall : ∀ t ∈ s.upTo, p.memo.has t := fun t ht ↦
      hp.has_of_le (Memo.has_iff.mpr ⟨r, hslot⟩) (Stage.mem_upTo.mp ht)
    exact ⟨[], (List.append_nil _).symm, .of_has hall, fun a ha ↦ by cases ha; exact hslot⟩
  | none =>
    obtain ⟨cs, hcalls, hcourse, hsee⟩ := hfirst p hp
    simp only [Step.andThen]
    generalize first p = q at *
    rcases q with ⟨x | a, q⟩
    · exact ⟨cs, hcalls, hcourse.append_failed [s], fun b hb ↦ by cases hb⟩
    -- No stage before `s` fills the slot of `s`.
    have hmissing : q.memo.slot s = none := by
      by_contra hhas
      rcases hcourse.has_or_mem hhas with h | h
      · exact h hslot
      · exact lt_irrefl s (Stage.mem_before.mp h)
    obtain ⟨cs', hmemo, hcalls', hmakes, hbreaks⟩ := hnext q.memo a (hsee a rfl) q.world
    have hlog : (next a q).2.world.calls = p.world.calls ++ (cs ++ cs') := by
      rw [hcalls', hcalls, List.append_assoc]
    simp only
    generalize next a q = q' at *
    rcases q' with ⟨x | r, q'⟩
    · have hstage : e.Course [s] q.memo cs' (some x) q.memo :=
        .broken hmissing (hbreaks x rfl)
      refine ⟨cs ++ cs', hlog, ?_, fun b hb ↦ by cases hb⟩
      rw [hmemo]
      exact hcourse.append hstage
    · have hstage : e.Course [s] q.memo (cs' ++ []) none (q.memo.put s r) :=
        .made hmissing (hmakes r rfl) (.done _)
      rw [List.append_nil] at hstage
      dsimp only at hmemo ⊢
      refine ⟨cs ++ cs', hlog, ?_, fun b hb ↦ ?_⟩
      · rw [hmemo]
        exact hcourse.append hstage
      · cases hb
        exact Memo.slot_put ..

/-- Two accessors one after the other, of which the second starts with the stage of the first. -/
theorem both {s : Stage} {rest : List Stage} {see' : Memo → Option β}
    {first : Step (Watched W) α} {second : Step (Watched W) β} (hfirst : e.Follows [s] see first)
    (hsecond : e.Follows (s :: rest) see' second)
    (hmono : ∀ m m' a, m ≤ m' → see m = some a → see m' = some a) :
    e.Follows (s :: rest) (fun m ↦ (see m).bind fun a ↦ (see' m).map (a, ·))
      (first.andThen fun a ↦ second.map (a, ·)) := by
  intro p hp
  obtain ⟨cs, hcalls, hcourse, hsee⟩ := hfirst p hp
  simp only [Step.andThen, Step.map]
  generalize first p = q at *
  rcases q with ⟨x | a, q⟩
  · exact ⟨cs, hcalls, hcourse.append_failed rest, fun b hb ↦ by cases hb⟩
  obtain ⟨cs', hcalls', hcourse', hsee'⟩ := hsecond q (hcourse.grounded hp)
  have hlog : (second q).2.world.calls = p.world.calls ++ (cs ++ cs') := by
    rw [hcalls', hcalls, List.append_assoc]
  have hboth := (hcourse.append hcourse').dedup
  dsimp only
  generalize second q = q' at *
  rcases q' with ⟨x | b, q'⟩
  · exact ⟨cs ++ cs', hlog, hboth, fun b hb ↦ by cases hb⟩
  · refine ⟨cs ++ cs', hlog, hboth, fun ab hab ↦ ?_⟩
    cases hab
    have ha := hmono _ _ a hcourse'.le (hsee a rfl)
    dsimp only at ha hsee' ⊢
    rw [ha, hsee' b rfl]
    rfl

end Follows

/-- A stage that only asks is understood from its calls and their outcome. -/
theorem attempts_asking {ε : Type} {s : Stage} {m : Memo}
    {call : Watched W → Except ε s.Result × Watched W} {wrap : ε → EngineError}
    (h : ∀ w, ∃ cs, (call w).2.calls = w.calls ++ cs ∧
      (∀ r, (call w).1 = .ok r → e.Makes (m.put s r) s cs) ∧
      ∀ x, (call w).1 = .error x → e.Breaks m s cs (wrap x)) :
    e.Attempts s m (.asking call wrap) := by
  intro w
  obtain ⟨cs, hcalls, hmakes, hbreaks⟩ := h w
  refine ⟨cs, ?_⟩
  simp only [Step.asking]
  generalize call w = q at *
  rcases q with ⟨x | r, w'⟩
  · refine ⟨rfl, hcalls, fun _ hr ↦ (by cases hr), fun y hy ↦ ?_⟩
    cases hy
    exact hbreaks x rfl
  · refine ⟨rfl, hcalls, fun r' hr ↦ ?_, fun _ hy ↦ by cases hy⟩
    cases hr
    exact hmakes r rfl

/-- A stage that is one call. -/
theorem attempts_asking_noting {ε : Type} {s : Stage} {m : Memo}
    {call : W → Except ε s.Result × W} {note : Except ε s.Result → Call} {wrap : ε → EngineError}
    (hmakes : ∀ r, e.Makes (m.put s r) s [note (.ok r)])
    (hbreaks : ∀ x, e.Breaks m s [note (.error x)] (wrap x)) :
    e.Attempts s m (.asking (Watched.noting call note) wrap) := by
  refine attempts_asking fun w ↦ ⟨[note (call w.world).1], rfl, fun r hr ↦ ?_, fun x hx ↦ ?_⟩
  · rw [show (call w.world).1 = .ok r from hr]
    exact hmakes r
  · rw [show (call w.world).1 = .error x from hx]
    exact hbreaks x

variable (e)

theorem compiled_follows :
    e.Follows Stage.compiled.upTo (Memo.slot · .compiled) e.watched.compiled := by
  have hnothing : e.Follows Stage.compiled.before (fun _ ↦ some ()) fun p ↦ (.ok (), p) :=
    fun p _ ↦ ⟨[], (List.append_nil _).symm, .done _, fun _ _ ↦ rfl⟩
  exact hnothing.remembered fun m _ _ ↦
    attempts_asking_noting (fun c ↦ .compiled c rfl) fun cause ↦ .compiled cause

theorem fileList_follows :
    e.Follows Stage.files.upTo (Memo.slot · .files) e.watched.fileList := by
  refine e.compiled_follows.remembered fun m c hc w ↦ ?_
  obtain ⟨found, hps, hfound, hcalls⟩ := fragmentsOfAll_calls e.collaborators c.tree.flatten w
  refine ⟨found.map fun f : Path × List Path ↦ .search f.1 f.2, rfl, hcalls, fun l hl ↦ ?_,
    fun _ hx ↦ by cases hx⟩
  cases hl
  refine .files c found hc hps ?_
  rw [← hfound]
  rfl

theorem markdown_follows :
    e.Follows Stage.markdown.upTo (Memo.slot · .markdown) e.watched.markdown := by
  refine e.fileList_follows.remembered fun m l hl ↦ attempts_asking fun w ↦ ?_
  obtain ⟨texts, ⟨hps, htext, hcalls⟩ | ⟨p, unread, cause, hps, hcause, hcalls⟩⟩ :=
    readInTurn_calls e.collaborators l.fragments w
  · refine ⟨_, hcalls, fun text hr ↦ ?_, fun x hx ↦ (nomatch htext.symm.trans hx)⟩
    cases htext.symm.trans hr
    exact .markdown l texts hl hps rfl
  · refine ⟨_, hcalls, fun text hr ↦ (nomatch hcause.symm.trans hr), fun x hx ↦ ?_⟩
    cases hcause.symm.trans hx
    exact .markdown l texts p unread cause hl hps

theorem html_follows : e.Follows Stage.html.upTo (Memo.slot · .html) e.watched.html :=
  e.markdown_follows.remembered fun _ text htext ↦
    attempts_asking_noting (fun html ↦ .html text html htext rfl) fun reason ↦
      .html text reason htext

theorem css_follows :
    e.Follows Stage.compiled.upTo (fun m ↦ m.compiled.map (·.css)) e.watched.css :=
  e.compiled_follows.map _

theorem document_follows :
    e.Follows Stage.document.upTo (Memo.slot · .document) e.watched.document := by
  have hboth := e.css_follows.both e.html_follows fun m m' css h hcss ↦ by
    obtain ⟨c, hc, rfl⟩ := Option.map_eq_some_iff.mp hcss
    exact Option.map_eq_some_iff.mpr ⟨c, h .compiled c hc, rfl⟩
  have hlayOut (m : Memo) (given : String × String)
      (hgiven : ((m.compiled.map (·.css)).bind fun css ↦ (m.slot .html).map (css, ·)) =
        some given) :
      e.Attempts .document m (.asking (e.watched.collaborators.layOut
        (.ofOptions e.options given.1 given.2)) .layout) := by
    obtain ⟨css, hcss, hrest⟩ := Option.bind_eq_some_iff.mp hgiven
    obtain ⟨c, hc, rfl⟩ := Option.map_eq_some_iff.mp hcss
    obtain ⟨html, hhtml, rfl⟩ := Option.map_eq_some_iff.mp hrest
    exact attempts_asking_noting (fun document ↦ .document c html document hc hhtml rfl)
      fun cause ↦ .document c html cause hc hhtml
  have hdocument := Follows.remembered hboth hlayOut
  rw [Step.pair_andThen] at hdocument
  exact hdocument

/-- Whatever is asked for, the engine takes the course of the stages up to the one that makes it,
and answers with what is then in the memo. -/
theorem course_answer (d : Demand) (p : Progress W) (hp : e.Grounded p.memo) :
    e.Course d.stage.upTo p.memo (e.calls d p) (failure? (e.answer d p).1) (e.answer d p).2.memo ∧
      ∀ a, (e.answer d p).1 = .ok a → (e.answer d p).2.memo.view d = some a := by
  have hfollows : e.Follows d.stage.upTo (Memo.view · d) (e.watched.answer d) := by
    cases d with
    | css =>
      have h := e.css_follows.map Answer.text
      simp only [Option.map_map] at h
      exact h
    | files =>
      have h := (e.fileList_follows.map FileList.paths).map Answer.paths
      simp only [Option.map_map] at h
      exact h
    | markdown => exact e.markdown_follows.map Answer.text
    | html => exact e.html_follows.map Answer.text
    | document => exact e.document_follows.map Answer.text
  obtain ⟨cs, hcalls, hcourse, hsee⟩ := hfollows ⟨p.memo, ⟨p.world, []⟩⟩ hp
  have hshows : e.answer d p = _ := e.answer_shows d ⟨p.memo, ⟨p.world, []⟩⟩
  rw [hshows, calls, hcalls]
  exact ⟨hcourse, hsee⟩

end Engine

end StyleGuide
