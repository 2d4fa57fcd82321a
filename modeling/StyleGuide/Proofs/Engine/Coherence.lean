import StyleGuide.Proofs.Engine.Course

/-!
# Coherence of engines

Whatever happens to an engine, its memo stays coherent: results are there for a stage only together
with those of all stages before it, and each is what its stage made of them by the last calls it
made. So all that an engine ever answers belongs to one compilation.
-/

namespace StyleGuide.Engine

variable {W : Type}

def callsAt (s : Stage) (cs : List Call) : List Call :=
  cs.filter (·.stage = s)

section CallsAt

variable {s : Stage} {cs cs' : List Call}

@[simp]
theorem callsAt_append : callsAt s (cs ++ cs') = callsAt s cs ++ callsAt s cs' :=
  List.filter_append ..

theorem callsAt_eq_self (h : ∀ call ∈ cs, call.stage = s) : callsAt s cs = cs :=
  List.filter_eq_self.mpr fun call hc ↦ decide_eq_true (h call hc)

theorem callsAt_eq_nil (h : ∀ call ∈ cs, call.stage ≠ s) : callsAt s cs = [] :=
  List.filter_eq_nil_iff.mpr fun call hc ↦ by simpa using h call hc

end CallsAt

/-- The results in a memo belong together, and are what the calls of a journal came to. -/
structure Coherent (e : Engine W) (m : Memo) (cs : List Call) : Prop where
  /-- With the result of a stage there are the results of all stages before it. -/
  closed : ∀ s t, t ≤ s → m.has s → m.has t
  /-- Every result is what its stage made of the others, by the last calls it made. -/
  made : ∀ s, m.has s → ∃ made, e.Makes m s made ∧ made <:+ callsAt s cs

variable {e : Engine W} {stages : List Stage} {m m' : Memo} {cs : List Call}
  {x : Option EngineError} {p : Progress W}

/-! ## One demand -/

/-- A course does nothing about a stage, or gets its result, or ends with its failure. -/
theorem Course.callsAt_cases (h : e.Course stages m cs x m') (s : Stage) :
    (callsAt s cs = [] ∧ m'.slot s = m.slot s) ∨
      (m.slot s = none ∧ e.Makes m' s (callsAt s cs)) ∨
      (m'.slot s = none ∧ ∃ y, x = some y ∧ e.Breaks m' s (callsAt s cs) y) := by
  induction h with
  | done => exact .inl ⟨rfl, rfl⟩
  | kept _ _ ih => exact ih
  | @made t _ m now later _ _ r missing makes next ih =>
    rw [callsAt_append]
    obtain rfl | hst := eq_or_ne s t
    · have hlater : callsAt s later = [] := callsAt_eq_nil fun call hcall hs ↦ by
        have hmissing := next.missing_of_mem hcall
        rw [hs] at hmissing
        exact makes.has hmissing
      rw [callsAt_eq_self fun call ↦ makes.stage_eq, hlater, List.append_nil]
      exact .inr (.inl ⟨missing, makes.mono next.le⟩)
    · have hnow : callsAt s now = [] := callsAt_eq_nil fun call hcall hs ↦
        hst (hs.symm.trans (makes.stage_eq hcall))
      rw [hnow, List.nil_append, ← Memo.slot_put_of_ne m r hst]
      exact ih
  | @broken t _ _ cs y missing breaks =>
    obtain rfl | hst := eq_or_ne s t
    · rw [callsAt_eq_self fun call ↦ breaks.stage_eq]
      exact .inr (.inr ⟨missing, y, rfl, breaks⟩)
    · exact .inl ⟨callsAt_eq_nil fun call hcall hs ↦ hst (hs.symm.trans (breaks.stage_eq hcall)), rfl⟩

theorem Grounded.answer (hp : e.Grounded p.memo) (d : Demand) :
    e.Grounded (e.answer d p).2.memo :=
  (e.course_answer d p hp).1.grounded hp

/-! ## Histories -/

theorem Grounded.after (hp : e.Grounded p.memo) (events : List (Event W)) :
    e.Grounded (e.after events p).memo := by
  induction events generalizing p with
  | nil => exact hp
  | cons event rest ih =>
    cases event with
    | demand d => exact ih (hp.answer d)
    | change f => exact ih hp

/-- No result is ever lost or replaced. -/
theorem le_after (hp : e.Grounded p.memo) (events : List (Event W)) :
    p.memo ≤ (e.after events p).memo := by
  induction events generalizing p with
  | nil => exact le_refl _
  | cons event rest ih =>
    cases event with
    | demand d => exact (e.course_answer d p hp).1.le.trans (ih (hp.answer d))
    | change f => exact ih (p := ⟨p.memo, f p.world⟩) hp

/-- A stage that has a result is not called for again. -/
theorem journal_callsAt_of_has (hp : e.Grounded p.memo) {s : Stage} (hs : p.memo.has s)
    (events : List (Event W)) : callsAt s (e.journal events p) = [] := by
  induction events generalizing p with
  | nil => rfl
  | cons event rest ih =>
    cases event with
    | demand d =>
      have hcourse := (e.course_answer d p hp).1
      have hnow : callsAt s (e.calls d p) = [] := callsAt_eq_nil fun call hcall hcalled ↦
        hs (hcalled ▸ hcourse.missing_of_mem hcall)
      have hlater := ih (hp.answer d) (Memo.has_mono hcourse.le hs)
      rw [show e.journal (.demand d :: rest) p = e.calls d p ++ e.journal rest (e.answer d p).2
        from rfl, callsAt_append, hnow, hlater, List.append_nil]
    | change f => exact ih hp hs

/-- All calls of a stage: attempts that failed, and then at most one that did not. -/
theorem journal_callsAt_of_missing (hp : e.Grounded p.memo) {s : Stage}
    (hs : p.memo.slot s = none) (events : List (Event W)) :
    ∃ (broken : List (List Call)) (made : List Call),
      callsAt s (e.journal events p) = broken.flatten ++ made ∧
      (∀ b ∈ broken, ∃ y, e.Breaks (e.after events p).memo s b y) ∧
      ((e.after events p).memo.slot s = none ∧ made = [] ∨
        e.Makes (e.after events p).memo s made) := by
  induction events generalizing p with
  | nil => exact ⟨[], [], rfl, fun b hb ↦ (nomatch hb), .inl ⟨hs, rfl⟩⟩
  | cons event rest ih =>
    cases event with
    | demand d =>
      have hcourse := (e.course_answer d p hp).1
      have hnext := hp.answer d
      have hjournal : callsAt s (e.journal (.demand d :: rest) p) =
          callsAt s (e.calls d p) ++ callsAt s (e.journal rest (e.answer d p).2) :=
        callsAt_append
      rw [hjournal]
      change ∃ (broken : List (List Call)) (made : List Call), _ ∧
        (∀ b ∈ broken, ∃ y, e.Breaks (e.after rest (e.answer d p).2).memo s b y) ∧
        ((e.after rest (e.answer d p).2).memo.slot s = none ∧ made = [] ∨
          e.Makes (e.after rest (e.answer d p).2).memo s made)
      rcases hcourse.callsAt_cases s with ⟨hnow, hslot⟩ | ⟨-, hmakes⟩ | ⟨hslot, y, -, hbreaks⟩
      · rw [hnow, List.nil_append]
        exact ih hnext (hslot.trans hs)
      · rw [journal_callsAt_of_has hnext hmakes.has rest, List.append_nil]
        exact ⟨[], _, rfl, fun b hb ↦ (nomatch hb), .inr (hmakes.mono (le_after hnext rest))⟩
      · obtain ⟨broken, made, hlater, hbroken, hmade⟩ := ih hnext hslot
        refine ⟨callsAt s (e.calls d p) :: broken, made, ?_, fun b hb ↦ ?_, hmade⟩
        · rw [hlater, List.flatten_cons, List.append_assoc]
        · rcases List.mem_cons.mp hb with rfl | hb
          · exact ⟨y, hbreaks.mono (le_after hnext rest)⟩
          · exact hbroken b hb
    | change f => exact ih hp hs

/-- An answer that is given is in the memo, then and ever after. -/
theorem view_of_mem_replies (hp : e.Grounded p.memo) {events : List (Event W)} {r : Reply}
    (hr : r ∈ e.replies events p) {a : Answer} (ha : r.outcome = .ok a) :
    (e.after events p).memo.view r.demand = some a := by
  induction events generalizing p with
  | nil => cases hr
  | cons event rest ih =>
    cases event with
    | demand d =>
      rcases List.mem_cons.mp hr with rfl | hr
      · have hview := (e.course_answer d p hp).2 a ha
        exact Memo.view_mono (le_after (hp.answer d) rest) hview
      · exact ih (hp.answer d) hr
    | change f => exact ih hp hr

/-- After every history the memo is coherent with all calls that were made, and every answer that
was ever given can be read off it. -/
theorem coherent_after (e : Engine W) (events : List (Event W)) (w : W) :
    e.Coherent (e.after events (.fresh w)).memo (e.journal events (.fresh w)) ∧
      ∀ r ∈ e.replies events (.fresh w), ∀ a, r.outcome = .ok a →
        (e.after events (.fresh w)).memo.view r.demand = some a := by
  have hfresh : e.Grounded (Progress.fresh w).memo := grounded_empty
  refine ⟨⟨fun s t hle hs ↦ (hfresh.after events).has_of_le hs hle, fun s hs ↦ ?_⟩,
    fun r hr a ha ↦ view_of_mem_replies hfresh hr ha⟩
  obtain ⟨broken, made, hcalls, -, hmissing | hmakes⟩ :=
    journal_callsAt_of_missing hfresh (Memo.slot_empty s) events
  · exact absurd hmissing.1 hs
  · exact ⟨made, hmakes, hcalls ▸ List.suffix_append ..⟩

end StyleGuide.Engine
