import StyleGuide.Proofs.Engine.Coherence

/-!
# Memoization over whole histories

An engine does its work once. An answer that has been given is given for good, the compiler and the
converter succeed at most once, the fragments of a stylesheet are searched for in one demand only,
and none is read when the text is there. As long as the compiler refuses, every demand asks it
exactly once and is answered with its refusal.
-/

namespace StyleGuide

namespace Call

def compilerAnswer? : Call → Option (Except CompileError CompiledStylesheet)
  | compile _ _ answer => some answer
  | _ => none

def converterAnswer? : Call → Option (Except String String)
  | convert _ _ answer => some answer
  | _ => none

def searched? : Call → Option Path
  | search stylesheet _ => some stylesheet
  | _ => none

def wanted? : Call → Option Path
  | read fragment _ => some fragment
  | _ => none

end Call

namespace Engine

variable {W : Type}

def compilerAnswers (cs : List Call) : List (Except CompileError CompiledStylesheet) :=
  cs.filterMap Call.compilerAnswer?

def converterAnswers (cs : List Call) : List (Except String String) :=
  cs.filterMap Call.converterAnswer?

def searched (cs : List Call) : List Path :=
  cs.filterMap Call.searched?

def wanted (cs : List Call) : List Path :=
  cs.filterMap Call.wanted?

/-- What is done once during some events. -/
structure Memoized (e : Engine W) (events : List (Event W)) (p : Progress W) : Prop where
  /-- What has been answered once is answered again. -/
  answered : (e.replies events p).Pairwise fun r r' ↦ r.demand = r'.demand →
    ∀ a, r.outcome = .ok a → r'.outcome = .ok a
  compiled : ((compilerAnswers (e.journal events p)).filter (·.isOk)).length ≤ 1
  converted : ((converterAnswers (e.journal events p)).filter (·.isOk)).length ≤ 1
  /-- If the files get listed, then by one demand, which searches for the fragments of every
  stylesheet as often as it is imported; there is no other search. -/
  searched : (e.after events p).memo.files ≠ none → ∃ before d rest c,
    events = before ++ .demand d :: rest ∧
    (e.after before p).memo.files = none ∧
    (e.after (before ++ [.demand d]) p).memo.files ≠ none ∧
    (e.after events p).memo.compiled = some c ∧
    Engine.searched (e.journal before p) = [] ∧
    Engine.searched (e.calls d (e.after before p)) = c.tree.flatten ∧
    Engine.searched (e.journal rest (e.after (before ++ [.demand d]) p)) = []
  notSearched : (e.after events p).memo.files = none → Engine.searched (e.journal events p) = []
  /-- The demand that succeeds in reading reads every fragment once. -/
  read : ∀ before d rest, events = before ++ .demand d :: rest →
    (e.after before p).memo.markdown = none →
    (e.after (before ++ [.demand d]) p).memo.markdown ≠ none →
    ∃ l, (e.after events p).memo.files = some l ∧
      wanted (e.calls d (e.after before p)) = l.fragments
  notReadAgain : ∀ before rest, events = before ++ rest →
    (e.after before p).memo.markdown ≠ none → wanted (e.journal rest (e.after before p)) = []
  asked : ∀ r ∈ e.replies events p,
    (compilerAnswers r.calls).length ≤ 1 ∧ (converterAnswers r.calls).length ≤ 1
  /-- The refusals of the compiler are the answers to the first demands. -/
  refused : ∀ (k : Nat) (x : CompileError),
    (∃ r : Reply, (e.replies events p)[k]? = some r ∧ r.outcome = .error (.compilation x)) ↔
      (compilerAnswers (e.journal events p))[k]? = some (.error x)
  /-- If the compiler refuses the first `n` times, the first `n` demands are refused and no others. -/
  refusedFirst : ∀ n : Nat,
    (∀ (k : Nat) (a : Except CompileError CompiledStylesheet),
      (compilerAnswers (e.journal events p))[k]? = some a → (a.isOk = false ↔ k < n)) →
    ∀ (k : Nat) (r : Reply), (e.replies events p)[k]? = some r →
      ((∃ x, r.outcome = .error (.compilation x)) ↔ k < n)

variable {e : Engine W} {p : Progress W} {events : List (Event W)}

/-! ## Demands among events -/

/-- Every reply was given to a demand among the events, after those before it. -/
theorem exists_of_mem_replies {r : Reply} (hr : r ∈ e.replies events p) :
    ∃ before d rest, events = before ++ .demand d :: rest ∧
      r = ⟨d, (e.answer d (e.after before p)).1, e.calls d (e.after before p)⟩ := by
  induction events generalizing p with
  | nil => cases hr
  | cons event events ih =>
    cases event with
    | demand d =>
      rcases List.mem_cons.mp hr with rfl | hr
      · exact ⟨[], d, events, rfl, rfl⟩
      · obtain ⟨before, d', rest, rfl, rfl⟩ := ih hr
        exact ⟨.demand d :: before, d', rest, rfl, rfl⟩
    | change f =>
      obtain ⟨before, d', rest, rfl, rfl⟩ := ih hr
      exact ⟨.change f :: before, d', rest, rfl, rfl⟩

/-- A result that is there after some events was missing before one of the demands among them. -/
theorem exists_demand_of_has {s : Stage} (hs : p.memo.slot s = none)
    (hhas : (e.after events p).memo.has s) :
    ∃ before d rest, events = before ++ .demand d :: rest ∧
      (e.after before p).memo.slot s = none ∧
      (e.after (before ++ [.demand d]) p).memo.has s := by
  induction events generalizing p with
  | nil => exact absurd hs hhas
  | cons event events ih =>
    cases event with
    | demand d =>
      by_cases hnext : (e.answer d p).2.memo.slot s = none
      · obtain ⟨before, d', rest, rfl, hbefore, hafter⟩ := ih hnext hhas
        exact ⟨.demand d :: before, d', rest, rfl, hbefore, hafter⟩
      · exact ⟨[], d, events, rfl, hs, hnext⟩
    | change f =>
      obtain ⟨before, d', rest, rfl, hbefore, hafter⟩ := ih (p := ⟨p.memo, f p.world⟩) hs hhas
      exact ⟨.change f :: before, d', rest, rfl, hbefore, hafter⟩

/-- What is in the memo is answered. -/
theorem answer_of_view (hp : e.Grounded p.memo) {d : Demand} {a : Answer}
    (ha : p.memo.view d = some a) : (e.answer d p).1 = .ok a := by
  obtain ⟨hcourse, hview⟩ := e.course_answer d p hp
  have hstage : p.memo.has d.stage := by
    cases d <;> obtain ⟨r, hr, -⟩ := Option.map_eq_some_iff.mp ha <;>
      exact Memo.has_iff.mpr ⟨r, hr⟩
  cases houtcome : (e.answer d p).1 with
  | ok b =>
    have hb := hview b houtcome
    rw [Memo.view_mono hcourse.le ha] at hb
    rw [Option.some.inj hb]
  | error y =>
    rw [houtcome] at hcourse
    obtain ⟨earlier, s, later, -, -, hstages, -, -, hmissing, -⟩ := hcourse.failed
    have hs : s ∈ d.stage.upTo := hstages ▸ List.mem_append_right _ List.mem_cons_self
    have hhas := Memo.has_mono hcourse.le (hp.has_of_le hstage (Stage.mem_upTo.mp hs))
    exact absurd hmissing hhas

theorem replies_pairwise (hp : e.Grounded p.memo) (events : List (Event W)) :
    (e.replies events p).Pairwise fun r r' ↦ r.demand = r'.demand →
      ∀ a, r.outcome = .ok a → r'.outcome = .ok a := by
  induction events generalizing p with
  | nil => exact .nil
  | cons event events ih =>
    cases event with
    | demand d =>
      refine .cons (fun r hr hd a ha ↦ ?_) (ih (hp.answer d))
      obtain ⟨before, d', rest, -, rfl⟩ := exists_of_mem_replies hr
      have hd : d = d' := hd
      subst hd
      have hview := (e.course_answer d p hp).2 a ha
      exact answer_of_view ((hp.answer d).after before)
        (Memo.view_mono (le_after (hp.answer d) before) hview)
    | change f => exact ih hp

/-! ## Calls of one kind -/

theorem filterMap_callsAt {α : Type} {f : Call → Option α} {s : Stage}
    (hf : ∀ call, call.stage ≠ s → f call = none) (cs : List Call) :
    (callsAt s cs).filterMap f = cs.filterMap f := by
  induction cs with
  | nil => rfl
  | cons call cs ih =>
    by_cases hs : call.stage = s
    · rw [callsAt, List.filter_cons_of_pos (by simpa using hs), List.filterMap_cons,
        List.filterMap_cons, ← ih]
      rfl
    · rw [callsAt, List.filter_cons_of_neg (by simpa using hs), List.filterMap_cons, hf call hs]
      exact ih

theorem searched_callsAt (cs : List Call) : searched (callsAt .files cs) = searched cs :=
  filterMap_callsAt (fun call hs ↦ by cases call <;> first | rfl | exact absurd rfl hs) cs

theorem wanted_callsAt (cs : List Call) : wanted (callsAt .markdown cs) = wanted cs :=
  filterMap_callsAt (fun call hs ↦ by cases call <;> first | rfl | exact absurd rfl hs) cs

theorem compilerAnswers_callsAt (cs : List Call) :
    compilerAnswers (callsAt .compiled cs) = compilerAnswers cs :=
  filterMap_callsAt (fun call hs ↦ by cases call <;> first | rfl | exact absurd rfl hs) cs

theorem converterAnswers_callsAt (cs : List Call) :
    converterAnswers (callsAt .html cs) = converterAnswers cs :=
  filterMap_callsAt (fun call hs ↦ by cases call <;> first | rfl | exact absurd rfl hs) cs

/-! ## Single calls -/

/-- The compiler is called alone. -/
theorem Makes.eq_compile {m : Memo} {cs : List Call} (h : e.Makes m .compiled cs) :
    ∃ c, cs = [.compile e.source e.context (.ok c)] := by
  cases h with
  | compiled c => exact ⟨c, rfl⟩

theorem Breaks.eq_compile {m : Memo} {cs : List Call} {y : EngineError}
    (h : e.Breaks m .compiled cs y) :
    ∃ x, cs = [.compile e.source e.context (.error x)] ∧ y = .compilation x := by
  cases h with
  | compiled x => exact ⟨x, rfl, rfl⟩

/-- The converter is called alone. -/
theorem Makes.eq_convert {m : Memo} {cs : List Call} (h : e.Makes m .html cs) :
    ∃ text html, cs = [.convert text e.options (.ok html)] := by
  cases h with
  | html text html => exact ⟨text, html, rfl⟩

theorem Breaks.eq_convert {m : Memo} {cs : List Call} {y : EngineError}
    (h : e.Breaks m .html cs y) :
    ∃ text reason, cs = [.convert text e.options (.error reason)] ∧ y = .conversion reason := by
  cases h with
  | html text reason => exact ⟨text, reason, rfl, rfl⟩

/-- A demand makes at most one call at a stage whose attempts are single calls. -/
theorem length_callsAt_le_one {s : Stage} (hmade : ∀ m cs, e.Makes m s cs → cs.length = 1)
    (hbroken : ∀ m cs y, e.Breaks m s cs y → cs.length = 1) (hp : e.Grounded p.memo) (d : Demand) :
    (callsAt s (e.calls d p)).length ≤ 1 := by
  rcases (e.course_answer d p hp).1.callsAt_cases s with ⟨hnone, -⟩ | ⟨-, hmakes⟩ | ⟨-, y, -, hbreaks⟩
  · rw [hnone]
    exact Nat.zero_le 1
  · exact (hmade _ _ hmakes).le
  · exact (hbroken _ _ _ hbreaks).le

/-- At a stage whose failed attempts show as errors, at most one answer is none. -/
theorem length_filter_isOk_le_one {α ε : Type} {s : Stage} {f : Call → Option (Except ε α)}
    (hf : ∀ cs, (callsAt s cs).filterMap f = cs.filterMap f)
    (hmade : ∀ m cs, e.Makes m s cs → cs.length = 1)
    (hbroken : ∀ m cs y, e.Breaks m s cs y → ∀ a ∈ cs.filterMap f, a.isOk = false)
    (hp : e.Grounded p.memo) (hs : p.memo.slot s = none) (events : List (Event W)) :
    (((e.journal events p).filterMap f).filter (·.isOk)).length ≤ 1 := by
  obtain ⟨broken, made, hcalls, hfailed, hmakes⟩ := journal_callsAt_of_missing hp hs events
  have hnone : (broken.flatten.filterMap f).filter (·.isOk) = [] := by
    refine List.filter_eq_nil_iff.mpr fun a ha ↦ ?_
    obtain ⟨call, hcall, ha⟩ := List.mem_filterMap.mp ha
    obtain ⟨b, hb, hcall⟩ := List.mem_flatten.mp hcall
    obtain ⟨y, hy⟩ := hfailed b hb
    rw [hbroken _ b y hy a (List.mem_filterMap.mpr ⟨call, hcall, ha⟩)]
    exact Bool.false_ne_true
  have hlength : made.length ≤ 1 := by
    rcases hmakes with ⟨-, rfl⟩ | hmakes
    · exact Nat.zero_le 1
    · exact (hmade _ _ hmakes).le
  rw [← hf, hcalls, List.filterMap_append, List.filter_append, hnone, List.nil_append]
  calc
    ((made.filterMap f).filter (·.isOk)).length ≤ (made.filterMap f).length :=
      List.length_filter_le ..
    _ ≤ made.length := List.length_filterMap_le ..
    _ ≤ 1 := hlength

/-! ## Refusals of the compiler -/

theorem upTo_eq_cons (s : Stage) : ∃ rest, s.upTo = .compiled :: rest := by
  cases s <;> exact ⟨_, rfl⟩

/-- An error of the compiler shows that nothing has been compiled. -/
theorem Course.missing_of_compilation {stages : List Stage} {m m' : Memo} {cs : List Call}
    {x : CompileError} (h : e.Course stages m cs (some (.compilation x)) m') :
    m'.slot .compiled = none := by
  obtain ⟨-, s, -, -, broken, -, -, -, hmissing, hbreaks⟩ := h.failed
  cases hbreaks with
  | compiled => exact hmissing

/-- A demand that finds nothing compiled asks the compiler once, and is refused if the compiler
refuses. -/
theorem compilation_cases (hp : e.Grounded p.memo) (hs : p.memo.slot .compiled = none)
    (d : Demand) :
    (∃ c, compilerAnswers (e.calls d p) = [.ok c] ∧ (e.answer d p).2.memo.has .compiled) ∨
      ∃ x, compilerAnswers (e.calls d p) = [.error x] ∧
        (e.answer d p).1 = .error (.compilation x) ∧
        (e.answer d p).2.memo.slot .compiled = none := by
  have hcourse := (e.course_answer d p hp).1
  obtain ⟨rest, hrest⟩ := upTo_eq_cons d.stage
  rw [hrest] at hcourse
  rw [← compilerAnswers_callsAt]
  rcases hcourse.callsAt_cases .compiled with ⟨hnone, hslot⟩ | ⟨-, hmakes⟩ | ⟨hslot, y, hy, hbreaks⟩
  · exfalso
    generalize failure? (e.answer d p).1 = x, e.calls d p = cs, (e.answer d p).2.memo = m'
      at hcourse hnone hslot
    cases hcourse with
    | kept has => exact absurd hs has
    | made _ makes next => exact absurd (hslot.trans hs) (Memo.has_mono next.le makes.has)
    | broken _ breaks =>
      obtain ⟨x, rfl, -⟩ := breaks.eq_compile
      cases hnone
  · obtain ⟨c, hc⟩ := hmakes.eq_compile
    rw [hc]
    exact .inl ⟨c, rfl, hmakes.has⟩
  · obtain ⟨x, hx, rfl⟩ := hbreaks.eq_compile
    rw [hx]
    refine .inr ⟨x, rfl, ?_, hslot⟩
    cases houtcome : (e.answer d p).1 with
    | ok a => rw [houtcome] at hy; cases hy
    | error y' => rw [houtcome] at hy; cases hy; rfl

theorem outcome_ne_compilation (hp : e.Grounded p.memo) (hs : p.memo.has .compiled) {r : Reply}
    (hr : r ∈ e.replies events p) (x : CompileError) : r.outcome ≠ .error (.compilation x) := by
  obtain ⟨before, d, rest, -, rfl⟩ := exists_of_mem_replies hr
  intro hx
  have hcourse := (e.course_answer d _ (hp.after before)).1
  have hx : (e.answer d (e.after before p)).1 = .error (.compilation x) := hx
  rw [hx] at hcourse
  have hhas := Memo.has_mono hcourse.le (Memo.has_mono (le_after hp before) hs)
  exact hhas hcourse.missing_of_compilation

/-- The compiler refuses for a while and then succeeds at most once; the demands of that while, and
no others, are answered with its refusals. -/
theorem exists_refusals (hp : e.Grounded p.memo) (hs : p.memo.slot .compiled = none)
    (events : List (Event W)) :
    ∃ (refused : List CompileError) (others : List (Except EngineError Answer))
      (last : List (Except CompileError CompiledStylesheet)),
      (e.replies events p).map (·.outcome) =
        refused.map (fun x ↦ .error (.compilation x)) ++ others ∧
      (∀ o ∈ others, ∀ x, o ≠ .error (.compilation x)) ∧
      compilerAnswers (e.journal events p) = refused.map .error ++ last ∧
      (others = [] ∧ last = [] ∨ ∃ c, last = [.ok c]) := by
  induction events generalizing p with
  | nil => exact ⟨[], [], [], rfl, fun o ho ↦ (nomatch ho), rfl, .inl ⟨rfl, rfl⟩⟩
  | cons event events ih =>
    cases event with
    | demand d =>
      have hnext := hp.answer d
      have hjournal : compilerAnswers (e.journal (.demand d :: events) p) =
          compilerAnswers (e.calls d p) ++ compilerAnswers (e.journal events (e.answer d p).2) :=
        List.filterMap_append
      rcases compilation_cases hp hs d with ⟨c, hc, hhas⟩ | ⟨x, hx, houtcome, hmissing⟩
      · have hlater : compilerAnswers (e.journal events (e.answer d p).2) = [] := by
          rw [← compilerAnswers_callsAt, journal_callsAt_of_has hnext hhas]
          rfl
        rw [hjournal, hc, hlater]
        refine ⟨[], (e.replies (.demand d :: events) p).map (·.outcome), [.ok c], rfl,
          fun o ho x hx ↦ ?_, rfl, .inr ⟨c, rfl⟩⟩
        obtain ⟨r, hr, rfl⟩ := List.mem_map.mp ho
        rcases List.mem_cons.mp hr with rfl | hr
        · have hcourse := (e.course_answer d p hp).1
          have hx : (e.answer d p).1 = .error (.compilation x) := hx
          rw [hx] at hcourse
          exact hhas hcourse.missing_of_compilation
        · exact outcome_ne_compilation hnext hhas hr x hx
      · obtain ⟨refused, others, last, hreplies, hothers, hanswers, hlast⟩ := ih hnext hmissing
        rw [hjournal, hx, hanswers]
        refine ⟨x :: refused, others, last, ?_, hothers, rfl, hlast⟩
        have hfirst : (e.replies (.demand d :: events) p).map (·.outcome) =
            (e.answer d p).1 :: (e.replies events (e.answer d p).2).map (·.outcome) := rfl
        rw [hfirst, houtcome, hreplies]
        rfl
    | change f => exact ih (p := ⟨p.memo, f p.world⟩) hp hs

/-- The demand at some place is refused just if the call of the compiler at that place is. -/
theorem refused_iff (hp : e.Grounded p.memo) (hs : p.memo.slot .compiled = none)
    (events : List (Event W)) (k : Nat) (x : CompileError) :
    (∃ r, (e.replies events p)[k]? = some r ∧ r.outcome = .error (.compilation x)) ↔
      (compilerAnswers (e.journal events p))[k]? = some (.error x) := by
  obtain ⟨refused, others, last, hreplies, hothers, hanswers, hlast⟩ := exists_refusals hp hs events
  rw [← Option.map_eq_some_iff, ← List.getElem?_map, hreplies, hanswers]
  by_cases hk : k < refused.length
  · rw [List.getElem?_append_left (by simpa using hk), List.getElem?_append_left (by simpa using hk)]
    simp
  · have hk : refused.length ≤ k := Nat.le_of_not_lt hk
    rw [List.getElem?_append_right (by simpa using hk),
      List.getElem?_append_right (by simpa using hk)]
    constructor
    · intro hx
      exact absurd rfl (hothers _ (List.mem_of_getElem? hx) x)
    · intro hx
      have hmem := List.mem_of_getElem? hx
      rcases hlast with ⟨-, rfl⟩ | ⟨c, rfl⟩
      · cases hmem
      · cases List.mem_singleton.mp hmem

/-- If the compiler refuses the first `n` times, the first `n` demands are refused. -/
theorem refused_iff_lt (hp : e.Grounded p.memo) (hs : p.memo.slot .compiled = none)
    {events : List (Event W)} {n : Nat}
    (hn : ∀ (k : Nat) (a : Except CompileError CompiledStylesheet),
      (compilerAnswers (e.journal events p))[k]? = some a → (a.isOk = false ↔ k < n))
    {k : Nat} {r : Reply} (hr : (e.replies events p)[k]? = some r) :
    (∃ x, r.outcome = .error (.compilation x)) ↔ k < n := by
  constructor
  · rintro ⟨x, hx⟩
    have hanswer := (refused_iff hp hs events k x).mp ⟨r, hr, hx⟩
    exact (hn k _ hanswer).mp rfl
  · intro hk
    obtain ⟨refused, others, last, hreplies, -, hanswers, hlast⟩ := exists_refusals hp hs events
    have houtcome : (refused.map (fun x ↦ .error (.compilation x)) ++ others)[k]? =
        some r.outcome := by
      rw [← hreplies, List.getElem?_map, hr]
      rfl
    by_cases hrefused : k < refused.length
    · rw [List.getElem?_append_left (by simpa using hrefused), List.getElem?_map,
        List.getElem?_eq_getElem hrefused] at houtcome
      exact ⟨refused[k], (Option.some.inj houtcome).symm⟩
    · exfalso
      have hle : refused.length ≤ k := Nat.le_of_not_lt hrefused
      rw [List.getElem?_append_right (by simpa using hle)] at houtcome
      rcases hlast with ⟨rfl, -⟩ | ⟨c, rfl⟩
      · cases houtcome
      -- The compiler has succeeded at once after the refusals, which is before place `n`.
      · have hok : (compilerAnswers (e.journal events p))[refused.length]? = some (.ok c) := by
          rw [hanswers, List.getElem?_append_right (by simp)]
          simp
        have hfails := (hn refused.length (.ok c) hok).mpr (Nat.lt_of_le_of_lt hle hk)
        cases hfails

/-! ## Searching and reading -/

/-- Listing files cannot fail, so without a list nothing has been searched for. -/
theorem searched_of_missing (hp : e.Grounded p.memo)
    (hs : (e.after events p).memo.files = none) : searched (e.journal events p) = [] := by
  have hstart : p.memo.slot .files = none := by
    by_contra hhas
    exact Memo.has_mono (le_after hp events) hhas hs
  obtain ⟨broken, made, hcalls, hfailed, hmade⟩ := journal_callsAt_of_missing hp hstart events
  have hbroken : broken = [] := List.eq_nil_iff_forall_not_mem.mpr fun b hb ↦ by
    obtain ⟨y, hy⟩ := hfailed b hb
    cases hy
  rcases hmade with ⟨-, rfl⟩ | hmakes
  · rw [← searched_callsAt, hcalls, hbroken]
    rfl
  · exact absurd hs hmakes.has

/-- The demand that lists the files searches once for every stylesheet of the tree. -/
theorem searched_of_filling (hp : e.Grounded p.memo) {d : Demand} (hs : p.memo.files = none)
    (hhas : (e.answer d p).2.memo.has .files) :
    ∃ c, (e.answer d p).2.memo.compiled = some c ∧
      searched (e.calls d p) = c.tree.flatten := by
  rcases (e.course_answer d p hp).1.callsAt_cases .files with
    ⟨-, hslot⟩ | ⟨-, hmakes⟩ | ⟨hslot, -⟩
  · exact absurd (hslot.trans hs) hhas
  · rw [← searched_callsAt]
    generalize callsAt .files (e.calls d p) = cs at hmakes
    cases hmakes with
    | files c found given asked =>
      refine ⟨c, given, ?_⟩
      rw [← asked, searched, List.filterMap_map]
      exact congrFun (List.filterMap_eq_map (f := Prod.fst)) found
  · exact absurd hslot hhas

/-- The demand that puts the text together reads every fragment of the list once. -/
theorem wanted_of_filling (hp : e.Grounded p.memo) {d : Demand} (hs : p.memo.markdown = none)
    (hhas : (e.answer d p).2.memo.has .markdown) :
    ∃ l, (e.answer d p).2.memo.files = some l ∧ wanted (e.calls d p) = l.fragments := by
  rcases (e.course_answer d p hp).1.callsAt_cases .markdown with
    ⟨-, hslot⟩ | ⟨-, hmakes⟩ | ⟨hslot, -⟩
  · exact absurd (hslot.trans hs) hhas
  · rw [← wanted_callsAt]
    generalize callsAt .markdown (e.calls d p) = cs at hmakes
    cases hmakes with
    | markdown l texts given asked =>
      refine ⟨l, given, ?_⟩
      rw [← asked, wanted, List.filterMap_map]
      exact congrFun (List.filterMap_eq_map (f := Prod.fst)) texts
  · exact absurd hslot hhas

/-! ## Histories -/

theorem after_append_demand (before : List (Event W)) (d : Demand) (p : Progress W) :
    e.after (before ++ [.demand d]) p = (e.answer d (e.after before p)).2 :=
  e.after_append before [.demand d] p

theorem after_append_demand_append (before : List (Event W)) (d : Demand)
    (rest : List (Event W)) (p : Progress W) :
    e.after (before ++ .demand d :: rest) p =
      e.after rest (e.answer d (e.after before p)).2 :=
  e.after_append before (.demand d :: rest) p

/-- The work of an engine is done once, whatever is demanded of it in whatever order, and whatever
changes in between. -/
theorem memoized_history (e : Engine W) (events : List (Event W)) (w : W) :
    e.Memoized events (.fresh w) := by
  have hp : e.Grounded (Progress.fresh w).memo := grounded_empty
  have hempty (s : Stage) : (Progress.fresh w).memo.slot s = none := Memo.slot_empty s
  have hcompile (m cs) (h : e.Makes m .compiled cs) : cs.length = 1 := by
    obtain ⟨c, rfl⟩ := h.eq_compile
    rfl
  have hconvert (m cs) (h : e.Makes m .html cs) : cs.length = 1 := by
    obtain ⟨text, html, rfl⟩ := h.eq_convert
    rfl
  refine ⟨replies_pairwise hp events, ?_, ?_, fun hfiles ↦ ?_, searched_of_missing hp, ?_, ?_, ?_,
    refused_iff hp (hempty .compiled) events,
    fun n hn k r hr ↦ refused_iff_lt hp (hempty .compiled) hn hr⟩
  · refine length_filter_isOk_le_one compilerAnswers_callsAt hcompile (fun m cs y h a ha ↦ ?_) hp
      (hempty .compiled) events
    obtain ⟨x, rfl, -⟩ := h.eq_compile
    rw [List.mem_singleton.mp ha]
    rfl
  · refine length_filter_isOk_le_one converterAnswers_callsAt hconvert (fun m cs y h a ha ↦ ?_) hp
      (hempty .html) events
    obtain ⟨text, reason, rfl, -⟩ := h.eq_convert
    rw [List.mem_singleton.mp ha]
    rfl
  · obtain ⟨before, d, rest, rfl, hbefore, hafter⟩ := exists_demand_of_has (hempty .files) hfiles
    have hhere := hp.after before
    rw [after_append_demand] at hafter
    obtain ⟨c, hc, hsearched⟩ := searched_of_filling hhere hbefore hafter
    refine ⟨before, d, rest, c, rfl, hbefore, ?_, ?_, searched_of_missing hp hbefore, hsearched, ?_⟩
    · rw [after_append_demand]
      exact hafter
    · rw [after_append_demand_append]
      exact le_after (hhere.answer d) rest .compiled c hc
    · rw [after_append_demand, ← searched_callsAt,
        journal_callsAt_of_has (hhere.answer d) hafter rest]
      rfl
  · rintro before d rest rfl hbefore hafter
    have hhere := hp.after before
    rw [after_append_demand] at hafter
    obtain ⟨l, hl, hwanted⟩ := wanted_of_filling hhere hbefore hafter
    refine ⟨l, ?_, hwanted⟩
    rw [after_append_demand_append]
    exact le_after (hhere.answer d) rest .files l hl
  · rintro before rest rfl hmarkdown
    rw [← wanted_callsAt, journal_callsAt_of_has (s := .markdown) (hp.after before) hmarkdown rest]
    rfl
  · intro r hr
    obtain ⟨before, d, rest, -, rfl⟩ := exists_of_mem_replies hr
    rw [← compilerAnswers_callsAt, ← converterAnswers_callsAt]
    constructor
    · refine (List.length_filterMap_le ..).trans
        (length_callsAt_le_one hcompile (fun m cs y h ↦ ?_) (hp.after before) d)
      obtain ⟨x, rfl, -⟩ := h.eq_compile
      rfl
    · refine (List.length_filterMap_le ..).trans
        (length_callsAt_le_one hconvert (fun m cs y h ↦ ?_) (hp.after before) d)
      obtain ⟨text, reason, rfl, -⟩ := h.eq_convert
      rfl

end Engine

end StyleGuide
