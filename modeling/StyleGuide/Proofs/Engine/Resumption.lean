import StyleGuide.Proofs.Engine.Coherence

/-!
# Resumption after a failure

A demand that fails leaves behind the results of all stages before the one that failed, and nothing
of that one and those after it. The error is that of the first stage that fails. Whatever is
demanded later goes on from there: the stages before it are done for good.
-/

namespace StyleGuide

namespace Stage

/-- The stages from one on up to another, first to last; none if the first comes after the
second. -/
def upToFrom (s t : Stage) : List Stage :=
  t.upTo.filter (s ≤ ·)

theorem filter_lt_append_upToFrom (s t : Stage) :
    t.upTo.filter (· < s) ++ s.upToFrom t = t.upTo := by
  cases s <;> cases t <;> rfl

theorem upTo_pairwise (t : Stage) : t.upTo.Pairwise (· < ·) := by
  cases t <;> decide

theorem filter_lt_upTo {s t : Stage} (h : s ≤ t) : t.upTo.filter (· < s) = s.before := by
  cases s <;> cases t <;> first | rfl | exact absurd h (by decide)

/-- What precedes a stage among the stages up to another is what the stage builds on. -/
theorem eq_before_of_upTo_eq {s t : Stage} {earlier later : List Stage}
    (h : t.upTo = earlier ++ s :: later) : earlier = s.before := by
  have hsorted := upTo_pairwise t
  have hle : s ≤ t := mem_upTo.mp (h ▸ List.mem_append_right _ List.mem_cons_self)
  rw [← filter_lt_upTo hle, h, List.filter_append]
  rw [h] at hsorted
  obtain ⟨-, hlater, hearlier⟩ := List.pairwise_append.mp hsorted
  have hkept : earlier.filter (· < s) = earlier := List.filter_eq_self.mpr fun u hu ↦
    decide_eq_true (hearlier u hu s List.mem_cons_self)
  have hdropped : (s :: later).filter (· < s) = [] := List.filter_eq_nil_iff.mpr fun u hu ↦ by
    rcases List.mem_cons.mp hu with rfl | hu
    · simp
    · simpa using (List.rel_of_pairwise_cons hlater hu).le
  rw [hkept, hdropped, List.append_nil]

end Stage

namespace Engine

variable {W : Type} {e : Engine W} {p : Progress W}

/-- Stages that have a result can be left out of a course. -/
theorem Course.of_append {earlier stages : List Stage} {m m' : Memo} {cs : List Call}
    {x : Option EngineError} (h : e.Course (earlier ++ stages) m cs x m')
    (has : ∀ s ∈ earlier, m.has s) : e.Course stages m cs x m' := by
  induction earlier with
  | nil => exact h
  | cons s earlier ih =>
    have hs : m.has s := has s List.mem_cons_self
    cases h with
    | kept _ next => exact ih next fun t ht ↦ has t (List.mem_cons_of_mem s ht)
    | made missing => exact absurd missing hs
    | broken missing => exact absurd missing hs

/-- A memo that has the results of all stages before one is gone on from at that one. -/
theorem course_answer_from (hp : e.Grounded p.memo) {s : Stage}
    (has : ∀ t, t < s → p.memo.has t) (d : Demand) :
    e.Course (s.upToFrom d.stage) p.memo (e.calls d p) (failure? (e.answer d p).1)
      (e.answer d p).2.memo ∧
    ∀ call ∈ e.calls d p, s ≤ call.stage ∧ p.memo.slot call.stage = none := by
  have hcourse := (e.course_answer d p hp).1
  refine ⟨?_, fun call hcall ↦ ?_⟩
  · rw [← Stage.filter_lt_append_upToFrom s] at hcourse
    exact hcourse.of_append fun t ht ↦ has t (of_decide_eq_true (List.mem_filter.mp ht).2)
  · have hmissing := hcourse.missing_of_mem hcall
    exact ⟨not_lt.mp fun hlt ↦ has call.stage hlt hmissing, hmissing⟩

/-- What a demand that failed at a stage leaves behind, and how later demands go on. -/
structure Resumable (e : Engine W) (d : Demand) (p : Progress W) (x : EngineError) (s : Stage) :
    Prop where
  /-- The demand needs the stage that failed, and the error says which one it was. -/
  needed : s ≤ d.stage
  error_stage : x.stage? = some s
  /-- Every result that was there is still there. -/
  kept : p.memo ≤ (e.answer d p).2.memo
  /-- There are the results of the stages before the one that failed and no others. -/
  filled : ∀ t, (e.answer d p).2.memo.has t ↔ t < s
  /-- The missing stages before the one that failed succeeded in order; then it failed. -/
  first : ∃ now broken, e.calls d p = now ++ broken ∧
    e.Course s.before p.memo now none (e.answer d p).2.memo ∧
    e.Breaks (e.answer d p).2.memo s broken x
  /-- Every later demand takes the course of the stages from the one that failed on, and calls for
  none that has a result. -/
  resumed : ∀ (later : List (Event W)) (d' : Demand),
    (e.answer d p).2.memo ≤ (e.after later (e.answer d p).2).memo ∧
    e.Course (s.upToFrom d'.stage) (e.after later (e.answer d p).2).memo
      (e.calls d' (e.after later (e.answer d p).2))
      (failure? (e.answer d' (e.after later (e.answer d p).2)).1)
      (e.answer d' (e.after later (e.answer d p).2)).2.memo ∧
    ∀ call ∈ e.calls d' (e.after later (e.answer d p).2),
      s ≤ call.stage ∧ (e.after later (e.answer d p).2).memo.slot call.stage = none

/-- After every history, a demand that fails can be taken up again where it failed. -/
theorem resumable_of_failed (e : Engine W) (events : List (Event W)) (w : W) (d : Demand)
    (x : EngineError) (h : (e.answer d (e.after events (.fresh w))).1 = .error x) :
    ∃ s, e.Resumable d (e.after events (.fresh w)) x s := by
  have hfresh : e.Grounded (Progress.fresh w).memo := grounded_empty
  have hp : e.Grounded (e.after events (.fresh w)).memo := hfresh.after events
  generalize e.after events (.fresh w) = p at *
  have hcourse := (e.course_answer d p hp).1
  rw [h] at hcourse
  obtain ⟨earlier, s, later, now, broken, hstages, hcalls, hnow, hmissing, hbreaks⟩ :=
    hcourse.failed
  obtain rfl := Stage.eq_before_of_upTo_eq hstages
  have hneeded : s ≤ d.stage :=
    Stage.mem_upTo.mp (hstages ▸ List.mem_append_right _ List.mem_cons_self)
  have hgrounded := hp.answer d
  have hbefore (t : Stage) (ht : t < s) : (e.answer d p).2.memo.has t :=
    hnow.has (Stage.mem_before.mpr ht)
  exact ⟨s, {
    needed := hneeded
    error_stage := hbreaks.error_stage
    kept := hnow.le
    filled := fun t ↦ ⟨fun ht ↦ not_le.mp fun hle ↦ hgrounded.has_of_le ht hle hmissing, hbefore t⟩
    first := ⟨now, broken, hcalls, hnow, hbreaks⟩
    resumed := fun events' d' ↦ by
      have hle := le_after hgrounded events'
      exact ⟨hle, course_answer_from (hgrounded.after events')
        (fun t ht ↦ Memo.has_mono hle (hbefore t ht)) d'⟩ }⟩

/-- An engine with a stylesheet and a fragment beside it that no converter takes. -/
def unconvertible : Engine Unit where
  source := "$margin: 0;"
  file := some ⟨"a.scss"⟩
  baseDir := ⟨"."⟩
  options := .default
  sass := ⟨[], .expanded⟩
  collaborators := {
    compile := fun source context w ↦ (.ok ⟨source, .root context.file []⟩, w)
    fragments := fun p w ↦ ([fragmentPath p], w)
    readFragment := fun _ w ↦ (.ok "# A", w)
    convert := fun _ _ w ↦ (.error "no converter", w)
    layOut := fun bindings w ↦ (.ok bindings.html, w) }

theorem resumable_unconvertible :
    (unconvertible.answer .document (unconvertible.after [.demand .css] (.fresh ()))).1 =
      .error (.conversion "no converter") ∧
    ∃ s, unconvertible.Resumable .document (unconvertible.after [.demand .css] (.fresh ()))
      (.conversion "no converter") s := by
  have h : (unconvertible.answer .document (unconvertible.after [.demand .css] (.fresh ()))).1 =
      .error (.conversion "no converter") := by decide +kernel
  exact ⟨h, resumable_of_failed unconvertible [.demand .css] () .document _ h⟩

end Engine

end StyleGuide
