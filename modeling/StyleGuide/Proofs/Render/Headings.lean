import Mathlib.Data.List.Forall2
import StyleGuide.Render.Renderer

/-!
# Finished headings

What a renderer does with headings, for events that need not be balanced. An event either ends the
open heading, which then gets its element on the page and its entry in the contents, or only adds to
the page. The anchor of a heading is given by the slugs of all headings before it, those of earlier
calls included.
-/

namespace StyleGuide.Render

open Text

def OpenHeading.slug (h : OpenHeading) : String :=
  Slug.slug h.text

/-- A finished heading with its anchor. -/
structure Marked where
  heading : OpenHeading
  anchor : String

namespace Marked

def entry (m : Marked) : TocEntry :=
  ⟨m.heading.level, State.trimmed m.heading.text, m.anchor⟩

def element (m : Marked) : String :=
  State.headingElement m.heading.level m.anchor m.heading.html

end Marked

/-- A slug as it is given out when it has been given out `n` times. -/
def numbered (slug : String) : Nat → String
  | 0 => slug
  | n + 1 => slug ++ "-" ++ toString (n + 1)

/-- Headings with their anchors, after headings with the slugs `before`. -/
def marks (before : List String) : List OpenHeading → List Marked
  | [] => []
  | h :: hs => ⟨h, numbered h.slug (before.count h.slug)⟩ :: marks (before ++ [h.slug]) hs

theorem marks_append (before : List String) (hs hs' : List OpenHeading) :
    marks before (hs ++ hs') =
      marks before hs ++ marks (before ++ hs.map OpenHeading.slug) hs' := by
  induction hs generalizing before with
  | nil => rw [List.nil_append, List.map_nil, List.append_nil, marks, List.nil_append]
  | cons h hs ih =>
    rw [List.cons_append, marks, marks, ih, List.map_cons, List.cons_append, List.append_assoc,
      List.singleton_append]

theorem map_heading_marks (before : List String) (hs : List OpenHeading) :
    (marks before hs).map Marked.heading = hs := by
  induction hs generalizing before with
  | nil => rfl
  | cons h hs ih => rw [marks, List.map_cons, ih]

/-! ## Counts of slugs -/

namespace SlugCounts

theorem count_cons (s : String) (n : Nat) (rest : SlugCounts) (slug : String) :
    count ((s, n) :: rest) slug = if slug = s then n else rest.count slug := by
  unfold count
  rw [List.lookup_cons]
  by_cases h : slug = s
  · rw [if_pos h, beq_iff_eq.mpr h]
    rfl
  · rw [if_neg h, beq_eq_false_iff_ne.mpr h]

theorem count_increment (counts : SlugCounts) (slug s : String) :
    (counts.increment slug).count s = counts.count s + if slug = s then 1 else 0 := by
  induction counts with
  | nil =>
    rw [increment, count_cons, Nat.add_comm]
    simp only [eq_comm]
    rfl
  | cons pair rest ih =>
    obtain ⟨first, n⟩ := pair
    rw [increment]
    by_cases hfirst : first = slug
    · rw [if_pos hfirst, count_cons, count_cons, ← hfirst]
      simp only [@eq_comm _ first s]
      by_cases hs : s = first
      · rw [if_pos hs, if_pos hs, if_pos hs]
      · rw [if_neg hs, if_neg hs, if_neg hs, Nat.add_zero]
    · rw [if_neg hfirst, count_cons, count_cons, ih]
      by_cases hs : s = first
      · have hslug : slug ≠ s := fun hslug ↦ hfirst (hs ▸ hslug.symm)
        rw [if_pos hs, if_pos hs, if_neg hslug, Nat.add_zero]
      · rw [if_neg hs, if_neg hs]

def Tally (counts : SlugCounts) (slugs : List String) : Prop :=
  ∀ s, counts.count s = slugs.count s

theorem Tally.increment {counts : SlugCounts} {slugs : List String} (h : counts.Tally slugs)
    (slug : String) : (counts.increment slug).Tally (slugs ++ [slug]) := by
  intro s
  rw [count_increment, h s, List.count_append, List.count_singleton]
  simp only [beq_iff_eq]

end SlugCounts

/-! ## Events -/

variable {S : Type}

namespace State

variable {settings : Settings S} {st st' st'' : State S} {before : List String}

theorem anchor_eq_numbered (st : State S) (slug : String) :
    st.anchor slug = numbered slug (st.counts.count slug) := by
  unfold anchor
  cases st.counts.count slug <;> rfl

/-- From one state to another headings are finished and nothing else gets into the contents. -/
structure Finishes (before : List String) (st st' : State S) (hs : List OpenHeading) : Prop where
  tally : st'.counts.Tally (before ++ hs.map OpenHeading.slug)
  toc : st'.toc = st.toc ++ (marks before hs).map Marked.entry
  output : ∃ pieces : List String, st'.output = st.output ++ String.join pieces ∧
    ((marks before hs).map Marked.element).Sublist pieces

theorem Finishes.trans {hs hs' : List OpenHeading} (h : Finishes before st st' hs)
    (h' : Finishes (before ++ hs.map OpenHeading.slug) st' st'' hs') :
    Finishes before st st'' (hs ++ hs') := by
  obtain ⟨pieces, houtput, hsublist⟩ := h.output
  obtain ⟨pieces', houtput', hsublist'⟩ := h'.output
  refine ⟨?_, ?_, pieces ++ pieces', ?_, ?_⟩
  · rw [List.map_append, ← List.append_assoc]
    exact h'.tally
  · rw [h'.toc, h.toc, marks_append, List.map_append, List.append_assoc]
  · rw [houtput', houtput, String.join_append, String.append_assoc]
  · rw [marks_append, List.map_append]
    exact hsublist.append hsublist'

/-- Nothing becomes of headings, and the page is only added to. -/
structure Adds (st st' : State S) : Prop where
  counts : st'.counts = st.counts
  toc : st'.toc = st.toc
  output : ∃ piece, st'.output = st.output ++ piece

theorem Adds.of_eq (counts : st'.counts = st.counts) (toc : st'.toc = st.toc)
    (output : st'.output = st.output) : Adds st st' := by
  refine ⟨counts, toc, "", ?_⟩
  rw [output, String.append_empty]

theorem Adds.refl (st : State S) : Adds st st :=
  .of_eq rfl rfl rfl

theorem Adds.trans (h : Adds st st') (h' : Adds st' st'') : Adds st st'' := by
  obtain ⟨piece, houtput⟩ := h.output
  obtain ⟨piece', houtput'⟩ := h'.output
  refine ⟨h'.counts.trans h.counts, h'.toc.trans h.toc, piece ++ piece', ?_⟩
  rw [houtput', houtput, String.append_assoc]

theorem Adds.finishes (h : Adds st st') (tally : st.counts.Tally before) :
    Finishes before st st' [] := by
  obtain ⟨piece, houtput⟩ := h.output
  refine ⟨?_, ?_, [piece], ?_, List.nil_sublist _⟩
  · rw [List.map_nil, List.append_nil, h.counts]
    exact tally
  · rw [h.toc, marks, List.map_nil, List.append_nil]
  · rw [houtput, String.join_cons, String.join_nil, String.append_empty]

theorem adds_write (st : State S) (html : String) : Adds st (st.write html) :=
  ⟨rfl, rfl, html, rfl⟩

theorem adds_writeInline (st : State S) (html : String) : Adds st (st.writeInline html) := by
  unfold writeInline
  split
  · exact .of_eq rfl rfl rfl
  · exact adds_write st html

theorem adds_addTitle (st : State S) (text : String) : Adds st (st.addTitle text) := by
  unfold addTitle
  split
  · exact .of_eq rfl rfl rfl
  · exact .refl st

theorem adds_text (st : State S) (s : String) : Adds st (st.text s) := by
  unfold text
  split
  · exact .of_eq rfl rfl rfl
  · split
    · exact .of_eq rfl rfl rfl
    · exact (adds_addTitle st s).trans (adds_writeInline _ _)

theorem adds_start (st : State S) (tag : Tag) : Adds st (st.start tag) := by
  cases tag with
  | heading => exact .of_eq rfl rfl rfl
  | codeBlock => exact .of_eq rfl rfl rfl
  | image => exact .of_eq rfl rfl rfl
  | htmlBlock => exact .refl st
  | footnoteDefinition => exact .refl st
  | metadata => exact .refl st
  | emphasis => exact adds_writeInline st _
  | strong => exact adds_writeInline st _
  | strikethrough => exact adds_writeInline st _
  | superscript => exact adds_writeInline st _
  | subscript => exact adds_writeInline st _
  | link => exact adds_writeInline st _
  | _ => exact ⟨rfl, rfl, _, rfl⟩

theorem adds_endImage (st : State S) : Adds st st.endImage := by
  unfold endImage
  split
  · exact .refl st
  · have hclosed : Adds st { st with image := none } := .of_eq rfl rfl rfl
    exact hclosed.trans (adds_writeInline _ _)

theorem adds_stop (st : State S) {tag : EndTag} (h : tag = .heading → st.heading = none) :
    Adds st (st.stop settings tag) := by
  cases tag with
  | heading =>
    rw [stop, endHeading, h rfl]
    exact .refl st
  | image => exact adds_endImage st
  | htmlBlock => exact .refl st
  | footnoteDefinition => exact .refl st
  | metadata => exact .refl st
  | emphasis => exact adds_writeInline st _
  | strong => exact adds_writeInline st _
  | strikethrough => exact adds_writeInline st _
  | superscript => exact adds_writeInline st _
  | subscript => exact adds_writeInline st _
  | link => exact adds_writeInline st _
  | _ => exact ⟨rfl, rfl, _, rfl⟩

def ended (st : State S) : Event → Option OpenHeading
  | .stop .heading => st.heading
  | _ => none

theorem eq_of_ended {e : Event} {h : OpenHeading} (hended : st.ended e = some h) :
    e = .stop .heading := by
  unfold ended at hended
  split at hended
  · rfl
  · cases hended

/-- Every event that ends no heading only adds to the page. -/
theorem adds_step (st : State S) {e : Event} (h : st.ended e = none) :
    Adds st (st.step settings e) := by
  cases e with
  | start tag => exact adds_start st tag
  | stop tag =>
    refine adds_stop st ?_
    rintro rfl
    exact h
  | text s => exact adds_text st s
  | code s => exact (adds_addTitle st s).trans (adds_writeInline _ _)
  | softBreak => exact adds_text st _
  | rule => exact adds_write st _
  | inlineMath => exact .refl st
  | displayMath => exact .refl st
  | footnoteReference => exact .refl st
  | _ => exact adds_writeInline st _

/-- The end of a heading gives it the anchor that the headings before it leave. -/
theorem finishes_endHeading (tally : st.counts.Tally before) {h : OpenHeading}
    (hopen : st.heading = some h) : Finishes before st st.endHeading [h] := by
  have hend : st.endHeading =
      { st with
        heading := none
        counts := st.counts.increment h.slug
        toc := st.toc ++ [TocEntry.mk h.level (trimmed h.text) (st.anchor h.slug)] }.write
        (headingElement h.level (st.anchor h.slug) h.html) := by
    rw [endHeading, hopen]
    rfl
  have hanchor : st.anchor h.slug = numbered h.slug (before.count h.slug) := by
    rw [anchor_eq_numbered, tally]
  refine ⟨?_, ?_, [headingElement h.level (st.anchor h.slug) h.html], ?_, ?_⟩
  · rw [hend]
    exact tally.increment h.slug
  · rw [hend, hanchor]
    rfl
  · rw [hend, String.join_cons, String.join_nil, String.append_empty]
    rfl
  · rw [hanchor]
    exact .refl _

theorem finishes_step (tally : st.counts.Tally before) (e : Event) :
    Finishes before st (st.step settings e) (st.ended e).toList := by
  cases hended : st.ended e with
  | none => exact (adds_step st hended).finishes tally
  | some h =>
    obtain rfl := eq_of_ended hended
    exact finishes_endHeading tally hended

def finished (settings : Settings S) : State S → List Event → List OpenHeading
  | _, [] => []
  | st, e :: es => (st.ended e).toList ++ finished settings (st.step settings e) es

/-- What a run of events does with headings. -/
theorem finishes_run (tally : st.counts.Tally before) (es : List Event) :
    Finishes before st (st.run settings es) (st.finished settings es) := by
  induction es generalizing st before with
  | nil => exact (Adds.refl st).finishes tally
  | cons e es ih =>
    have hstep : Finishes before st (st.step settings e) (st.ended e).toList :=
      finishes_step tally e
    exact hstep.trans (ih hstep.tally)

end State

/-! ## Calls -/

def pages (settings : Settings S) : State S → List (List Event) → List Rendered
  | _, [] => []
  | st, es :: calls => (render settings st es).1 :: pages settings (render settings st es).2 calls

def headings (settings : Settings S) : State S → List (List Event) → List (List OpenHeading)
  | _, [] => []
  | st, es :: calls =>
    st.finished settings es :: headings settings (render settings st es).2 calls

/-- A page shows finished headings, and has no other entries in its contents. -/
structure Shows (page : Rendered) (marked : List Marked) : Prop where
  toc : page.toc = marked.map Marked.entry
  html : ∃ pieces : List String,
    page.html = String.join pieces ∧ (marked.map Marked.element).Sublist pieces

/-- Every page shows the headings of its call, with the anchors they get after all before them. -/
theorem shows_pages {settings : Settings S} {st : State S} {before : List String}
    (tally : st.counts.Tally before) (houtput : st.output = "") (htoc : st.toc = [])
    (calls : List (List Event)) :
    ∃ marked : List (List Marked),
      marked.map (·.map Marked.heading) = headings settings st calls ∧
      marked.flatten = marks before (headings settings st calls).flatten ∧
      List.Forall₂ Shows (pages settings st calls) marked := by
  induction calls generalizing st before with
  | nil => exact ⟨[], rfl, rfl, .nil⟩
  | cons es calls ih =>
    have hrun : State.Finishes before st (st.run settings es) (st.finished settings es) :=
      State.finishes_run tally es
    have hrest : (render settings st es).2.counts.Tally
        (before ++ (st.finished settings es).map OpenHeading.slug) := hrun.tally
    obtain ⟨marked, hheadings, hflatten, hshows⟩ := ih hrest rfl rfl
    have htoc' := hrun.toc
    obtain ⟨pieces, hhtml, hpieces⟩ := hrun.output
    refine ⟨marks before (st.finished settings es) :: marked, ?_, ?_, .cons ?_ hshows⟩
    · rw [List.map_cons, map_heading_marks, hheadings]
      rfl
    · rw [List.flatten_cons, hflatten, ← marks_append]
      rfl
    · refine ⟨?_, pieces, ?_, hpieces⟩
      · rw [htoc, List.nil_append] at htoc'
        exact htoc'
      · rw [houtput, String.empty_append] at hhtml
        exact hhtml

end StyleGuide.Render
