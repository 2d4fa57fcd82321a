import StyleGuide.Proofs.Render.Inserting

/-!
# Well-formed documents

Streams of events in which every start has its end, described apart from trees: raw HTML may stand
wherever inline content does. The events of every tree are such a document. A document closes what
it opens, so no list, heading, image or block of code is open behind it that was not open before.
-/

namespace StyleGuide.Render

variable {S : Type}

/-! ## Well-formed documents -/

/-- Events that stand in the line and hold nothing. Raw HTML is one of them. -/
def Event.isAtom : Event → Bool
  | .start _ => false
  | .stop _ => false
  | .rule => false
  | _ => true

/-- Inline content. -/
inductive Line : List Event → Prop
  | nil : Line []
  | atom {e : Event} {es : List Event} (isAtom : e.isAtom = true) (rest : Line es) : Line (e :: es)
  | span (s : Span) {inner es : List Event} (content : Line inner) (rest : Line es) :
      Line (around s.tag inner ++ es)
  | image (url title : String) {inner es : List Event} (content : Line inner) (rest : Line es) :
      Line (around (.image url title) inner ++ es)

/-- The cells of a row of a table. -/
inductive Cells : List Event → Prop
  | nil : Cells []
  | cell {inner es : List Event} (content : Line inner) (rest : Cells es) :
      Cells (around .tableCell inner ++ es)

/-- The rows of the body of a table. -/
inductive Rows : List Event → Prop
  | nil : Rows []
  | row {inner es : List Event} (cells : Cells inner) (rest : Rows es) :
      Rows (around .tableRow inner ++ es)

/-- Well-formed documents: every start has its end, and paragraphs, headings, cells and images hold
inline content only. -/
inductive Document : List Event → Prop
  | nil : Document []
  | line {inner es : List Event} (content : Line inner) (rest : Document es) :
      Document (inner ++ es)
  | rule {es : List Event} (rest : Document es) : Document (.rule :: es)
  | paragraph {inner es : List Event} (content : Line inner) (rest : Document es) :
      Document (around .paragraph inner ++ es)
  | heading (level : Nat) {inner es : List Event} (content : Line inner) (rest : Document es) :
      Document (around (.heading level) inner ++ es)
  | codeBlock (info : Option String) (texts : List String) {es : List Event}
      (rest : Document es) : Document (around (.codeBlock info) (texts.map .text) ++ es)
  | table (columns : List ColumnAlignment) {head body es : List Event} (cells : Cells head)
      (rows : Rows body) (rest : Document es) :
      Document (around (.table columns) (around .tableHead head ++ body) ++ es)
  | container (c : Container) {inner es : List Event} (content : Document inner)
      (rest : Document es) : Document (around c.tag inner ++ es)

/-! ## Documents of trees -/

mutual

theorem Inline.line_events (i : Inline) {es : List Event} (rest : Line es) :
    Line (i.events ++ es) := by
  cases i with
  | atom a =>
    have hatom : a.event.isAtom = true := by cases a <;> rfl
    rw [Inline.events]
    exact .atom hatom rest
  | span s inner =>
    rw [Inline.events]
    exact .span s (Inline.line_allEvents inner) rest
  | image url title inner =>
    rw [Inline.events]
    exact .image url title (Inline.line_allEvents inner) rest

theorem Inline.line_allEvents (is : List Inline) : Line (Inline.allEvents is) := by
  cases is with
  | nil =>
    rw [Inline.allEvents]
    exact .nil
  | cons i is =>
    rw [Inline.allEvents]
    exact Inline.line_events i (Inline.line_allEvents is)

end

theorem cells_flatMap (cells : List (List Inline)) : Cells (cells.flatMap cellEvents) := by
  induction cells with
  | nil => exact .nil
  | cons cell cells ih => exact .cell (Inline.line_allEvents cell) ih

theorem rows_flatMap (rows : List (List (List Inline))) :
    Rows (rows.flatMap fun cells ↦ around .tableRow (cells.flatMap cellEvents)) := by
  induction rows with
  | nil => exact .nil
  | cons cells rows ih => exact .row (cells_flatMap cells) ih

mutual

theorem Block.document_events (b : Block) {es : List Event} (rest : Document es) :
    Document (b.events ++ es) := by
  cases b with
  | inline i =>
    have hline : Line i.events := by
      simpa using Inline.line_events i .nil
    rw [Block.events]
    exact .line hline rest
  | rule =>
    rw [Block.events]
    exact .rule rest
  | paragraph inner =>
    rw [Block.events]
    exact .paragraph (Inline.line_allEvents inner) rest
  | heading level inner =>
    rw [Block.events]
    exact .heading level (Inline.line_allEvents inner) rest
  | codeBlock info texts =>
    rw [Block.events]
    exact .codeBlock info texts rest
  | table columns head rows =>
    rw [Block.events]
    exact .table columns (cells_flatMap head) (rows_flatMap rows) rest
  | container c inner =>
    rw [Block.events]
    exact .container c (Block.document_allEvents inner) rest

/-- The events of trees are well-formed documents. -/
theorem Block.document_allEvents (bs : List Block) : Document (Block.allEvents bs) := by
  cases bs with
  | nil =>
    rw [Block.allEvents]
    exact .nil
  | cons b bs =>
    rw [Block.allEvents]
    exact Block.document_events b (Block.document_allEvents bs)

end

/-! ## What documents close -/

namespace State

variable {settings : Settings S} {st st' st'' : State S} {inner es es' : List Event}

def noCode : CodeState :=
  ⟨false, none, ""⟩

/-- Behind some events the lists are those from before, and nothing is open that was not. -/
structure Closes (st st' : State S) : Prop where
  lists : st'.lists = st.lists
  code : st.code = noCode → st'.code = noCode
  heading : st.heading = none → st'.heading = none
  image : st.image = none → st'.image = none

namespace Closes

theorem refl (st : State S) : Closes st st :=
  ⟨rfl, id, id, id⟩

theorem trans (h : Closes st st') (h' : Closes st' st'') : Closes st st'' :=
  ⟨h'.lists.trans h.lists, h'.code ∘ h.code, h'.heading ∘ h.heading, h'.image ∘ h.image⟩

theorem write (st : State S) (html : String) : Closes st (st.write html) :=
  ⟨rfl, id, id, id⟩

theorem writeInline (st : State S) (html : String) : Closes st (st.writeInline html) := by
  unfold State.writeInline
  cases hopen : st.heading with
  | none => exact write st html
  | some h => exact ⟨rfl, id, fun hnone ↦ (nomatch hopen.symm.trans hnone), id⟩

theorem addTitle (st : State S) (text : String) : Closes st (st.addTitle text) := by
  unfold State.addTitle
  cases hopen : st.heading with
  | none => exact refl st
  | some h => exact ⟨rfl, id, fun hnone ↦ (nomatch hopen.symm.trans hnone), id⟩

theorem text (st : State S) (s : String) : Closes st (st.text s) := by
  unfold State.text
  split
  · next hactive =>
    refine ⟨rfl, fun hcode ↦ ?_, id, id⟩
    rw [hcode] at hactive
    exact absurd hactive Bool.false_ne_true
  · cases himage : st.image with
    | none => exact (addTitle st s).trans (writeInline _ _)
    | some i => exact ⟨rfl, id, id, fun hnone ↦ (nomatch himage.symm.trans hnone)⟩

/-- What an image has opened is closed at its end. -/
theorem endImage {url title : String} (h : Closes (st.start (.image url title)) st') :
    Closes st st'.endImage := by
  unfold State.endImage
  cases himage : st'.image with
  | none => exact ⟨h.lists, h.code, h.heading, fun _ ↦ himage⟩
  | some i =>
    have hclosed : Closes st { st' with image := none } :=
      ⟨h.lists, h.code, h.heading, fun _ ↦ rfl⟩
    exact hclosed.trans (writeInline _ _)

/-- What a heading has opened is closed at its end. -/
theorem endHeading {level : Nat} (h : Closes (st.start (.heading level)) st') :
    Closes st st'.endHeading := by
  unfold State.endHeading
  cases hopen : st'.heading with
  | none => exact ⟨h.lists, h.code, fun _ ↦ hopen, h.image⟩
  | some heading => exact ⟨h.lists, h.code, fun _ ↦ rfl, h.image⟩

end Closes

def Closed (settings : Settings S) (es : List Event) : Prop :=
  ∀ st : State S, Closes st (st.run settings es)

theorem Closed.nil : Closed settings [] :=
  fun st ↦ .refl st

theorem Closed.append (h : Closed settings es) (h' : Closed settings es') :
    Closed settings (es ++ es') := by
  intro st
  rw [run_append]
  exact (h st).trans (h' _)

theorem Closed.around (tag : Tag) (h : Closed settings inner)
    (stop : ∀ st st' : State S, Closes (st.start tag) st' →
      Closes st (st'.stop settings tag.toEnd)) : Closed settings (around tag inner) := by
  intro st
  rw [run_around]
  exact stop st _ (h _)

/-- A start and an end that open nothing themselves. -/
theorem Closed.within (tag : Tag) (h : Closed settings inner)
    (start : ∀ st : State S, Closes st (st.start tag))
    (stop : ∀ st : State S, Closes st (st.stop settings tag.toEnd)) :
    Closed settings (Render.around tag inner) := by
  apply h.around
  intro st st' hinner
  exact ((start st).trans hinner).trans (stop st')

theorem closed_atom {e : Event} (h : e.isAtom = true) : Closed settings [e] := by
  intro st
  cases e with
  | start tag => cases h
  | stop tag => cases h
  | rule => cases h
  | text s => exact .text st s
  | softBreak => exact .text st _
  | code s => exact (Closes.addTitle st s).trans (.writeInline _ _)
  | inlineMath s => exact .refl st
  | displayMath s => exact .refl st
  | footnoteReference s => exact .refl st
  | _ => exact .writeInline st _

theorem closed_span (s : Span) (h : Closed settings inner) :
    Closed settings (Render.around s.tag inner) := by
  apply h.within
  · intro st
    cases s <;> exact .writeInline st _
  · intro st
    cases s <;> exact .writeInline st _

theorem closed_line (h : Line es) : Closed settings es := by
  induction h with
  | nil => exact .nil
  | atom isAtom _ ih => exact (closed_atom isAtom).append ih
  | span s _ _ ihinner ih => exact (closed_span s ihinner).append ih
  | image url title _ _ ihinner ih =>
    exact (ihinner.around (.image url title) fun _ _ hinner ↦ hinner.endImage).append ih

theorem closed_cells (h : Cells es) : Closed settings es := by
  induction h with
  | nil => exact .nil
  | cell content _ ih =>
    exact ((closed_line content).within .tableCell (fun st ↦ .write st _)
      fun _ ↦ ⟨rfl, id, id, id⟩).append ih

theorem closed_rows (h : Rows es) : Closed settings es := by
  induction h with
  | nil => exact .nil
  | row cells _ ih =>
    exact ((closed_cells cells).within .tableRow (fun _ ↦ ⟨rfl, id, id, id⟩)
      fun st ↦ .write st _).append ih

/-- The source of a block of code is collected and then shown. -/
theorem closed_codeBlock (info : Option String) (texts : List String) :
    Closed settings (Render.around (.codeBlock info) (texts.map .text)) := by
  have htexts : Closed settings (texts.map Event.text) := by
    induction texts with
    | nil => exact .nil
    | cons s texts ih =>
      have htext : Closed settings [.text s] := fun st ↦ .text st s
      exact htext.append ih
  apply htexts.around
  intro st st' hinner
  exact ⟨hinner.lists, fun _ ↦ rfl, hinner.heading, hinner.image⟩

theorem closed_container (c : Container) (h : Closed settings inner) :
    Closed settings (Render.around c.tag inner) := by
  cases c with
  | span s => exact closed_span s h
  | list first =>
    -- The end takes away the list that the start has put in front of the others.
    apply h.around
    intro st st' hinner
    exact ⟨congrArg (List.drop 1) hinner.lists, hinner.code, hinner.heading, hinner.image⟩
  | _ => exact h.within _ (fun _ ↦ ⟨rfl, id, id, id⟩) fun _ ↦ ⟨rfl, id, id, id⟩

/-- A well-formed document closes what it opens. -/
theorem closed_document (h : Document es) : Closed settings es := by
  induction h with
  | nil => exact .nil
  | line content _ ih => exact (closed_line content).append ih
  | rule _ ih =>
    have hrule : Closed settings [.rule] := fun st ↦ .write st _
    exact hrule.append ih
  | paragraph content _ ih =>
    exact ((closed_line content).within .paragraph (fun st ↦ .write st _)
      fun st ↦ .write st _).append ih
  | heading level content _ ih =>
    exact ((closed_line content).around (.heading level) fun _ _ hinner ↦
      hinner.endHeading).append ih
  | codeBlock info texts _ ih => exact (closed_codeBlock info texts).append ih
  | @table columns head body es cells rows _ ih =>
    have hhead : Closed settings (Render.around .tableHead head) :=
      (closed_cells cells).within .tableHead (fun _ ↦ ⟨rfl, id, id, id⟩) fun _ ↦ ⟨rfl, id, id, id⟩
    exact ((hhead.append (closed_rows rows)).within (.table columns) (fun _ ↦ ⟨rfl, id, id, id⟩)
      fun st ↦ .write st _).append ih
  | container c _ _ ihinner ih => exact (closed_container c ihinner).append ih

end State

end StyleGuide.Render
