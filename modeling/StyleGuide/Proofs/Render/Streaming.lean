import StyleGuide.Proofs.Render.Headings

/-!
# Rendering in several calls

What a renderer has written is never looked at again: an event adds to the page and to the contents
and does the rest without them. So a stream of events may be cut into calls at any place, also
inside of something that is open. The pages of the calls, put one behind another, are the page of
the whole stream, and so is what is left behind.
-/

namespace StyleGuide.Render

variable {S : Type} (settings : Settings S)

namespace Rendered

def append (page next : Rendered) : Rendered :=
  ⟨page.html ++ next.html, page.toc ++ next.toc⟩

def joined : List Rendered → Rendered
  | [] => ⟨"", []⟩
  | page :: others => page.append (joined others)

theorem append_joined_nil (page : Rendered) : page.append (joined []) = page := by
  unfold append joined
  rw [String.append_empty, List.append_nil]

end Rendered

/-! ## What has been written -/

namespace State

variable {settings} (st : State S) (page : Rendered)

/-- The same state with a page in front of what it has written. -/
def behind : State S :=
  { st with output := page.html ++ st.output, toc := page.toc ++ st.toc }

theorem behind_write (html : String) :
    (st.behind page).write html = (st.write html).behind page := by
  unfold write behind
  rw [String.append_assoc]

theorem behind_writeInline (html : String) :
    (st.behind page).writeInline html = (st.writeInline html).behind page := by
  have hopen : (st.behind page).heading = st.heading := rfl
  unfold writeInline
  rw [hopen]
  cases st.heading with
  | none => exact behind_write st page html
  | some h => rfl

theorem behind_addTitle (text : String) :
    (st.behind page).addTitle text = (st.addTitle text).behind page := by
  have hopen : (st.behind page).heading = st.heading := rfl
  unfold addTitle
  rw [hopen]
  cases st.heading with
  | none => rfl
  | some h => rfl

theorem behind_text (s : String) : (st.behind page).text s = (st.text s).behind page := by
  have hcode : (st.behind page).code = st.code := rfl
  have himage : (st.behind page).image = st.image := rfl
  unfold text
  rw [hcode, himage]
  split
  · rfl
  · cases st.image with
    | some i => rfl
    | none =>
      dsimp only
      rw [behind_addTitle, behind_writeInline]

theorem behind_codeSpan (s : String) :
    (st.behind page).codeSpan s = (st.codeSpan s).behind page := by
  unfold codeSpan
  rw [behind_addTitle, behind_writeInline]

theorem behind_start (tag : Tag) : (st.behind page).start tag = (st.start tag).behind page := by
  cases tag with
  | heading => rfl
  | codeBlock => rfl
  | image => rfl
  | htmlBlock => rfl
  | footnoteDefinition => rfl
  | metadata => rfl
  | emphasis => exact behind_writeInline st page _
  | strong => exact behind_writeInline st page _
  | strikethrough => exact behind_writeInline st page _
  | superscript => exact behind_writeInline st page _
  | subscript => exact behind_writeInline st page _
  | link => exact behind_writeInline st page _
  | list first =>
    exact behind_write
      { st with lists := (if first.isSome then .ordered else .unordered) :: st.lists } page _
  | table columns => exact behind_write { st with table := ⟨false, columns, 0⟩ } page _
  | tableHead =>
    exact behind_write { st with table := { st.table with inHead := true, cell := 0 } } page _
  | tableRow => exact behind_write { st with table := { st.table with cell := 0 } } page _
  | _ => exact behind_write st page _

theorem behind_endCode :
    (st.behind page).endCode settings = (st.endCode settings).behind page :=
  behind_write { st with code := ⟨false, none, ""⟩, memory := (firstAnswer
    (st.code.language.getD settings.defaultLanguage) st.code.source settings.processors
    st.memory).2 } page _

theorem behind_endHeading : (st.behind page).endHeading = st.endHeading.behind page := by
  have hopen : (st.behind page).heading = st.heading := rfl
  unfold endHeading
  rw [hopen]
  cases st.heading with
  | none => rfl
  | some h =>
    dsimp only
    rw [← behind_write]
    unfold behind
    dsimp only
    rw [List.append_assoc]
    rfl

theorem behind_endImage : (st.behind page).endImage = st.endImage.behind page := by
  have himage : (st.behind page).image = st.image := rfl
  unfold endImage
  rw [himage]
  cases st.image with
  | none => rfl
  | some i => exact behind_writeInline { st with image := none } page _

theorem behind_stop (tag : EndTag) :
    (st.behind page).stop settings tag = (st.stop settings tag).behind page := by
  cases tag with
  | heading => exact behind_endHeading st page
  | image => exact behind_endImage st page
  | htmlBlock => rfl
  | footnoteDefinition => rfl
  | metadata => rfl
  | emphasis => exact behind_writeInline st page _
  | strong => exact behind_writeInline st page _
  | strikethrough => exact behind_writeInline st page _
  | superscript => exact behind_writeInline st page _
  | subscript => exact behind_writeInline st page _
  | link => exact behind_writeInline st page _
  | codeBlock => exact behind_endCode st page
  | list ordered => exact behind_write { st with lists := st.lists.drop 1 } page _
  | tableHead =>
    exact behind_write { st with table := { st.table with inHead := false, cell := 0 } } page _
  | tableCell =>
    exact behind_write { st with table := { st.table with cell := st.table.cell + 1 } } page _
  | _ => exact behind_write st page _

/-- No event looks at what has been written. -/
theorem behind_step (e : Event) :
    (st.behind page).step settings e = (st.step settings e).behind page := by
  cases e with
  | start tag => exact behind_start st page tag
  | stop tag => exact behind_stop st page tag
  | text s => exact behind_text st page s
  | softBreak => exact behind_text st page _
  | code s => exact behind_codeSpan st page s
  | rule => exact behind_write st page _
  | inlineMath => rfl
  | displayMath => rfl
  | footnoteReference => rfl
  | _ => exact behind_writeInline st page _

theorem behind_run (es : List Event) :
    (st.behind page).run settings es = (st.run settings es).behind page := by
  induction es generalizing st with
  | nil => rfl
  | cons e es ih =>
    unfold run at ih ⊢
    rw [List.foldl_cons, behind_step, ih]
    rfl

end State

/-! ## Calls -/

def carried (st : State S) (calls : List (List Event)) : State S :=
  calls.foldl (fun st es ↦ (render settings st es).2) st

/-- A run has the page of the call in front of what the call leaves behind. -/
theorem run_eq_behind (st : State S) (es : List Event) :
    st.run settings es = (render settings st es).2.behind (render settings st es).1 := by
  unfold render State.behind
  dsimp only
  rw [String.append_empty, List.append_nil]

theorem render_behind (st : State S) (page : Rendered) (es : List Event) :
    render settings (st.behind page) es =
      (page.append (render settings st es).1, (render settings st es).2) := by
  unfold render
  rw [State.behind_run]
  rfl

/-- Two calls are one call. -/
theorem render_both (st : State S) (es es' : List Event) :
    render settings st (es ++ es') =
      ((render settings st es).1.append (render settings (render settings st es).2 es').1,
        (render settings (render settings st es).2 es').2) := by
  have hrun : render settings st (es ++ es') = render settings (st.run settings es) es' := by
    unfold render State.run
    rw [List.foldl_append]
  rw [hrun, run_eq_behind, render_behind]

/-- Any number of calls are one call. -/
theorem render_flatten (st : State S) (es : List Event) (calls : List (List Event)) :
    render settings st (es :: calls).flatten =
      (Rendered.joined (pages settings st (es :: calls)), carried settings st (es :: calls)) := by
  induction calls generalizing st es with
  | nil =>
    rw [List.flatten_singleton, pages, pages, Rendered.joined, Rendered.append_joined_nil]
    rfl
  | cons next calls ih =>
    rw [List.flatten_cons, render_both, ih]
    rfl

/-- A stream may be cut at any place: two calls write what one call writes for both streams, and
leave the same state behind. So do any number of calls, whatever is open between them: what they
write and leave behind is determined by the stream of all their events. -/
theorem render_append (st : State S) :
    (∀ es es' : List Event, render settings st (es ++ es') =
      (⟨(render settings st es).1.html ++ (render settings (render settings st es).2 es').1.html,
        (render settings st es).1.toc ++ (render settings (render settings st es).2 es').1.toc⟩,
        (render settings (render settings st es).2 es').2)) ∧
    ∀ (es : List Event) (calls : List (List Event)),
      (Rendered.joined (pages settings st (es :: calls)), carried settings st (es :: calls)) =
        render settings st (es :: calls).flatten := by
  constructor
  · intro es es'
    exact render_both settings st es es'
  · intro es calls
    exact (render_flatten settings st es calls).symm

end StyleGuide.Render
