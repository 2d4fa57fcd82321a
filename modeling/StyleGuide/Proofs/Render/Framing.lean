import StyleGuide.Proofs.Render.Documents
import StyleGuide.Proofs.Render.Streaming

/-!
# Tags of lists and tables

The tag of an item depends on the list around it, and the tag of a cell on the part of the table and
on the column it stands in. `Framed` gives the tags of lists and tables of a document by where they
stand in it. A renderer knows no places: it keeps the kinds of the lists that are open, and a column
that cells count up and rows set back. On every document the two agree, whatever the renderer has
rendered before.
-/

namespace StyleGuide.Render

variable {S : Type} (settings : Settings S)

/-! ## What events write -/

namespace State

def added (st : State S) (e : Event) : String :=
  ({ st with output := "" }.step settings e).output

def writes (st : State S) : List Event → List (Event × String)
  | [] => []
  | e :: es => (e, st.added settings e) :: (st.step settings e).writes es

theorem output_step (st : State S) (e : Event) :
    (st.step settings e).output = st.output ++ st.added settings e := by
  let fresh : State S := { st with output := "" }
  have hst : fresh.behind ⟨st.output, []⟩ = st := by
    unfold behind fresh
    dsimp only
    rw [String.append_empty, List.nil_append]
  have hstep : (fresh.behind ⟨st.output, []⟩).step settings e =
      (fresh.step settings e).behind ⟨st.output, []⟩ :=
    behind_step fresh ⟨st.output, []⟩ e
  rw [hst] at hstep
  rw [hstep]
  rfl

/-- A page is what the events have added to it, one after another. -/
theorem output_run (st : State S) (es : List Event) :
    (st.run settings es).output =
      st.output ++ String.join ((st.writes settings es).map Prod.snd) := by
  induction es generalizing st with
  | nil =>
    rw [writes, List.map_nil, String.join_nil, String.append_empty]
    rfl
  | cons e es ih =>
    have hrest := ih (st.step settings e)
    rw [output_step, String.append_assoc] at hrest
    rw [writes, List.map_cons, String.join_cons]
    exact hrest

theorem writes_append (st : State S) (es es' : List Event) :
    st.writes settings (es ++ es') =
      st.writes settings es ++ (st.run settings es).writes settings es' := by
  induction es generalizing st with
  | nil => rfl
  | cons e es ih =>
    rw [List.cons_append, writes, ih, writes]
    rfl

end State

/-! ## Frames -/

/-- Whether it is a list or a table, or one of the parts they are made of. -/
def Tag.isFraming : Tag → Bool
  | .list _ => true
  | .item => true
  | .table _ => true
  | .tableHead => true
  | .tableRow => true
  | .tableCell => true
  | _ => false

def EndTag.isFraming : EndTag → Bool
  | .list _ => true
  | .item => true
  | .table => true
  | .tableHead => true
  | .tableRow => true
  | .tableCell => true
  | _ => false

/-- Whether a list, a table or a part of one starts or ends. -/
def Event.isFraming : Event → Bool
  | .start tag => tag.isFraming
  | .stop tag => tag.isFraming
  | _ => false

theorem Tag.isFraming_toEnd (tag : Tag) : tag.toEnd.isFraming = tag.isFraming := by
  cases tag <;> rfl

/-- The starts and ends of lists, tables and their parts, each with what it adds to the page. -/
def State.frames (st : State S) (es : List Event) : List (Event × String) :=
  (st.writes settings es).filter fun w ↦ w.1.isFraming

/-- A start and its end, each with what it adds, around others. -/
def frame (tag : Tag) (opening closing : String) (inner : List (Event × String)) :
    List (Event × String) :=
  (.start tag, opening) :: (inner ++ [(.stop tag.toEnd, closing)])

namespace State

theorem frames_append (st : State S) (es es' : List Event) :
    st.frames settings (es ++ es') =
      st.frames settings es ++ (st.run settings es).frames settings es' := by
  unfold frames
  rw [writes_append, List.filter_append]

theorem frames_cons_of_framing {e : Event} (h : e.isFraming = true) (st : State S)
    (es : List Event) :
    st.frames settings (e :: es) =
      (e, st.added settings e) :: (st.step settings e).frames settings es :=
  List.filter_cons_of_pos h

theorem frames_cons_of_unframed {e : Event} (h : e.isFraming = false) (st : State S)
    (es : List Event) :
    st.frames settings (e :: es) = (st.step settings e).frames settings es :=
  List.filter_cons_of_neg (Bool.eq_false_iff.mp h)

theorem frames_around {tag : Tag} (h : tag.isFraming = true) (st : State S)
    (inner : List Event) :
    st.frames settings (around tag inner) =
      frame tag (st.added settings (.start tag))
        (((st.start tag).run settings inner).added settings (.stop tag.toEnd))
        ((st.start tag).frames settings inner) := by
  have hstart : (Event.start tag).isFraming = true := h
  have hstop : (Event.stop tag.toEnd).isFraming = true := tag.isFraming_toEnd.trans h
  unfold around
  rw [frames_cons_of_framing settings hstart, frames_append,
    frames_cons_of_framing settings hstop]
  rfl

/-- What frames nothing itself leaves the frames of its content. -/
theorem frames_within {tag : Tag} (h : tag.isFraming = false) (st : State S)
    (inner : List Event) :
    st.frames settings (around tag inner) = (st.start tag).frames settings inner := by
  have hstart : (Event.start tag).isFraming = false := h
  have hstop : (Event.stop tag.toEnd).isFraming = false := tag.isFraming_toEnd.trans h
  unfold around
  rw [frames_cons_of_unframed settings hstart, frames_append,
    frames_cons_of_unframed settings hstop]
  exact List.append_nil _

end State

/-! ## The tags of a document -/

/-- The kind of a list with a first number, or without one. -/
def ListKind.ofFirst : Option Nat → ListKind
  | some _ => .ordered
  | none => .unordered

def listOpening (first : Option Nat) : String :=
  let kind := ListKind.ofFirst first
  let number := match first with
    | some n => if n = 1 then "" else " start=\"" ++ toString n ++ "\""
    | none => ""
  "<" ++ kind.element ++ " class=\"livingstyleguide--" ++ kind.word ++ "-list\"" ++ number ++ ">\n"

def listClosing (kind : ListKind) : String :=
  "</" ++ kind.element ++ ">\n"

/-- The tag before an item of a list. An item without a list is one of an unordered list. -/
def itemOpening (enclosing : Option ListKind) : String :=
  "<li class=\"livingstyleguide--" ++ (enclosing.getD .unordered).word ++ "-list-item\">"

/-- The alignment of a column as an attribute. Behind the last column there is none. -/
def columnStyle : Option ColumnAlignment → String
  | some .left => " style=\"text-align:left\""
  | some .center => " style=\"text-align:center\""
  | some .right => " style=\"text-align:right\""
  | some .none => ""
  | none => ""

def cellOpening (element : String) (alignment : Option ColumnAlignment) : String :=
  "<" ++ element ++ columnStyle alignment ++ ">"

def cellClosing (element : String) : String :=
  "</" ++ element ++ ">"

variable (element : String) (columns : List ColumnAlignment) in
/-- The tags of cells, the first of which stands in a certain column. -/
inductive CellFrames : (column : Nat) → List Event → List (Event × String) → Prop
  | nil (column : Nat) : CellFrames column [] []
  | cell {column : Nat} {inner es : List Event} {frames : List (Event × String)}
      (content : Line inner) (rest : CellFrames (column + 1) es frames) :
      CellFrames column (around .tableCell inner ++ es)
        (frame .tableCell (cellOpening element columns[column]?) (cellClosing element) [] ++ frames)

/-- The tags of the rows of a body. Each row begins in the first column. -/
inductive RowFrames (columns : List ColumnAlignment) :
    List Event → List (Event × String) → Prop
  | nil : RowFrames columns [] []
  | row {inner es : List Event} {cells frames : List (Event × String)}
      (content : CellFrames "td" columns 0 inner cells) (rest : RowFrames columns es frames) :
      RowFrames columns (around .tableRow inner ++ es)
        (frame .tableRow "<tr>" "</tr>\n" cells ++ frames)

/-- The tags of the lists and tables of a document that stands in a list, or in none. The innermost
list is the one around an item, and behind a list it is again the one from before. -/
inductive Framed : (enclosing : Option ListKind) → List Event → List (Event × String) → Prop
  | nil {enclosing : Option ListKind} : Framed enclosing [] []
  | line {enclosing : Option ListKind} {inner es : List Event} {frames : List (Event × String)}
      (content : Line inner) (rest : Framed enclosing es frames) :
      Framed enclosing (inner ++ es) frames
  | rule {enclosing : Option ListKind} {es : List Event} {frames : List (Event × String)}
      (rest : Framed enclosing es frames) : Framed enclosing (.rule :: es) frames
  | paragraph {enclosing : Option ListKind} {inner es : List Event}
      {frames : List (Event × String)} (content : Line inner)
      (rest : Framed enclosing es frames) : Framed enclosing (around .paragraph inner ++ es) frames
  | heading (level : Nat) {enclosing : Option ListKind} {inner es : List Event}
      {frames : List (Event × String)} (content : Line inner)
      (rest : Framed enclosing es frames) :
      Framed enclosing (around (.heading level) inner ++ es) frames
  | codeBlock (info : Option String) (texts : List String) {enclosing : Option ListKind}
      {es : List Event} {frames : List (Event × String)} (rest : Framed enclosing es frames) :
      Framed enclosing (around (.codeBlock info) (texts.map .text) ++ es) frames
  | table (columns : List ColumnAlignment) {enclosing : Option ListKind}
      {head body es : List Event} {cells rows frames : List (Event × String)}
      (headCells : CellFrames "th" columns 0 head cells) (bodyRows : RowFrames columns body rows)
      (rest : Framed enclosing es frames) :
      Framed enclosing (around (.table columns) (around .tableHead head ++ body) ++ es)
        (frame (.table columns) "<table class=\"livingstyleguide--table\">\n"
          "</tbody>\n</table>\n"
          (frame .tableHead "<thead>\n<tr>" "</tr>\n</thead>\n<tbody>\n" cells ++ rows) ++ frames)
  | list (first : Option Nat) {enclosing : Option ListKind} {inner es : List Event}
      {parts frames : List (Event × String)}
      (content : Framed (some (.ofFirst first)) inner parts)
      (rest : Framed enclosing es frames) :
      Framed enclosing (around (.list first) inner ++ es)
        (frame (.list first) (listOpening first) (listClosing (.ofFirst first)) parts ++ frames)
  | item {enclosing : Option ListKind} {inner es : List Event}
      {parts frames : List (Event × String)} (content : Framed enclosing inner parts)
      (rest : Framed enclosing es frames) :
      Framed enclosing (around .item inner ++ es)
        (frame .item (itemOpening enclosing) "</li>\n" parts ++ frames)
  | container (c : Container) (unframed : c.tag.isFraming = false)
      {enclosing : Option ListKind} {inner es : List Event} {parts frames : List (Event × String)}
      (content : Framed enclosing inner parts) (rest : Framed enclosing es frames) :
      Framed enclosing (around c.tag inner ++ es) (parts ++ frames)

theorem exists_cellFrames {es : List Event} (h : Cells es) (element : String)
    (columns : List ColumnAlignment) (column : Nat) :
    ∃ frames, CellFrames element columns column es frames := by
  induction h generalizing column with
  | nil => exact ⟨[], .nil column⟩
  | cell content _ ih =>
    obtain ⟨frames, hframes⟩ := ih (column + 1)
    exact ⟨_, .cell content hframes⟩

theorem exists_rowFrames {es : List Event} (h : Rows es) (columns : List ColumnAlignment) :
    ∃ frames, RowFrames columns es frames := by
  induction h with
  | nil => exact ⟨[], .nil⟩
  | row cells _ ih =>
    obtain ⟨parts, hparts⟩ := exists_cellFrames cells "td" columns 0
    obtain ⟨frames, hframes⟩ := ih
    exact ⟨_, .row hparts hframes⟩

/-- Every document has tags of lists and tables. -/
theorem exists_framed {es : List Event} (h : Document es) (enclosing : Option ListKind) :
    ∃ frames, Framed enclosing es frames := by
  induction h generalizing enclosing with
  | nil => exact ⟨[], .nil⟩
  | line content _ ih => exact (ih enclosing).imp fun _ ↦ .line content
  | rule _ ih => exact (ih enclosing).imp fun _ ↦ .rule
  | paragraph content _ ih => exact (ih enclosing).imp fun _ ↦ .paragraph content
  | heading level content _ ih => exact (ih enclosing).imp fun _ ↦ .heading level content
  | codeBlock info texts _ ih => exact (ih enclosing).imp fun _ ↦ .codeBlock info texts
  | table columns cells rows _ ih =>
    obtain ⟨head, hhead⟩ := exists_cellFrames cells "th" columns 0
    obtain ⟨body, hbody⟩ := exists_rowFrames rows columns
    obtain ⟨frames, hframes⟩ := ih enclosing
    exact ⟨_, .table columns hhead hbody hframes⟩
  | container c _ _ ihinner ih =>
    obtain ⟨frames, hframes⟩ := ih enclosing
    cases c with
    | list first =>
      obtain ⟨parts, hparts⟩ := ihinner (some (.ofFirst first))
      exact ⟨_, .list first hparts hframes⟩
    | item =>
      obtain ⟨parts, hparts⟩ := ihinner enclosing
      exact ⟨_, .item hparts hframes⟩
    | span s =>
      obtain ⟨parts, hparts⟩ := ihinner enclosing
      exact ⟨_, .container (.span s) (by cases s <;> rfl) hparts hframes⟩
    | _ =>
      obtain ⟨parts, hparts⟩ := ihinner enclosing
      exact ⟨_, .container _ rfl hparts hframes⟩

/-! ## What a renderer keeps -/

namespace State

variable {settings} {st st' st'' : State S}

/-- The lists that are open and the table stay as they are. -/
structure Keeps (st st' : State S) : Prop where
  lists : st'.lists = st.lists
  table : st'.table = st.table

namespace Keeps

theorem refl (st : State S) : Keeps st st :=
  ⟨rfl, rfl⟩

theorem trans (h : Keeps st st') (h' : Keeps st' st'') : Keeps st st'' :=
  ⟨h'.lists.trans h.lists, h'.table.trans h.table⟩

theorem writeInline (st : State S) (html : String) : Keeps st (st.writeInline html) := by
  unfold State.writeInline
  cases st.heading <;> exact ⟨rfl, rfl⟩

theorem addTitle (st : State S) (text : String) : Keeps st (st.addTitle text) := by
  unfold State.addTitle
  cases st.heading <;> exact ⟨rfl, rfl⟩

theorem text (st : State S) (s : String) : Keeps st (st.text s) := by
  unfold State.text
  split
  · exact ⟨rfl, rfl⟩
  · cases st.image with
    | none => exact (addTitle st s).trans (writeInline _ _)
    | some i => exact ⟨rfl, rfl⟩

theorem endHeading (st : State S) : Keeps st st.endHeading := by
  unfold State.endHeading
  cases st.heading <;> exact ⟨rfl, rfl⟩

theorem endImage (st : State S) : Keeps st st.endImage := by
  unfold State.endImage
  cases st.image with
  | none => exact refl st
  | some i =>
    have hclosed : Keeps st { st with image := none } := ⟨rfl, rfl⟩
    exact hclosed.trans (writeInline _ _)

theorem start {tag : Tag} (h : tag.isFraming = false) (st : State S) :
    Keeps st (st.start tag) := by
  cases tag with
  | list first => cases h
  | item => cases h
  | table columns => cases h
  | tableHead => cases h
  | tableRow => cases h
  | tableCell => cases h
  | emphasis => exact writeInline st _
  | strong => exact writeInline st _
  | strikethrough => exact writeInline st _
  | superscript => exact writeInline st _
  | subscript => exact writeInline st _
  | link url title => exact writeInline st _
  | _ => exact ⟨rfl, rfl⟩

theorem stop {tag : EndTag} (h : tag.isFraming = false) (st : State S) :
    Keeps st (st.stop settings tag) := by
  cases tag with
  | list ordered => cases h
  | item => cases h
  | table => cases h
  | tableHead => cases h
  | tableRow => cases h
  | tableCell => cases h
  | heading => exact endHeading st
  | image => exact endImage st
  | emphasis => exact writeInline st _
  | strong => exact writeInline st _
  | strikethrough => exact writeInline st _
  | superscript => exact writeInline st _
  | subscript => exact writeInline st _
  | link => exact writeInline st _
  | _ => exact ⟨rfl, rfl⟩

/-- Only events that frame something touch the lists and the table. -/
theorem step {e : Event} (h : e.isFraming = false) (st : State S) :
    Keeps st (st.step settings e) := by
  cases e with
  | start tag => exact start h st
  | stop tag => exact stop h st
  | text s => exact text st s
  | softBreak => exact text st _
  | code s => exact (addTitle st s).trans (writeInline _ _)
  | rule => exact ⟨rfl, rfl⟩
  | inlineMath s => exact refl st
  | displayMath s => exact refl st
  | footnoteReference s => exact refl st
  | _ => exact writeInline st _

theorem run {es : List Event} (h : ∀ e ∈ es, e.isFraming = false) (st : State S) :
    Keeps st (st.run settings es) := by
  induction es generalizing st with
  | nil => exact refl st
  | cons e es ih =>
    rw [List.forall_mem_cons] at h
    exact (step h.1 st).trans (ih h.2 _)

end Keeps

end State

/-! ## Events that frame nothing -/

theorem unframed_around {tag : Tag} {inner : List Event} (h : tag.isFraming = false)
    (hinner : ∀ e ∈ inner, e.isFraming = false) : ∀ e ∈ around tag inner, e.isFraming = false :=
  List.forall_mem_cons.mpr ⟨h, List.forall_mem_append.mpr
    ⟨hinner, List.forall_mem_singleton.mpr (tag.isFraming_toEnd.trans h)⟩⟩

theorem Line.unframed {es : List Event} (h : Line es) : ∀ e ∈ es, e.isFraming = false := by
  induction h with
  | nil => exact List.forall_mem_nil _
  | @atom e es isAtom _ ih =>
    refine List.forall_mem_cons.mpr ⟨?_, ih⟩
    cases e with
    | start tag => cases isAtom
    | stop tag => cases isAtom
    | _ => rfl
  | span s _ _ ihinner ih =>
    have hspan : s.tag.isFraming = false := by cases s <;> rfl
    exact List.forall_mem_append.mpr ⟨unframed_around hspan ihinner, ih⟩
  | image url title _ _ ihinner ih =>
    exact List.forall_mem_append.mpr ⟨unframed_around rfl ihinner, ih⟩

/-- A run that has some frames, with the open lists from before behind it. -/
structure HasFrames (st : State S) (es : List Event) (frames : List (Event × String)) : Prop where
  frames_eq : st.frames settings es = frames
  lists_eq : (st.run settings es).lists = st.lists

namespace HasFrames

variable {settings} {st : State S} {es es' : List Event} {frames frames' : List (Event × String)}

theorem append (h : HasFrames settings st es frames)
    (h' : HasFrames settings (st.run settings es) es' frames') :
    HasFrames settings st (es ++ es') (frames ++ frames') := by
  constructor
  · rw [State.frames_append, h.frames_eq, h'.frames_eq]
  · rw [run_append, h'.lists_eq, h.lists_eq]

theorem unframed (h : ∀ e ∈ es, e.isFraming = false) (st : State S) :
    HasFrames settings st es [] := by
  refine ⟨?_, (State.Keeps.run h st).lists⟩
  induction es generalizing st with
  | nil => rfl
  | cons e es ih =>
    rw [List.forall_mem_cons] at h
    rw [State.frames_cons_of_unframed settings h.1]
    exact ih h.2 _

theorem around {tag : Tag} {opening closing : String} (hframing : tag.isFraming = true)
    (hopening : st.added settings (.start tag) = opening)
    (inner : HasFrames settings (st.start tag) es frames)
    (hclosing : ((st.start tag).run settings es).added settings (.stop tag.toEnd) = closing)
    (hlists : (((st.start tag).run settings es).stop settings tag.toEnd).lists = st.lists) :
    HasFrames settings st (around tag es) (frame tag opening closing frames) := by
  constructor
  · rw [State.frames_around settings hframing, hopening, hclosing, inner.frames_eq]
  · rw [run_around, hlists]

end HasFrames

/-! ## Tables -/

theorem cellStyle_eq (st : State S) :
    st.cellStyle = columnStyle st.table.columns[st.table.cell]? := by
  unfold State.cellStyle
  match st.table.columns[st.table.cell]? with
  | none | some .none | some .left | some .center | some .right => rfl

theorem added_startCell (st : State S) :
    st.added settings (.start .tableCell) =
      cellOpening st.cellElement st.table.columns[st.table.cell]? := by
  unfold cellOpening
  rw [← cellStyle_eq]
  exact String.empty_append

/-- A cell has the tags of its column, and the next one stands in the next column. -/
theorem hasFrames_cell {inner : List Event} (content : Line inner) (st : State S) :
    HasFrames settings st (around .tableCell inner)
        (frame .tableCell (cellOpening st.cellElement st.table.columns[st.table.cell]?)
          (cellClosing st.cellElement) []) ∧
      (st.run settings (around .tableCell inner)).table =
        { st.table with cell := st.table.cell + 1 } := by
  have hkeeps : (st.start .tableCell).Keeps ((st.start .tableCell).run settings inner) :=
    .run content.unframed _
  have htable : ((st.start .tableCell).run settings inner).table = st.table := hkeeps.table
  have hclosing : ((st.start .tableCell).run settings inner).added settings (.stop .tableCell) =
      cellClosing st.cellElement := by
    unfold cellClosing State.cellElement
    rw [← htable]
    exact String.empty_append
  constructor
  · exact .around rfl (added_startCell settings st) (.unframed content.unframed _) hclosing
      hkeeps.lists
  · rw [run_around]
    exact congrArg (fun table : TableState ↦ { table with cell := table.cell + 1 }) htable

/-- The cells of a row stand in one column after another, as elements of the part of the table. -/
theorem CellFrames.hasFrames {element : String} {columns : List ColumnAlignment} {column : Nat}
    {es : List Event} {frames : List (Event × String)}
    (h : CellFrames element columns column es frames) {st : State S}
    (helement : st.cellElement = element) (hcolumns : st.table.columns = columns)
    (hcolumn : st.table.cell = column) :
    HasFrames settings st es frames ∧
      ∃ n, (st.run settings es).table = { st.table with cell := n } := by
  induction h generalizing st with
  | nil column => exact ⟨.unframed (List.forall_mem_nil _) st, st.table.cell, rfl⟩
  | @cell column inner es frames content _ ih =>
    obtain ⟨hcell, htable⟩ := hasFrames_cell settings content st
    rw [helement, hcolumns, hcolumn] at hcell
    have helement' : (st.run settings (around .tableCell inner)).cellElement = element := by
      unfold State.cellElement
      rw [htable]
      exact helement
    obtain ⟨hrest, n, htable'⟩ := ih helement' (by rw [htable, hcolumns]) (by rw [htable, hcolumn])
    rw [htable] at htable'
    refine ⟨hcell.append hrest, n, ?_⟩
    rw [run_append, htable']

/-- A row of the body begins in the first column, and so does every row after it. -/
theorem RowFrames.hasFrames {columns : List ColumnAlignment} {es : List Event}
    {frames : List (Event × String)} (h : RowFrames columns es frames) {st : State S}
    (hbody : st.table.inHead = false) (hcolumns : st.table.columns = columns) :
    HasFrames settings st es frames := by
  induction h generalizing st with
  | nil => exact .unframed (List.forall_mem_nil _) st
  | @row inner es cells frames content _ ih =>
    have helement : (st.start .tableRow).cellElement = "td" := if_neg (Bool.eq_false_iff.mp hbody)
    obtain ⟨hcells, n, htable⟩ := content.hasFrames settings helement hcolumns rfl
    have hrow : HasFrames settings st (around .tableRow inner)
        (frame .tableRow "<tr>" "</tr>\n" cells) :=
      .around rfl String.empty_append hcells String.empty_append hcells.lists_eq
    have htable' :
        (st.run settings (around .tableRow inner)).table = { st.table with cell := n } := by
      rw [run_around]
      exact htable
    refine hrow.append (ih ?_ ?_)
    · rw [htable']
      exact hbody
    · rw [htable']
      exact hcolumns

/-- A table is a head and a body with the same columns, whatever table has been before it. -/
theorem hasFrames_table {columns : List ColumnAlignment} {head body : List Event}
    {cells rows : List (Event × String)} (headCells : CellFrames "th" columns 0 head cells)
    (bodyRows : RowFrames columns body rows) (st : State S) :
    HasFrames settings st (around (.table columns) (around .tableHead head ++ body))
      (frame (.table columns) "<table class=\"livingstyleguide--table\">\n" "</tbody>\n</table>\n"
        (frame .tableHead "<thead>\n<tr>" "</tr>\n</thead>\n<tbody>\n" cells ++ rows)) := by
  let opened := st.start (.table columns)
  have helement : (opened.start .tableHead).cellElement = "th" := rfl
  obtain ⟨hcells, n, htable⟩ := headCells.hasFrames settings helement rfl rfl
  have hhead : HasFrames settings opened (around .tableHead head)
      (frame .tableHead "<thead>\n<tr>" "</tr>\n</thead>\n<tbody>\n" cells) :=
    .around rfl String.empty_append hcells String.empty_append hcells.lists_eq
  have htable' : (opened.run settings (around .tableHead head)).table = ⟨false, columns, 0⟩ := by
    rw [run_around]
    exact congrArg (fun table : TableState ↦ { table with inHead := false, cell := 0 }) htable
  have hbody : HasFrames settings (opened.run settings (around .tableHead head)) body rows :=
    bodyRows.hasFrames settings (by rw [htable']) (by rw [htable'])
  have hall := hhead.append hbody
  exact .around rfl String.empty_append hall String.empty_append hall.lists_eq

/-! ## Lists -/

theorem added_startList (st : State S) (first : Option Nat) :
    st.added settings (.start (.list first)) = listOpening first := by
  cases first <;> exact String.empty_append

theorem added_stopList (st : State S) (first : Option Nat) :
    st.added settings (.stop (.list first.isSome)) = listClosing (.ofFirst first) := by
  cases first <;> exact String.empty_append

theorem added_startItem (st : State S) :
    st.added settings (.start .item) = itemOpening st.lists.head? := by
  unfold itemOpening
  rw [← List.headD_eq_head?_getD]
  exact String.empty_append

/-! ## Documents -/

/-- A list ends where it has started: behind it the one from before is in front again. -/
theorem hasFrames_list (first : Option Nat) {inner : List Event} {parts : List (Event × String)}
    (st : State S) (content : HasFrames settings (st.start (.list first)) inner parts) :
    HasFrames settings st (around (.list first) inner)
      (frame (.list first) (listOpening first) (listClosing (.ofFirst first)) parts) :=
  .around rfl (added_startList settings st first) content (added_stopList settings _ first)
    (congrArg (List.drop 1) content.lists_eq)

theorem hasFrames_item {inner : List Event} {parts : List (Event × String)} (st : State S)
    (content : HasFrames settings (st.start .item) inner parts) :
    HasFrames settings st (around .item inner)
      (frame .item (itemOpening st.lists.head?) "</li>\n" parts) :=
  .around rfl (added_startItem settings st) content String.empty_append content.lists_eq

/-- What frames nothing itself stands where its content stands. -/
theorem hasFrames_within {tag : Tag} (h : tag.isFraming = false) {inner : List Event}
    {parts : List (Event × String)} (st : State S)
    (content : HasFrames settings (st.start tag) inner parts) :
    HasFrames settings st (around tag inner) parts := by
  constructor
  · rw [State.frames_within settings h, content.frames_eq]
  · have hstop : ((st.start tag).run settings inner).Keeps
        (((st.start tag).run settings inner).stop settings tag.toEnd) :=
      .stop (tag.isFraming_toEnd.trans h) _
    rw [run_around, hstop.lists, content.lists_eq, (State.Keeps.start h st).lists]

/-- The list in front of those that are open is the innermost one. -/
theorem Framed.hasFrames {enclosing : Option ListKind} {es : List Event}
    {frames : List (Event × String)} (h : Framed enclosing es frames) {st : State S}
    (henclosing : st.lists.head? = enclosing) : HasFrames settings st es frames := by
  have next {st : State S} {enclosing : Option ListKind} {inner es : List Event}
      {parts frames : List (Event × String)} (henclosing : st.lists.head? = enclosing)
      (first : HasFrames settings st inner parts)
      (rest : ∀ {st : State S}, st.lists.head? = enclosing → HasFrames settings st es frames) :
      HasFrames settings st (inner ++ es) (parts ++ frames) :=
    first.append (rest (first.lists_eq ▸ henclosing))
  induction h generalizing st with
  | nil => exact .unframed (List.forall_mem_nil _) st
  | line content _ ih => exact next henclosing (.unframed content.unframed st) ih
  | rule _ ih =>
    have hrule : ∀ e ∈ [Event.rule], e.isFraming = false := List.forall_mem_singleton.mpr rfl
    exact next henclosing (.unframed hrule st) ih
  | paragraph content _ ih =>
    exact next henclosing (.unframed (unframed_around rfl content.unframed) st) ih
  | heading level content _ ih =>
    exact next henclosing (.unframed (unframed_around rfl content.unframed) st) ih
  | codeBlock info texts _ ih =>
    have htexts : ∀ e ∈ texts.map Event.text, e.isFraming = false :=
      List.forall_mem_map.mpr fun _ _ ↦ rfl
    exact next henclosing (.unframed (unframed_around rfl htexts) st) ih
  | table columns headCells bodyRows _ ih =>
    exact next henclosing (hasFrames_table settings headCells bodyRows st) ih
  | list first _ _ ihinner ih =>
    have hinner : (st.start (.list first)).lists.head? = some (.ofFirst first) := by
      cases first <;> rfl
    exact next henclosing (hasFrames_list settings first st (ihinner hinner)) ih
  | item _ _ ihinner ih =>
    have hitem := hasFrames_item settings st (ihinner henclosing)
    rw [henclosing] at hitem
    exact next henclosing hitem ih
  | container c unframed _ _ ihinner ih =>
    have hstart : (st.start c.tag).lists.head? = st.lists.head? :=
      congrArg List.head? (State.Keeps.start unframed st).lists
    have hwithin := hasFrames_within settings unframed st (ihinner (hstart.trans henclosing))
    exact next henclosing hwithin ih

/-- On every document the tags of lists and tables are those of the places they stand in, whatever
has been rendered before: items have the class of the innermost list around them, lists end with the
tag they have begun with, and the cells of a table are elements of its head or of its body with the
alignment of their column. Outside all lists of the document the list around an item is the one that
has been left open, if there is one. These tags are on the page in this order, among what the other
events add to it. -/
theorem framed_iff_written {es : List Event} (hes : Document es) (st : State S) :
    (∀ frames, Framed st.lists.head? es frames ↔
      (st.writes settings es).filter (fun w ↦ w.1.isFraming) = frames) ∧
    (render settings st es).1.html =
      st.output ++ String.join ((st.writes settings es).map Prod.snd) := by
  refine ⟨fun frames ↦ ⟨fun h ↦ (h.hasFrames settings rfl).frames_eq, fun h ↦ ?_⟩,
    st.output_run settings es⟩
  obtain ⟨frames', hframes'⟩ := exists_framed hes st.lists.head?
  have heq : frames' = frames := (hframes'.hasFrames settings rfl).frames_eq.symm.trans h
  exact heq ▸ hframes'

/-- A list with a list in its first item and a second item behind it, and a table with more cells
than columns. -/
def framedPage : List Block :=
  [.container (.list (some 3)) [.container .item [.container (.list none) [.container .item []]],
      .container .item []],
    .table [.left] [[.atom (.text "h")]] [[[], [.span .strong [.atom (.text "b")]]], [[]]]]

/-- The tags of both items of the outer list are alike, and so are those of the first cells. -/
theorem framed_framedPage :
    let outerItem := frame .item "<li class=\"livingstyleguide--ordered-list-item\">" "</li>\n"
    let innerItem := frame .item "<li class=\"livingstyleguide--unordered-list-item\">" "</li>\n"
    let innerList := frame (.list none) "<ul class=\"livingstyleguide--unordered-list\">\n"
      "</ul>\n" (innerItem [])
    let headCell := frame .tableCell "<th style=\"text-align:left\">" "</th>" []
    let firstCell := frame .tableCell "<td style=\"text-align:left\">" "</td>" []
    let row := frame .tableRow "<tr>" "</tr>\n"
    Document (Block.allEvents framedPage) ∧
      Framed none (Block.allEvents framedPage)
        (frame (.list (some 3)) "<ol class=\"livingstyleguide--ordered-list\" start=\"3\">\n"
            "</ol>\n" (outerItem innerList ++ outerItem []) ++
          frame (.table [.left]) "<table class=\"livingstyleguide--table\">\n"
            "</tbody>\n</table>\n"
            (frame .tableHead "<thead>\n<tr>" "</tr>\n</thead>\n<tbody>\n" headCell ++
              (row (firstCell ++ frame .tableCell "<td>" "</td>" []) ++ row firstCell))) := by
  have hdocument : Document (Block.allEvents framedPage) := Block.document_allEvents _
  obtain ⟨hframed, -⟩ :=
    framed_iff_written (⟨[], ""⟩ : Settings Unit) hdocument (State.initial ())
  exact ⟨hdocument, (hframed _).mpr (by decide +kernel)⟩

end StyleGuide.Render
