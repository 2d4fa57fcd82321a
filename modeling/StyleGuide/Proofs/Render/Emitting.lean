import StyleGuide.Proofs.Render.Inserting

/-!
# What blocks write

The effect of each kind of block on the page. The tags around a container are written where they
stand, those of a heading with all it holds at its end, and those of a block of code in place of its
source. A cell of a table is an element of the head or of the body, as the state of the table says,
and what the table holds leaves that state alone.
-/

namespace StyleGuide.Render

open Text Html

variable {S : Type} (settings : Settings S) {st st' st'' : State S} {ms ms' : List Mark}
  {html : String} {isOpen isOpen' : Bool} {memory memory' : S}

/-! ## Effects -/

/-- The effect of a block: the tags that it adds to the page, whether a heading is open behind it,
and what the processors remember of it. -/
structure Emits (st st' : State S) (ms : List Mark) (isOpen : Bool) (memory : S) : Prop where
  written : Written st.output st'.output ms
  isOpen : st'.heading.isSome = isOpen
  memory : st'.memory = memory

namespace Emits

theorem trans (h : Emits st st' ms isOpen memory) (h' : Emits st' st'' ms' isOpen' memory') :
    Emits st st'' (ms ++ ms') isOpen' memory' :=
  ⟨h.written.trans h'.written, h'.isOpen, h'.memory⟩

/-- Nothing on the page changes. -/
theorem silent (st : State S) : Emits st st [] st.heading.isSome st.memory :=
  ⟨.refl _, rfl, rfl⟩

theorem write (st : State S) (h : Tagged html ms) :
    Emits st (st.write html) ms st.heading.isSome st.memory :=
  ⟨⟨html, h, rfl⟩, rfl, rfl⟩

/-- A heading stays open behind a block that has none. -/
theorem keep {b : Block} (h : Emits st st' ms st.heading.isSome memory)
    (hb : b.hasHeading = false) :
    Emits st st' ms (st.heading.isSome && !b.hasHeading) memory := by
  rw [hb, Bool.not_false, Bool.and_true]
  exact h

/-- What a start and its end write around something makes an element of it. -/
theorem enclose {st₁ st₂ : State S} {name : String} {attributes : List String}
    (first : Emits st st₁ [.opening name attributes] isOpen' memory')
    (inner : Emits st₁ st₂ ms isOpen memory)
    (last : Emits st₂ st' [.closing name] st₂.heading.isSome st₂.memory) :
    Emits st st' (element name attributes ms) isOpen memory :=
  ⟨first.written.trans (inner.written.trans last.written), last.isOpen.trans inner.isOpen,
    last.memory.trans inner.memory⟩

/-- What is not in the line is on the page in any case. -/
theorem outside {c : Container} (h : Emits st st' ms isOpen memory) (hc : c.isInline = false) :
    Emits st st' (shown (st.heading.isSome && c.isInline) ms) isOpen memory := by
  rw [hc, Bool.and_false]
  exact h

end Emits

/-- Inline content is on the page unless a heading is open. -/
theorem Inserts.emits {keeps : Bool} (h : Inserts st st' ms keeps) :
    Emits st st' (shown st.heading.isSome ms) st.heading.isSome st.memory := by
  refine ⟨?_, ?_, h.memory⟩
  · cases h.inserted with
    | page closed still written =>
      rw [closed]
      exact written
    | heading h₁ h₂ hopen still level written kept =>
      rw [hopen, kept]
      exact .refl _
  · cases h.inserted with
    | page closed still => rw [closed, still]
    | heading h₁ h₂ hopen still =>
      rw [hopen, still]
      rfl

/-! ## Containers -/

theorem escapeChars_toDigits (n : Nat) :
    Markup.escapeChars (Nat.toDigits 10 n) = Nat.toDigits 10 n :=
  Markup.escapeChars_of_plain fun _ hc ↦
    isSpecial_of_isDigit (Nat.isDigit_of_mem_toDigits (by decide) (by decide) hc)

/-- The first number of a list is digits, which are written as they are. -/
theorem emits_openList (st : State S) (start : Option Nat) :
    Emits st (st.openList start)
      [.opening (if start.isSome then "ol" else "ul") ("class" :: Container.numberNames start)]
      st.heading.isSome st.memory := by
  unfold State.openList
  refine ⟨⟨_, ?_, rfl⟩, rfl, rfl⟩
  cases start with
  | none =>
    exact .of_tokens [.opening "ul" [⟨"class", some "livingstyleguide--unordered-list"⟩],
      .char '\n'] (by decide) (by decide)
  | some n =>
    by_cases hn : n = 1
    · subst hn
      exact .of_tokens [.opening "ol" [⟨"class", some "livingstyleguide--ordered-list"⟩],
        .char '\n'] (by decide) (by decide)
    · simp only [Container.numberNames, if_neg hn]
      refine .of_tokens [.opening "ol" [⟨"class", some "livingstyleguide--ordered-list"⟩,
        ⟨"start", some (toString n)⟩], .char '\n'] ?_ ?_
      · have hnames : IsName "ol" ∧ IsName "class" ∧ IsName "start" := by decide
        simpa [Token.Named] using hnames
      · simp [write, Token.write, Attribute.write, ListKind.element, ListKind.word,
          escapeChars_toDigits]
        rfl

/-- The tag before what a container holds. -/
theorem emits_start {c : Container} {name : String} {attributes : List String}
    (h : c.element? = some (name, attributes)) (st : State S) :
    Emits st (st.start c.tag)
      (shown (st.heading.isSome && c.isInline) [.opening name attributes])
      st.heading.isSome st.memory := by
  cases c with
  | span s =>
    cases h
    rw [Container.isInline, Bool.and_true]
    exact (inserts_start_span s st).emits
  | list start =>
    cases h
    exact Emits.outside (c := .list start) (emits_openList st start) rfl
  | blockQuote =>
    cases h
    exact (Emits.write st (.of_tokens [.opening "blockquote"
      [⟨"class", some "livingstyleguide--quote"⟩], .char '\n'] (by decide) (by decide))).outside rfl
  | item =>
    cases h
    refine (Emits.write st ?_).outside rfl
    cases st.lists.headD .unordered with
    | ordered =>
      exact .of_tokens [.opening "li" [⟨"class", some "livingstyleguide--ordered-list-item"⟩]]
        (by decide) (by decide)
    | unordered =>
      exact .of_tokens [.opening "li" [⟨"class", some "livingstyleguide--unordered-list-item"⟩]]
        (by decide) (by decide)
  | definitionList =>
    cases h
    exact (Emits.write st (.of_tokens [.opening "dl" [], .char '\n']
      (by decide) (by decide))).outside rfl
  | definitionTitle =>
    cases h
    exact (Emits.write st (.of_tokens [.opening "dt" []] (by decide) (by decide))).outside rfl
  | definition =>
    cases h
    exact (Emits.write st (.of_tokens [.opening "dd" []] (by decide) (by decide))).outside rfl
  | footnoteDefinition => cases h
  | htmlBlock => cases h
  | metadata => cases h

/-- The tag behind what a container holds. -/
theorem emits_stop {c : Container} {name : String} {attributes : List String}
    (h : c.element? = some (name, attributes)) (st : State S) :
    Emits st (st.stop settings c.tag.toEnd)
      (shown (st.heading.isSome && c.isInline) [.closing name])
      st.heading.isSome st.memory := by
  cases c with
  | span s =>
    cases h
    rw [Container.isInline, Bool.and_true]
    exact (inserts_stop_span s st).emits
  | list start =>
    refine Emits.outside (c := .list start) ⟨⟨_, ?_, rfl⟩, rfl, rfl⟩ rfl
    cases start with
    | none =>
      cases h
      exact .of_tokens [.closing "ul", .char '\n'] (by decide) (by decide)
    | some n =>
      cases h
      have hclosing : Tagged "</ol>\n" [.closing "ol"] :=
        .of_tokens [.closing "ol", .char '\n'] (by decide) (by decide)
      exact hclosing
  | blockQuote =>
    cases h
    exact (Emits.write st (.of_tokens [.closing "blockquote", .char '\n']
      (by decide) (by decide))).outside rfl
  | item =>
    cases h
    exact (Emits.write st (.of_tokens [.closing "li", .char '\n']
      (by decide) (by decide))).outside rfl
  | definitionList =>
    cases h
    exact (Emits.write st (.of_tokens [.closing "dl", .char '\n']
      (by decide) (by decide))).outside rfl
  | definitionTitle =>
    cases h
    exact (Emits.write st (.of_tokens [.closing "dt", .char '\n']
      (by decide) (by decide))).outside rfl
  | definition =>
    cases h
    exact (Emits.write st (.of_tokens [.closing "dd", .char '\n']
      (by decide) (by decide))).outside rfl
  | footnoteDefinition => cases h
  | htmlBlock => cases h
  | metadata => cases h

/-- A container without an element leaves no trace. -/
theorem start_stop_of_none {c : Container} (h : c.element? = none) (st : State S) :
    st.start c.tag = st ∧ st.stop settings c.tag.toEnd = st := by
  cases c with
  | footnoteDefinition => exact ⟨rfl, rfl⟩
  | htmlBlock => exact ⟨rfl, rfl⟩
  | metadata => exact ⟨rfl, rfl⟩
  | _ => cases h

/-! ## Tables -/

def alignmentAttributes : Option ColumnAlignment → List Attribute
  | some .left => [⟨"style", some "text-align:left"⟩]
  | some .center => [⟨"style", some "text-align:center"⟩]
  | some .right => [⟨"style", some "text-align:right"⟩]
  | some .none => []
  | none => []

theorem alignmentAttributes_named (alignment : Option ColumnAlignment) :
    (alignmentAttributes alignment).map (·.name) = alignmentNames alignment ∧
      ∀ a ∈ alignmentAttributes alignment, IsName a.name := by
  match alignment with
  | none | some .none | some .left | some .center | some .right => decide

theorem toList_cellStyle (st : State S) :
    st.cellStyle.toList =
      (alignmentAttributes st.table.columns[st.table.cell]?).flatMap Attribute.write := by
  unfold State.cellStyle
  match st.table.columns[st.table.cell]? with
  | none | some .none | some .left | some .center | some .right => decide

theorem isName_cellElement (st : State S) : IsName st.cellElement := by
  unfold State.cellElement
  split <;> decide

theorem emits_startCell (st : State S) :
    Emits st (st.start .tableCell)
      [.opening st.cellElement (alignmentNames st.table.columns[st.table.cell]?)]
      st.heading.isSome st.memory := by
  obtain ⟨hnames, hnamed⟩ := alignmentAttributes_named st.table.columns[st.table.cell]?
  rw [← hnames]
  refine .write st (.opening st.cellElement _ (isName_cellElement st) hnamed ?_)
  simp [Token.write, toList_cellStyle]

theorem emits_stopCell (st : State S) :
    Emits st (st.stop settings .tableCell) [.closing st.cellElement] st.heading.isSome
      st.memory := by
  refine ⟨⟨_, .of_tokens [.closing st.cellElement]
    (List.forall_mem_singleton.mpr (isName_cellElement st)) ?_, rfl⟩, rfl, rfl⟩
  simp [write, Token.write]

/-- A cell takes the next column. -/
theorem emits_cell (st : State S) (cell : List Inline) :
    Emits st (st.run settings (cellEvents cell))
        (element st.cellElement (alignmentNames st.table.columns[st.table.cell]?)
          (shown st.heading.isSome (Inline.allOutline cell)))
        st.heading.isSome st.memory ∧
      (st.run settings (cellEvents cell)).table =
        { st.table with cell := st.table.cell + 1 } := by
  unfold cellEvents
  rw [run_around]
  have hinner := Inline.inserts_all settings cell (st.start .tableCell)
  -- The closing tag is chosen by the table as it is then, which is the table before the cell.
  have htable : ((st.start .tableCell).run settings (Inline.allEvents cell)).table = st.table :=
    hinner.table
  have hlast := emits_stopCell settings
    ((st.start .tableCell).run settings (Inline.allEvents cell))
  constructor
  · apply (emits_startCell st).enclose hinner.emits
    unfold State.cellElement at hlast ⊢
    rwa [htable] at hlast
  · unfold Tag.toEnd State.stop State.write
    dsimp only
    rw [htable]

theorem emits_cells (st : State S) (cells : List (List Inline)) :
    Emits st (st.run settings (cells.flatMap cellEvents))
        (cellsOutline st.cellElement st.table.columns st.heading.isSome st.table.cell cells)
        st.heading.isSome st.memory ∧
      (st.run settings (cells.flatMap cellEvents)).table =
        { st.table with cell := st.table.cell + cells.length } := by
  induction cells generalizing st with
  | nil => exact ⟨.silent st, rfl⟩
  | cons cell cells ih =>
    obtain ⟨hcell, htable⟩ := emits_cell settings st cell
    obtain ⟨hcells, htable'⟩ := ih (st.run settings (cellEvents cell))
    unfold State.cellElement at hcells
    rw [htable, hcell.isOpen] at hcells
    rw [htable] at htable'
    rw [List.flatMap_cons, run_append, cellsOutline]
    constructor
    · exact hcell.trans ⟨hcells.written, hcells.isOpen, hcells.memory.trans hcell.memory⟩
    · rw [htable', List.length_cons, Nat.add_assoc, Nat.add_comm 1]

/-- A row of the body starts in the first column. -/
theorem emits_row {st : State S} (hbody : st.table.inHead = false) (cells : List (List Inline)) :
    Emits st (st.run settings (around .tableRow (cells.flatMap cellEvents)))
        (element "tr" [] (cellsOutline "td" st.table.columns st.heading.isSome 0 cells))
        st.heading.isSome st.memory ∧
      (st.run settings (around .tableRow (cells.flatMap cellEvents))).table =
        { st.table with cell := cells.length } := by
  obtain ⟨hcells, htable⟩ := emits_cells settings (st.start .tableRow) cells
  rw [run_around]
  constructor
  · have hfirst : Emits st (st.start .tableRow) [.opening "tr" []] st.heading.isSome st.memory :=
      ⟨⟨_, .of_tokens [.opening "tr" []] (by decide) (by decide), rfl⟩, rfl, rfl⟩
    have helement : (st.start .tableRow).cellElement = "td" := by
      unfold State.cellElement
      exact if_neg (Bool.eq_false_iff.mp hbody)
    rw [helement] at hcells
    exact hfirst.enclose hcells
      (.write _ (.of_tokens [.closing "tr", .char '\n'] (by decide) (by decide)))
  · exact htable.trans (congrArg (fun n ↦ { st.table with cell := n }) (Nat.zero_add _))

theorem emits_rows {st : State S} (hbody : st.table.inHead = false)
    (rows : List (List (List Inline))) :
    Emits st
      (st.run settings (rows.flatMap fun cells ↦ around .tableRow (cells.flatMap cellEvents)))
      (rows.flatMap fun cells ↦
        element "tr" [] (cellsOutline "td" st.table.columns st.heading.isSome 0 cells))
      st.heading.isSome st.memory := by
  induction rows generalizing st with
  | nil => exact .silent st
  | cons cells rows ih =>
    obtain ⟨hrow, htable⟩ := emits_row settings hbody cells
    have hbody' : (st.run settings (around .tableRow (cells.flatMap cellEvents))).table.inHead =
        false := by
      rw [htable]
      exact hbody
    have hrows := ih hbody'
    rw [htable, hrow.isOpen] at hrows
    rw [List.flatMap_cons, run_append, List.flatMap_cons]
    exact hrow.trans ⟨hrows.written, hrows.isOpen, hrows.memory.trans hrow.memory⟩

/-- The head of a table also opens its body. -/
theorem emits_head (st : State S) (head : List (List Inline)) :
    Emits st (st.run settings (around .tableHead (head.flatMap cellEvents)))
        ([.opening "thead" [], .opening "tr" []] ++
          cellsOutline "th" st.table.columns st.heading.isSome 0 head ++
          [.closing "tr", .closing "thead", .opening "tbody" []])
        st.heading.isSome st.memory ∧
      (st.run settings (around .tableHead (head.flatMap cellEvents))).table =
        { st.table with inHead := false, cell := 0 } := by
  obtain ⟨hcells, htable⟩ := emits_cells settings (st.start .tableHead) head
  have hfirst : Emits st (st.start .tableHead) [.opening "thead" [], .opening "tr" []]
      st.heading.isSome st.memory :=
    ⟨⟨_, .of_tokens [.opening "thead" [], .char '\n', .opening "tr" []] (by decide) (by decide),
      rfl⟩, rfl, rfl⟩
  have hlast (st : State S) : Emits st (st.stop settings .tableHead)
      [.closing "tr", .closing "thead", .opening "tbody" []] st.heading.isSome st.memory :=
    ⟨⟨_, .of_tokens [.closing "tr", .char '\n', .closing "thead", .char '\n', .opening "tbody" [],
      .char '\n'] (by decide) (by decide), rfl⟩, rfl, rfl⟩
  have helement : (st.start .tableHead).cellElement = "th" := rfl
  rw [helement] at hcells
  rw [run_around]
  constructor
  · have hall := (hfirst.trans hcells).trans (hlast _)
    exact ⟨hall.written, hall.isOpen.trans hcells.isOpen, hall.memory.trans hcells.memory⟩
  · exact congrArg (fun table : TableState ↦ { table with inHead := false, cell := 0 }) htable

theorem emits_table (st : State S) (columns : List ColumnAlignment) (head : List (List Inline))
    (rows : List (List (List Inline))) :
    Emits st (st.run settings (Block.table columns head rows).events)
      ((Block.table columns head rows).outline st.heading.isSome) st.heading.isSome st.memory := by
  have hfirst : Emits st (st.start (.table columns)) [.opening "table" ["class"]]
      st.heading.isSome st.memory :=
    ⟨⟨_, .of_tokens [.opening "table" [⟨"class", some "livingstyleguide--table"⟩], .char '\n']
      (by decide) (by decide), rfl⟩, rfl, rfl⟩
  have hlast (st : State S) : Emits st (st.stop settings .table)
      [.closing "tbody", .closing "table"] st.heading.isSome st.memory :=
    .write st (.of_tokens [.closing "tbody", .char '\n', .closing "table", .char '\n']
      (by decide) (by decide))
  obtain ⟨hhead, htable⟩ := emits_head settings (st.start (.table columns)) head
  have hrows := emits_rows settings (by rw [htable]) rows
  rw [htable, hhead.isOpen] at hrows
  rw [Block.events, run_around, run_append]
  have hall := ((hfirst.trans hhead).trans hrows).trans (hlast _)
  refine ⟨?_, hall.isOpen.trans hrows.isOpen,
    (hall.memory.trans hrows.memory).trans hhead.memory⟩
  have hcolumns : (st.start (.table columns)).table.columns = columns := rfl
  have hheading : (st.start (.table columns)).heading = st.heading := rfl
  have hwritten := hall.written
  rw [hcolumns, hheading] at hwritten
  simpa [Block.outline, element, Tag.toEnd] using hwritten

/-! ## Headings -/

/-- The anchor of a heading is written as it is. -/
theorem isSpecial_anchor (st : State S) (text : String) :
    ∀ c ∈ (st.anchor (Slug.slug text)).toList, isSpecial c = false := by
  unfold State.anchor
  split
  · exact Slug.isSpecial_slug text
  · rw [String.toList_append, String.toList_append]
    have hdash : ∀ c ∈ "-".toList, isSpecial c = false := List.forall_mem_singleton.mpr (by decide)
    exact List.forall_mem_append.mpr ⟨List.forall_mem_append.mpr ⟨Slug.isSpecial_slug text, hdash⟩,
      fun c hc ↦ isSpecial_of_isDigit (isDigit_of_mem_toString hc)⟩

theorem isName_heading (level : Nat) : IsName ("h" ++ toString level) := by
  refine ⟨fun hempty ↦ ?_, fun c hc ↦ ?_⟩
  · have hfirst := congrArg (fun s : String ↦ s.toList.head?) hempty
    simp at hfirst
  · rw [String.toList_append] at hc
    rcases List.mem_append.mp hc with hletter | hdigit
    · rw [List.mem_singleton.mp hletter]
      decide
    · rw [isNameChar, isDigit_of_mem_toString hdigit, Bool.or_true]

theorem tagged_headingElement (level : Nat) {id : String}
    (hid : ∀ c ∈ id.toList, isSpecial c = false) (h : Tagged html ms) :
    Tagged (State.headingElement level id html)
      (element ("h" ++ toString level) ["class", "id"] ms) := by
  have hopening (word : String) (hword : word ∈ ["headline", "sub-headline"]) :
      Tagged ("<h" ++ toString level ++ " class=\"livingstyleguide--" ++ word ++ "\" id=\"" ++ id ++
        "\">") [.opening ("h" ++ toString level) ["class", "id"]] := by
    refine .opening ("h" ++ toString level)
      [⟨"class", some ("livingstyleguide--" ++ word)⟩, ⟨"id", some id⟩] (isName_heading level)
      (List.forall_mem_cons.mpr ⟨(by decide : IsName "class"),
        List.forall_mem_singleton.mpr (by decide : IsName "id")⟩) ?_
    have hplain : ∀ word ∈ ["headline", "sub-headline"],
        Markup.escapeChars ("livingstyleguide--" ++ word).toList =
          ("livingstyleguide--" ++ word).toList := by decide
    simp only [Token.write, Attribute.write, List.flatMap_cons, List.flatMap_nil,
      hplain word hword, Markup.escapeChars_of_plain hid]
    simp
  have hclosing : Tagged ("</h" ++ toString level ++ ">\n")
      [.closing ("h" ++ toString level)] := by
    refine .of_tokens [.closing ("h" ++ toString level), .char '\n']
      (List.forall_mem_cons.mpr ⟨isName_heading level, List.forall_mem_singleton.mpr trivial⟩) ?_
    simp [write, Token.write]
    decide
  unfold State.headingElement
  have hword : (if level = 1 then "headline" else "sub-headline") ∈
      ["headline", "sub-headline"] := by
    split <;> decide
  have hall : Tagged _ (element ("h" ++ toString level) ["class", "id"] ms) :=
    (hopening _ hword).append (h.trimmed.append hclosing)
  simpa only [String.append_assoc] using hall

theorem emits_endHeading {h : OpenHeading} (hopen : st.heading = some h)
    (hhtml : Tagged h.html ms) :
    Emits st st.endHeading (element ("h" ++ toString h.level) ["class", "id"] ms) false
      st.memory := by
  unfold State.endHeading
  rw [hopen]
  exact ⟨⟨_, tagged_headingElement h.level (isSpecial_anchor st h.text) hhtml, rfl⟩, rfl, rfl⟩

/-- What a heading holds is written at its end, together with its tags. -/
theorem emits_heading (st : State S) (level : Nat) (inner : List Inline) :
    Emits st (st.run settings (Block.heading level inner).events)
      ((Block.heading level inner).outline st.heading.isSome) false st.memory := by
  have hinner := Inline.inserts_all settings inner (st.start (.heading level))
  rw [Block.events, run_around, Block.outline]
  cases hinner.inserted with
  | page closed => cases closed
  | heading h h' isOpen still hlevel written kept =>
    cases isOpen
    obtain ⟨html, hhtml, hwritten⟩ := written
    have hhtml' : Tagged h'.html (Inline.allOutline inner) := by
      rw [hwritten, String.empty_append]
      exact hhtml
    have hend := emits_endHeading still hhtml'
    rw [hlevel] at hend
    obtain ⟨html', hhtml', hwritten'⟩ := hend.written
    rw [kept] at hwritten'
    exact ⟨⟨html', hhtml', hwritten'⟩, hend.isOpen, hend.memory.trans hinner.memory⟩

/-! ## Blocks of code -/

/-- What the processors remember of a block of code that none of them answers for. -/
def declined (memory : S) (code : Option String × String) : Option S :=
  match firstAnswer (code.1.getD settings.defaultLanguage) code.2 settings.processors memory with
  | (none, memory') => some memory'
  | (some _, _) => none

def codeTokens (language source : String) : List Token :=
  .opening "pre" [⟨"class", some "livingstyleguide--code-block"⟩] ::
    .opening "code" [⟨"class", some ("livingstyleguide--code language-" ++ language)⟩] ::
      (chars source ++ [.closing "code", .closing "pre", .char '\n'])

/-- The source of a block is read back as it is. -/
theorem spelled_sourceBlock (language source : String) :
    Spelled (sourceBlock language source) (codeTokens language source) := by
  have hopening : Spelled ("<pre class=\"livingstyleguide--code-block\"><code " ++
      "class=\"livingstyleguide--code language-" ++ Markup.escape language ++ "\">")
      [.opening "pre" [⟨"class", some "livingstyleguide--code-block"⟩],
        .opening "code" [⟨"class", some ("livingstyleguide--code language-" ++ language)⟩]] := by
    constructor
    · have hnames : (IsName "pre" ∧ IsName "class") ∧ IsName "code" ∧ IsName "class" := by decide
      simpa [Token.Named] using hnames
    · simp [write, Token.write, Attribute.write, Markup.escape]
      rfl
  have hclosing : Spelled "</code></pre>\n" [.closing "code", .closing "pre", .char '\n'] :=
    ⟨by decide, by decide⟩
  exact (hopening.append (.escape source)).append hclosing

theorem tagged_sourceBlock (language source : String) :
    Tagged (sourceBlock language source)
      (element "pre" ["class"] (element "code" ["class"] [])) := by
  have houtline : outline (chars source ++ [.closing "code", .closing "pre", .char '\n']) =
      [.closing "code", .closing "pre"] := by
    rw [outline_append, outline_chars]
    rfl
  have htagged := (spelled_sourceBlock language source).tagged
  rwa [codeTokens, outline, List.filterMap_cons, List.filterMap_cons, ← outline, houtline]
    at htagged

/-- A block of code collects its texts. -/
theorem run_texts {st : State S} (h : st.code.active = true) (texts : List String) :
    st.run settings (texts.map .text) =
      { st with code := { st.code with source := st.code.source ++ String.join texts } } := by
  induction texts generalizing st with
  | nil =>
    rw [String.join_nil, String.append_empty]
    rfl
  | cons text texts ih =>
    have htext := State.text_of_code h text
    rw [List.map_cons, State.run, List.foldl_cons]
    change (st.text text).run settings (texts.map .text) = _
    rw [ih (by rw [htext]; exact h), htext, String.join_cons, String.append_assoc]

theorem emits_endCode (st : State S)
    (h : declined settings st.memory (st.code.language, st.code.source) = some memory) :
    Emits st (st.endCode settings) (element "pre" ["class"] (element "code" ["class"] []))
      st.heading.isSome memory := by
  unfold declined at h
  split at h
  · next memory' hanswer =>
    cases h
    unfold State.endCode
    dsimp only at hanswer ⊢
    rw [hanswer]
    exact ⟨⟨_, tagged_sourceBlock _ _, rfl⟩, rfl, rfl⟩
  · cases h

theorem emits_codeBlock {info : Option String} {texts : List String}
    (h : declined settings st.memory (info.bind fenceLanguage, String.join texts) =
      some memory) :
    Emits st (st.run settings (Block.codeBlock info texts).events)
      ((Block.codeBlock info texts).outline st.heading.isSome) st.heading.isSome memory := by
  rw [Block.events, run_around, run_texts settings rfl, Block.outline]
  rw [← String.empty_append (s := String.join texts)] at h
  have hend := emits_endCode settings { st with
    code := ⟨true, info.bind fenceLanguage, "" ++ String.join texts⟩ } h
  exact ⟨hend.written, hend.isOpen, hend.memory⟩

end StyleGuide.Render
