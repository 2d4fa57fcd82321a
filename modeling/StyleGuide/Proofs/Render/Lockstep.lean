import StyleGuide.Proofs.Render.Documents
import StyleGuide.Proofs.Render.Streaming

/-!
# One renderer, many documents

A renderer that has rendered well-formed documents differs from a new one only in its counts of
slugs, in its last table, and in what its processors remember. The last table is out of sight: only
cells look at a table, and they stand behind the start of one. Processors whose answers do not
depend on what they remember cannot tell, either. What is left are the counts, and of these a
document sees only the slugs of its own headings.
-/

namespace StyleGuide.Render

variable {S : Type}

/-! ## Events that look at a table -/

def Event.looksAtTable : Event → Bool
  | .start .tableCell => true
  | .stop .tableCell => true
  | _ => false

/-- Nothing looks at a table before the start of one. -/
inductive Sheltered : List Event → Prop
  | nil : Sheltered []
  | table (columns : List ColumnAlignment) (es : List Event) :
      Sheltered (.start (.table columns) :: es)
  | cons {e : Event} {es : List Event} (unseen : e.looksAtTable = false) (rest : Sheltered es) :
      Sheltered (e :: es)

namespace Sheltered

variable {es es' inner : List Event}

theorem append (h : Sheltered es) (h' : Sheltered es') : Sheltered (es ++ es') := by
  induction h with
  | nil => exact h'
  | table columns es => exact .table columns _
  | cons unseen _ ih => exact .cons unseen ih

theorem around {tag : Tag} (h : Sheltered inner) (start : (Event.start tag).looksAtTable = false)
    (stop : (Event.stop tag.toEnd).looksAtTable = false) : Sheltered (around tag inner) :=
  .cons start (h.append (.cons stop .nil))

theorem of_line (h : Line es) : Sheltered es := by
  induction h with
  | nil => exact .nil
  | @atom e es isAtom _ ih =>
    have hunseen : e.looksAtTable = false := by
      cases e with
      | start tag => cases isAtom
      | stop tag => cases isAtom
      | _ => rfl
    exact .cons hunseen ih
  | span s _ _ ihinner ih =>
    exact (ihinner.around (by cases s <;> rfl) (by cases s <;> rfl)).append ih
  | image url title _ _ ihinner ih => exact (ihinner.around rfl rfl).append ih

theorem of_document (h : Document es) : Sheltered es := by
  induction h with
  | nil => exact .nil
  | line content _ ih => exact (of_line content).append ih
  | rule _ ih => exact .cons rfl ih
  | paragraph content _ ih => exact ((of_line content).around rfl rfl).append ih
  | heading level content _ ih => exact ((of_line content).around rfl rfl).append ih
  | codeBlock info texts _ ih =>
    have htexts : Sheltered (texts.map Event.text) := by
      induction texts with
      | nil => exact .nil
      | cons s texts ih => exact .cons rfl ih
    exact (htexts.around rfl rfl).append ih
  | table columns => exact .table columns _
  | container c _ _ ihinner ih =>
    have hunseen : (Event.start c.tag).looksAtTable = false ∧
        (Event.stop c.tag.toEnd).looksAtTable = false := by
      cases c with
      | span s => cases s <;> exact ⟨rfl, rfl⟩
      | _ => exact ⟨rfl, rfl⟩
    exact (ihinner.around hunseen.1 hunseen.2).append ih

end Sheltered

/-! ## Processors -/

/-- What a processor answers does not depend on what it remembers. -/
def Stateless (settings : Settings S) : Prop :=
  ∀ p ∈ settings.processors, ∀ (language source : String) (memory memory' : S),
    (p.process language source memory).1 = (p.process language source memory').1

theorem firstAnswer_eq {processors : List (Processor S)} {language source : String}
    (h : ∀ p ∈ processors, ∀ memory memory' : S,
      (p.process language source memory).1 = (p.process language source memory').1)
    (memory memory' : S) :
    (firstAnswer language source processors memory).1 =
      (firstAnswer language source processors memory').1 := by
  induction processors generalizing memory memory' with
  | nil => rfl
  | cons p ps ih =>
    rw [List.forall_mem_cons] at h
    have hfirst := h.1 memory memory'
    rw [firstAnswer, firstAnswer]
    cases hanswer : p.process language source memory with
    | mk answer next =>
      cases hanswer' : p.process language source memory' with
      | mk answer' next' =>
        rw [hanswer, hanswer'] at hfirst
        obtain rfl : answer = answer' := hfirst
        cases answer with
        | none => exact ih h.2 next next'
        | some html => rfl

/-! ## Two renderers -/

namespace State

variable {settings : Settings S} {st st' : State S} {seated : Prop} {named : String → Prop}

/-- Two states that agree in everything but what processors remember, in their tables only if
`seated`, and in the counts of some slugs only. -/
structure Alike (seated : Prop) (named : String → Prop) (st st' : State S) : Prop where
  output : st.output = st'.output
  lists : st.lists = st'.lists
  code : st.code = st'.code
  table : seated → st.table = st'.table
  heading : st.heading = st'.heading
  image : st.image = st'.image
  counts : ∀ s, named s → st.counts.count s = st'.counts.count s
  toc : st.toc = st'.toc

namespace Alike

/-- The start of a table makes tables agree. -/
theorem setTable (h : Alike seated named st st') (table : TableState) :
    Alike True named { st with table := table } { st' with table := table } :=
  { h with table := fun _ ↦ rfl }

theorem updateTable (h : Alike seated named st st') (f : TableState → TableState) :
    Alike seated named { st with table := f st.table } { st' with table := f st'.table } :=
  { h with table := fun hseated ↦ congrArg f (h.table hseated) }

theorem updateLists (h : Alike seated named st st') (f : List ListKind → List ListKind) :
    Alike seated named { st with lists := f st.lists } { st' with lists := f st'.lists } :=
  { h with lists := congrArg f h.lists }

theorem weaken (h : Alike seated named st st') : Alike False named st st' :=
  { h with table := False.elim }

theorem write (h : Alike seated named st st') (html : String) :
    Alike seated named (st.write html) (st'.write html) :=
  { h with output := congrArg (· ++ html) h.output }

theorem writeInline (h : Alike seated named st st') (html : String) :
    Alike seated named (st.writeInline html) (st'.writeInline html) := by
  unfold State.writeInline
  rw [h.heading]
  cases st'.heading with
  | none => exact h.write html
  | some heading => exact { h with heading := rfl }

theorem addTitle (h : Alike seated named st st') (text : String) :
    Alike seated named (st.addTitle text) (st'.addTitle text) := by
  unfold State.addTitle
  rw [h.heading]
  cases st'.heading with
  | none => exact h
  | some heading => exact { h with heading := rfl }

theorem text (h : Alike seated named st st') (s : String) :
    Alike seated named (st.text s) (st'.text s) := by
  unfold State.text
  rw [h.code, h.image]
  split
  · exact { h with code := rfl, image := rfl }
  · cases st'.image with
    | none => exact (h.addTitle s).writeInline _
    | some i => exact { h with code := rfl, image := rfl }

theorem start (h : Alike seated named st st') (tag : Tag)
    (hseated : (Event.start tag).looksAtTable = true → seated) :
    Alike seated named (st.start tag) (st'.start tag) := by
  cases tag with
  | heading level => exact { h with heading := rfl }
  | codeBlock info => exact { h with code := rfl }
  | image url title => exact { h with image := rfl }
  | htmlBlock => exact h
  | footnoteDefinition => exact h
  | metadata => exact h
  | emphasis => exact h.writeInline _
  | strong => exact h.writeInline _
  | strikethrough => exact h.writeInline _
  | superscript => exact h.writeInline _
  | subscript => exact h.writeInline _
  | link url title => exact h.writeInline _
  | list first =>
    exact (h.updateLists ((if first.isSome then .ordered else .unordered) :: ·)).write _
  | item =>
    unfold State.start
    rw [h.lists]
    exact h.write _
  | table columns => exact (h.updateTable fun _ ↦ ⟨false, columns, 0⟩).write _
  | tableHead => exact (h.updateTable fun table ↦ { table with inHead := true, cell := 0 }).write _
  | tableRow => exact (h.updateTable fun table ↦ { table with cell := 0 }).write _
  | tableCell =>
    unfold State.start cellElement cellStyle
    rw [h.table (hseated rfl)]
    exact h.write _
  | _ => exact h.write _

/-- The heading gets the same anchor if the counts of its slug agree. -/
theorem endHeading (h : Alike seated named st st')
    (hnamed : ∀ heading, st.heading = some heading → named heading.slug) :
    Alike seated named st.endHeading st'.endHeading := by
  unfold State.endHeading
  rw [← h.heading]
  cases hopen : st.heading with
  | none => exact h
  | some heading =>
    have hcount : st.counts.count heading.slug = st'.counts.count heading.slug :=
      h.counts _ (hnamed heading hopen)
    have hanchor : st.anchor heading.slug = st'.anchor heading.slug := by
      rw [anchor_eq_numbered, anchor_eq_numbered, hcount]
    have hcounts (s : String) (hs : named s) : (st.counts.increment heading.slug).count s =
        (st'.counts.increment heading.slug).count s := by
      rw [SlugCounts.count_increment, SlugCounts.count_increment, h.counts s hs]
    unfold OpenHeading.slug at hanchor hcounts
    dsimp only
    rw [hanchor]
    apply Alike.write
    exact { h with heading := rfl, counts := hcounts, toc := congrArg (· ++ _) h.toc }

theorem endImage (h : Alike seated named st st') :
    Alike seated named st.endImage st'.endImage := by
  unfold State.endImage
  rw [h.image]
  cases st'.image with
  | none => exact h
  | some i =>
    have hclosed : Alike seated named { st with image := none } { st' with image := none } :=
      { h with image := rfl }
    exact hclosed.writeInline _

/-- What processors remember does not tell the two apart. -/
theorem endCode (h : Alike seated named st st') (stateless : Stateless settings) :
    Alike seated named (st.endCode settings) (st'.endCode settings) := by
  have hanswer := firstAnswer_eq
    (fun p hp ↦ stateless p hp (st'.code.language.getD settings.defaultLanguage) st'.code.source)
    st.memory st'.memory
  unfold State.endCode
  rw [h.code]
  dsimp only
  rw [hanswer]
  apply Alike.write
  exact { h with code := rfl }

theorem stop (h : Alike seated named st st') (stateless : Stateless settings) (tag : EndTag)
    (hnamed : ∀ heading ∈ st.ended (.stop tag), named heading.slug)
    (hseated : (Event.stop tag).looksAtTable = true → seated) :
    Alike seated named (st.stop settings tag) (st'.stop settings tag) := by
  cases tag with
  | heading => exact h.endHeading hnamed
  | codeBlock => exact h.endCode stateless
  | image => exact h.endImage
  | htmlBlock => exact h
  | footnoteDefinition => exact h
  | metadata => exact h
  | emphasis => exact h.writeInline _
  | strong => exact h.writeInline _
  | strikethrough => exact h.writeInline _
  | superscript => exact h.writeInline _
  | subscript => exact h.writeInline _
  | link => exact h.writeInline _
  | list ordered => exact (h.updateLists (List.drop 1)).write _
  | tableHead =>
    exact (h.write _).updateTable fun table ↦ { table with inHead := false, cell := 0 }
  | tableCell =>
    unfold State.stop cellElement
    rw [h.table (hseated rfl)]
    exact (h.write _).updateTable fun table ↦ { table with cell := table.cell + 1 }
  | _ => exact h.write _

/-- No event tells two renderers apart that agree in what it looks at. -/
theorem step (h : Alike seated named st st') (stateless : Stateless settings) (e : Event)
    (hnamed : ∀ heading ∈ st.ended e, named heading.slug)
    (hseated : e.looksAtTable = true → seated) :
    Alike seated named (st.step settings e) (st'.step settings e) := by
  cases e with
  | start tag => exact h.start tag hseated
  | stop tag => exact h.stop stateless tag hnamed hseated
  | text s => exact h.text s
  | softBreak => exact h.text _
  | code s => exact (h.addTitle s).writeInline _
  | rule => exact h.write _
  | inlineMath s => exact h
  | displayMath s => exact h
  | footnoteReference s => exact h
  | _ => exact h.writeInline _

/-- Neither does a run of events, if the tables agree or nothing looks at the last one. -/
theorem run (h : Alike seated named st st') (stateless : Stateless settings) {es : List Event}
    (hes : seated ∨ Sheltered es)
    (hnamed : ∀ heading ∈ st.finished settings es, named heading.slug) :
    Alike False named (st.run settings es) (st'.run settings es) := by
  induction es generalizing st st' seated with
  | nil => exact h.weaken
  | cons e es ih =>
    rw [finished, List.forall_mem_append] at hnamed
    simp only [Option.mem_toList] at hnamed
    rcases hes with hseated | hes
    · exact ih (h.step stateless e hnamed.1 fun _ ↦ hseated) (.inl hseated) hnamed.2
    · cases hes with
      | table columns =>
        exact ih ((h.setTable ⟨false, columns, 0⟩).write _) (.inl trivial) hnamed.2
      | cons unseen rest =>
        have hunseen : e.looksAtTable = true → seated :=
          fun hlooks ↦ (nomatch unseen.symm.trans hlooks)
        exact ih (h.step stateless e hnamed.1 hunseen) (.inr rest) hnamed.2

end Alike

end State

/-! ## Documents one after another -/

variable {settings : Settings S} {st st' : State S}

/-- A renderer in which nothing is open and nothing waits to be handed out. -/
structure Idle (st : State S) : Prop where
  lists : st.lists = []
  code : st.code = State.noCode
  heading : st.heading = none
  image : st.image = none
  output : st.output = ""
  toc : st.toc = []

theorem idle_initial (memory : S) : Idle (State.initial memory) :=
  ⟨rfl, rfl, rfl, rfl, rfl, rfl⟩

theorem Idle.render (h : Idle st) {es : List Event} (hes : Document es) :
    Idle (render settings st es).2 := by
  have hclosed : st.Closes (st.run settings es) := State.closed_document hes st
  exact ⟨hclosed.lists.trans h.lists, hclosed.code h.code, hclosed.heading h.heading,
    hclosed.image h.image, rfl, rfl⟩

theorem Idle.carried (h : Idle st) {calls : List (List Event)}
    (hcalls : ∀ es ∈ calls, Document es) : Idle (carried settings st calls) := by
  induction calls generalizing st with
  | nil => exact h
  | cons es calls ih =>
    rw [List.forall_mem_cons] at hcalls
    exact ih (h.render hcalls.1) hcalls.2

/-- Calls count the slugs of the headings they finish. -/
theorem tally_carried {before : List String} (tally : st.counts.Tally before)
    (calls : List (List Event)) :
    (carried settings st calls).counts.Tally
      (before ++ (headings settings st calls).flatten.map OpenHeading.slug) := by
  induction calls generalizing st before with
  | nil =>
    rw [headings, List.flatten_nil, List.map_nil, List.append_nil]
    exact tally
  | cons es calls ih =>
    have hrun : (render settings st es).2.counts.Tally
        (before ++ (st.finished settings es).map OpenHeading.slug) :=
      (State.finishes_run tally es).tally
    rw [headings, List.flatten_cons, List.map_append, ← List.append_assoc]
    exact ih hrun

theorem State.Alike.render_eq {seated : Prop} {named : String → Prop}
    (h : st.Alike seated named st') (stateless : Stateless settings) {es : List Event}
    (hes : Document es) (hnamed : ∀ heading ∈ st.finished settings es, named heading.slug) :
    (render settings st es).1 = (render settings st' es).1 := by
  have hrun := h.run stateless (.inr (.of_document hes)) hnamed
  unfold render
  dsimp only
  rw [hrun.output, hrun.toc]

/-- A renderer that is idle is a new one with other counts, as far as a document can see. -/
theorem Idle.alike (h : Idle st) (memory : S) {counts : SlugCounts} {named : String → Prop}
    (hcounts : ∀ s, named s → counts.count s = st.counts.count s) :
    State.Alike False named { State.initial memory with counts := counts } st where
  output := h.output.symm
  lists := h.lists.symm
  code := h.code.symm
  table := False.elim
  heading := h.heading.symm
  image := h.image.symm
  counts := hcounts
  toc := h.toc.symm

/-- A renderer renders a well-formed document after others as a new renderer does that starts with
the counts of slugs they have left, and as any new renderer if no heading of the document has a slug
of theirs. Nothing is left open behind it. -/
theorem render_after_documents (stateless : Stateless settings) (memory : S)
    {before : List (List Event)} (hbefore : ∀ es ∈ before, Document es) {es : List Event}
    (hes : Document es) :
    Idle (render settings (carried settings (.initial memory) before) es).2 ∧
    (render settings (carried settings (.initial memory) before) es).1 =
      (render settings { State.initial memory with
        counts := (carried settings (.initial memory) before).counts } es).1 ∧
    ((∀ h ∈ (headings settings (.initial memory) before).flatten,
        ∀ h' ∈ (State.initial memory).finished settings es, h.slug ≠ h'.slug) →
      (render settings (carried settings (.initial memory) before) es).1 =
        (render settings (.initial memory) es).1) := by
  have hidle : Idle (carried settings (State.initial memory) before) :=
    (idle_initial memory).carried hbefore
  refine ⟨hidle.render hes, ?_, ?_⟩
  · have halike : State.Alike False (fun _ ↦ True) { State.initial memory with
        counts := (carried settings (State.initial memory) before).counts } _ :=
      hidle.alike memory fun s _ ↦ rfl
    exact (halike.render_eq stateless hes fun _ _ ↦ trivial).symm
  · intro hslugs
    have htally : (State.initial memory).counts.Tally [] := fun s ↦ rfl
    have hcounts (s : String)
        (hs : ∃ h' ∈ (State.initial memory).finished settings es, h'.slug = s) :
        (State.initial memory).counts.count s =
          (carried settings (State.initial memory) before).counts.count s := by
      obtain ⟨h', hmem, rfl⟩ := hs
      rw [htally, tally_carried htally before, List.nil_append]
      apply Eq.symm
      apply List.count_eq_zero_of_not_mem
      intro hslug
      obtain ⟨h, hh, heq⟩ := List.mem_map.mp hslug
      exact hslugs h hh h' hmem heq
    have halike := hidle.alike memory hcounts
    exact (halike.render_eq stateless hes fun h' hmem ↦ ⟨h', hmem, rfl⟩).symm

def tablePage : List Event :=
  Block.allEvents [.heading 1 [.atom (.text "a")],
    .table [.left, .right] [[.atom (.text "x")], []] [[[], [.atom (.code "y")]]],
    .container (.list (some 2)) [.container .item []]]

/-- A page that begins with raw HTML and has a table without alignment. -/
def rawPage : List Event :=
  .html "<i>" :: Block.allEvents [.heading 2 [.atom (.text "b")],
    .table [] [[.atom (.text "x")]] [], .codeBlock none ["z"]]

theorem render_rawPage :
    Stateless (⟨[.example], "css"⟩ : Settings Unit) ∧ Document tablePage ∧ Document rawPage ∧
    (render (⟨[.example], "css"⟩ : Settings Unit)
        (carried ⟨[.example], "css"⟩ (.initial ()) [tablePage]) rawPage).1 =
      (render ⟨[.example], "css"⟩ (.initial ()) rawPage).1 := by
  have hstateless : Stateless (⟨[.example], "css"⟩ : Settings Unit) := by
    intro p hp language source memory memory'
    rfl
  have htable : Document tablePage := Block.document_allEvents _
  have hraw : Document rawPage := by
    have hhtml : Line [.html "<i>"] := .atom rfl .nil
    exact .line hhtml (Block.document_allEvents [_, _, _])
  refine ⟨hstateless, htable, hraw, ?_⟩
  exact (render_after_documents hstateless () (List.forall_mem_singleton.mpr htable) hraw).2.2
    (by decide +kernel)

end StyleGuide.Render
