import StyleGuide.Proofs.Render.CodeBlocks
import StyleGuide.Proofs.Render.Titles

/-!
# Heading elements of a call

What a call writes is cut into pieces, each of which is the element of a heading or belongs to one
other event. The renderer opens no heading in its own markup for other events; what it has been
given as markup it hands on as it is. So the elements of headings are told apart from the rest, and
they are the entries of the contents, one for one and in the same order.
-/

namespace StyleGuide.Render

open Text

/-! ## Pieces of a page -/

def OpensNoHeading (text : String) : Prop :=
  ∀ front c rest, text.toList = front ++ '<' :: 'h' :: c :: rest → c.isDigit = false

/-- A part of a page that is no heading: markup of the renderer, or what it was given. -/
inductive Scrap where
  | own (text : String)
  | given (text : String)

def Scrap.text : Scrap → String
  | own text => text
  | given text => text

/-- A part of a page. -/
inductive Piece where
  | scrap (s : Scrap)
  /-- The element of a heading with what stands in it. -/
  | heading (level : Nat) (id : String) (inside : List Scrap)

def textOf (scraps : List Scrap) : String :=
  String.join (scraps.map Scrap.text)

def headingOpening (word : String) (level : Nat) (id : String) : String :=
  "<h" ++ toString level ++ " class=\"livingstyleguide--" ++ word ++ "\" id=\"" ++ id ++ "\">"

namespace Piece

def text : Piece → String
  | scrap s => s.text
  | heading level id inside =>
    headingOpening (if level = 1 then "headline" else "sub-headline") level id ++
      State.trimmed (textOf inside) ++ "</h" ++ toString level ++ ">\n"

def mark? : Piece → Option (Nat × String)
  | scrap _ => none
  | heading level id _ => some (level, id)

end Piece

variable {S : Type} (settings : Settings S)

/-- Where a part of a page comes from that is no heading. -/
inductive ComesFrom : Event → Scrap → Prop
  | own {e text} (opens : OpensNoHeading text) : ComesFrom e (.own text)
  | html (text : String) : ComesFrom (.html text) (.given text)
  | inlineHtml (text : String) : ComesFrom (.inlineHtml text) (.given text)
  | answer {p : Processor S} {language source text memory} (mem : p ∈ settings.processors)
      (answered : (p.process language source memory).1 = some text) :
      ComesFrom (.stop .codeBlock) (.given text)

def Event.isHeading : Event → Bool
  | .start (.heading _) => true
  | .stop .heading => true
  | _ => false

abbrev Opened := Option (Nat × List Scrap)

/-- How events are laid out on a page, from one open heading to another. A heading that starts takes
the place of the one that is open; the end of a heading is its element, if one is open; every other
event adds to the page or to the open heading. -/
inductive Laid : Opened → List Event → List Piece → Opened → Prop
  | nil {o} : Laid o [] [] o
  | starts {o level es pieces o'} (rest : Laid (some (level, [])) es pieces o') :
      Laid o (.start (.heading level) :: es) pieces o'
  | ends {level inside id es pieces o'} (rest : Laid none es pieces o') :
      Laid (some (level, inside)) (.stop .heading :: es) (.heading level id inside :: pieces) o'
  | unopened {es pieces o'} (rest : Laid none es pieces o') :
      Laid none (.stop .heading :: es) pieces o'
  | page {o e s es pieces o'} (other : e.isHeading = false) (source : ComesFrom settings e s)
      (rest : Laid o es pieces o') : Laid o (e :: es) (.scrap s :: pieces) o'
  | inside {level inside e s es pieces o'} (other : e.isHeading = false)
      (source : ComesFrom settings e s) (rest : Laid (some (level, inside ++ [s])) es pieces o') :
      Laid (some (level, inside)) (e :: es) pieces o'

/-! ## Markup without headings -/

/-- What stands behind a `<` opens something, and this is no heading. -/
def opensOther : List Char → Bool
  | first :: second :: _ => !(first == 'h' && second.isDigit)
  | _ => false

/-- Every `<` in a text opens something that is no heading. -/
def isUnheaded : List Char → Bool
  | [] => true
  | c :: rest => (c != '<' || opensOther rest) && isUnheaded rest

theorem opensOther_append {cs : List Char} (h : opensOther cs = true) (more : List Char) :
    opensOther (cs ++ more) = true := by
  rcases cs with _ | ⟨first, _ | ⟨second, cs⟩⟩
  · cases h
  · cases h
  · exact h

theorem isUnheaded_append {cs more : List Char} (h : isUnheaded cs = true)
    (hmore : isUnheaded more = true) : isUnheaded (cs ++ more) = true := by
  induction cs with
  | nil => exact hmore
  | cons c cs ih =>
    rw [isUnheaded, Bool.and_eq_true, Bool.or_eq_true] at h
    rw [List.cons_append, isUnheaded, Bool.and_eq_true, Bool.or_eq_true]
    exact ⟨h.1.imp_right fun hopens ↦ opensOther_append hopens more, ih h.2⟩

theorem isUnheaded_of_not_mem {cs : List Char} (h : '<' ∉ cs) : isUnheaded cs = true := by
  induction cs with
  | nil => rfl
  | cons c cs ih =>
    rw [List.mem_cons, not_or] at h
    rw [isUnheaded, ih h.2, bne_iff_ne.mpr (Ne.symm h.1)]
    rfl

theorem isUnheaded_of_append {cs more : List Char} (h : isUnheaded (cs ++ more) = true) :
    isUnheaded more = true := by
  induction cs with
  | nil => exact h
  | cons c cs ih =>
    rw [List.cons_append, isUnheaded, Bool.and_eq_true] at h
    exact ih h.2

/-- Markup of which any amount can be put together without opening a heading. -/
def Unheaded (text : String) : Prop :=
  isUnheaded text.toList = true

instance : DecidablePred Unheaded :=
  fun _ ↦ inferInstanceAs (Decidable (_ = true))

namespace Unheaded

theorem append {a b : String} (ha : Unheaded a) (hb : Unheaded b) : Unheaded (a ++ b) := by
  rw [Unheaded, String.toList_append]
  exact isUnheaded_append ha hb

theorem opensNoHeading {text : String} (h : Unheaded text) : OpensNoHeading text := by
  rintro front c rest htext
  rw [Unheaded, htext] at h
  have hopens := isUnheaded_of_append h
  rw [isUnheaded, Bool.and_eq_true, Bool.or_eq_true] at hopens
  simpa [opensOther] using hopens.1

theorem escape (s : String) : Unheaded (Markup.escape s) := by
  refine isUnheaded_of_not_mem fun hmem ↦ ?_
  rw [Markup.escape, String.toList_ofList, Markup.escapeChars, List.mem_flatMap] at hmem
  obtain ⟨c, -, hc⟩ := hmem
  unfold Markup.escapeChar at hc
  split at hc
  case h_6 hamp hlt hgt hquot hapos => exact hlt (List.mem_singleton.mp hc).symm
  all_goals exact absurd hc (by decide)

/-- Text between two pieces of markup. -/
theorem around {before after : String} (hbefore : Unheaded before) (hafter : Unheaded after)
    (s : String) : Unheaded (before ++ Markup.escape s ++ after) :=
  (hbefore.append (escape s)).append hafter

theorem toString (n : Nat) : Unheaded (toString n) := by
  refine isUnheaded_of_not_mem fun hmem ↦ ?_
  rw [Nat.toString_eq_ofList_toDigits, String.toList_ofList] at hmem
  exact absurd (Nat.isDigit_of_mem_toDigits (by decide) (by decide) hmem) (by decide)

end Unheaded

/-! ## What an event writes -/

variable {settings} {st st' mid : State S} {e : Event} {s : Scrap}

namespace State

/-- The level and the markup of the open heading. -/
def collected (st : State S) : Option (Nat × String) :=
  st.heading.map fun h ↦ (h.level, h.html)

/-- The same page, with the same heading open. -/
structure Stays (st st' : State S) : Prop where
  output : st'.output = st.output
  toc : st'.toc = st.toc
  collected : st'.collected = st.collected

/-- A part of the page is added to the page, or to the open heading. -/
inductive Writes (st st' : State S) (s : Scrap) : Prop
  | page (output : st'.output = st.output ++ s.text) (toc : st'.toc = st.toc)
      (collected : st'.collected = st.collected)
  | inside {level : Nat} {html : String} (output : st'.output = st.output) (toc : st'.toc = st.toc)
      (isOpen : st.collected = some (level, html))
      (collected : st'.collected = some (level, html ++ s.text))

theorem Stays.writes (h : Stays st mid) (hwrites : Writes mid st' s) : Writes st st' s := by
  cases hwrites with
  | page output toc collected =>
    exact .page (h.output ▸ output) (toc.trans h.toc) (collected.trans h.collected)
  | inside output toc isOpen collected =>
    exact .inside (output.trans h.output) (toc.trans h.toc) (h.collected ▸ isOpen) collected

def WritesOwn (st st' : State S) : Prop :=
  ∃ text, Unheaded text ∧ Writes st st' (.own text)

theorem Stays.writesOwn (h : Stays st st') : WritesOwn st st' := by
  refine ⟨"", by decide +kernel, .page ?_ h.toc h.collected⟩
  rw [h.output]
  exact String.append_empty.symm

theorem writes_write (st : State S) (s : Scrap) : Writes st (st.write s.text) s :=
  .page rfl rfl rfl

theorem writes_writeInline (st : State S) (s : Scrap) : Writes st (st.writeInline s.text) s := by
  unfold writeInline
  cases hopen : st.heading with
  | none => exact writes_write st s
  | some h => exact .inside rfl rfl (by rw [collected, hopen]; rfl) rfl

theorem stays_addTitle (st : State S) (text : String) : Stays st (st.addTitle text) := by
  unfold addTitle
  cases hopen : st.heading with
  | none => exact ⟨rfl, rfl, rfl⟩
  | some h => exact ⟨rfl, rfl, by rw [collected, collected, hopen]; rfl⟩

section Own

variable {html : String} (h : Unheaded html)
include h

theorem writesOwn_write (stays : Stays st mid) : WritesOwn st (mid.write html) :=
  ⟨html, h, stays.writes (writes_write mid (.own html))⟩

theorem writesOwn_writeInline (stays : Stays st mid) : WritesOwn st (mid.writeInline html) :=
  ⟨html, h, stays.writes (writes_writeInline mid (.own html))⟩

end Own

theorem writesOwn_text (st : State S) (s : String) : WritesOwn st (st.text s) := by
  unfold text
  split
  · exact Stays.writesOwn ⟨rfl, rfl, rfl⟩
  · split
    · exact Stays.writesOwn ⟨rfl, rfl, rfl⟩
    · exact writesOwn_writeInline (.escape s) (stays_addTitle st s)

theorem unheaded_titleAttribute (title : String) : Unheaded (titleAttribute title) := by
  unfold titleAttribute
  split
  · decide +kernel
  · exact .around (by decide +kernel) (by decide +kernel) title

theorem writesOwn_openList (st : State S) (first : Option Nat) :
    WritesOwn st (st.openList first) := by
  have hkind (kind : ListKind) : Unheaded
      ("<" ++ kind.element ++ " class=\"livingstyleguide--" ++ kind.word ++ "-list\"") := by
    cases kind <;> decide +kernel
  unfold openList
  refine writesOwn_write (.append (.append (hkind _) ?_) (by decide +kernel)) ⟨rfl, rfl, rfl⟩
  · cases first with
    | none => decide +kernel
    | some n =>
      dsimp only
      split
      · decide +kernel
      · exact .append (.append (by decide +kernel) (.toString n)) (by decide +kernel)

theorem unheaded_item (kind : ListKind) :
    Unheaded ("<li class=\"livingstyleguide--" ++ kind.word ++ "-list-item\">") := by
  cases kind <;> decide +kernel

theorem unheaded_cell (st : State S) :
    Unheaded ("<" ++ st.cellElement ++ st.cellStyle ++ ">") ∧
      Unheaded ("</" ++ st.cellElement ++ ">") := by
  unfold cellElement cellStyle
  constructor
  · split <;> split <;> decide +kernel
  · split <;> decide +kernel

/-- Whatever starts that is no heading, its markup opens none. -/
theorem writesOwn_start (st : State S) {tag : Tag} (h : (Event.start tag).isHeading = false) :
    WritesOwn st (st.start tag) := by
  have stays : Stays st st := ⟨rfl, rfl, rfl⟩
  cases tag with
  | heading => cases h
  | codeBlock => exact Stays.writesOwn ⟨rfl, rfl, rfl⟩
  | image => exact Stays.writesOwn ⟨rfl, rfl, rfl⟩
  | htmlBlock => exact stays.writesOwn
  | footnoteDefinition => exact stays.writesOwn
  | metadata => exact stays.writesOwn
  | list first => exact writesOwn_openList st first
  | item => exact writesOwn_write (unheaded_item _) stays
  | tableCell => exact writesOwn_write (unheaded_cell st).1 stays
  | emphasis => exact writesOwn_writeInline (by decide +kernel) stays
  | strong => exact writesOwn_writeInline (by decide +kernel) stays
  | strikethrough => exact writesOwn_writeInline (by decide +kernel) stays
  | superscript => exact writesOwn_writeInline (by decide +kernel) stays
  | subscript => exact writesOwn_writeInline (by decide +kernel) stays
  | link url title =>
    have hurl : Unheaded ("<a href=\"" ++ Markup.escape url ++ "\"") :=
      .around (by decide +kernel) (by decide +kernel) url
    have htag : Unheaded
        ("<a href=\"" ++ Markup.escape url ++ "\"" ++ titleAttribute title ++ ">") :=
      (hurl.append (unheaded_titleAttribute title)).append (by decide +kernel)
    exact writesOwn_writeInline htag stays
  | _ => exact writesOwn_write (by decide +kernel) ⟨rfl, rfl, rfl⟩

theorem writesOwn_endImage (st : State S) : WritesOwn st st.endImage := by
  unfold endImage
  split
  · exact Stays.writesOwn ⟨rfl, rfl, rfl⟩
  · next i _ =>
    have hsource : Unheaded ("<img src=\"" ++ Markup.escape i.url ++ "\" alt=\"") :=
      .around (by decide +kernel) (by decide +kernel) i.url
    have halt : Unheaded ("<img src=\"" ++ Markup.escape i.url ++ "\" alt=\"" ++
        Markup.escape i.alt ++ "\"") :=
      hsource.around (by decide +kernel) i.alt
    have htag : Unheaded ("<img src=\"" ++ Markup.escape i.url ++ "\" alt=\"" ++
        Markup.escape i.alt ++ "\"" ++ titleAttribute i.title ++ ">") :=
      (halt.append (unheaded_titleAttribute i.title)).append (by decide +kernel)
    exact writesOwn_writeInline htag ⟨rfl, rfl, rfl⟩

/-- A block of code is the answer of a processor, or markup that shows its source. -/
theorem writes_endCode (st : State S) :
    ∃ s, ComesFrom settings (.stop .codeBlock) s ∧ Writes st (st.endCode settings) s := by
  have hshown := shownAs_firstAnswer settings.processors
    (st.code.language.getD settings.defaultLanguage) st.code.source st.memory
  have hend : st.endCode settings =
      { st with
        code := ⟨false, none, ""⟩
        memory := (firstAnswer (st.code.language.getD settings.defaultLanguage) st.code.source
          settings.processors st.memory).2 }.write
        ((firstAnswer (st.code.language.getD settings.defaultLanguage) st.code.source
          settings.processors st.memory).1.getD
            (sourceBlock (st.code.language.getD settings.defaultLanguage) st.code.source)) := rfl
  rw [hend]
  generalize (firstAnswer _ _ _ _).2 = memory at hshown ⊢
  generalize (firstAnswer _ _ _ _).1.getD _ = html at hshown ⊢
  have stays : Stays st { st with code := ⟨false, none, ""⟩, memory := memory } := ⟨rfl, rfl, rfl⟩
  cases hshown with
  | answer order _ answers =>
    refine ⟨.given html, .answer (order ▸ by simp) (congrArg Prod.fst answers), ?_⟩
    exact stays.writes (writes_write _ (.given html))
  | source =>
    have hown : Unheaded
        (sourceBlock (st.code.language.getD settings.defaultLanguage) st.code.source) := by
      unfold sourceBlock
      exact .around (.around (by decide +kernel) (by decide +kernel) _) (by decide +kernel) _
    exact ⟨.own _, .own hown.opensNoHeading, stays.writes (writes_write _ (.own _))⟩

theorem writesOwn_stop (st : State S) {tag : EndTag} (heading : tag ≠ .heading)
    (code : tag ≠ .codeBlock) : WritesOwn st (st.stop settings tag) := by
  have stays : Stays st st := ⟨rfl, rfl, rfl⟩
  cases tag with
  | heading => exact absurd rfl heading
  | codeBlock => exact absurd rfl code
  | image => exact writesOwn_endImage st
  | htmlBlock => exact stays.writesOwn
  | footnoteDefinition => exact stays.writesOwn
  | metadata => exact stays.writesOwn
  | list ordered => exact writesOwn_write (by split <;> decide +kernel) ⟨rfl, rfl, rfl⟩
  | tableHead =>
    have hbehind : Stays st { st with table := { st.table with inHead := false, cell := 0 } } :=
      ⟨rfl, rfl, rfl⟩
    have hrow : Unheaded "</tr>\n</thead>\n<tbody>\n" := by decide +kernel
    exact writesOwn_write hrow hbehind
  | tableCell =>
    have hbehind : Stays st { st with table := { st.table with cell := st.table.cell + 1 } } :=
      ⟨rfl, rfl, rfl⟩
    exact writesOwn_write (unheaded_cell st).2 hbehind
  | emphasis => exact writesOwn_writeInline (by decide +kernel) stays
  | strong => exact writesOwn_writeInline (by decide +kernel) stays
  | strikethrough => exact writesOwn_writeInline (by decide +kernel) stays
  | superscript => exact writesOwn_writeInline (by decide +kernel) stays
  | subscript => exact writesOwn_writeInline (by decide +kernel) stays
  | link => exact writesOwn_writeInline (by decide +kernel) stays
  | _ => exact writesOwn_write (by decide +kernel) stays

variable (settings) in
/-- What an event writes that starts and ends no heading. -/
theorem writes_step (st : State S) {e : Event} (h : e.isHeading = false) :
    ∃ s, ComesFrom settings e s ∧ Writes st (st.step settings e) s := by
  have own {st' : State S} (hown : WritesOwn st st') : ∃ s, ComesFrom settings e s ∧
      Writes st st' s := by
    obtain ⟨text, hunheaded, hwrites⟩ := hown
    exact ⟨.own text, .own hunheaded.opensNoHeading, hwrites⟩
  have stays : Stays st st := ⟨rfl, rfl, rfl⟩
  cases e with
  | start tag => exact own (writesOwn_start st h)
  | stop tag =>
    by_cases hcode : tag = .codeBlock
    · subst hcode
      exact writes_endCode st
    · refine own (writesOwn_stop st ?_ hcode)
      rintro rfl
      cases h
  | text s => exact own (writesOwn_text st s)
  | softBreak => exact own (writesOwn_text st _)
  | code s =>
    refine own (writesOwn_writeInline ?_ (stays_addTitle st s))
    exact .around (by decide +kernel) (by decide +kernel) s
  | html s => exact ⟨.given s, .html s, writes_writeInline st (.given s)⟩
  | inlineHtml s => exact ⟨.given s, .inlineHtml s, writes_writeInline st (.given s)⟩
  | hardBreak => exact own (writesOwn_writeInline (by decide +kernel) stays)
  | rule => exact own (writesOwn_write (by decide +kernel) stays)
  | taskMarker checked =>
    exact own (writesOwn_writeInline (by cases checked <;> decide +kernel) stays)
  | inlineMath => exact own stays.writesOwn
  | displayMath => exact own stays.writesOwn
  | footnoteReference => exact own stays.writesOwn

end State

/-! ## What a run writes -/

/-- What is known of the heading that is open is what a renderer keeps of it. -/
def State.Keeping (st : State S) (o : Opened) : Prop :=
  st.collected = o.map fun opened ↦ (opened.1, textOf opened.2)

theorem textOf_append (inside : List Scrap) (s : Scrap) :
    textOf (inside ++ [s]) = textOf inside ++ s.text := by
  rw [textOf, List.map_append, String.join_append, textOf, List.map_singleton, String.join_cons,
    String.join_nil, String.append_empty]

section

variable {o o' o'' : Opened} {es es' : List Event} {pieces pieces' : List Piece}

theorem Laid.append (h : Laid settings o es pieces o') (h' : Laid settings o' es' pieces' o'') :
    Laid settings o (es ++ es') (pieces ++ pieces') o'' := by
  induction h with
  | nil => exact h'
  | starts _ ih => exact .starts (ih h')
  | ends _ ih => exact .ends (ih h')
  | unopened _ ih => exact .unopened (ih h')
  | page other source _ ih => exact .page other source (ih h')
  | inside other source _ ih => exact .inside other source (ih h')

/-- Between two states events have been laid out: their pieces are what is new on the page, and the
headings among them are what is new in the contents. -/
structure LaysOut (settings : Settings S) (o : Opened) (st st' : State S) (es : List Event)
    (pieces : List Piece) (o' : Opened) : Prop where
  laid : Laid settings o es pieces o'
  keeping : st'.Keeping o'
  output : st'.output = st.output ++ String.join (pieces.map Piece.text)
  toc : ∃ entries, st'.toc = st.toc ++ entries ∧
    entries.map (fun entry ↦ (entry.level, entry.id)) = pieces.filterMap Piece.mark?

namespace LaysOut

theorem trans (h : LaysOut settings o st mid es pieces o')
    (h' : LaysOut settings o' mid st' es' pieces' o'') :
    LaysOut settings o st st' (es ++ es') (pieces ++ pieces') o'' := by
  obtain ⟨entries, htoc, hentries⟩ := h.toc
  obtain ⟨entries', htoc', hentries'⟩ := h'.toc
  refine ⟨h.laid.append h'.laid, h'.keeping, ?_, entries ++ entries', ?_, ?_⟩
  · rw [h'.output, h.output, List.map_append, String.join_append, String.append_assoc]
  · rw [htoc', htoc, List.append_assoc]
  · rw [List.map_append, hentries, hentries', List.filterMap_append]

/-- Events of which nothing is new on the page or in the contents. -/
theorem of_nothing (laid : Laid settings o es [] o') (keeping : st'.Keeping o')
    (output : st'.output = st.output) (toc : st'.toc = st.toc) :
    LaysOut settings o st st' es [] o' := by
  refine ⟨laid, keeping, ?_, [], ?_, rfl⟩
  · rw [output, List.map_nil, String.join_nil, String.append_empty]
  · rw [toc, List.append_nil]

/-- The end of a heading is its element and its entry, if one is open. -/
theorem exists_stop (keeping : st.Keeping o) :
    ∃ pieces, LaysOut settings o st (st.step settings (.stop .heading)) [.stop .heading] pieces
      none := by
  rw [State.Keeping, State.collected] at keeping
  change ∃ pieces, LaysOut settings o st st.endHeading _ pieces none
  cases hopen : st.heading with
  | none =>
    rw [hopen] at keeping
    obtain rfl : o = none := Option.map_eq_none_iff.mp keeping.symm
    have hend : st.endHeading = st := by rw [State.endHeading, hopen]
    rw [hend]
    refine ⟨[], .of_nothing (.unopened .nil) ?_ rfl rfl⟩
    rw [State.Keeping, State.collected, hopen]
    rfl
  | some h =>
    rw [hopen] at keeping
    obtain ⟨⟨level, inside⟩, rfl, hkept⟩ := Option.map_eq_some_iff.mp keeping.symm
    obtain ⟨rfl, hinside⟩ := Prod.mk.inj hkept
    obtain ⟨htoc, houtput⟩ := page_endHeading hopen
    refine ⟨[.heading h.level (st.anchor (Slug.slug h.text)) inside], .ends .nil, ?_, ?_, _, htoc,
      rfl⟩
    · rw [State.Keeping, State.collected, State.endHeading, hopen]
      rfl
    · rw [List.map_singleton, String.join_cons, String.join_nil, String.append_empty, Piece.text,
        hinside]
      exact houtput

/-- Every other event adds to the page or to the open heading. -/
theorem exists_other (keeping : st.Keeping o) {e : Event} (other : e.isHeading = false) :
    ∃ pieces o', LaysOut settings o st (st.step settings e) [e] pieces o' := by
  obtain ⟨s, source, hwrites⟩ := State.writes_step settings st other
  cases hwrites with
  | page output toc collected =>
    refine ⟨[.scrap s], o, .page other source .nil, collected.trans keeping, ?_, [], ?_, rfl⟩
    · rw [output, List.map_singleton, String.join_cons, String.join_nil, String.append_empty]
      rfl
    · rw [toc, List.append_nil]
  | inside output toc isOpen collected =>
    obtain ⟨⟨level, inside⟩, rfl, hkept⟩ := Option.map_eq_some_iff.mp (keeping.symm.trans isOpen)
    obtain ⟨rfl, rfl⟩ := Prod.mk.inj hkept
    refine ⟨[], _, .of_nothing (.inside other source .nil) ?_ output toc⟩
    rw [State.Keeping, collected, Option.map_some, textOf_append]

variable (settings) in
theorem exists_step (keeping : st.Keeping o) (e : Event) :
    ∃ pieces o', LaysOut settings o st (st.step settings e) [e] pieces o' := by
  by_cases heading : e.isHeading = true
  · unfold Event.isHeading at heading
    split at heading
    · exact ⟨[], _, .of_nothing (.starts .nil) rfl rfl rfl⟩
    · exact (exists_stop keeping).imp fun pieces h ↦ ⟨none, h⟩
    · cases heading
  · exact exists_other keeping (Bool.eq_false_iff.mpr heading)

variable (settings) in
theorem exists_run (keeping : st.Keeping o) (es : List Event) :
    ∃ pieces o', LaysOut settings o st (st.run settings es) es pieces o' := by
  induction es generalizing st o with
  | nil => exact ⟨[], o, .of_nothing .nil keeping rfl rfl⟩
  | cons e es ih =>
    obtain ⟨first, o', hfirst⟩ := exists_step settings keeping e
    obtain ⟨rest, o'', hrest⟩ := ih hfirst.keeping
    exact ⟨first ++ rest, o'', hfirst.trans hrest⟩

end LaysOut

end

/-! ## Calls -/

def State.opened (st : State S) : Opened :=
  st.heading.map fun h ↦ (h.level, [.given h.html])

theorem State.keeping_opened (st : State S) : st.Keeping st.opened := by
  have htext (html : String) : textOf [.given html] = html := by
    rw [textOf, List.map_singleton, String.join_cons, String.join_nil, String.append_empty]
    rfl
  rw [Keeping, collected, opened, Option.map_map]
  cases st.heading with
  | none => rfl
  | some h => exact congrArg (fun html ↦ some (h.level, html)) (htext h.html).symm

namespace Piece

variable (level : Nat) (id : String) (inside : List Scrap)

/-- The element of a heading opens one. -/
theorem not_opensNoHeading : ¬ OpensNoHeading (heading level id inside).text := by
  intro hopens
  have hdigits : (toString level).toList = Nat.toDigits 10 level := by
    rw [Nat.toString_eq_ofList_toDigits, String.toList_ofList]
  obtain ⟨d, ds, hd⟩ := List.exists_cons_of_ne_nil (Nat.toDigits_ne_nil (n := level) (b := 10))
  have hdigit : d.isDigit = true :=
    Nat.isDigit_of_mem_toDigits (by decide) (by decide) (hd ▸ List.mem_cons_self)
  have htext : ∃ more, (heading level id inside).text.toList = '<' :: 'h' :: d :: more := by
    simp only [text, headingOpening, String.toList_append, hdigits, hd]
    exact ⟨_, rfl⟩
  obtain ⟨more, hmore⟩ := htext
  cases hdigit.symm.trans (hopens [] d more hmore)

/-- Only headings of the first level have the class of a headline. -/
theorem isPrefix_headline_iff :
    (headingOpening "headline" level id).toList <+: (heading level id inside).text.toList ↔
      level = 1 := by
  constructor
  · intro hprefix
    by_contra hlevel
    simp only [text, if_neg hlevel, headingOpening, String.toList_append, List.append_assoc,
      List.prefix_append_right_inj] at hprefix
    obtain ⟨more, hmore⟩ := hprefix
    cases congrArg List.head? hmore
  · rintro rfl
    rw [text, if_pos rfl]
    simp only [String.toList_append, List.append_assoc]
    exact List.prefix_append _ _

end Piece

/-- A call lays out its events, and the entries of its contents are the headings among the pieces,
with their levels and anchors. The element of a heading is told apart from everything else that the
renderer writes, and it has the class of a headline exactly on the first level. -/
theorem contents_of_call (settings : Settings S) (st : State S) (es : List Event) :
    (∃ pieces o', Laid settings st.opened es pieces o' ∧
      (render settings st es).2.Keeping o' ∧
      (render settings st es).1.html = st.output ++ String.join (pieces.map Piece.text) ∧
      ∃ entries, (render settings st es).1.toc = st.toc ++ entries ∧
        entries.map (fun entry ↦ (entry.level, entry.id)) = pieces.filterMap Piece.mark?) ∧
    ∀ level id inside, ¬ OpensNoHeading (Piece.heading level id inside).text ∧
      ((headingOpening "headline" level id).toList <+:
        (Piece.heading level id inside).text.toList ↔ level = 1) := by
  obtain ⟨pieces, o', h⟩ := LaysOut.exists_run settings st.keeping_opened es
  exact ⟨⟨pieces, o', h.laid, h.keeping, h.output, h.toc⟩, fun level id inside ↦
    ⟨Piece.not_opensNoHeading level id inside, Piece.isPrefix_headline_iff level id inside⟩⟩

end StyleGuide.Render
