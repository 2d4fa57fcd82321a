import StyleGuide.Proofs.Render.Nesting
import StyleGuide.Proofs.Text.Trimming

/-!
# Titles of headings

A heading is written twice, as markup for the page and as the title for the contents. What is written
to the page only are tags, a hard line break and the box of a task, which are read as blanks. So the
title is what can be read on the page, up to blanks at both ends, unless there are words on both sides
of such a break: they are one word in the title.
-/

namespace StyleGuide.Render

open Text Html

/-! ## Lines -/

/-- A character that can be read on the page. -/
inductive Glyph where
  /-- It is in the title, too. -/
  | titled (c : Char)
  | pageOnly (c : Char)

namespace Glyph

def char : Glyph → Char
  | titled c => c
  | pageOnly c => c

def title? : Glyph → Option Char
  | titled c => some c
  | pageOnly _ => none

end Glyph

def pageText (line : List Glyph) : List Char :=
  line.map Glyph.char

def titleText (line : List Glyph) : List Char :=
  line.filterMap Glyph.title?

/-- No word of the title stands on the one side of a break, or none on the other. -/
def BreaksAtEnds (line : List Glyph) : Prop :=
  ∀ front c back, line = front ++ .pageOnly c :: back →
    (∀ d ∈ titleText front, isBlank d = true) ∨ ∀ d ∈ titleText back, isBlank d = true

def Spaced (line : List Glyph) : Prop :=
  ∀ c, .pageOnly c ∈ line → isBlank c = true

variable {line line' front back : List Glyph} {c : Char}

theorem pageText_append (line line' : List Glyph) :
    pageText (line ++ line') = pageText line ++ pageText line' :=
  List.map_append

theorem titleText_append (line line' : List Glyph) :
    titleText (line ++ line') = titleText line ++ titleText line' :=
  List.filterMap_append

theorem titleText_break (front back : List Glyph) (c : Char) :
    titleText (front ++ .pageOnly c :: back) = titleText front ++ titleText back := by
  rw [titleText_append]
  rfl

theorem titleText_sublist (line : List Glyph) : (titleText line).Sublist (pageText line) := by
  induction line with
  | nil => exact .slnil
  | cons g line ih =>
    cases g with
    | titled c => exact .cons_cons c ih
    | pageOnly c => exact .cons c ih

theorem titleText_eq_pageText (h : ∀ c, .pageOnly c ∉ line) : titleText line = pageText line := by
  induction line with
  | nil => rfl
  | cons g line ih =>
    have htail := ih fun c hc ↦ h c (List.mem_cons_of_mem _ hc)
    cases g with
    | titled c => exact congrArg (c :: ·) htail
    | pageOnly c => exact absurd List.mem_cons_self (h c)

namespace Spaced

theorem append (h : Spaced line) (h' : Spaced line') : Spaced (line ++ line') :=
  fun c hc ↦ (List.mem_append.mp hc).elim (h c) (h' c)

theorem left (h : Spaced (front ++ .pageOnly c :: back)) : Spaced front :=
  fun d hd ↦ h d (List.mem_append_left _ hd)

theorem right (h : Spaced (front ++ .pageOnly c :: back)) : Spaced back :=
  fun d hd ↦ h d (List.mem_append_right _ (List.mem_cons_of_mem _ hd))

theorem isBlank (h : Spaced (front ++ .pageOnly c :: back)) : isBlank c = true :=
  h c (List.mem_append_right _ List.mem_cons_self)

/-- A line without words in the title has none on the page. -/
theorem blank_pageText (h : Spaced line) (hblank : ∀ d ∈ titleText line, Text.isBlank d = true) :
    ∀ d ∈ pageText line, Text.isBlank d = true := by
  intro d hd
  obtain ⟨g, hg, rfl⟩ := List.mem_map.mp hd
  cases g with
  | titled c => exact hblank c (List.mem_filterMap.mpr ⟨.titled c, hg, rfl⟩)
  | pageOnly c => exact h c hg

end Spaced

/-- Words on both sides of a break are one word in the title, and not on the page. -/
theorem trim_pageText_ne (hfront : ∃ d ∈ titleText front, isBlank d = false)
    (hback : ∃ d ∈ titleText back, isBlank d = false) (c : Char) :
    trim (pageText (front ++ .pageOnly c :: back)) ≠
      trim (titleText (front ++ .pageOnly c :: back)) := by
  have hwords {line : List Glyph} (h : ∃ d ∈ titleText line, isBlank d = false) :
      ∃ d ∈ pageText line, isBlank d = false :=
    h.imp fun d hd ↦ ⟨(titleText_sublist line).subset hd.1, hd.2⟩
  have hpage : trim (pageText (front ++ .pageOnly c :: back)) =
      trimStart (pageText front) ++ ([c] ++ trimEnd (pageText back)) := by
    rw [pageText_append]
    exact trim_append (hwords hfront) (hwords hback) [c]
  have htitle : trim (titleText (front ++ .pageOnly c :: back)) =
      trimStart (titleText front) ++ ([] ++ trimEnd (titleText back)) := by
    rw [titleText_break]
    exact trim_append hfront hback []
  have hstart := (sublist_trimStart (titleText_sublist front)).length_le
  have hend := (sublist_trimEnd (titleText_sublist back)).length_le
  intro heq
  have hlength := congrArg List.length (hpage.symm.trans (heq.trans htitle))
  simp only [List.length_append, List.length_nil, List.length_singleton] at hlength
  omega

theorem trim_pageText_of_breaksAtEnds (hspaced : Spaced line) (hends : BreaksAtEnds line) :
    trim (pageText line) = trim (titleText line) := by
  induction hlength : line.length using Nat.strong_induction_on generalizing line with
  | _ n ih =>
    by_cases hbreak : ∃ c, .pageOnly c ∈ line
    · obtain ⟨c, hc⟩ := hbreak
      obtain ⟨front, back, rfl⟩ := List.append_of_mem hc
      rw [List.length_append, List.length_cons] at hlength
      -- The side without words and the break are cut, from the page as from the title.
      rcases hends front c back rfl with hfront | hback
      · have hrest : BreaksAtEnds back := by
          rintro front' d back' rfl
          refine (hends (front ++ .pageOnly c :: front') d back' (by simp)).imp_left fun h e he ↦ ?_
          exact h e (titleText_break front front' c ▸ List.mem_append_right _ he)
        have hpage : ∀ d ∈ pageText (front ++ [.pageOnly c]), isBlank d = true := by
          rw [pageText_append]
          exact List.forall_mem_append.mpr ⟨hspaced.left.blank_pageText hfront,
            List.forall_mem_singleton.mpr hspaced.isBlank⟩
        calc trim (pageText (front ++ .pageOnly c :: back))
          _ = trim (pageText (front ++ [.pageOnly c]) ++ pageText back) := by
            rw [← pageText_append, List.append_assoc, List.singleton_append]
          _ = trim (pageText back) := trim_append_of_blank_left hpage _
          _ = trim (titleText back) := ih back.length (by omega) hspaced.right hrest rfl
          _ = trim (titleText front ++ titleText back) :=
            (trim_append_of_blank_left hfront _).symm
          _ = trim (titleText (front ++ .pageOnly c :: back)) := by rw [titleText_break]
      · have hrest : BreaksAtEnds front := by
          rintro front' d back' rfl
          refine (hends front' d (back' ++ .pageOnly c :: back) (by simp)).imp_right fun h e he ↦ ?_
          exact h e (titleText_break back' back c ▸ List.mem_append_left _ he)
        have hpage : ∀ d ∈ pageText (.pageOnly c :: back), isBlank d = true :=
          List.forall_mem_cons.mpr ⟨hspaced.isBlank, hspaced.right.blank_pageText hback⟩
        calc trim (pageText (front ++ .pageOnly c :: back))
          _ = trim (pageText front ++ pageText (.pageOnly c :: back)) := by rw [pageText_append]
          _ = trim (pageText front) := trim_append_of_blank_right hpage _
          _ = trim (titleText front) := ih front.length (by omega) hspaced.left hrest rfl
          _ = trim (titleText front ++ titleText back) :=
            (trim_append_of_blank_right hback _).symm
          _ = trim (titleText (front ++ .pageOnly c :: back)) := by rw [titleText_break]
    · rw [titleText_eq_pageText fun c hc ↦ hbreak ⟨c, hc⟩]

theorem trim_pageText_eq_iff (hspaced : Spaced line) :
    trim (pageText line) = trim (titleText line) ↔ BreaksAtEnds line := by
  refine ⟨fun heq front c back hline ↦ ?_, trim_pageText_of_breaksAtEnds hspaced⟩
  subst hline
  by_cases hfront : ∀ d ∈ titleText front, isBlank d = true
  · exact .inl hfront
  · by_cases hback : ∀ d ∈ titleText back, isBlank d = true
    · exact .inr hback
    · exact absurd heq (trim_pageText_ne (exists_of_not_blank hfront) (exists_of_not_blank hback) c)

/-! ## Lines of inline content -/

def titled (s : String) : List Glyph :=
  s.toList.map .titled

theorem pageText_titled (s : String) : pageText (titled s) = s.toList := by
  rw [pageText, titled, List.map_map]
  exact List.map_id _

theorem titleText_titled (s : String) : titleText (titled s) = s.toList := by
  rw [titleText, titled, List.filterMap_map]
  exact List.filterMap_some

/-- The line of an atom. Text may be `hidden`, in a block of code or in an image. -/
def Atom.glyphs (hidden : Bool) : Atom → List Glyph
  | text s => if hidden then [] else titled s
  | code s => titled s
  | softBreak => if hidden then [] else titled "\n"
  | hardBreak => [.pageOnly '\n']
  | taskMarker _ => [.pageOnly ' ']
  | inlineMath _ => []
  | displayMath _ => []
  | footnoteReference _ => []

namespace Inline

mutual

/-- The line of inline content, given whether a block of code and whether an image is open. -/
def glyphs (coded pictured : Bool) : Inline → List Glyph
  | atom a => a.glyphs (coded || pictured)
  | span _ inner => allGlyphs coded pictured inner
  | image _ _ inner => allGlyphs coded true inner

/-- The line of several contents. No image is open behind one that has ended. -/
def allGlyphs (coded pictured : Bool) : List Inline → List Glyph
  | [] => []
  | i :: is => i.glyphs coded pictured ++ allGlyphs coded (pictured && !i.hasImage) is

end

end Inline

theorem spaced_titled (s : String) : Spaced (titled s) := by
  intro c hc
  obtain ⟨d, -, hd⟩ := List.mem_map.mp hc
  cases hd

theorem spaced_nil : Spaced [] :=
  fun _ hc ↦ absurd hc List.not_mem_nil

theorem spaced_pageOnly (h : isBlank c = true) : Spaced [.pageOnly c] := by
  intro d hd
  cases List.mem_singleton.mp hd
  exact h

theorem Atom.spaced_glyphs (hidden : Bool) (a : Atom) : Spaced (a.glyphs hidden) := by
  cases a with
  | text s =>
    rw [Atom.glyphs]
    split
    · exact spaced_nil
    · exact spaced_titled s
  | code s => exact spaced_titled s
  | softBreak =>
    rw [Atom.glyphs]
    split
    · exact spaced_nil
    · exact spaced_titled _
  | hardBreak => exact spaced_pageOnly (by decide)
  | taskMarker checked => exact spaced_pageOnly (by decide)
  | _ => exact spaced_nil

namespace Inline

mutual

theorem spaced_glyphs (coded pictured : Bool) : ∀ i : Inline, Spaced (i.glyphs coded pictured)
  | atom a => by
    rw [glyphs]
    exact a.spaced_glyphs _
  | span s inner => by
    rw [glyphs]
    exact spaced_allGlyphs coded pictured inner
  | image url title inner => by
    rw [glyphs]
    exact spaced_allGlyphs coded true inner

theorem spaced_allGlyphs (coded pictured : Bool) :
    ∀ is : List Inline, Spaced (allGlyphs coded pictured is)
  | [] => by
    rw [allGlyphs]
    exact spaced_nil
  | i :: is => by
    rw [allGlyphs]
    exact (spaced_glyphs coded pictured i).append (spaced_allGlyphs coded _ is)

end

end Inline

/-! ## The open heading -/

/-- An open heading gets a line, as its title and as its markup. -/
structure OpenHeading.Gains (h h' : OpenHeading) (line : List Glyph) : Prop where
  level : h'.level = h.level
  title : h'.text.toList = h.text.toList ++ titleText line
  page : ∃ html ts, h'.html = h.html ++ html ∧ Spelled html ts ∧ Html.text ts = pageText line

theorem OpenHeading.Gains.trans {h h' h'' : OpenHeading} (gains : h.Gains h' line)
    (gains' : h'.Gains h'' line') : h.Gains h'' (line ++ line') := by
  obtain ⟨html, ts, hhtml, hspelled, hts⟩ := gains.page
  obtain ⟨html', ts', hhtml', hspelled', hts'⟩ := gains'.page
  refine ⟨gains'.level.trans gains.level, ?_, html ++ html', ts ++ ts', ?_,
    hspelled.append hspelled', ?_⟩
  · rw [gains'.title, gains.title, titleText_append, List.append_assoc]
  · rw [hhtml', hhtml, String.append_assoc]
  · rw [text_append, pageText_append, hts, hts']

variable {S : Type} {settings : Settings S} {st st' st'' : State S}

/-- The open heading gets a line, and the rest of the page is as it was. -/
structure Collects (st st' : State S) (line : List Glyph) : Prop where
  heading : ∀ h, st.heading = some h →
    ∃ h', st'.heading = some h' ∧ h.Gains h' line ∧ st'.output = st.output
  code : st'.code.active = st.code.active
  counts : st'.counts = st.counts
  toc : st'.toc = st.toc

namespace Collects

theorem trans (h : Collects st st' line) (h' : Collects st' st'' line') :
    Collects st st'' (line ++ line') := by
  refine ⟨fun open₁ hopen ↦ ?_, h'.code.trans h.code, h'.counts.trans h.counts,
    h'.toc.trans h.toc⟩
  obtain ⟨open₂, hopen', gains, hkept⟩ := h.heading open₁ hopen
  obtain ⟨open₃, hopen'', gains', hkept'⟩ := h'.heading open₂ hopen'
  exact ⟨open₃, hopen'', gains.trans gains', hkept'.trans hkept⟩

theorem enclose {st₁ st₂ : State S} (first : Collects st st₁ []) (inner : Collects st₁ st₂ line)
    (last : Collects st₂ st' []) : Collects st st' line := by
  have hall := first.trans (inner.trans last)
  rwa [List.nil_append, List.append_nil] at hall

/-- What is written to the heading is read as the line, and added to the title if it belongs there. -/
theorem insert (st : State S) {s html : String} {ts : List Token} (hspelled : Spelled html ts)
    (hpage : Html.text ts = pageText line) (htitle : s.toList = titleText line) :
    Collects st ((st.addTitle s).writeInline html) line := by
  cases hopen : st.heading with
  | none =>
    rw [State.addTitle_of_none hopen, State.writeInline_of_none hopen]
    exact ⟨fun h heq ↦ (Option.some_ne_none h (heq.symm.trans hopen)).elim, rfl, rfl, rfl⟩
  | some open' =>
    have hinserted : (st.addTitle s).writeInline html =
        { st with heading := some ⟨open'.level, open'.text ++ s, open'.html ++ html⟩ } := by
      rw [State.addTitle, hopen]
      rfl
    rw [hinserted]
    refine ⟨fun h heq ↦ ?_, rfl, rfl, rfl⟩
    cases heq.symm.trans hopen
    refine ⟨_, rfl, ⟨rfl, ?_, html, ts, rfl, hspelled, hpage⟩, rfl⟩
    rw [String.toList_append, htitle]

theorem silent (hheading : st'.heading = st.heading) (houtput : st'.output = st.output)
    (hcode : st'.code.active = st.code.active) (hcounts : st'.counts = st.counts)
    (htoc : st'.toc = st.toc) : Collects st st' [] := by
  refine ⟨fun h hopen ↦ ⟨h, hheading.trans hopen, ?_, houtput⟩, hcode, hcounts, htoc⟩
  exact ⟨rfl, (List.append_nil _).symm, "", [], (String.append_empty ..).symm,
    ⟨List.forall_mem_nil _, rfl⟩, rfl⟩

theorem writeInline (st : State S) {html : String} {ts : List Token} (hspelled : Spelled html ts)
    (hpage : Html.text ts = pageText line) (htitle : titleText line = []) :
    Collects st (st.writeInline html) line := by
  have hsame : st.addTitle "" = st := by
    unfold State.addTitle
    cases hopen : st.heading with
    | none => rfl
    | some open' =>
      dsimp only
      rw [String.append_empty, ← hopen]
  have hinsert := insert st (s := "") hspelled hpage htitle.symm
  rwa [hsame] at hinsert

theorem text (st : State S) (s : String) :
    Collects st (st.text s) (if st.code.active || st.image.isSome then [] else titled s) := by
  unfold State.text
  cases hcode : st.code.active with
  | true => exact silent rfl rfl (by simp [hcode]) rfl rfl
  | false =>
    cases himage : st.image with
    | some i => exact silent rfl rfl rfl rfl rfl
    | none =>
      exact insert st (.escape s) ((text_chars s).trans (pageText_titled s).symm)
        (titleText_titled s).symm

end Collects

theorem collects_atom (a : Atom) (st : State S) :
    Collects st (st.step settings a.event) (a.glyphs (st.code.active || st.image.isSome)) := by
  cases a with
  | text s => exact .text st s
  | code s =>
    refine .insert st (spelled_codeSpan s) ?_ (titleText_titled s).symm
    rw [Html.text, List.filterMap_cons, ← Html.text, text_append, text_chars, Atom.glyphs,
      pageText_titled]
    exact List.append_nil _
  | softBreak => exact .text st "\n"
  | hardBreak =>
    have hspelled : Spelled "<br>\n" [.opening "br" [], .char '\n'] := ⟨by decide, by decide⟩
    exact .writeInline st hspelled rfl rfl
  | taskMarker checked => exact .writeInline st (spelled_taskMarker checked) rfl rfl
  | inlineMath s => exact .silent rfl rfl rfl rfl rfl
  | displayMath s => exact .silent rfl rfl rfl rfl rfl
  | footnoteReference s => exact .silent rfl rfl rfl rfl rfl

theorem collects_start_span (s : Span) (st : State S) : Collects st (st.start s.tag) [] := by
  obtain ⟨attributes, hspelled, -⟩ := s.exists_spelled_openingTag
  rw [s.start_eq]
  exact .writeInline st hspelled rfl rfl

theorem collects_stop_span (s : Span) (st : State S) :
    Collects st (st.stop settings s.tag.toEnd) [] := by
  rw [s.stop_eq]
  exact .writeInline st s.spelled_closingTag rfl rfl

theorem collects_endImage (st : State S) : Collects st st.endImage [] := by
  unfold State.endImage
  cases himage : st.image with
  | none => exact .silent rfl rfl rfl rfl rfl
  | some i =>
    have hclosed : Collects st { st with image := none } [] := .silent rfl rfl rfl rfl rfl
    exact hclosed.trans (.writeInline _ (spelled_image i.url i.alt i.title) rfl rfl)

namespace Inline

mutual

theorem collects (settings : Settings S) : ∀ (i : Inline) (st : State S),
    Collects st (st.run settings i.events) (i.glyphs st.code.active st.image.isSome)
  | atom a, st => by
    rw [events, glyphs]
    exact collects_atom a st
  | span s inner, st => by
    rw [events, glyphs, run_around]
    have hstart := collects_start_span s st
    have hinserts : Inserts st (st.start s.tag) [.opening s.name s.attributes] (!false) :=
      inserts_start_span s st
    have himage : (st.start s.tag).image.isSome = st.image.isSome :=
      hinserts.image_isSome.trans (Bool.and_true _)
    have hinner := collects_all settings inner (st.start s.tag)
    rw [hstart.code, himage] at hinner
    exact hstart.enclose hinner (collects_stop_span s _)
  | image url title inner, st => by
    rw [events, glyphs, run_around]
    have hstart : Collects st (st.start (.image url title)) [] := .silent rfl rfl rfl rfl rfl
    have hinner := collects_all settings inner (st.start (.image url title))
    exact hstart.enclose hinner (collects_endImage _)

theorem collects_all (settings : Settings S) : ∀ (is : List Inline) (st : State S),
    Collects st (st.run settings (allEvents is)) (allGlyphs st.code.active st.image.isSome is)
  | [], st => by
    rw [allEvents, allGlyphs]
    exact .silent rfl rfl rfl rfl rfl
  | i :: is, st => by
    rw [allEvents, allGlyphs, run_append]
    have hfirst := collects settings i st
    have hrest := collects_all settings is (st.run settings i.events)
    rw [hfirst.code, (i.inserts settings st).image_isSome] at hrest
    exact hfirst.trans hrest

end

end Inline

/-! ## Headings on the page and in the contents -/

/-- Blanks around a text do not change its slug. -/
theorem slug_trimmed (s : String) : Slug.slug (State.trimmed s) = Slug.slug s := by
  rw [Slug.slug, State.trimmed, String.toList_ofList, trim_trim]
  rfl

theorem isBlank_of_isBlankToken {ts : List Token} (h : ∀ t ∈ ts, isBlankToken t = true) :
    ∀ d ∈ Html.text ts, isBlank d = true := by
  intro d hd
  obtain ⟨t, ht, hchar⟩ := List.mem_filterMap.mp hd
  cases t with
  | char c =>
    cases hchar
    exact h _ ht
  | opening => cases hchar
  | closing => cases hchar

/-- The text between tags is the same up to blanks when these are cut from both ends. -/
theorem trim_text_trimTokens (ts : List Token) :
    trim (Html.text (trimTokens ts)) = trim (Html.text ts) := by
  obtain ⟨front, back, hts, hfront, hback⟩ := exists_dropWhile_ends isBlankToken ts
  have htext : Html.text ts =
      Html.text front ++ (Html.text (trimTokens ts) ++ Html.text back) := by
    rw [← text_append, ← text_append]
    exact congrArg Html.text hts
  rw [htext, trim_blanks (isBlank_of_isBlankToken hfront) (isBlank_of_isBlankToken hback)]

theorem anchor_of_counts (h : st'.counts = st.counts) (slug : String) :
    st'.anchor slug = st.anchor slug := by
  rw [State.anchor, h, State.anchor]

theorem page_endHeading {h : OpenHeading} (hopen : st.heading = some h) :
    st.endHeading.toc =
        st.toc ++ [⟨h.level, State.trimmed h.text, st.anchor (Slug.slug h.text)⟩] ∧
      st.endHeading.output =
        st.output ++ State.headingElement h.level (st.anchor (Slug.slug h.text)) h.html := by
  unfold State.endHeading
  rw [hopen]
  exact ⟨rfl, rfl⟩

/-- A heading on the page and its entry in the contents, which have a line in common. `ts` is how the
inside of its element is read. -/
structure Recorded (st st' : State S) (level : Nat) (line : List Glyph) (title html : String)
    (ts : List Token) : Prop where
  contents : st'.toc = st.toc ++ [⟨level, title, st.anchor (Slug.slug title)⟩]
  page : st'.output =
    st.output ++ State.headingElement level (st.anchor (Slug.slug title)) html
  read : tokens? (State.trimmed html).toList = some ts
  visible : trim (Html.text ts) = trim (pageText line)
  titled : title.toList = trim (titleText line)

/-- The title of a heading is the text of its element, up to blanks at both ends, exactly if every
hard line break and every box of a task stands before all words or behind all of them. -/
theorem heading_recorded (settings : Settings S) (st : State S) (level : Nat)
    (inner : List Inline) :
    ∃ title html ts, Recorded st (st.run settings (Block.heading level inner).events) level
        (Inline.allGlyphs st.code.active st.image.isSome inner) title html ts ∧
      (title.toList = trim (Html.text ts) ↔
        BreaksAtEnds (Inline.allGlyphs st.code.active st.image.isSome inner)) := by
  have hcollects := Inline.collects_all settings inner (st.start (.heading level))
  obtain ⟨h, hopen, hgains, hkept⟩ := hcollects.heading ⟨level, "", ""⟩ rfl
  obtain ⟨html, ts, hhtml, hspelled, hts⟩ := hgains.page
  rw [String.empty_append] at hhtml
  have htitle : h.text.toList =
      titleText (Inline.allGlyphs st.code.active st.image.isSome inner) := hgains.title
  have hlevel : h.level = level := hgains.level
  have hvisible : trim (Html.text (trimTokens ts)) =
      trim (pageText (Inline.allGlyphs st.code.active st.image.isSome inner)) := by
    rw [trim_text_trimTokens, hts]
    rfl
  have htitled : (State.trimmed h.text).toList =
      trim (titleText (Inline.allGlyphs st.code.active st.image.isSome inner)) := by
    rw [State.trimmed, String.toList_ofList, htitle]
  have hrecorded : Recorded st (st.run settings (Block.heading level inner).events) level
      (Inline.allGlyphs st.code.active st.image.isSome inner) (State.trimmed h.text) html
      (trimTokens ts) := by
    have hcounts : ((st.start (.heading level)).run settings (Inline.allEvents inner)).counts =
        st.counts := hcollects.counts
    have hended := page_endHeading hopen
    rw [anchor_of_counts hcounts, hlevel, hcollects.toc, hkept, hhtml] at hended
    refine ⟨?_, ?_, hspelled.trimmed.tokens?_eq, hvisible, htitled⟩
    · rw [Block.events, run_around, slug_trimmed]
      exact hended.1
    · rw [Block.events, run_around, slug_trimmed]
      exact hended.2
  refine ⟨_, _, _, hrecorded, ?_⟩
  rw [htitled, hvisible, eq_comm]
  exact trim_pageText_eq_iff (Inline.spaced_allGlyphs _ _ inner)

/-- Two words with a hard line break between them. -/
def brokenHeading : List Inline :=
  [.atom (.text "a"), .atom .hardBreak, .atom (.text "b")]

/-- The words are apart on the page, and one word in the title and in the slug. -/
theorem recorded_brokenHeading :
    (render exampleSettings (State.initial ()) (Block.heading 1 brokenHeading).events).1 =
      ⟨"<h1 class=\"livingstyleguide--headline\" id=\"ab\">a<br>\nb</h1>\n", [⟨1, "ab", "ab"⟩]⟩ := by
  decide +kernel

end StyleGuide.Render
