import StyleGuide.Proofs.Render.Emitting

/-!
# Nested pages

What a renderer writes for an event tree is read as the outline of the tree, and an outline is well
nested. Texts stand between tags and in the values of attributes, where they are escaped, so no text
adds a tag, an attribute or an end of one.

A heading that an earlier stream has left open takes inline content away from the page. The tag
before a heading inside an emphasis or a link is then lost, and the one behind it is not.
-/

namespace StyleGuide.Render

open Text Html

variable {S : Type} (settings : Settings S)

namespace Block

mutual

/-- A block adds the tags of its outline, if no processor answers for a block of code in it. -/
theorem emits : ∀ (b : Block) {st : State S} {memory : S},
    b.codes.foldlM (declined settings) st.memory = some memory →
      Emits st (st.run settings b.events) (b.outline st.heading.isSome)
        (st.heading.isSome && !b.hasHeading) memory
  | inline i, st, memory, h => by
    cases h
    rw [events, outline]
    exact (i.inserts settings st).emits.keep rfl
  | rule, st, memory, h => by
    cases h
    refine Emits.keep (b := .rule) (.write st ?_) rfl
    exact .of_tokens [.opening "hr" [⟨"class", some "livingstyleguide--separator"⟩], .char '\n']
      (by decide) (by decide)
  | paragraph inner, st, memory, h => by
    cases h
    have hfirst : Emits st (st.start .paragraph) [.opening "p" ["class"]] st.heading.isSome
        st.memory :=
      .write st (.of_tokens [.opening "p" [⟨"class", some "livingstyleguide--paragraph"⟩]]
        (by decide) (by decide))
    have hinner := (Inline.inserts_all settings inner (st.start .paragraph)).emits
    rw [events, run_around, outline]
    exact (hfirst.enclose hinner
      (.write _ (.of_tokens [.closing "p", .char '\n'] (by decide) (by decide)))).keep rfl
  | heading level inner, st, memory, h => by
    cases h
    rw [hasHeading, Bool.not_true, Bool.and_false]
    exact emits_heading settings st level inner
  | codeBlock info texts, st, memory, h => by
    have hcode : declined settings st.memory (info.bind fenceLanguage, String.join texts) =
        some memory := by
      simpa [codes] using h
    exact (emits_codeBlock settings hcode).keep rfl
  | table columns head rows, st, memory, h => by
    cases h
    exact (emits_table settings st columns head rows).keep rfl
  | container c inner, st, memory, h => by
    rw [codes] at h
    rw [events, run_around, outline, hasHeading]
    cases helement : c.element? with
    | none =>
      obtain ⟨hstart, -⟩ := start_stop_of_none settings helement st
      rw [hstart, (start_stop_of_none settings helement _).2]
      exact emits_all inner h
    | some found =>
      -- A heading inside may end the one that has been left open, so the tag behind it is looked at
      -- with what is open there.
      obtain ⟨name, attributes⟩ := found
      have hfirst := emits_start helement st
      rw [← hfirst.memory] at h
      have hinner := emits_all inner h
      rw [hfirst.isOpen] at hinner
      have hlast := emits_stop settings helement
        ((st.start c.tag).run settings (allEvents inner))
      rw [hinner.isOpen, hinner.memory] at hlast
      exact (hfirst.trans hinner).trans hlast

/-- Blocks add the tags of their outlines one after another. -/
theorem emits_all : ∀ (bs : List Block) {st : State S} {memory : S},
    (allCodes bs).foldlM (declined settings) st.memory = some memory →
      Emits st (st.run settings (allEvents bs)) (allOutline st.heading.isSome bs)
        (st.heading.isSome && !haveHeading bs) memory
  | [], st, memory, h => by
    cases h
    rw [allEvents, allOutline, haveHeading, Bool.not_false, Bool.and_true]
    exact .silent st
  | b :: bs, st, memory, h => by
    rw [allCodes, List.foldlM_append] at h
    obtain ⟨memory', hfirst, hrest⟩ := Option.bind_eq_some_iff.mp h
    have hb := emits b hfirst
    rw [← hb.memory] at hrest
    have hbs := emits_all bs hrest
    rw [hb.isOpen, Bool.and_assoc, ← Bool.not_or] at hbs
    rw [allEvents, run_append, allOutline, haveHeading]
    exact hb.trans hbs

end

end Block

/-- A page of an event tree is read back as tags and text: the tags are those of the outline of the
tree, which no text has a part in, and every other character is text or in the value of an
attribute, written so that it cannot be taken for anything else. The tags are well nested, unless a
heading has been left open and some emphasis or link holds another one. -/
theorem render_nested (st : State S) (forest : List Block)
    (h : ((Block.allCodes forest).foldlM (declined settings) st.memory).isSome) :
    ∃ ts, (render settings st (Block.allEvents forest)).1.html =
        st.output ++ String.ofList (Html.write ts) ∧
      tokens? (Html.write ts) = some ts ∧
      Html.outline ts = Block.allOutline st.heading.isSome forest ∧
      (st.heading = none ∨ Block.spanHeading forest = false →
        nested [] (Html.outline ts) = true) := by
  obtain ⟨memory, hmemory⟩ := Option.isSome_iff_exists.mp h
  obtain ⟨html, ⟨ts, hnamed, houtline, hwrite⟩, houtput⟩ :=
    (Block.emits_all settings forest hmemory).written
  refine ⟨ts, ?_, tokens?_write hnamed, houtline, fun hopen ↦ ?_⟩
  · rw [← hwrite, String.ofList_toList]
    exact houtput
  · rw [houtline]
    refine (Block.balanced_allOutline _ forest (hopen.imp_left fun hclosed ↦ ?_)).nested
    rw [hclosed, Option.isSome_none]

def exampleSettings : Settings Unit :=
  ⟨[.example], exampleLanguage⟩

/-- A page with a link to a text of markup, a table, and a block of code that is only shown. -/
def markupPage : List Block :=
  [.heading 1 [.atom (.text "<b>"), .span (.link "\"" "'") [.atom (.code "</code>")]],
    .container (.list (some 2)) [.container .item [.inline (.image "a" "" [.atom (.text "\"")])]],
    .table [.left] [[.atom (.text "</th>")]] [[[.atom .hardBreak]], []],
    .codeBlock (some "css") ["a > b", "</pre>"]]

theorem nested_markupPage :
    ((Block.allCodes markupPage).foldlM (declined exampleSettings) ()).isSome ∧
      ∃ ts, (render exampleSettings (State.initial ()) (Block.allEvents markupPage)).1.html =
          "" ++ String.ofList (Html.write ts) ∧
        tokens? (Html.write ts) = some ts ∧
        Html.outline ts = Block.allOutline false markupPage ∧
        nested [] (Html.outline ts) = true := by
  refine ⟨by decide +kernel, ?_⟩
  obtain ⟨ts, hhtml, htokens, houtline, hnested⟩ :=
    render_nested exampleSettings (State.initial ()) markupPage (by decide +kernel)
  exact ⟨ts, hhtml, htokens, houtline, hnested (.inl rfl)⟩

/-- A renderer that has been given the start of a heading and not its end. -/
def leftOpen : State Unit :=
  (render exampleSettings (State.initial ()) [.start (.heading 1)]).2

def linkedHeading : List Block :=
  [.container (.span (.link "u" "")) [.heading 1 [.atom (.text "A")]]]

/-- The tag of the link goes to the heading that has been left open, and is lost with it. -/
theorem unmatched_linkedHeading :
    ∃ ts, tokens? (render exampleSettings leftOpen (Block.allEvents linkedHeading)).1.html.toList =
        some ts ∧ nested [] (Html.outline ts) = false := by
  have hhtml : (render exampleSettings leftOpen (Block.allEvents linkedHeading)).1.html.toList =
      Html.write [.opening "h1" [⟨"class", some "livingstyleguide--headline"⟩, ⟨"id", some "a"⟩],
        .char 'A', .closing "h1", .char '\n', .closing "a"] := by
    decide +kernel
  rw [hhtml]
  exact ⟨_, tokens?_write (by decide), by decide⟩

end StyleGuide.Render
