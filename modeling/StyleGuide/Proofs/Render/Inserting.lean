import StyleGuide.Proofs.Render.Tagged

/-!
# Inline content of a page

Inline content goes to the heading that is open, and to the page if there is none. Either way its
tags are those of its outline. It leaves the state of a table alone, and an image that is open as
well unless it holds one itself.
-/

namespace StyleGuide.Render

open Text Html

variable {S : Type} {settings : Settings S} {st st' st'' : State S} {ms ms' : List Mark}
  {html : String}

/-! ## Where text goes -/

namespace State

theorem addTitle_of_none (hopen : st.heading = none) (text : String) : st.addTitle text = st := by
  rw [State.addTitle, hopen]

theorem writeInline_of_none (hopen : st.heading = none) (html : String) :
    st.writeInline html = st.write html := by
  rw [State.writeInline, hopen]

theorem text_of_code (hcode : st.code.active = true) (s : String) :
    st.text s = { st with code := { st.code with source := st.code.source ++ s } } :=
  if_pos hcode

theorem text_of_image (hcode : st.code.active = false) {i : OpenImage} (himage : st.image = some i)
    (s : String) : st.text s = { st with image := some { i with alt := i.alt ++ s } } := by
  unfold State.text
  rw [if_neg (Bool.eq_false_iff.mp hcode), himage]

theorem text_of_uncollected (hcode : st.code.active = false) (himage : st.image = none)
    (s : String) : st.text s = (st.addTitle s).writeInline (Markup.escape s) := by
  unfold State.text
  rw [if_neg (Bool.eq_false_iff.mp hcode), himage]

end State

/-! ## Where tags go -/

/-- Tags go to the open heading, and to the page if there is none. -/
inductive Inserted (st st' : State S) (ms : List Mark) : Prop
  | page (closed : st.heading = none) (still : st'.heading = none)
      (written : Written st.output st'.output ms)
  | heading (h h' : OpenHeading) (isOpen : st.heading = some h) (still : st'.heading = some h')
      (level : h'.level = h.level) (written : Written h.html h'.html ms)
      (kept : st'.output = st.output)

/-- What the open image is made from, except for its alternative text. -/
def imageSource (st : State S) : Option (String × String) :=
  st.image.map fun i ↦ (i.url, i.title)

/-- The effect of inline content. It leaves an open image alone if it keeps images, and else ends
it. -/
structure Inserts (st st' : State S) (ms : List Mark) (keepsImage : Bool) : Prop where
  inserted : Inserted st st' ms
  image : imageSource st' = if keepsImage then imageSource st else none
  table : st'.table = st.table
  memory : st'.memory = st.memory

theorem Inserted.trans (h : Inserted st st' ms) (h' : Inserted st' st'' ms') :
    Inserted st st'' (ms ++ ms') := by
  cases h with
  | page closed still written =>
    cases h' with
    | page closed' still' written' => exact .page closed still' (written.trans written')
    | heading h₁ h₂ isOpen' => cases still.symm.trans isOpen'
  | heading h₁ h₂ isOpen still level written kept =>
    cases h' with
    | page closed' => cases still.symm.trans closed'
    | heading h₃ h₄ isOpen' still' level' written' kept' =>
      cases still.symm.trans isOpen'
      exact .heading h₁ h₄ isOpen still' (level'.trans level) (written.trans written')
        (kept'.trans kept)

/-- Between two states there is one list of tags. -/
theorem Inserted.unique (h : Inserted st st' ms) (h' : Inserted st st' ms') : ms = ms' := by
  cases h with
  | page closed still written =>
    cases h' with
    | page closed' still' written' => exact written.unique written'
    | heading h₁ h₂ isOpen' => cases closed.symm.trans isOpen'
  | heading h₁ h₂ isOpen still level written kept =>
    cases h' with
    | page closed' => cases closed'.symm.trans isOpen
    | heading h₃ h₄ isOpen' still' level' written' kept' =>
      cases isOpen.symm.trans isOpen'
      cases still.symm.trans still'
      exact written.unique written'

namespace Inserts

variable {keeps keeps' : Bool}

theorem trans (h : Inserts st st' ms keeps) (h' : Inserts st' st'' ms' keeps') :
    Inserts st st'' (ms ++ ms') (keeps && keeps') := by
  refine ⟨h.inserted.trans h'.inserted, ?_, h'.table.trans h.table, h'.memory.trans h.memory⟩
  rw [h'.image, h.image]
  cases keeps <;> cases keeps' <;> rfl

theorem enclose {st₁ st₂ : State S} {first last : Mark} (h : Inserts st st₁ [first] true)
    (inner : Inserts st₁ st₂ ms keeps) (h' : Inserts st₂ st' [last] true) :
    Inserts st st' (first :: (ms ++ [last])) keeps := by
  have hall := h.trans (inner.trans h')
  rwa [Bool.true_and, Bool.and_true] at hall

theorem image_isSome {images : Bool}
    (h : Inserts st st' ms (!images)) : st'.image.isSome = (st.image.isSome && !images) := by
  have himage := congrArg Option.isSome h.image
  cases images with
  | true => simpa [imageSource] using himage
  | false => simpa [imageSource] using himage

/-- Nothing but the open code block, image and title may change without a trace. -/
theorem silent (hheading : st'.heading = st.heading) (houtput : st'.output = st.output)
    (himage : imageSource st' = imageSource st) (htable : st'.table = st.table)
    (hmemory : st'.memory = st.memory) : Inserts st st' [] true := by
  refine ⟨?_, himage, htable, hmemory⟩
  cases hopen : st.heading with
  | none => exact .page hopen (hheading.trans hopen) (houtput ▸ .refl _)
  | some h => exact .heading h h hopen (hheading.trans hopen) rfl (.refl _) houtput

theorem writeInline (st : State S) (h : Tagged html ms) :
    Inserts st (st.writeInline html) ms true := by
  unfold State.writeInline
  cases hopen : st.heading with
  | none => exact ⟨.page hopen hopen ⟨html, h, rfl⟩, rfl, rfl, rfl⟩
  | some open' => exact ⟨.heading open' _ hopen rfl rfl ⟨html, h, rfl⟩ rfl, rfl, rfl, rfl⟩

theorem addTitle (st : State S) (s : String) : Inserts st (st.addTitle s) [] true := by
  unfold State.addTitle
  cases hopen : st.heading with
  | none => exact ⟨.page hopen hopen (.refl _), rfl, rfl, rfl⟩
  | some open' => exact ⟨.heading open' _ hopen rfl rfl (.refl _) rfl, rfl, rfl, rfl⟩

theorem text (st : State S) (s : String) : Inserts st (st.text s) [] true := by
  unfold State.text
  split
  · exact silent rfl rfl rfl rfl rfl
  · cases himage : st.image with
    | some i => exact silent rfl rfl (by simp [imageSource, himage]) rfl rfl
    | none => exact (addTitle st s).trans (writeInline _ (.escape s))

end Inserts

theorem inserts_atom (a : Atom) (st : State S) :
    Inserts st (st.step settings a.event) a.outline true := by
  cases a with
  | text s => exact .text st s
  | code s => exact (Inserts.addTitle st s).trans (.writeInline _ (tagged_codeSpan s))
  | softBreak => exact .text st "\n"
  | hardBreak =>
    exact .writeInline st (.of_tokens [.opening "br" [], .char '\n'] (by decide) (by decide))
  | taskMarker checked => exact .writeInline st (tagged_taskMarker checked)
  | inlineMath s => exact .silent rfl rfl rfl rfl rfl
  | displayMath s => exact .silent rfl rfl rfl rfl rfl
  | footnoteReference s => exact .silent rfl rfl rfl rfl rfl

/-! ## Spans and images -/

namespace Span

/-- What is written before the content of a span. -/
def openingTag : Span → String
  | emphasis => "<em>"
  | strong => "<strong>"
  | strikethrough => "<del>"
  | superscript => "<sup>"
  | subscript => "<sub>"
  | link url title =>
    "<a href=\"" ++ Markup.escape url ++ "\"" ++ State.titleAttribute title ++ ">"

/-- What is written behind the content of a span. -/
def closingTag : Span → String
  | emphasis => "</em>"
  | strong => "</strong>"
  | strikethrough => "</del>"
  | superscript => "</sup>"
  | subscript => "</sub>"
  | link _ _ => "</a>"

theorem start_eq (s : Span) (st : State S) : st.start s.tag = st.writeInline s.openingTag := by
  cases s <;> rfl

theorem stop_eq (s : Span) (settings : Settings S) (st : State S) :
    st.stop settings s.tag.toEnd = st.writeInline s.closingTag := by
  cases s <;> rfl

theorem exists_spelled_openingTag (s : Span) :
    ∃ attributes, Spelled s.openingTag [.opening s.name attributes] ∧
      attributes.map (·.name) = s.attributes := by
  cases s with
  | link url title =>
    refine ⟨⟨"href", some url⟩ :: titleAttributes title, spelled_link url title, ?_⟩
    rw [List.map_cons, map_name_titleAttributes]
    rfl
  | _ => exact ⟨[], ⟨by decide, by decide⟩, rfl⟩

theorem spelled_closingTag (s : Span) : Spelled s.closingTag [.closing s.name] := by
  cases s with
  | link url title => exact (⟨by decide, by decide⟩ : Spelled "</a>" [.closing "a"])
  | _ => exact ⟨by decide, by decide⟩

end Span

theorem inserts_start_span (s : Span) (st : State S) :
    Inserts st (st.start s.tag) [.opening s.name s.attributes] true := by
  obtain ⟨attributes, hspelled, hnames⟩ := s.exists_spelled_openingTag
  rw [s.start_eq, ← hnames]
  exact .writeInline st hspelled.tagged

theorem inserts_stop_span (s : Span) (st : State S) :
    Inserts st (st.stop settings s.tag.toEnd) [.closing s.name] true := by
  rw [s.stop_eq]
  exact .writeInline st s.spelled_closingTag.tagged

theorem run_append (events more : List Event) (st : State S) :
    st.run settings (events ++ more) = (st.run settings events).run settings more :=
  List.foldl_append

theorem run_around (tag : Tag) (inner : List Event) (st : State S) :
    st.run settings (around tag inner) =
      ((st.start tag).run settings inner).stop settings tag.toEnd := by
  unfold around State.run
  rw [List.foldl_cons, List.foldl_append]
  rfl

/-- An image is shown at its end, unless it has ended in another one. -/
theorem inserts_image {url title : String} {images : Bool}
    (inner : Inserts (st.start (.image url title)) st' ms (!images)) :
    Inserts st st'.endImage
      (ms ++ if images then [] else [.opening "img" ("src" :: "alt" :: titleNames title)])
      false := by
  have hinserted : Inserted st st' ms := by
    cases inner.inserted with
    | page closed still written => exact .page closed still written
    | heading h h' isOpen still level written kept =>
      exact .heading h h' isOpen still level written kept
  have himage : imageSource st' = if images then none else some (url, title) := by
    rw [inner.image]
    cases images <;> rfl
  unfold State.endImage
  cases hopen : st'.image with
  | none =>
    have himages : images = true := by
      cases images with
      | true => rfl
      | false => simp [imageSource, hopen] at himage
    rw [himages, if_pos rfl, List.append_nil]
    exact ⟨hinserted, by simp [imageSource, hopen], inner.table, inner.memory⟩
  | some i =>
    have himages : images = false ∧ i.title = title := by
      cases images <;> simp_all [imageSource]
    obtain ⟨rfl, rfl⟩ := himages
    have hwritten := Inserts.writeInline { st' with image := none }
      (tagged_image i.url i.alt i.title)
    refine ⟨hinserted.trans ?_, hwritten.image, hwritten.table.trans inner.table,
      hwritten.memory.trans inner.memory⟩
    cases hwritten.inserted with
    | page closed still written => exact .page closed still written
    | heading h h' isOpen still level written kept =>
      exact .heading h h' isOpen still level written kept

namespace Inline

mutual

theorem inserts (settings : Settings S) : ∀ (i : Inline) (st : State S),
    Inserts st (st.run settings i.events) i.outline (!i.hasImage)
  | atom a, st => by
    rw [events, outline, hasImage]
    exact inserts_atom a st
  | span s inner, st => by
    rw [events, outline, hasImage, run_around]
    have hinner := inserts_all settings inner (st.start s.tag)
    exact (inserts_start_span s st).enclose hinner (inserts_stop_span s _)
  | image url title inner, st => by
    rw [events, outline, hasImage, run_around]
    exact inserts_image (inserts_all settings inner (st.start (.image url title)))

theorem inserts_all (settings : Settings S) : ∀ (is : List Inline) (st : State S),
    Inserts st (st.run settings (allEvents is)) (allOutline is) (!haveImage is)
  | [], st => by
    rw [allEvents, allOutline, haveImage]
    exact .silent rfl rfl rfl rfl rfl
  | i :: is, st => by
    rw [allEvents, allOutline, haveImage, run_append, Bool.not_or]
    exact (inserts settings i st).trans (inserts_all settings is _)

end

end Inline

end StyleGuide.Render
