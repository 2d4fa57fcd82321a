import Mathlib.Logic.Relation
import StyleGuide.Proofs.Render.Inserting
import StyleGuide.Proofs.Text.Escaping

/-!
# Text in parts

A text may come in one event or in several. Wherever it goes, to the source of a block of code, to
the alternative text of an image, to the title and the markup of a heading or to the page, it is put
behind what is there, and a text is escaped part by part. So no state tells a text from its parts,
and streams of events that differ only in where texts are cut are rendered alike. Which streams these
are can be seen when neighbouring texts are put together.
-/

namespace StyleGuide.Render

open Text

/-! ## Cutting texts -/

/-- A text is cut in two. -/
inductive Cut : List Event → List Event → Prop
  | text (before : List Event) (a b : String) (after : List Event) :
      Cut (before ++ .text (a ++ b) :: after) (before ++ .text a :: .text b :: after)

/-- Texts are cut, and neighbouring texts are put together, at any places and any number of times. -/
def Recut : List Event → List Event → Prop :=
  Relation.EqvGen Cut

/-- An event in front of others, where a text becomes one with a text that follows it. -/
def Event.inFrontOf : Event → List Event → List Event
  | .text a, .text b :: es => .text (a ++ b) :: es
  | e, es => e :: es

/-- The same events with neighbouring texts put together. -/
def merged (es : List Event) : List Event :=
  es.foldr Event.inFrontOf []

theorem inFrontOf_text (a b : String) (es : List Event) :
    (Event.text a).inFrontOf ((Event.text b).inFrontOf es) =
      (Event.text (a ++ b)).inFrontOf es := by
  cases es with
  | nil => rfl
  | cons e es =>
    cases e with
    | text c =>
      change [Event.text (a ++ (b ++ c))] ++ es = [Event.text (a ++ b ++ c)] ++ es
      rw [String.append_assoc]
    | _ => rfl

theorem Cut.merged_eq {es es' : List Event} (h : Cut es es') : merged es = merged es' := by
  cases h with
  | text before a b after =>
    unfold merged
    rw [List.foldr_append, List.foldr_append, List.foldr_cons, List.foldr_cons, List.foldr_cons,
      inFrontOf_text]

theorem Cut.cons {es es' : List Event} (h : Cut es es') (e : Event) : Cut (e :: es) (e :: es') := by
  cases h with
  | text before a b after => exact .text (e :: before) a b after

namespace Recut

variable {es es' : List Event}

/-- What no single cut changes is the same for both streams. -/
theorem eq_of_cut {α : Type} (h : Recut es es') {f : List Event → α}
    (hcut : ∀ {es es' : List Event}, Cut es es' → f es = f es') : f es = f es' := by
  induction h with
  | rel _ _ h => exact hcut h
  | refl _ => rfl
  | symm _ _ _ ih => exact ih.symm
  | trans _ _ _ _ _ ih ih' => exact ih.trans ih'

theorem cons (h : Recut es es') (e : Event) : Recut (e :: es) (e :: es') := by
  induction h with
  | rel _ _ hcut => exact .rel _ _ (hcut.cons e)
  | refl _ => exact .refl _
  | symm _ _ _ ih => exact .symm _ _ ih
  | trans _ _ _ _ _ ih ih' => exact .trans _ _ _ ih ih'

end Recut

theorem recut_inFrontOf (e : Event) (es : List Event) : Recut (e.inFrontOf es) (e :: es) := by
  unfold Event.inFrontOf
  split
  · next a b es => exact .rel _ _ (.text [] a b es)
  · exact .refl _

theorem recut_merged (es : List Event) : Recut (merged es) es := by
  induction es with
  | nil => exact .refl _
  | cons e es ih => exact .trans _ _ _ (recut_inFrontOf e _) (ih.cons e)

/-- Streams differ only in where texts are cut exactly if they are the same with all texts whole. -/
theorem recut_iff_merged_eq {es es' : List Event} : Recut es es' ↔ merged es = merged es' := by
  constructor
  · intro h
    exact h.eq_of_cut Cut.merged_eq
  · intro heq
    have hwhole : Recut (merged es) es' := by
      rw [heq]
      exact recut_merged es'
    exact .trans _ _ _ (.symm _ _ (recut_merged es)) hwhole

instance (es es' : List Event) : Decidable (Recut es es') :=
  decidable_of_iff _ recut_iff_merged_eq.symm

/-! ## Texts and their parts -/

variable {S : Type}

namespace State

variable (st : State S)

theorem addTitle_addTitle (a b : String) : (st.addTitle a).addTitle b = st.addTitle (a ++ b) := by
  cases hopen : st.heading with
  | none =>
    rw [addTitle_of_none hopen, addTitle_of_none hopen, addTitle_of_none hopen]
  | some h =>
    unfold addTitle
    rw [hopen]
    dsimp only
    rw [String.append_assoc]

theorem writeInline_writeInline (html html' : String) :
    (st.writeInline html).writeInline html' = st.writeInline (html ++ html') := by
  unfold writeInline write
  cases st.heading with
  | none =>
    dsimp only
    rw [String.append_assoc]
  | some h =>
    dsimp only
    rw [String.append_assoc]

/-- The title and the markup of a heading are kept apart. -/
theorem addTitle_writeInline (html text : String) :
    (st.writeInline html).addTitle text = (st.addTitle text).writeInline html := by
  cases hopen : st.heading with
  | none =>
    have hwritten : (st.write html).heading = none := hopen
    rw [writeInline_of_none hopen, addTitle_of_none hwritten, addTitle_of_none hopen,
      writeInline_of_none hopen]
  | some h =>
    unfold writeInline addTitle
    rw [hopen]

/-- A text in the line opens neither code nor an image. -/
theorem uncollected_insert (st : State S) (s html : String) :
    ((st.addTitle s).writeInline html).code = st.code ∧
      ((st.addTitle s).writeInline html).image = st.image := by
  unfold addTitle writeInline write
  cases hopen : st.heading with
  | none =>
    dsimp only
    rw [hopen]
    exact ⟨rfl, rfl⟩
  | some h => exact ⟨rfl, rfl⟩

/-- A text in two parts leaves the state that the whole text leaves. -/
theorem text_text (st : State S) (a b : String) : (st.text a).text b = st.text (a ++ b) := by
  cases hcode : st.code.active with
  | true =>
    have hcode' : (st.text a).code.active = true := by
      rw [text_of_code hcode]
      exact hcode
    rw [text_of_code hcode', text_of_code hcode, text_of_code hcode]
    dsimp only
    rw [String.append_assoc]
  | false =>
    cases himage : st.image with
    | some i =>
      have hcode' : (st.text a).code.active = false := by
        rw [text_of_image hcode himage]
        exact hcode
      have himage' : (st.text a).image = some { i with alt := i.alt ++ a } := by
        rw [text_of_image hcode himage]
      rw [text_of_image hcode' himage', text_of_image hcode himage, text_of_image hcode himage]
      dsimp only
      rw [String.append_assoc]
    | none =>
      obtain ⟨hcode', himage'⟩ := uncollected_insert st a (Markup.escape a)
      calc (st.text a).text b
        _ = ((st.addTitle a).writeInline (Markup.escape a)).text b := by
          rw [text_of_uncollected hcode himage]
        _ = (((st.addTitle a).writeInline (Markup.escape a)).addTitle b).writeInline
            (Markup.escape b) :=
          text_of_uncollected (hcode' ▸ hcode) (himage'.trans himage) b
        _ = (((st.addTitle a).addTitle b).writeInline (Markup.escape a)).writeInline
            (Markup.escape b) := by rw [addTitle_writeInline]
        _ = (st.addTitle (a ++ b)).writeInline (Markup.escape a ++ Markup.escape b) := by
          rw [addTitle_addTitle, writeInline_writeInline]
        _ = (st.addTitle (a ++ b)).writeInline (Markup.escape (a ++ b)) := by
          rw [Markup.escape_append]
        _ = st.text (a ++ b) := (text_of_uncollected hcode himage (a ++ b)).symm

end State

/-! ## Streams -/

variable (settings : Settings S) (st : State S) {es es' : List Event}

theorem Cut.run_eq (h : Cut es es') : st.run settings es = st.run settings es' := by
  cases h with
  | text before a b after =>
    calc st.run settings (before ++ .text (a ++ b) :: after)
      _ = ((st.run settings before).text (a ++ b)).run settings after := run_append _ _ st
      _ = (((st.run settings before).text a).text b).run settings after := by rw [State.text_text]
      _ = st.run settings (before ++ .text a :: .text b :: after) :=
        (run_append before (.text a :: .text b :: after) st).symm

/-- Whatever state a renderer is in and whatever its processors do, the page, the contents and the
state it leaves do not depend on where the texts of a stream are cut. -/
theorem render_eq_of_recut (h : Recut es es') :
    render settings st es = render settings st es' := by
  have hrun : st.run settings es = st.run settings es' :=
    h.eq_of_cut fun hcut ↦ hcut.run_eq settings st
  unfold render
  rw [hrun]

def midHeading : State Unit :=
  (State.initial ()).start (.heading 2)

/-- Events for the inside of a heading and what follows it, some texts of which are in parts. -/
def inParts : List Event :=
  [.text "a &", .text "lt; b ", .stop .heading, .start (.codeBlock none), .text "c\n", .text "",
    .text "d", .stop .codeBlock, .start (.image "u" ""), .text "it", .softBreak, .text "s",
    .text "\"", .stop .image]

/-- The same events with whole texts, but for one text that has a part in which nothing stands. -/
def inWhole : List Event :=
  [.text "a &lt; b ", .stop .heading, .start (.codeBlock none), .text "c\nd", .stop .codeBlock,
    .start (.image "u" ""), .text "it", .text "", .softBreak, .text "s\"", .stop .image]

theorem render_inParts :
    Recut inParts inWhole ∧
      render ⟨[.example], exampleLanguage⟩ midHeading inParts =
        render ⟨[.example], exampleLanguage⟩ midHeading inWhole := by
  have hrecut : Recut inParts inWhole := by decide +kernel
  exact ⟨hrecut, render_eq_of_recut _ midHeading hrecut⟩

end StyleGuide.Render
