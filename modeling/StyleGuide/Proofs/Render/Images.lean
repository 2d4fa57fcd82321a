import StyleGuide.Proofs.Render.Nesting

/-!
# Images

An image stands where its content ends and has the words of the content as its alternative text, if
there are only text and soft line breaks in it. Nothing else is collected: the tags of a span, a hard
line break and a code span are written to the page while the image is open, and so before it, and an
image in an image takes the place of the outer one.
-/

namespace StyleGuide.Render

open Text Html

/-! ## Alternative texts -/

namespace Atom

def words : Atom → String
  | text s => s
  | code s => s
  | softBreak => "\n"
  | hardBreak => ""
  | taskMarker _ => ""
  | inlineMath _ => ""
  | displayMath _ => ""
  | footnoteReference _ => ""

/-- Whether no tags are written. -/
def isPlain : Atom → Bool
  | text _ => true
  | code _ => false
  | softBreak => true
  | hardBreak => false
  | taskMarker _ => false
  | inlineMath _ => true
  | displayMath _ => true
  | footnoteReference _ => true

theorem isPlain_of_outline {a : Atom} (h : a.outline = []) : a.isPlain = true := by
  cases a with
  | code s => cases h
  | hardBreak => cases h
  | taskMarker checked => cases checked <;> cases h
  | _ => rfl

end Atom

namespace Inline

mutual

def words : Inline → String
  | atom a => a.words
  | span _ inner => allWords inner
  | image _ _ inner => allWords inner

def allWords : List Inline → String
  | [] => ""
  | i :: is => i.words ++ allWords is

end

/-- Whether the content is text without tags. -/
def isPlain : Inline → Bool
  | atom a => a.isPlain
  | span _ _ => false
  | image _ _ _ => false

/-- Without images, only plain content has no tags. -/
theorem isPlain_of_allOutline {is : List Inline} (houtline : allOutline is = [])
    (himage : haveImage is = false) : ∀ i ∈ is, i.isPlain = true := by
  induction is with
  | nil => exact List.forall_mem_nil _
  | cons i is ih =>
    rw [allOutline, List.append_eq_nil_iff] at houtline
    rw [haveImage, Bool.or_eq_false_iff] at himage
    refine List.forall_mem_cons.mpr ⟨?_, ih houtline.2 himage.2⟩
    cases i with
    | atom a =>
      rw [outline] at houtline
      exact Atom.isPlain_of_outline houtline.1
    | span s inner =>
      rw [outline, element] at houtline
      cases houtline.1
    | image url title inner =>
      rw [hasImage] at himage
      cases himage.1

end Inline

/-! ## Images on the page -/

def imageElement (url alt title : String) : String :=
  "<img src=\"" ++ Markup.escape url ++ "\" alt=\"" ++ Markup.escape alt ++ "\"" ++
    State.titleAttribute title ++ ">"

variable {S : Type} {settings : Settings S} {st : State S}

/-- An image collects the words of plain content. -/
theorem step_plain {i : OpenImage} (hcode : st.code.active = false) (himage : st.image = some i)
    {a : Atom} (ha : a.isPlain = true) :
    st.step settings a.event = { st with image := some { i with alt := i.alt ++ a.words } } := by
  have hsame : st = { st with image := some { i with alt := i.alt ++ "" } } := by
    rw [String.append_empty, ← himage]
  cases a with
  | text s => exact State.text_of_image hcode himage s
  | softBreak => exact State.text_of_image hcode himage "\n"
  | code s => cases ha
  | hardBreak => cases ha
  | taskMarker checked => cases ha
  | _ => exact hsame

theorem run_plain {is : List Inline} {i : OpenImage} (hcode : st.code.active = false)
    (himage : st.image = some i) (plain : ∀ inline ∈ is, inline.isPlain = true) :
    st.run settings (Inline.allEvents is) =
      { st with image := some { i with alt := i.alt ++ Inline.allWords is } } := by
  induction is generalizing st i with
  | nil =>
    rw [Inline.allWords, String.append_empty, ← himage]
    rfl
  | cons inline is ih =>
    obtain ⟨hfirst, hrest⟩ := List.forall_mem_cons.mp plain
    cases inline with
    | atom a =>
      have hcode' : ({ st with image := some { i with alt := i.alt ++ a.words } } :
          State S).code.active = false := hcode
      rw [Inline.allEvents, Inline.events, List.singleton_append, State.run, List.foldl_cons,
        step_plain hcode himage hfirst, Inline.allWords, Inline.words, ← String.append_assoc]
      exact ih hcode' rfl hrest
    | span s inner => cases hfirst
    | image url title inner => cases hfirst

/-- Outside code and images, an image is its element and nothing else, with the words of its content
as alternative text, exactly if its content is plain. -/
theorem image_iff_plain (settings : Settings S) {st : State S} (hcode : st.code.active = false)
    (himage : st.image = none) (is : List Inline) :
    (∀ url title, st.run settings (Inline.image url title is).events =
      st.writeInline (imageElement url (Inline.allWords is) title)) ↔
      ∀ i ∈ is, i.isPlain = true := by
  constructor
  · intro hshown
    -- All tags are those of the image, with a title and without one.
    have htags (title : String) :
        Inline.allOutline is ++ (if Inline.haveImage is then []
          else [.opening "img" ("src" :: "alt" :: titleNames title)]) =
          [.opening "img" ("src" :: "alt" :: titleNames title)] := by
      have hinserts := (Inline.image "" title is).inserts settings st
      rw [hshown, Inline.outline] at hinserts
      exact hinserts.inserted.unique
        (Inserts.writeInline st (tagged_image "" (Inline.allWords is) title)).inserted
    cases hnested : Inline.haveImage is with
    | false =>
      have hnone := htags ""
      rw [hnested] at hnone
      exact Inline.isPlain_of_allOutline (List.append_left_eq_self.mp hnone) hnested
    | true =>
      have huntitled := htags ""
      have htitled := htags "title"
      rw [hnested, if_pos rfl, List.append_nil] at huntitled htitled
      exact absurd (huntitled.symm.trans htitled) (by decide)
  · intro plain url title
    have hinner : (st.start (.image url title)).run settings (Inline.allEvents is) =
        { st with image := some ⟨url, title, "" ++ Inline.allWords is⟩ } :=
      run_plain (show (st.start (.image url title)).code.active = false from hcode) rfl plain
    have hclosed : { st with image := none } = st := by rw [← himage]
    rw [Inline.events, run_around, hinner, String.empty_append]
    change ({ st with image := none } : State S).writeInline _ = _
    rw [hclosed]
    rfl

def twoLines : List Inline :=
  [.atom (.text "a"), .atom .softBreak, .atom (.text "b")]

def emphasized : List Inline :=
  [.span .emphasis [.atom (.text "a")]]

theorem image_twoLines :
    (∀ url title, (State.initial ()).run exampleSettings (Inline.image url title twoLines).events =
      (State.initial ()).writeInline (imageElement url "a\nb" title)) ∧
    ¬ ∀ url title, (State.initial ()).run exampleSettings
      (Inline.image url title emphasized).events =
      (State.initial ()).writeInline (imageElement url "a" title) := by
  have hcode : (State.initial ()).code.active = false := rfl
  have himage : (State.initial ()).image = none := rfl
  have hplain := (image_iff_plain exampleSettings hcode himage twoLines).mpr (by decide)
  have hmarked := mt (image_iff_plain exampleSettings hcode himage emphasized).mp (by decide)
  exact ⟨hplain, hmarked⟩

/-- The tags of emphasis are written before the image, and its text is left in the image. -/
theorem image_emphasized :
    (State.initial ()).run exampleSettings (Inline.image "u" "" emphasized).events =
      (State.initial ()).write "<em></em><img src=\"u\" alt=\"a\">" := by
  rfl

end StyleGuide.Render
