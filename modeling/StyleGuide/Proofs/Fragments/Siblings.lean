import StyleGuide.Fragments.FileList
import StyleGuide.Proofs.Path.LastName

/-!
# Fragments beside stylesheets

The fragment path of a stylesheet is the path beside it with the same stem, whatever the spelling:
separators and dots that trail the stylesheet are lost, and dots inside its name stay. So stylesheets
share a fragment only if they differ in their extensions alone. A stem that is a dot is left out: the
name of `..scss` without its extension is no name any more.
-/

namespace StyleGuide

open StyleGuide.Path (EndsDotted)

variable {p q : Path} {front stem ext trail : List Char}

/-- In the same directory, with the same stem. -/
def Twins (p q : Path) : Prop :=
  p.parent.map Path.components = q.parent.map Path.components ∧ p.stem = q.stem

theorem extension_of_isStylesheet (h : p.isStylesheet = true) :
    ∃ ext ∈ ["scss", "sass"], p.extension = some ext.toList := by
  rcases Bool.or_eq_true_iff.mp h with h | h
  · exact ⟨"scss", by simp, beq_iff_eq.mp h⟩
  · exact ⟨"sass", by simp, beq_iff_eq.mp h⟩

/-- A stylesheet whose stem is not just a dot. -/
theorem exists_endsDotted_of_isStylesheet (h : p.isStylesheet = true)
    (hdot : p.stem ≠ some ['.']) :
    ∃ ext ∈ ["scss", "sass"], ∃ front stem trail,
      p.EndsDotted front stem ext.toList trail ∧ stem ≠ ['.'] := by
  obtain ⟨ext, hext, hextension⟩ := extension_of_isStylesheet h
  obtain ⟨front, stem, trail, hends⟩ := Path.exists_endsDotted hextension
  refine ⟨ext, hext, front, stem, trail, hends, fun hstem ↦ hdot ?_⟩
  rw [hends.stem_eq, hstem]

theorem fragmentPath_endsDotted (h : p.EndsDotted front stem ext trail)
    (stylesheet : p.isStylesheet = true) (hdot : stem ≠ ['.']) :
    (fragmentPath p).EndsDotted front stem "md".toList [] where
  text_eq := by
    rw [fragmentPath, if_pos stylesheet, h.withExtension hdot (by decide), List.append_nil]
  leads := h.leads
  isName := by
    apply Path.isName_dotted h.stem_ne_nil hdot
    have hslash := h.isName.noSlash
    simp only [List.mem_append, not_or] at hslash ⊢
    exact ⟨hslash.1, by decide⟩
  trails := .nil
  stem_ne_nil := h.stem_ne_nil
  noDot := by decide

/-- Paths that end in a name with an extension are twins if they have the same text in front, up to
spelling, and the same stem. -/
theorem twins_iff {front' stem' ext' trail' : List Char} (hp : p.EndsDotted front stem ext trail)
    (hq : q.EndsDotted front' stem' ext' trail') :
    Twins p q ↔ (Path.spansOf front).map (·.component) = (Path.spansOf front').map (·.component) ∧
      stem = stem' := by
  rw [Twins, hp.parent, hq.parent, hp.stem_eq, hq.stem_eq, Option.some_inj, Option.some_inj]

/-- Paths with the same extension are the same if they are twins. -/
theorem same_iff_twins {front' stem' trail' : List Char} (hp : p.EndsDotted front stem ext trail)
    (hq : q.EndsDotted front' stem' ext trail') : p.same q = true ↔ Twins p q := by
  rw [Path.same_iff, hp.components, hq.components, twins_iff hp hq]
  constructor
  · intro h
    obtain ⟨hfront, hname⟩ := List.append_inj' h rfl
    refine ⟨hfront, ?_⟩
    simpa using hname
  · rintro ⟨hfront, rfl⟩
    rw [hfront]

/-- A path has only so many components of the form directory, stem and extension: those it ends in. -/
theorem exists_components_iff {ext : String} (h : p.EndsDotted front stem ext.toList trail)
    (hext : ext ∈ ["scss", "sass"]) {dir : List Path.Component} {stem' : List Char} :
    (∃ ext' ∈ ["scss", "sass"],
      p.components = dir ++ [.name (stem' ++ '.' :: String.toList ext')]) ↔
      (Path.spansOf front).map (·.component) = dir ∧ stem = stem' := by
  have hlength : ∀ ext ∈ ["scss", "sass"], ('.' :: String.toList ext).length = 5 := by decide
  rw [h.components]
  constructor
  · rintro ⟨ext', hext', heq⟩
    obtain ⟨hdir, hname⟩ := List.append_inj' heq rfl
    have hdotted : stem ++ '.' :: ext.toList = stem' ++ '.' :: ext'.toList := by simpa using hname
    exact ⟨hdir, (List.append_inj' hdotted ((hlength ext hext).trans (hlength ext' hext').symm)).1⟩
  · rintro ⟨rfl, rfl⟩
    exact ⟨ext, hext, rfl⟩

/-- The fragment of a stylesheet lies beside it, has the same stem and the extension `md`, and is no
stylesheet. Two stylesheets have the same fragment exactly if they are twins, that is, if one of them
is at most the `.scss` and the other the `.sass` of the same name. -/
theorem fragmentPath_twins {p : Path} (stylesheet : p.isStylesheet = true)
    (stemmed : p.stem ≠ some ['.']) :
    Twins (fragmentPath p) p ∧ (fragmentPath p).extension = some "md".toList ∧
    (fragmentPath p).isStylesheet = false ∧
    ∀ q : Path, q.isStylesheet = true → q.stem ≠ some ['.'] →
      ((fragmentPath p).same (fragmentPath q) = true ↔ Twins p q) ∧
      (Twins p q ↔ ∃ dir stem, ∀ r ∈ [p, q], ∃ ext ∈ ["scss", "sass"],
        r.components = dir ++ [.name (stem ++ '.' :: String.toList ext)]) := by
  obtain ⟨ext, hext, front, stem, trail, hp, hdot⟩ :=
    exists_endsDotted_of_isStylesheet stylesheet stemmed
  have hfragment := fragmentPath_endsDotted hp stylesheet hdot
  refine ⟨(twins_iff hfragment hp).mpr ⟨rfl, rfl⟩, hfragment.extension, ?_, ?_⟩
  · rw [Path.isStylesheet, Path.hasExtension, Path.hasExtension, hfragment.extension]
    decide
  · intro q hstylesheet hstemmed
    obtain ⟨ext', hext', front', stem', trail', hq, hdot'⟩ :=
      exists_endsDotted_of_isStylesheet hstylesheet hstemmed
    have hfragment' := fragmentPath_endsDotted hq hstylesheet hdot'
    constructor
    · rw [same_iff_twins hfragment hfragment', twins_iff hfragment hfragment', twins_iff hp hq]
    · have hboth (P : Path → Prop) : (∀ r ∈ [p, q], P r) ↔ P p ∧ P q := by
        rw [List.forall_mem_cons, List.forall_mem_singleton]
      simp only [hboth, exists_components_iff hp hext, exists_components_iff hq hext',
        twins_iff hp hq]
      constructor
      · rintro ⟨hdir, hstem⟩
        exact ⟨_, _, ⟨rfl, rfl⟩, hdir.symm, hstem.symm⟩
      · rintro ⟨dir, stem, ⟨rfl, rfl⟩, hdir, hstem⟩
        exact ⟨hdir.symm, hstem.symm⟩

/-- Separators trail one stylesheet, and both have dots in front and inside of their names. -/
theorem fragmentPath_theme :
    Path.isStylesheet ⟨"v//.theme.dark.scss/./"⟩ = true ∧
    Path.isStylesheet ⟨"v/./.theme.dark.sass"⟩ = true ∧
    Path.stem ⟨"v//.theme.dark.scss/./"⟩ ≠ some ['.'] ∧
    fragmentPath ⟨"v//.theme.dark.scss/./"⟩ = ⟨"v//.theme.dark.md"⟩ ∧
    (fragmentPath ⟨"v//.theme.dark.scss/./"⟩).same (fragmentPath ⟨"v/./.theme.dark.sass"⟩) = true ∧
    Twins (fragmentPath ⟨"v//.theme.dark.scss/./"⟩) ⟨"v//.theme.dark.scss/./"⟩ := by
  have hscss : Path.isStylesheet ⟨"v//.theme.dark.scss/./"⟩ = true := by decide +kernel
  have hsass : Path.isStylesheet ⟨"v/./.theme.dark.sass"⟩ = true := by decide +kernel
  obtain ⟨hbeside, -, -, hsame⟩ := fragmentPath_twins hscss (by decide +kernel)
  obtain ⟨hiff, -⟩ := hsame _ hsass (by decide +kernel)
  have htwins : Twins ⟨"v//.theme.dark.scss/./"⟩ ⟨"v/./.theme.dark.sass"⟩ := by
    constructor <;> decide +kernel
  exact ⟨hscss, hsass, by decide +kernel, by decide +kernel, hiff.mpr htwins, hbeside⟩

end StyleGuide
