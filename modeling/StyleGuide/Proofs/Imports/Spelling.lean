import Mathlib.Data.List.Forall2
import Mathlib.Data.Option.Basic
import StyleGuide.Imports.Scan
import StyleGuide.Proofs.Disk.Spelling

/-!
# Spellings of imports

A table looks paths up by their components. So an import means the same file from a directory
however the directory is spelled, and a file holds the same imports however its path is spelled.
What is found may be spelled differently; its components are the same.
-/

namespace StyleGuide.Imports

/-! ## Candidates -/

section Candidates

/-- Paths of which one relation holds if the directories in front have the same components. -/
def Joined (R : Path → Path → Prop) : Prop :=
  ∀ p q : Path, p.components = q.components → ∀ r, R (p.join r) (q.join r)

variable {R : Path → Path → Prop} (joined : Joined R) {p q : Path}
  (h : p.components = q.components)

include joined h

theorem besides_rel (name : List Char) : List.Forall₂ R (besides p name) (besides q name) :=
  .cons (Path.withFileName_rel h joined name) (.cons (Path.withFileName_rel h joined _) .nil)

theorem indexFiles_rel (ext : String) : List.Forall₂ R (indexFiles p ext) (indexFiles q ext) :=
  .cons (joined p q h _) (.cons (joined p q h _) .nil)

theorem candidates_rel (hpq : R p q) : List.Forall₂ R (candidates p) (candidates q) := by
  have hextension : p.hasExtension = q.hasExtension := funext (Path.hasExtension_congr h)
  unfold candidates
  rw [Path.fileName_congr h, hextension]
  split
  · exact .nil
  · split
    · exact .cons hpq (.cons (Path.withFileName_rel h joined _) .nil)
    · have htried : List.Forall₂ Eq triedExtensions triedExtensions :=
        List.forall₂_same.mpr fun _ _ ↦ rfl
      refine List.rel_append (List.rel_flatMap htried fun ext _ hext ↦ ?_)
        (List.rel_flatMap htried fun ext _ hext ↦ ?_)
      · exact hext ▸ besides_rel joined h _
      · exact hext ▸ indexFiles_rel joined h ext

end Candidates

/-- From directories that have the same components behind a leading `.`, related files are
tried. -/
theorem allCandidates_rel {R : Path → Path → Prop} (joined : Joined R) {dirs dirs' : List Path}
    (h : List.Forall₂ (fun d d' ↦ d.withoutHere.components = d'.withoutHere.components) dirs dirs')
    (target : String) :
    List.Forall₂ R (allCandidates dirs target) (allCandidates dirs' target) :=
  List.rel_flatMap h fun _ _ hd ↦
    candidates_rel joined (Path.join_congr hd ⟨target⟩) (joined _ _ hd ⟨target⟩)

/-! ## Files -/

/-- A search in a list comes to an element: all elements before are passed over. -/
def Tries {α : Type} (test : α → Bool) (as : List α) (a : α) : Prop :=
  ∃ before after, as = before ++ a :: after ∧ ∀ b ∈ before, test b = false

/-- A test that tells related elements apart at no place it comes to finds related ones. -/
theorem find?_rel {α : Type} {R : α → α → Prop} {test : α → Bool} {as bs : List α}
    (h : List.Forall₂ R as bs)
    (htest : ∀ a b, Tries test as a → Tries test bs b → R a b → test a = test b) :
    Option.Rel R (as.find? test) (bs.find? test) := by
  induction h with
  | nil => exact .none
  | @cons a b as bs hab _ ih =>
    have hhead : test a = test b := htest a b ⟨[], as, rfl, nofun⟩ ⟨[], bs, rfl, nofun⟩ hab
    rw [List.find?_cons, List.find?_cons, ← hhead]
    cases ha : test a with
    | true => exact .some hab
    | false =>
      have behind {c : α} {cs : List α} (hc : test c = false) {x : α} (hx : Tries test cs x) :
          Tries test (c :: cs) x := by
        obtain ⟨before, after, rfl, hbefore⟩ := hx
        exact ⟨c :: before, after, rfl, List.forall_mem_cons.mpr ⟨hc, hbefore⟩⟩
      exact ih fun x y hx hy ↦ htest x y (behind ha hx) (behind (hhead ▸ ha) hy)

theorem exists_of_rel_some {α : Type} {R : α → α → Prop} {a : α} {outcome : Option α}
    (h : Option.Rel R (some a) outcome) : ∃ b, outcome = some b ∧ R a b := by
  cases h with
  | some hab => exact ⟨_, rfl, hab⟩

theorem eq_none_of_rel_none {α : Type} {R : α → α → Prop} {outcome : Option α}
    (h : Option.Rel R none outcome) : outcome = none := by
  cases h
  rfl

variable (t : FileTable) {p q dir dir' : Path}

/-- An import that means a file from a directory means it however the directory is spelled. -/
theorem resolve_of_congr (h : dir.components = dir'.components) {loadPaths : List Path}
    {target : String} (found : resolve t.toFileSystem (dir :: loadPaths) target = some p) :
    ∃ p', resolve t.toFileSystem (dir' :: loadPaths) target = some p' ∧
      p'.components = p.components := by
  have hdirs : List.Forall₂ (fun d d' ↦ d.withoutHere.components = d'.withoutHere.components)
      (dir :: loadPaths) (dir' :: loadPaths) :=
    .cons (Path.withoutHere_congr h) (List.forall₂_same.mpr fun _ _ ↦ rfl)
  have hfind : Option.Rel (fun p q ↦ p.components = q.components)
      (resolve t.toFileSystem (dir :: loadPaths) target)
      (resolve t.toFileSystem (dir' :: loadPaths) target) :=
    find?_rel (allCandidates_rel (fun _ _ ↦ Path.join_congr) hdirs target)
      fun a b _ _ hab ↦ congrArg Option.isSome (t.find?_congr hab)
  rw [found] at hfind
  obtain ⟨p', found', hp⟩ := exists_of_rel_some hfind
  exact ⟨p', found', hp.symm⟩

theorem readStylesheet_eq_ok {source : String} :
    readStylesheet t.toFileSystem p = .ok source ↔
      ∃ bytes, t.find? p = some (.content bytes) ∧ Text.Utf8.decodeLossy bytes = source := by
  have hread : t.toFileSystem.read p = t.read p := rfl
  rw [readStylesheet, hread, FileTable.read]
  cases t.find? p with
  | none => simp
  | some entry => cases entry <;> simp

theorem readStylesheet_congr (h : p.components = q.components) {source : String} :
    readStylesheet t.toFileSystem p = .ok source ↔
      readStylesheet t.toFileSystem q = .ok source := by
  rw [readStylesheet_eq_ok, readStylesheet_eq_ok, t.find?_congr h]

theorem ofPath_congr (h : p.components = q.components) : Syntax.ofPath p = Syntax.ofPath q := by
  rw [Syntax.ofPath, Syntax.ofPath, Path.hasExtension_congr h]

theorem dir_ofFile_congr (h : p.components = q.components) :
    (Importer.ofFile p).dir.components = (Importer.ofFile q).dir.components :=
  Path.parentD_congr h rfl

end StyleGuide.Imports
