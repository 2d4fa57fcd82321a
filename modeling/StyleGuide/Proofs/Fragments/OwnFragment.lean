import StyleGuide.Proofs.Engine.Keeping
import StyleGuide.Proofs.Fragments.Verbatim
import StyleGuide.Proofs.Path.Extensions

/-!
# The fragment beside a stylesheet

The path of a fragment is read as a pattern, and a pattern need not match the text it is spelled
with. If it does, the search finds the file, and the text of the file is in the text of every page
with the stylesheet. A component with a bracket may match other names only, and then the file beside
the stylesheet is passed over.
-/

namespace StyleGuide

variable {glob : Glob} {d : Disk} {p : Path}

/-- The search for fragments finds the file beside a stylesheet, under some spelling, and the text
of the file is in the text of every page with the stylesheet. This is so whoever compiles, converts
and lays out, and whatever was asked for before. -/
structure Documents (glob : Glob) (d : Disk) (p : Path) : Prop where
  found : ∃ q ∈ fragmentsBy glob d p, d.locate q = d.locate (fragmentPath p)
  told : ∀ {W : Type} (e : Engine W) (disk : W → Disk) (w : W) (demands : List Demand)
    (c : CompiledStylesheet) (text content : String), e.WorksOn glob disk → disk w = d →
    (e.answer .markdown (e.after (demands.map .demand) (.fresh w))).2.memo.compiled = some c →
    p ∈ c.tree.flatten → d.Holds (fragmentPath p) content →
    (e.answer .markdown (e.after (demands.map .demand) (.fresh w))).1 = .ok (.text text) →
    content.toList <:+: text.toList

/-- What the search finds is in the text. -/
theorem documents_of_found
    (hfound : ∃ q ∈ fragmentsBy glob d p, d.locate q = d.locate (fragmentPath p)) :
    Documents glob d p := by
  refine ⟨hfound, fun e disk w demands c text content works hdisk hcompiled hlisted hheld htold ↦ ?_⟩
  subst hdisk
  obtain ⟨outcome, hjoined, hanswer⟩ := Engine.exists_joined_markdown works demands w hcompiled
  rw [htold] at hanswer
  cases hjoined with
  | missing => cases hanswer
  | all texts asked held within =>
    cases hanswer
    obtain ⟨q, hq, hsame⟩ := hfound
    have hasked : q ∈ texts.map Prod.fst := asked ▸ List.mem_flatMap.mpr ⟨p, hlisted, hq⟩
    obtain ⟨t, ht, rfl⟩ := List.mem_map.mp hasked
    have htext : (disk w).readText t.1 = .ok content :=
      (Disk.readText_congr hsame).trans (Disk.readText_eq_ok.mpr hheld)
    have hcontent : t.2 = content :=
      Except.ok.inj ((Disk.readText_eq_ok.mpr (held t ht)).symm.trans htext)
    exact hcontent ▸ within t ht

theorem fragmentsBy_of_none (h : glob d (fragmentPath p) = none) :
    fragmentsBy glob d p = if d.isFile (fragmentPath p) then [fragmentPath p] else [] := by
  simp only [fragmentsBy, h]

theorem mem_fragmentsBy {entries : List (Except FileError Path)} {q : Path}
    (h : glob d (fragmentPath p) = some entries) :
    q ∈ fragmentsBy glob d p ↔ .ok q ∈ entries := by
  simp only [fragmentsBy, h, List.mem_mergeSort, List.mem_filterMap]
  constructor
  · rintro ⟨entry, hentry, hq⟩
    cases entry with
    | error cause => cases hq
    | ok q' =>
      cases hq
      exact hentry
  · exact fun hq ↦ ⟨.ok q, hq, rfl⟩

/-- A stylesheet is documented by the file beside it if the path of the file is no valid pattern or
matches itself as one, as every path without brackets does that has names only behind a `**`. -/
theorem documents_of_matches (glob : Glob) {d : Disk} {p : Path}
    (documented : glob.Documented d (fragmentPath p)) (file : d.isFile (fragmentPath p) = true)
    (matched : ¬ Pattern.Valid (fragmentPath p) ∨ Pattern.Plain (fragmentPath p) ∨
      Pattern.Matches (fragmentPath p) (fragmentPath p)) : Documents glob d p := by
  apply documents_of_found
  cases hglob : glob d (fragmentPath p) with
  | none =>
    rw [fragmentsBy_of_none hglob, if_pos file]
    exact ⟨_, List.mem_singleton_self _, rfl⟩
  | some entries =>
    have valid : Pattern.Valid (fragmentPath p) := documented.parses.mp (hglob ▸ rfl)
    have hself : Pattern.Matches (fragmentPath p) (fragmentPath p) := by
      rcases matched with invalid | plain | hself
      · exact absurd valid invalid
      · exact plain.matches_self valid
      · exact hself
    obtain ⟨q, hq, hsame⟩ := documented.complete entries hglob _ hself (Disk.contains_of_isFile file)
    exact ⟨q, (mem_fragmentsBy hglob).mpr hq, hsame⟩

theorem documented_walk_fragmentPath (wellFormed : d.WellFormed) (p : Path) :
    Glob.walk.Documented d (fragmentPath p) :=
  Glob.documented_walk wellFormed
    (Pattern.getLast?_components.trans_ne (getLast?_segments_fragmentPath p))

/-- A disk with a fragment beside a stylesheet, in a directory whose name has a star. -/
def starredDisk : Disk where
  entries := [(["a*".toList], .directory), (["b.scss".toList, "a*".toList], .file "".toUTF8),
    (["b.md".toList, "a*".toList], .file "# B".toUTF8)]
  workingDirectory := []

theorem wellFormed_starredDisk : starredDisk.WellFormed :=
  ⟨rfl, List.forall_mem_cons.mpr ⟨⟨_, [], rfl, by decide, rfl⟩, List.forall_mem_cons.mpr
    ⟨⟨_, ["a*".toList], rfl, by decide, rfl⟩,
      List.forall_mem_singleton.mpr ⟨_, ["a*".toList], rfl, by decide, rfl⟩⟩⟩⟩

/-- The fragment is found, and a page that has listed its files has the text of it. -/
theorem documents_starredDisk :
    Glob.walk.Documented starredDisk (fragmentPath ⟨"a*/b.scss"⟩) ∧
      starredDisk.isFile (fragmentPath ⟨"a*/b.scss"⟩) = true ∧
      Documents .walk starredDisk ⟨"a*/b.scss"⟩ ∧
      ∃ text, ((Engine.ofBlank ⟨"a*/b.scss"⟩).answer .markdown ((Engine.ofBlank ⟨"a*/b.scss"⟩).after
        ([.files].map .demand) (.fresh starredDisk))).1 = .ok (.text text) ∧
        "# B".toList <:+: text.toList := by
  have documented := documented_walk_fragmentPath wellFormed_starredDisk ⟨"a*/b.scss"⟩
  have file : starredDisk.isFile (fragmentPath ⟨"a*/b.scss"⟩) = true := by decide +kernel
  have plain : Pattern.Plain (fragmentPath ⟨"a*/b.scss"⟩) :=
    ⟨by decide +kernel, by decide +kernel, by decide +kernel, by decide +kernel⟩
  have documents := documents_of_matches .walk documented file (.inr (.inl plain))
  have heldText : starredDisk.Holds (fragmentPath ⟨"a*/b.scss"⟩) "# B" :=
    Disk.readText_eq_ok.mp (by decide +kernel)
  have hstylesheets : ((Engine.ofBlank ⟨"a*/b.scss"⟩).answer .markdown
      ((Engine.ofBlank ⟨"a*/b.scss"⟩).after ([.files].map .demand)
        (.fresh starredDisk))).2.memo.compiled.map (·.tree.flatten) = some [⟨"a*/b.scss"⟩] := by
    decide +kernel
  obtain ⟨c, hcompiled, hflatten⟩ := Option.map_eq_some_iff.mp hstylesheets
  have htold : ((Engine.ofBlank ⟨"a*/b.scss"⟩).answer .markdown ((Engine.ofBlank ⟨"a*/b.scss"⟩).after
      ([.files].map .demand) (.fresh starredDisk))).1 = .ok (.text "# B") := by decide +kernel
  exact ⟨documented, file, documents, "# B", htold, documents.told (.ofBlank ⟨"a*/b.scss"⟩) id
    starredDisk [.files] c "# B" "# B" (Engine.worksOn_ofBlank _) rfl hcompiled
    (hflatten ▸ List.mem_singleton_self _) heldText htold⟩

def bracketedDisk : Disk where
  entries := [(["a[1].scss".toList], .file "".toUTF8), (["a[1].md".toList], .file "# A".toUTF8)]
  workingDirectory := []

theorem wellFormed_bracketedDisk : bracketedDisk.WellFormed :=
  ⟨rfl, List.forall_mem_cons.mpr ⟨⟨_, [], rfl, by decide, rfl⟩,
    List.forall_mem_singleton.mpr ⟨_, [], rfl, by decide, rfl⟩⟩⟩

/-- As a pattern, the name stands for `a1.md`. -/
theorem undocumented_bracketedDisk :
    Glob.walk.Documented bracketedDisk (fragmentPath ⟨"a[1].scss"⟩) ∧
      bracketedDisk.isFile (fragmentPath ⟨"a[1].scss"⟩) = true ∧
      ¬ Documents .walk bracketedDisk ⟨"a[1].scss"⟩ := by
  have hnone : fragmentsBy .walk bracketedDisk ⟨"a[1].scss"⟩ = [] := by decide +kernel
  refine ⟨documented_walk_fragmentPath wellFormed_bracketedDisk _, by decide +kernel, fun h ↦ ?_⟩
  obtain ⟨q, hq, -⟩ := h.found
  rw [hnone] at hq
  cases hq

end StyleGuide
