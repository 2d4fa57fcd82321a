import StyleGuide.Proofs.Fragments.OwnFragment

/-!
# Entries that are found

A search for a pattern lists whatever is there, and only the search for a path that is no pattern
asks whether it is a file. The two agree unless a directory has the path, and a directory is found
to no use: it cannot be read, so there is no text for any page with the stylesheet.
-/

namespace StyleGuide

variable {glob : Glob} {d : Disk} {p : Path}

/-- A stylesheet without pattern characters in its path, and with a fragment path that is short
enough to be looked up. -/
structure Unpatterned (p : Path) : Prop where
  verbatim : Pattern.Verbatim p.text.toList
  short : byteCount (fragmentPath p).text.toList ≤ Disk.longestPath
  spelled : Pattern.Spelled (fragmentPath p)

theorem Unpatterned.verbatim_fragmentPath (unpatterned : Unpatterned p) :
    Pattern.Verbatim (fragmentPath p).text.toList := by
  intro c hc
  rcases mem_of_mem_fragmentPath hc with hc | hc
  · exact unpatterned.verbatim c hc
  · have hextension : Pattern.Verbatim ['.', 'm', 'd'] := by decide
    exact hextension c hc

/-- No page with the stylesheet has a text, whoever compiles, converts and lays out, and whatever
was asked for before: something is read that has none. -/
def Refuses (glob : Glob) (d : Disk) (p : Path) : Prop :=
  ∀ (W : Type) (e : Engine W) (disk : W → Disk) (w : W) (demands : List Demand)
    (c : CompiledStylesheet), e.WorksOn glob disk → disk w = d →
    (e.answer .markdown (e.after (demands.map .demand) (.fresh w))).2.memo.compiled = some c →
    p ∈ c.tree.flatten →
    ∃ q cause, (¬ ∃ text, d.Holds q text) ∧
      (e.answer .markdown (e.after (demands.map .demand) (.fresh w))).1 =
        .error (.missingFragment ⟨q, cause⟩)

theorem refuses_of_found {q : Path} (hq : q ∈ fragmentsBy glob d p) (hfile : d.isFile q = false) :
    Refuses glob d p := by
  intro W e disk w demands c works hdisk hcompiled hlisted
  subst hdisk
  obtain ⟨outcome, hjoined, hanswer⟩ := Engine.exists_joined_markdown works demands w hcompiled
  cases hjoined with
  | missing before q cause after asked held lacks => exact ⟨q, _, lacks, hanswer⟩
  | all texts asked held =>
    have hasked : q ∈ texts.map Prod.fst := asked ▸ List.mem_flatMap.mpr ⟨p, hlisted, hq⟩
    obtain ⟨t, ht, rfl⟩ := List.mem_map.mp hasked
    cases hfile.symm.trans (Disk.isFile_of_holds (held t ht))

theorem existing_of_mem_fragmentsBy (documented : glob.Documented d (fragmentPath p)) {q : Path}
    (hq : q ∈ fragmentsBy glob d p) : Pattern.Existing d q := by
  cases hglob : glob d (fragmentPath p) with
  | none =>
    rw [fragmentsBy_of_none hglob] at hq
    split at hq
    · next hfile => exact List.mem_singleton.mp hq ▸ .inl (Disk.contains_of_isFile hfile)
    · cases hq
  | some entries => exact documented.existing entries hglob q ((mem_fragmentsBy hglob).mp hq)

/-- One entry at most is found under a path without pattern characters. -/
theorem fragmentsBy_of_unpatterned (documented : glob.Documented d (fragmentPath p))
    (unpatterned : Unpatterned p) : ∃ q, d.locate q = d.locate (fragmentPath p) ∧
      fragmentsBy glob d p = if d.contains (fragmentPath p) then [q] else [] := by
  have verbatim := unpatterned.verbatim_fragmentPath
  have valid := Pattern.valid_of_verbatim verbatim
  obtain ⟨entries, hglob⟩ := Option.isSome_iff_exists.mp (documented.parses.mpr valid)
  obtain ⟨hlength, hsame⟩ :=
    documented.literal entries hglob verbatim unpatterned.short unpatterned.spelled
  have hshort : (fragmentsBy glob d p).length ≤ 1 := by
    simp only [fragmentsBy, hglob, List.length_mergeSort]
    exact (List.length_filterMap_le ..).trans hlength
  by_cases present : d.contains (fragmentPath p) = true
  · have hself : Pattern.Matches (fragmentPath p) (fragmentPath p) :=
      (Pattern.plain_of_verbatim verbatim unpatterned.spelled).matches_self valid
    obtain ⟨q, hq, hleads⟩ := documented.complete entries hglob _ hself present
    have hmem := (mem_fragmentsBy hglob).mpr hq
    refine ⟨q, hleads, ?_⟩
    rw [if_pos present]
    obtain ⟨q', hsingle⟩ := List.length_eq_one_iff.mp
      (Nat.le_antisymm hshort (List.length_pos_of_mem hmem))
    rw [hsingle] at hmem ⊢
    rw [List.mem_singleton.mp hmem]
  · refine ⟨fragmentPath p, rfl, ?_⟩
    rw [if_neg present]
    refine List.eq_nil_iff_forall_not_mem.mpr fun q hq ↦ present ?_
    obtain ⟨hcontains, hleads⟩ := hsame q ((mem_fragmentsBy hglob).mp hq)
    obtain ⟨loc, node, hloc, hnode⟩ := Disk.exists_locate_of_contains hcontains
    exact Disk.contains_of_locate (hleads.symm.trans hloc) hnode

/-- Whatever is found is an entry of the disk. A path that is no pattern finds the file of this name
only, and a path without pattern characters finds what is there, of whatever kind. What is no file
leaves every page with the stylesheet without a text. -/
theorem fragments_of_documented (glob : Glob) {d : Disk} {p : Path}
    (documented : glob.Documented d (fragmentPath p)) :
    (∀ q ∈ fragmentsBy glob d p, d.isFile q = true ∨ d.isDirectory q = true ∨
      Disk.longestPath < byteCount q.text.toList) ∧
    (¬ Pattern.Valid (fragmentPath p) → fragmentsBy glob d p =
      if d.isFile (fragmentPath p) then [fragmentPath p] else []) ∧
    (Unpatterned p → ∃ q, d.locate q = d.locate (fragmentPath p) ∧ fragmentsBy glob d p =
      if d.contains (fragmentPath p) then [q] else []) ∧
    ∀ q ∈ fragmentsBy glob d p, d.isFile q = false → Refuses glob d p := by
  refine ⟨fun q hq ↦ ?_, fun invalid ↦ ?_, fragmentsBy_of_unpatterned documented,
    fun q hq hfile ↦ refuses_of_found hq hfile⟩
  · rcases existing_of_mem_fragmentsBy documented hq with present | hlong
    · exact (Disk.isFile_or_isDirectory present).imp_right .inl
    · exact .inr (.inr hlong)
  · apply fragmentsBy_of_none
    exact Option.not_isSome_iff_eq_none.mp (mt documented.parses.mp invalid)

def shadowedDisk : Disk where
  entries := [(["a.scss".toList], .file "".toUTF8), (["a.md".toList], .directory)]
  workingDirectory := []

theorem wellFormed_shadowedDisk : shadowedDisk.WellFormed :=
  ⟨rfl, List.forall_mem_cons.mpr ⟨⟨_, [], rfl, by decide, rfl⟩,
    List.forall_mem_singleton.mpr ⟨_, [], rfl, by decide, rfl⟩⟩⟩

/-- What is found is the directory, and a page that has listed its files has no text. -/
theorem fragments_shadowedDisk :
    Glob.walk.Documented shadowedDisk (fragmentPath ⟨"a.scss"⟩) ∧ Unpatterned ⟨"a.scss"⟩ ∧
      (∃ q, shadowedDisk.locate q = shadowedDisk.locate (fragmentPath ⟨"a.scss"⟩) ∧
        fragmentsBy .walk shadowedDisk ⟨"a.scss"⟩ = [q]) ∧
      ∃ q cause, ((Engine.ofBlank ⟨"a.scss"⟩).answer .markdown ((Engine.ofBlank ⟨"a.scss"⟩).after
        ([.files].map .demand) (.fresh shadowedDisk))).1 = .error (.missingFragment ⟨q, cause⟩) := by
  have documented := documented_walk_fragmentPath wellFormed_shadowedDisk ⟨"a.scss"⟩
  have unpatterned : Unpatterned ⟨"a.scss"⟩ :=
    ⟨by decide +kernel, by decide +kernel, by decide +kernel⟩
  obtain ⟨-, -, hliteral, hrefuses⟩ := fragments_of_documented .walk documented
  obtain ⟨q, leads, hfound⟩ := hliteral unpatterned
  have hsingle : fragmentsBy .walk shadowedDisk ⟨"a.scss"⟩ = [q] :=
    hfound.trans (if_pos (by decide +kernel))
  have hfile : shadowedDisk.isFile q = false := by
    rw [Disk.isFile_congr leads]
    decide +kernel
  have refuses := hrefuses q (hsingle ▸ List.mem_singleton_self q) hfile
  have hstylesheets : ((Engine.ofBlank ⟨"a.scss"⟩).answer .markdown ((Engine.ofBlank ⟨"a.scss"⟩).after
      ([.files].map .demand) (.fresh shadowedDisk))).2.memo.compiled.map (·.tree.flatten) =
      some [⟨"a.scss"⟩] := by decide +kernel
  obtain ⟨c, hcompiled, hflatten⟩ := Option.map_eq_some_iff.mp hstylesheets
  obtain ⟨p, cause, -, hanswer⟩ := refuses Disk (.ofBlank ⟨"a.scss"⟩) id shadowedDisk [.files] c
    (Engine.worksOn_ofBlank _) rfl hcompiled (hflatten ▸ List.mem_singleton_self _)
  exact ⟨documented, unpatterned, ⟨q, leads, hsingle⟩, p, cause, hanswer⟩

/-- A directory is found, and nothing can be made of it. -/
theorem directory_found_shadowedDisk :
    Glob.walk.Documented shadowedDisk (fragmentPath ⟨"a.scss"⟩) ∧
      fragmentsBy .walk shadowedDisk ⟨"a.scss"⟩ = [⟨"a.md"⟩] ∧
      shadowedDisk.isFile ⟨"a.md"⟩ = false ∧ shadowedDisk.isDirectory ⟨"a.md"⟩ = true ∧
      Refuses .walk shadowedDisk ⟨"a.scss"⟩ := by
  have hfound : fragmentsBy .walk shadowedDisk ⟨"a.scss"⟩ = [⟨"a.md"⟩] := by decide +kernel
  have hfile : shadowedDisk.isFile ⟨"a.md"⟩ = false := by decide +kernel
  refine ⟨documented_walk_fragmentPath wellFormed_shadowedDisk _, hfound, hfile, by decide +kernel,
    refuses_of_found ?_ hfile⟩
  rw [hfound]
  exact List.mem_singleton_self _

end StyleGuide
