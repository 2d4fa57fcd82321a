import StyleGuide.Proofs.Disk.Location

/-!
# Walking a path

A path leads somewhere if it is sound as a text and if every segment of it can be stepped over. The
steps only go on while they stand in directories, so what a walk passes is on the disk.
-/

namespace StyleGuide

theorem byteCount_append (cs cs' : List Char) :
    byteCount (cs ++ cs') = byteCount cs + byteCount cs' := by
  induction cs with
  | nil => simp [byteCount]
  | cons c cs ih =>
    simp only [byteCount, List.cons_append, List.foldr_cons] at ih ⊢
    rw [ih, Nat.add_assoc]

theorem byteCount_slash (cs : List Char) : byteCount ('/' :: cs) = 1 + byteCount cs :=
  rfl

theorem byteCount_eq_zero_iff {cs : List Char} : byteCount cs = 0 ↔ cs = [] := by
  constructor
  · intro h
    have hlength := length_le_byteCount cs
    rw [h] at hlength
    exact List.eq_nil_of_length_eq_zero (Nat.le_zero.mp hlength)
  · rintro rfl
    rfl

/-- A text that may be looked up as a path. -/
structure Path.Sound (p : Path) : Prop where
  noNul : '\x00' ∉ p.text.toList
  nonempty : p.text.toList ≠ []
  short : byteCount p.text.toList ≤ Disk.longestPath

namespace Disk

variable {d : Disk} {p : Path} {loc loc' : Location}

theorem locate_of_sound (hsound : p.Sound) :
    d.locate p = (Path.segments p.text.toList).foldlM d.step (d.origin p) := by
  have hnul : ¬ p.text.toList.contains '\x00' = true :=
    fun hmem ↦ hsound.noNul (List.contains_iff_mem.mp hmem)
  rw [locate, if_neg hnul, if_neg (mt byteCount_eq_zero_iff.mp hsound.nonempty),
    if_neg (Nat.not_lt.mpr hsound.short)]
  rfl

theorem locate_eq_ok_iff : d.locate p = .ok loc ↔
    p.Sound ∧ (Path.segments p.text.toList).foldlM d.step (d.origin p) = .ok loc := by
  constructor
  · intro h
    refine ⟨⟨fun hnul ↦ ?_, fun hempty ↦ ?_, ?_⟩, foldlM_of_locate h⟩
    · rw [locate, if_pos (List.contains_iff_mem.mpr hnul)] at h
      cases h
    · rw [locate, hempty] at h
      cases h
    · refine Nat.le_of_not_lt fun hlong ↦ ?_
      have hlocate : ∃ cause, d.locate p = .error cause := by
        simp only [locate, hlong, if_true]
        split
        · exact ⟨_, rfl⟩
        · split <;> exact ⟨_, rfl⟩
      obtain ⟨cause, hcause⟩ := hlocate
      cases h.symm.trans hcause
  · rintro ⟨hsound, h⟩
    exact (locate_of_sound hsound).trans h

theorem directory_of_step {segment : List Char} (h : d.step loc segment = .ok loc') :
    d.node? loc = some .directory := by
  unfold step at h
  split at h
  · cases h
  · cases h
  · next hnode => exact hnode

theorem foldlM_append_eq_ok {segments more : List (List Char)} :
    (segments ++ more).foldlM d.step loc = .ok loc' ↔
      ∃ mid, segments.foldlM d.step loc = .ok mid ∧ more.foldlM d.step mid = .ok loc' := by
  rw [List.foldlM_append]
  cases segments.foldlM d.step loc with
  | error cause => simp [bind, Except.bind]
  | ok mid => simp [bind, Except.bind]

theorem foldlM_singleton (segment : List Char) :
    [segment].foldlM d.step loc = d.step loc segment := by
  rw [List.foldlM_cons]
  cases d.step loc segment <;> rfl

theorem foldlM_cons_eq_ok {segment : List Char} {segments : List (List Char)} :
    (segment :: segments).foldlM d.step loc = .ok loc' ↔
      ∃ mid, d.step loc segment = .ok mid ∧ segments.foldlM d.step mid = .ok loc' := by
  rw [← List.singleton_append, foldlM_append_eq_ok, foldlM_singleton]

/-- A walk that goes anywhere starts in a directory. -/
theorem directory_of_foldlM {segment : List Char} {segments : List (List Char)}
    (h : (segment :: segments).foldlM d.step loc = .ok loc') : d.node? loc = some .directory := by
  obtain ⟨mid, hstep, -⟩ := foldlM_cons_eq_ok.mp h
  exact directory_of_step hstep

/-- Where a walk starts there is something if there is something where it ends. -/
theorem exists_node?_of_foldlM {segments : List (List Char)} {node : DiskNode}
    (h : segments.foldlM d.step loc = .ok loc') (hnode : d.node? loc' = some node) :
    ∃ node, d.node? loc = some node := by
  cases segments with
  | nil =>
    cases h
    exact ⟨node, hnode⟩
  | cons segment segments => exact ⟨.directory, directory_of_foldlM h⟩

/-- The path of a file ends in a component. -/
theorem ofSegment_ne_none_of_foldlM {segments : List (List Char)} {segment : List Char}
    {bytes : ByteArray} (h : segments.foldlM d.step loc = .ok loc')
    (hnode : d.node? loc' = some (.file bytes)) (hlast : segments.getLast? = some segment) :
    Path.Component.ofSegment segment ≠ none := by
  intro hnone
  obtain ⟨lead, rfl⟩ := List.getLast?_eq_some_iff.mp hlast
  obtain ⟨mid, -, hlast⟩ := foldlM_append_eq_ok.mp h
  have hstep : d.step mid segment = .ok loc' := (foldlM_singleton segment).symm.trans hlast
  have hmid : loc' = mid := by
    have heq := step_eq_ok hstep
    rwa [hnone] at heq
  cases hnode.symm.trans (hmid ▸ directory_of_step hstep)

theorem lookUp_of_locate {node : DiskNode} (h : d.locate p = .ok loc)
    (hnode : d.node? loc = some node) : d.lookUp p = .ok node := by
  simp [lookUp, h, hnode, bind, Except.bind]

theorem isDirectory_of_locate (h : d.locate p = .ok loc) (hnode : d.node? loc = some .directory) :
    d.isDirectory p = true := by
  rw [isDirectory, lookUp_of_locate h hnode]

theorem contains_of_locate {node : DiskNode} (h : d.locate p = .ok loc)
    (hnode : d.node? loc = some node) : d.contains p = true := by
  rw [contains, lookUp_of_locate h hnode]

theorem exists_locate_of_contains (h : d.contains p = true) :
    ∃ loc node, d.locate p = .ok loc ∧ d.node? loc = some node := by
  unfold contains lookUp at h
  cases hloc : d.locate p with
  | error cause => simp [hloc, bind, Except.bind] at h
  | ok loc =>
    cases hnode : d.node? loc with
    | none => simp [hloc, hnode, bind, Except.bind] at h
    | some node => exact ⟨loc, node, rfl, hnode⟩

/-- A file is where its path leads. -/
theorem exists_file_of_isFile (h : d.isFile p = true) :
    ∃ loc bytes, d.locate p = .ok loc ∧ d.node? loc = some (.file bytes) := by
  obtain ⟨loc, hloc⟩ := exists_locate_of_isFile h
  cases hnode : d.node? loc with
  | none => simp [isFile, lookUp, hloc, hnode, bind, Except.bind] at h
  | some node =>
    rw [isFile, lookUp_of_locate hloc hnode] at h
    cases node with
    | file bytes => exact ⟨loc, bytes, hloc, hnode⟩
    | directory => cases h

theorem contains_of_isFile (h : d.isFile p = true) : d.contains p = true := by
  obtain ⟨loc, bytes, hloc, hnode⟩ := exists_file_of_isFile h
  exact contains_of_locate hloc hnode

/-- A directory is where its path leads. -/
theorem exists_directory_of_isDirectory (h : d.isDirectory p = true) :
    ∃ loc, d.locate p = .ok loc ∧ d.node? loc = some .directory := by
  cases hloc : d.locate p with
  | error cause => simp [isDirectory, lookUp, hloc, bind, Except.bind] at h
  | ok loc =>
    cases hnode : d.node? loc with
    | none => simp [isDirectory, lookUp, hloc, hnode, bind, Except.bind] at h
    | some node =>
      rw [isDirectory, lookUp_of_locate hloc hnode] at h
      cases node with
      | directory => exact ⟨loc, rfl, hnode⟩
      | file bytes => cases h

theorem contains_of_isDirectory (h : d.isDirectory p = true) : d.contains p = true := by
  obtain ⟨loc, hloc, hnode⟩ := exists_directory_of_isDirectory h
  exact contains_of_locate hloc hnode

/-- Where something is, there is a file or a directory. -/
theorem isFile_or_isDirectory (h : d.contains p = true) :
    d.isFile p = true ∨ d.isDirectory p = true := by
  unfold contains at h
  unfold isFile isDirectory
  cases hlookUp : d.lookUp p with
  | error cause =>
    rw [hlookUp] at h
    cases h
  | ok node =>
    cases node with
    | file bytes => exact .inl rfl
    | directory => exact .inr rfl

/-- Paths that lead to one location are one to whoever reads. -/
theorem readText_congr {q : Path} (h : d.locate p = d.locate q) : d.readText p = d.readText q := by
  rw [readText, readText, read, read, lookUp, lookUp, h]

theorem isFile_congr {q : Path} (h : d.locate p = d.locate q) : d.isFile p = d.isFile q := by
  rw [isFile, isFile, lookUp, lookUp, h]

/-- What is on the disk below a location. -/
theorem mem_below {names : List (List Char)} {node : DiskNode} (hnames : names ≠ [])
    (hnode : d.node? (names ++ loc) = some node) : names ++ loc ∈ d.below loc := by
  obtain ⟨name, names, rfl⟩ := List.exists_cons_of_ne_nil hnames
  rw [List.cons_append, node?, Option.map_eq_some_iff] at hnode
  · obtain ⟨entry, hfind, -⟩ := hnode
    have hentry : entry.1 = name :: (names ++ loc) := by simpa using List.find?_some hfind
    have hmem : name :: (names ++ loc) ∈ d.entries.map (·.1) :=
      List.mem_map.mpr ⟨entry, List.mem_of_find?_eq_some hfind, hentry⟩
    refine List.mem_filter.mpr ⟨hmem, ?_⟩
    rw [Bool.and_eq_true, decide_eq_true_iff, List.isSuffixOf_iff_suffix, List.length_append,
      List.length_cons]
    exact ⟨by omega, List.suffix_append _ _⟩
  · exact fun h ↦ List.cons_ne_nil _ _ h

end Disk

end StyleGuide
