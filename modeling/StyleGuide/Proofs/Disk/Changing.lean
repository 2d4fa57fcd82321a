import Mathlib.Data.List.DropRight
import Mathlib.Logic.Relation
import StyleGuide.Proofs.Disk.Walking

/-!
# Changing a disk

A change puts one node at one location, where nothing or a file has been, so every directory stays
and every walk still ends where it did. From this it follows what creating nested directories and
writing a file do to everything else on the disk, whether or not they succeed.
-/

namespace StyleGuide.Disk

variable {d d' : Disk} {p : Path} {loc other : Location} {node : DiskNode}

/-! ## Putting a node -/

theorem node?_put (h : loc ≠ []) : (d.put loc node).node? loc = some node := by
  rw [node?]
  · have hnone : (d.entries.filter (·.1 != loc)).find? (fun e ↦ e.1 == loc) = none := by
      simp
    simp only [put, List.find?_append, hnone]
    simp
  · exact h

theorem node?_put_of_ne (h : other ≠ loc) : (d.put loc node).node? other = d.node? other := by
  by_cases hroot : other = []
  · subst hroot
    rfl
  · rw [node?, node?]
    · have hsame : (d.entries.filter (·.1 != loc)).find? (fun e ↦ e.1 == other) =
          d.entries.find? fun e ↦ e.1 == other := by
        rw [List.find?_filter]
        congr 1
        funext e
        by_cases heq : e.1 = other
        · simp [heq, h]
        · simp [heq]
      simp only [put, List.find?_append, hsame]
      simp [Ne.symm h]
    · exact hroot
    · exact hroot

/-- Every directory of one disk is one of the other, and both are walked from the same place. -/
structure Keeps (d d' : Disk) : Prop where
  workingDirectory : d'.workingDirectory = d.workingDirectory
  directories : ∀ loc, d.node? loc = some .directory → d'.node? loc = some .directory

theorem keeps_put (h : d.node? loc ≠ some .directory) : Keeps d (d.put loc node) := by
  refine ⟨rfl, fun other hother ↦ ?_⟩
  have hne : other ≠ loc := by
    rintro rfl
    exact h hother
  rw [node?_put_of_ne hne]
  exact hother

namespace Keeps

theorem trans {d'' : Disk} (h : Keeps d d') (h' : Keeps d' d'') : Keeps d d'' :=
  ⟨h'.workingDirectory.trans h.workingDirectory,
    fun loc hloc ↦ h'.directories loc (h.directories loc hloc)⟩

theorem step (h : Keeps d d') {segment : List Char} (hstep : d.step loc segment = .ok other) :
    d'.step loc segment = .ok other := by
  have hdirectory := directory_of_step hstep
  rw [Disk.step, hdirectory] at hstep
  rw [Disk.step, h.directories loc hdirectory]
  exact hstep

theorem foldlM (h : Keeps d d') {segments : List (List Char)}
    (hwalk : segments.foldlM d.step loc = .ok other) :
    segments.foldlM d'.step loc = .ok other := by
  induction segments generalizing loc with
  | nil => exact hwalk
  | cons segment segments ih =>
    obtain ⟨mid, hstep, hrest⟩ := foldlM_cons_eq_ok.mp hwalk
    exact foldlM_cons_eq_ok.mpr ⟨mid, h.step hstep, ih hrest⟩

/-- A path still leads where it did. -/
theorem locate (h : Keeps d d') (hloc : d.locate p = .ok loc) : d'.locate p = .ok loc := by
  obtain ⟨hsound, hwalk⟩ := locate_eq_ok_iff.mp hloc
  refine locate_eq_ok_iff.mpr ⟨hsound, ?_⟩
  have horigin : d'.origin p = d.origin p := by
    rw [origin, origin, h.workingDirectory]
  rw [horigin]
  exact h.foldlM hwalk

end Keeps

/-! ## Separators at the end -/

theorem withoutTrailing_of_not_endsWithSeparator (h : endsWithSeparator p = false) :
    withoutTrailing p = p := by
  have hkept : p.text.toList.rdropWhile (· == '/') = p.text.toList := by
    refine List.rdropWhile_eq_self_iff.mpr fun hne hlast ↦ ?_
    rw [endsWithSeparator, List.getLast?_eq_getLast_of_ne_nil hne, beq_eq_false_iff_ne] at h
    exact h (congrArg some (beq_iff_eq.mp hlast))
  unfold List.rdropWhile at hkept
  unfold withoutTrailing
  rw [hkept]
  split
  · rfl
  · rw [String.ofList_toList]

/-- Nothing but separators is cut, and not everything. -/
theorem exists_trailing (hne : p.text.toList ≠ []) : ∃ trailing, (∀ c ∈ trailing, c = '/') ∧
    p.text.toList = (withoutTrailing p).text.toList ++ trailing ∧
    (withoutTrailing p).text.toList ≠ [] := by
  unfold withoutTrailing
  split
  · exact ⟨[], List.forall_mem_nil _, (List.append_nil _).symm, hne⟩
  · next hcut =>
    refine ⟨p.text.toList.rtakeWhile (· == '/'), fun c hc ↦ ?_, ?_, ?_⟩
    · have hslash : (c == '/') = true := List.mem_rtakeWhile_imp (p := (· == '/')) hc
      exact beq_iff_eq.mp hslash
    · rw [String.toList_ofList]
      exact (List.rdropWhile_append_rtakeWhile ..).symm
    · rw [String.toList_ofList]
      exact fun hnil ↦ hcut hnil

/-- Separators behind a text do not lead anywhere. -/
theorem foldlM_of_trailing {kept trailing : List Char} (htrailing : ∀ c ∈ trailing, c = '/')
    (hwalk : (Path.segments (kept ++ trailing)).foldlM d.step loc = .ok other) :
    (Path.segments kept).foldlM d.step loc = .ok other := by
  induction trailing using List.reverseRecOn with
  | nil => rwa [List.append_nil] at hwalk
  | append_singleton trailing c ih =>
    obtain rfl := htrailing c (by simp)
    rw [Path.segments, ← List.append_assoc, Text.splitAt_append_cons] at hwalk
    obtain ⟨mid, hmid, hlast⟩ := foldlM_append_eq_ok.mp hwalk
    have hstay : other = mid := step_eq_ok ((foldlM_singleton []).symm.trans hlast)
    exact ih (fun c hc ↦ htrailing c (List.mem_append_left _ hc)) (hstay ▸ hmid)

theorem locate_withoutTrailing (h : d.locate p = .ok loc) :
    d.locate (withoutTrailing p) = .ok loc := by
  obtain ⟨hsound, hwalk⟩ := locate_eq_ok_iff.mp h
  obtain ⟨trailing, htrailing, htext, hne⟩ := exists_trailing hsound.nonempty
  have horigin : d.origin (withoutTrailing p) = d.origin p := by
    unfold origin Path.isAbsolute
    rw [htext, List.head?_append_of_ne_nil _ hne]
  refine locate_eq_ok_iff.mpr ⟨⟨fun hnul ↦ hsound.noNul ?_, hne, ?_⟩, ?_⟩
  · rw [htext]
    exact List.mem_append_left _ hnul
  · have hshort := hsound.short
    rw [htext, byteCount_append] at hshort
    omega
  · rw [htext] at hwalk
    rw [horigin]
    exact foldlM_of_trailing htrailing hwalk

/-! ## Creating directories -/

theorem createDirectory_eq_ok (h : d.createDirectory p = .ok d') :
    ∃ loc, d.locate (withoutTrailing p) = .ok loc ∧ d.node? loc = none ∧
      d' = d.put loc .directory := by
  unfold createDirectory at h
  cases hloc : d.locate (withoutTrailing p) with
  | error cause =>
    rw [hloc] at h
    cases h
  | ok loc =>
    rw [hloc] at h
    dsimp only [bind, Except.bind] at h
    split at h
    · cases h
    · next hnone =>
      cases h
      exact ⟨loc, rfl, hnone, rfl⟩

/-- Some directories have been created where nothing was. -/
structure Grown (ps : List Path) (d d' : Disk) : Prop where
  keeps : Keeps d d'
  /-- What is new is a directory that one of the paths leads to. -/
  nodes : ∀ loc, d'.node? loc = d.node? loc ∨
    d.node? loc = none ∧ d'.node? loc = some .directory ∧
      ∃ p ∈ ps, d'.locate (withoutTrailing p) = .ok loc

namespace Grown

variable {ps : List Path}

theorem refl (d : Disk) : Grown ps d d :=
  ⟨⟨rfl, fun _ h ↦ h⟩, fun _ ↦ .inl rfl⟩

theorem trans {d'' : Disk} (h : Grown ps d d') (h' : Grown ps d' d'') : Grown ps d d'' := by
  refine ⟨h.keeps.trans h'.keeps, fun loc ↦ ?_⟩
  rcases h.nodes loc, h'.nodes loc with ⟨hsame | ⟨hnone, hnew, p, hp, hloc⟩, hsame' | hnew'⟩
  · exact .inl (hsame'.trans hsame)
  · exact .inr ⟨hsame ▸ hnew'.1, hnew'.2⟩
  · exact .inr ⟨hnone, hsame'.trans hnew, p, hp, h'.keeps.locate hloc⟩
  · cases hnew.symm.trans hnew'.1

theorem mono {more : List Path} (h : Grown ps d d') (hsub : ∀ p ∈ ps, p ∈ more) :
    Grown more d d' := by
  refine ⟨h.keeps, fun loc ↦ (h.nodes loc).imp_right fun ⟨hnone, hnew, p, hp, hloc⟩ ↦ ?_⟩
  exact ⟨hnone, hnew, p, hsub p hp, hloc⟩

theorem createDirectory (hp : p ∈ ps) (h : d.createDirectory p = .ok d') : Grown ps d d' := by
  obtain ⟨loc, hloc, hnone, rfl⟩ := createDirectory_eq_ok h
  have hne : loc ≠ [] := by
    rintro rfl
    cases hnone
  have hkeeps : Keeps d (d.put loc .directory) := by
    apply keeps_put
    rw [hnone]
    exact nofun
  refine ⟨hkeeps, fun other ↦ ?_⟩
  by_cases heq : other = loc
  · subst heq
    exact .inr ⟨hnone, node?_put hne, p, hp, hkeeps.locate hloc⟩
  · exact .inl (node?_put_of_ne heq)

/-- Whether or not nested directories can all be created, nothing else happens. -/
theorem createNested (d : Disk) (ps : List Path) : Grown ps d (d.createNested ps).2 := by
  induction ps with
  | nil => exact refl d
  | cons p parents ih =>
    have hparents : Grown (p :: parents) d (d.createNested parents).2 :=
      ih.mono fun q hq ↦ List.mem_cons_of_mem p hq
    rw [Disk.createNested]
    dsimp only
    split
    · next d' hcreated => exact createDirectory List.mem_cons_self hcreated
    · split
      · next hnested =>
        rw [hnested] at hparents
        split
        · next hcreated => exact hparents.trans (createDirectory List.mem_cons_self hcreated)
        · exact hparents
      · next hnested =>
        rw [hnested] at hparents
        exact hparents
    · exact refl d

/-- Where all of the directories can be created, nothing but these is there. -/
theorem createDirectories (h : d.createDirectories p = .ok d') : Grown (nestedIn p) d d' := by
  have hgrown := createNested d (nestedIn p)
  unfold Disk.createDirectories at h
  generalize d.createNested (nestedIn p) = created at h hgrown
  rcases created with ⟨cause | _, made⟩
  · cases h
  · cases h
    exact hgrown

end Grown

/-- A directory that is there already is left, and so is everything else. -/
theorem createNested_of_settled (h : p = ⟨""⟩ ∨ d.isDirectory p = true) :
    d.createNested (nestedIn p) = (.ok (), d) := by
  unfold nestedIn
  rcases h with rfl | hdirectory
  · rw [if_pos rfl, createNested]
  · obtain ⟨loc, hloc, hnode⟩ := exists_directory_of_isDirectory hdirectory
    have hne : p.text ≠ "" := fun hempty ↦
      (locate_eq_ok_iff.mp hloc).1.nonempty (congrArg String.toList hempty)
    have hcreate : d.createDirectory p = .error .alreadyExists := by
      rw [createDirectory, locate_withoutTrailing hloc]
      simp [bind, Except.bind, hnode]
    rw [if_neg hne, createNested, hcreate]
    simp [hdirectory]

/-! ## Writing a file -/

theorem write_eq_ok {bytes : ByteArray} (h : d.write p bytes = .ok d') :
    ∃ loc, d.locate p = .ok loc ∧ d.node? loc ≠ some .directory ∧
      d' = d.put loc (.file bytes) := by
  unfold write at h
  cases hends : endsWithSeparator p with
  | true =>
    rw [hends] at h
    cases hloc : d.locate (withoutTrailing p) <;> rw [hloc] at h <;> cases h
  | false =>
    rw [hends, withoutTrailing_of_not_endsWithSeparator hends] at h
    cases hloc : d.locate p with
    | error cause =>
      rw [hloc] at h
      cases h
    | ok loc =>
      rw [hloc] at h
      dsimp only [bind, Except.bind] at h
      rw [if_neg Bool.false_ne_true] at h
      split at h
      · cases h
      · next hnode =>
        cases h
        exact ⟨loc, rfl, hnode, rfl⟩

/-- What is written can be read. -/
theorem read_of_write {bytes : ByteArray} (h : d.write p bytes = .ok d') :
    d'.read p = .ok bytes := by
  obtain ⟨loc, hloc, hnode, rfl⟩ := write_eq_ok h
  have hne : loc ≠ [] := by
    rintro rfl
    exact hnode rfl
  rw [read, lookUp_of_locate ((keeps_put hnode).locate hloc) (node?_put hne)]
  rfl

/-- Writing changes what the path leads to, and nothing else. -/
theorem node?_of_write {bytes : ByteArray} (h : d.write p bytes = .ok d')
    (hother : d.locate p ≠ .ok other) : d'.node? other = d.node? other := by
  obtain ⟨loc, hloc, -, rfl⟩ := write_eq_ok h
  apply node?_put_of_ne
  rintro rfl
  exact hother hloc

/-! ## Removing -/

/-- What stands at a location goes, and all that stands below it. -/
theorem node?_erase (hroot : other ≠ []) :
    (d.erase loc).node? other = if loc <:+ other then none else d.node? other := by
  rw [node?, node?]
  · simp only [erase, List.find?_filter]
    split
    · next hbelow =>
      rw [Option.map_eq_none_iff, List.find?_eq_none]
      intro e _ he
      obtain ⟨habove, rfl⟩ : (!loc.isSuffixOf e.1) = true ∧ e.1 = other := by simpa using he
      rw [List.isSuffixOf_iff_suffix.mpr hbelow] at habove
      cases habove
    · next hother =>
      have habove : loc.isSuffixOf other = false :=
        Bool.eq_false_iff.mpr (mt List.isSuffixOf_iff_suffix.mp hother)
      congr 2
      funext e
      by_cases heq : e.1 = other
      · simp [heq, habove]
      · simp [heq]
  · exact hroot
  · exact hroot

theorem keeps_erase (d : Disk) (loc : Location) : Keeps (d.erase loc) d := by
  refine ⟨rfl, fun other hother ↦ ?_⟩
  by_cases hroot : other = []
  · subst hroot
    rfl
  · rw [node?_erase hroot] at hother
    split at hother
    · cases hother
    · exact hother

/-- A path names no file once what it names is removed. -/
theorem isFile_remove (d : Disk) (p : Path) : (d.remove p).isFile p = false := by
  by_contra hfile
  obtain ⟨loc, bytes, hloc, hnode⟩ := exists_file_of_isFile (Bool.not_eq_false _ ▸ hfile)
  unfold remove at hloc hnode
  cases hbefore : d.locate p with
  | error cause =>
    rw [hbefore] at hloc
    cases hloc.symm.trans hbefore
  | ok loc' =>
    rw [hbefore] at hloc hnode
    dsimp only at hloc hnode
    obtain rfl : loc = loc' :=
      Except.ok.inj (((keeps_erase d loc').locate hloc).symm.trans hbefore)
    have hroot : loc ≠ [] := by
      rintro rfl
      cases hnode
    rw [node?_erase hroot, if_pos List.suffix_rfl] at hnode
    cases hnode

/-! ## Exchanging contents -/

/-- Two nodes are both files, whatever they hold, or both directories. -/
inductive SameKind : DiskNode → DiskNode → Prop
  | file (bytes bytes' : ByteArray) : SameKind (.file bytes) (.file bytes')
  | directory : SameKind .directory .directory

theorem SameKind.refl (node : DiskNode) : SameKind node node := by
  cases node with
  | file bytes => exact .file bytes bytes
  | directory => exact .directory

/-- Two disks with the same files and directories, that may differ in what the files hold. -/
structure SameTree (d d' : Disk) : Prop where
  workingDirectory : d.workingDirectory = d'.workingDirectory
  nodes : ∀ loc, Option.Rel SameKind (d.node? loc) (d'.node? loc)

namespace SameTree

theorem node? (h : SameTree d d') (loc : Location) :
    d.node? loc = none ∧ d'.node? loc = none ∨
      ∃ node node', d.node? loc = some node ∧ d'.node? loc = some node' ∧ SameKind node node' := by
  have hnode := h.nodes loc
  generalize d.node? loc = left at hnode
  generalize d'.node? loc = right at hnode
  cases hnode with
  | none => exact .inl ⟨rfl, rfl⟩
  | some hkind => exact .inr ⟨_, _, rfl, rfl, hkind⟩

theorem step (h : SameTree d d') (loc : Location) (segment : List Char) :
    d.step loc segment = d'.step loc segment := by
  unfold Disk.step
  rcases h.node? loc with ⟨hleft, hright⟩ | ⟨node, node', hleft, hright, hkind⟩
  · rw [hleft, hright]
  · rw [hleft, hright]
    cases hkind <;> rfl

theorem locate (h : SameTree d d') (p : Path) : d.locate p = d'.locate p := by
  have hstep : d.step = d'.step := by
    funext loc segment
    exact h.step loc segment
  unfold Disk.locate
  rw [hstep, h.workingDirectory]

/-- A path names nothing on either disk, or nodes of one kind. -/
theorem lookUp (h : SameTree d d') (p : Path) :
    (∃ cause, d.lookUp p = .error cause ∧ d'.lookUp p = .error cause) ∨
      ∃ node node', d.lookUp p = .ok node ∧ d'.lookUp p = .ok node' ∧ SameKind node node' := by
  unfold Disk.lookUp
  rw [← h.locate p]
  cases d.locate p with
  | error cause => exact .inl ⟨cause, rfl, rfl⟩
  | ok loc =>
    dsimp only [bind, Except.bind]
    rcases h.node? loc with ⟨hleft, hright⟩ | ⟨node, node', hleft, hright, hkind⟩
    · rw [hleft, hright]
      exact .inl ⟨.noEntry, rfl, rfl⟩
    · rw [hleft, hright]
      exact .inr ⟨node, node', rfl, rfl, hkind⟩

theorem contains (h : SameTree d d') (p : Path) : d.contains p = d'.contains p := by
  unfold Disk.contains
  rcases h.lookUp p with ⟨cause, hleft, hright⟩ | ⟨node, node', hleft, hright, -⟩
  · rw [hleft, hright]
  · rw [hleft, hright]

theorem isFile (h : SameTree d d') (p : Path) : d.isFile p = d'.isFile p := by
  unfold Disk.isFile
  rcases h.lookUp p with ⟨cause, hleft, hright⟩ | ⟨node, node', hleft, hright, hkind⟩
  · rw [hleft, hright]
  · rw [hleft, hright]
    cases hkind <;> rfl

end SameTree

/-- Whatever is written to a file, the files and directories are the same. -/
theorem sameTree_put (h : loc ≠ []) (bytes bytes' : ByteArray) :
    SameTree (d.put loc (.file bytes)) (d.put loc (.file bytes')) where
  workingDirectory := rfl
  nodes other := by
    by_cases heq : other = loc
    · rw [heq, node?_put h, node?_put h]
      exact .some (.file bytes bytes')
    · rw [node?_put_of_ne heq, node?_put_of_ne heq]
      cases d.node? other with
      | none => exact .none
      | some node => exact .some (.refl node)

end StyleGuide.Disk
