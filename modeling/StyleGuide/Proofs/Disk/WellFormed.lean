import Mathlib.Data.List.Induction
import StyleGuide.Proofs.Disk.Walking

/-!
# Disks as they are kept

What is on a disk has a name and stands in a directory, and so does everything on the way to it. So
whatever is listed below a directory can be walked to from there, by the names it is listed with.
-/

namespace StyleGuide.Disk

/-- A text that can be the name of an entry. -/
structure IsName (cs : List Char) : Prop where
  named : Path.Component.ofSegment cs = some (.name cs)
  short : byteCount cs ≤ longestName
  noSlash : '/' ∉ cs
  noNul : '\x00' ∉ cs

instance : DecidablePred IsName := fun cs ↦ decidable_of_iff
  (Path.Component.ofSegment cs = some (.name cs) ∧ byteCount cs ≤ longestName ∧ '/' ∉ cs ∧
    '\x00' ∉ cs)
  ⟨fun ⟨named, short, noSlash, noNul⟩ ↦ ⟨named, short, noSlash, noNul⟩,
    fun ⟨named, short, noSlash, noNul⟩ ↦ ⟨named, short, noSlash, noNul⟩⟩

theorem IsName.ne_nil {cs : List Char} (h : IsName cs) : cs ≠ [] := by
  rintro rfl
  cases h.named

theorem IsName.ne_dot {cs : List Char} (h : IsName cs) : cs ≠ ['.'] := by
  rintro rfl
  cases h.named

/-- Entries have names and stand in directories, and the working directory is there. -/
structure WellFormed (d : Disk) : Prop where
  working : d.node? d.workingDirectory = some .directory
  placed : ∀ e ∈ d.entries, ∃ name parent,
    e.1 = name :: parent ∧ IsName name ∧ d.node? parent = some .directory

variable {d : Disk} {loc : Location}

theorem WellFormed.above {name : List Char} {node : DiskNode} (wellFormed : d.WellFormed)
    (h : d.node? (name :: loc) = some node) : IsName name ∧ d.node? loc = some .directory := by
  rw [node?, Option.map_eq_some_iff] at h
  · obtain ⟨entry, hfind, -⟩ := h
    have hentry : entry.1 = name :: loc := by simpa using List.find?_some hfind
    obtain ⟨name', parent, heq, isName, hparent⟩ :=
      wellFormed.placed entry (List.mem_of_find?_eq_some hfind)
    cases hentry.symm.trans heq
    exact ⟨isName, hparent⟩
  · exact List.cons_ne_nil _ _

theorem step_of_isName (isName : IsName name) (hnode : d.node? loc = some .directory) :
    d.step loc name = .ok (name :: loc) := by
  simp only [step, hnode, isName.named, isName.short, if_true]

/-- A directory can be left by `.` and by `..`, for a directory. -/
theorem WellFormed.exists_step_special {name : List Char} (wellFormed : d.WellFormed)
    (hnode : d.node? loc = some .directory) (special : name = ['.'] ∨ name = ['.', '.']) :
    ∃ next, d.step loc name = .ok next ∧ d.node? next = some .directory := by
  rcases special with rfl | rfl
  · exact ⟨loc, by simp only [step, hnode, Path.Component.ofSegment], hnode⟩
  · refine ⟨loc.tail, by simp only [step, hnode, Path.Component.ofSegment], ?_⟩
    cases loc with
    | nil => exact hnode
    | cons name parent => exact (wellFormed.above hnode).2

/-- What is below a location is reached by the names in between. The induction is on the names from
the inside out, since what holds an entry is known from the entry. -/
theorem WellFormed.foldlM_names {names : List (List Char)} {node : DiskNode}
    (wellFormed : d.WellFormed) (hnode : d.node? (names.reverse ++ loc) = some node) :
    (∀ n ∈ names, IsName n) ∧ names.foldlM d.step loc = .ok (names.reverse ++ loc) := by
  induction names using List.reverseRecOn generalizing node with
  | nil => exact ⟨List.forall_mem_nil _, rfl⟩
  | append_singleton names name ih =>
    rw [List.reverse_append, List.reverse_singleton, List.singleton_append,
      List.cons_append] at hnode ⊢
    obtain ⟨isName, hparent⟩ := wellFormed.above hnode
    obtain ⟨areNames, hwalk⟩ := ih hparent
    refine ⟨fun n hn ↦ ?_, ?_⟩
    · rcases List.mem_append.mp hn with hn | hn
      · exact areNames n hn
      · exact List.mem_singleton.mp hn ▸ isName
    · exact foldlM_append_eq_ok.mpr
        ⟨_, hwalk, (foldlM_singleton name).trans (step_of_isName isName hparent)⟩

/-- What is listed below a location is there. -/
theorem exists_of_mem_below {l : Location} (h : l ∈ d.below loc) :
    (∃ names, names ≠ [] ∧ l = names ++ loc) ∧ ∃ node, d.node? l = some node := by
  obtain ⟨hmem, hbelow⟩ := List.mem_filter.mp h
  obtain ⟨hlength, hsuffix⟩ := Bool.and_eq_true_iff.mp hbelow
  obtain ⟨names, rfl⟩ := List.isSuffixOf_iff_suffix.mp hsuffix
  have hnames : names ≠ [] := by
    rintro rfl
    simp at hlength
  refine ⟨⟨names, hnames, rfl⟩, ?_⟩
  obtain ⟨entry, hentry, hloc⟩ := List.mem_map.mp hmem
  have hsome : (d.entries.find? fun e ↦ e.1 == names ++ loc).isSome :=
    List.find?_isSome.mpr ⟨entry, hentry, beq_iff_eq.mpr hloc⟩
  obtain ⟨found, hfound⟩ := Option.isSome_iff_exists.mp hsome
  refine ⟨found.2, ?_⟩
  rw [node?, hfound]
  · rfl
  · exact fun hnil ↦ hnames (List.append_eq_nil_iff.mp hnil).1

end StyleGuide.Disk
