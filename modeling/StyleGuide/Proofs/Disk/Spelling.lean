import StyleGuide.Proofs.Disk.Walking
import StyleGuide.Proofs.Path.Leading

/-!
# Spellings of files

Paths with the same components that end in the same segment name the same file: always in a table,
and on a disk if none of them is too long to be looked up. The end matters on a disk, where
`a.scss/` names no file. Everything else that a spelling adds is passed over on the way.
-/

namespace StyleGuide

/-- A place answers the same for all of some paths that are alike. -/
def FileSystem.Indifferent (fs : FileSystem) (asked : Path → Prop) : Prop :=
  ∀ p q : Path, asked p → asked q → p.Alike q →
    fs.isFile p = fs.isFile q ∧ (fs.isFile p = true → fs.read p = fs.read q)

/-! ## Tables -/

theorem FileTable.find?_congr (t : FileTable) {p q : Path} (h : p.components = q.components) :
    t.find? p = t.find? q := by
  simp only [find?, Path.same, h]

theorem FileTable.indifferent (t : FileTable) (asked : Path → Prop) :
    t.toFileSystem.Indifferent asked := by
  intro p q _ _ alike
  have hfind : t.find? p = t.find? q := t.find?_congr alike.components_eq
  refine ⟨congrArg Option.isSome hfind, fun file ↦ ?_⟩
  change t.read p = t.read q
  obtain ⟨entry, hentry⟩ := Option.isSome_iff_exists.mp file
  rw [read, read, ← hfind, hentry]
  cases entry <;> rfl

/-! ## Disks -/

namespace Path

variable {p q : Path}

def Component.segment : Component → List Char
  | .up => ['.', '.']
  | .name cs => cs
  | _ => []

theorem segment_of_ofSegment {s : List Char} {c : Component} (h : Component.ofSegment s = some c) :
    c.segment = s := by
  unfold Component.ofSegment at h
  split at h <;> cases h <;> rfl

theorem map_segment_filterMap (ss : List (List Char)) :
    (ss.filterMap Component.ofSegment).map Component.segment =
      ss.filter fun s ↦ (Component.ofSegment s).isSome := by
  induction ss with
  | nil => rfl
  | cons s ss ih =>
    cases hc : Component.ofSegment s with
    | none => rw [List.filterMap_cons_none hc, ih, List.filter_cons_of_neg (by simp [hc])]
    | some c =>
      rw [List.filterMap_cons_some hc, List.map_cons, ih, segment_of_ofSegment hc,
        List.filter_cons_of_pos (by simp [hc])]

theorem isAbsolute_iff : p.isAbsolute = true ↔ p.components.head? = some .root := by
  have honward : p.onward.head? ≠ some .root := by
    intro hroot
    obtain ⟨s, -, hs⟩ := List.mem_filterMap.mp (List.mem_of_head? hroot)
    exact ofSegment_ne_root s hs
  rw [components_eq, isAbsolute, beq_iff_eq]
  rcases opening_cases p.text.toList with ⟨rest, htext⟩ | htext | ⟨rest, htext⟩ | hopening
  · rw [htext, opening_slash]
    exact ⟨fun _ ↦ rfl, fun _ ↦ rfl⟩
  · rw [htext]
    constructor <;> intro h <;> cases h
  · rw [htext, segments_dot_slash]
    constructor <;> intro h <;> cases h
  · rw [hopening, List.nil_append]
    refine ⟨fun hslash ↦ ?_, fun hroot ↦ absurd hroot honward⟩
    obtain ⟨rest, htext⟩ := List.head?_eq_some_iff.mp hslash
    rw [htext, opening_slash] at hopening
    cases hopening

/-- What goes on from a directory is read off the components. -/
theorem onward_eq (p : Path) :
    p.onward = p.components.filter fun c ↦ c ≠ .root ∧ c ≠ .here := by
  have honward : ∀ c ∈ p.onward, decide (c ≠ .root ∧ c ≠ .here) = true := by
    intro c hc
    obtain ⟨s, -, hs⟩ := List.mem_filterMap.mp hc
    refine decide_eq_true ⟨?_, ?_⟩
    · rintro rfl
      exact ofSegment_ne_root s hs
    · rintro rfl
      exact ofSegment_ne_here s hs
  have hopening :
      (opening (segments p.text.toList)).filter (fun c ↦ c ≠ .root ∧ c ≠ .here) = [] := by
    rcases opening_cases p.text.toList with ⟨rest, htext⟩ | htext | ⟨rest, htext⟩ | hopening
    · rw [htext, opening_slash]
      rfl
    · rw [htext]
      rfl
    · rw [htext, segments_dot_slash]
      rfl
    · rw [hopening]
      rfl
  rw [components_eq, List.filter_append, hopening, List.filter_eq_self.mpr honward, List.nil_append]

/-- A character that is no separator and no dot stands in a component. -/
theorem mem_iff_exists_component {c : Char} (hslash : c ≠ '/') (hdot : c ≠ '.') :
    c ∈ p.text.toList ↔ ∃ x ∈ p.onward, c ∈ x.segment := by
  rw [mem_iff_exists_segment hslash]
  constructor
  · rintro ⟨s, hs, hc⟩
    cases hx : Component.ofSegment s with
    | none =>
      rcases ofSegment_eq_none hx with rfl | rfl
      · cases hc
      · exact absurd (List.mem_singleton.mp hc) hdot
    | some x => exact ⟨x, List.mem_filterMap.mpr ⟨s, hs, hx⟩, segment_of_ofSegment hx ▸ hc⟩
  · rintro ⟨x, hx, hc⟩
    obtain ⟨s, hs, hsx⟩ := List.mem_filterMap.mp hx
    exact ⟨s, hs, segment_of_ofSegment hsx ▸ hc⟩

end Path

namespace Disk

variable {d : Disk} {p q : Path}

/-- Segments that mean nothing ask for a directory to stay in, and so does every step. If a step
follows, they do not show. -/
theorem foldlM_eq_of_last {segments : List (List Char)} {segment : List Char} {loc : Location}
    (hlast : segments.getLast? = some segment) (means : Path.Component.ofSegment segment ≠ none) :
    segments.foldlM d.step loc =
      ((segments.filterMap Path.Component.ofSegment).map Path.Component.segment).foldlM d.step
        loc := by
  rw [Path.map_segment_filterMap]
  induction segments generalizing loc with
  | nil => cases hlast
  | cons s ss ih =>
    cases hs : Path.Component.ofSegment s with
    | some c =>
      rw [List.filter_cons_of_pos (by simp [hs]), List.foldlM_cons, List.foldlM_cons]
      cases ss with
      | nil => rfl
      | cons s' ss =>
        rw [List.getLast?_cons_cons] at hlast
        exact congrArg _ (funext fun loc ↦ ih hlast)
    | none =>
      have hss : ss ≠ [] := by
        rintro rfl
        cases hlast
        exact means hs
      rw [List.getLast?_cons_of_ne_nil hss] at hlast
      rw [List.filter_cons_of_neg (by simp [hs]), List.foldlM_cons, ← ih hlast]
      obtain ⟨s', ss', rfl⟩ := List.exists_cons_of_ne_nil hss
      rw [List.foldlM_cons]
      cases hnode : d.node? loc with
      | none => simp only [step, hnode, bind, Except.bind]
      | some node =>
        cases node with
        | file bytes => simp only [step, hnode, bind, Except.bind]
        | directory =>
          have hstay : d.step loc s = .ok loc := by simp only [step, hnode, hs]
          rw [hstay]
          exact (List.foldlM_cons (m := Except FileError)).symm

theorem lookUp_congr (alike : p.Alike q) (short : byteCount p.text.toList ≤ longestPath)
    (short' : byteCount q.text.toList ≤ longestPath) {segment : List Char}
    (hlast : (Path.segments p.text.toList).getLast? = some segment)
    (means : Path.Component.ofSegment segment ≠ none) : d.lookUp p = d.lookUp q := by
  have honward : p.onward = q.onward := by
    rw [Path.onward_eq, Path.onward_eq, alike.components_eq]
  have hlocate : d.locate p = d.locate q := by
    have hnul : p.text.toList.contains '\x00' = q.text.toList.contains '\x00' := by
      rw [Bool.eq_iff_iff, List.contains_iff_mem, List.contains_iff_mem,
        Path.mem_iff_exists_component (by decide) (by decide),
        Path.mem_iff_exists_component (by decide) (by decide), honward]
    have hempty : byteCount p.text.toList = 0 ↔ byteCount q.text.toList = 0 := by
      rw [byteCount_eq_zero_iff, byteCount_eq_zero_iff, String.toList_eq_nil_iff,
        String.toList_eq_nil_iff, ← Path.components_eq_nil_iff, ← Path.components_eq_nil_iff,
        alike.components_eq]
    have habsolute : p.isAbsolute = q.isAbsolute := by
      rw [Bool.eq_iff_iff, Path.isAbsolute_iff, Path.isAbsolute_iff, alike.components_eq]
    have hwalk (loc : Location) : (Path.segments p.text.toList).foldlM d.step loc =
        (Path.segments q.text.toList).foldlM d.step loc := by
      calc
        (Path.segments p.text.toList).foldlM d.step loc
            = (p.onward.map Path.Component.segment).foldlM d.step loc :=
          foldlM_eq_of_last hlast means
        _ = (q.onward.map Path.Component.segment).foldlM d.step loc := by rw [honward]
        _ = (Path.segments q.text.toList).foldlM d.step loc :=
          (foldlM_eq_of_last (alike.ending_eq.symm.trans hlast) means).symm
    simp only [locate, hnul, hempty, if_neg (Nat.not_lt.mpr short),
      if_neg (Nat.not_lt.mpr short'), habsolute, hwalk]
  rw [lookUp, lookUp, hlocate]

/-- A path that does not end in a component names no file. -/
theorem isFile_of_last {segment : List Char}
    (hlast : (Path.segments p.text.toList).getLast? = some segment)
    (nothing : Path.Component.ofSegment segment = none) : d.isFile p = false := by
  by_contra hfile
  obtain ⟨loc, bytes, hloc, hnode⟩ := exists_file_of_isFile (Bool.not_eq_false _ ▸ hfile)
  exact ofSegment_ne_none_of_foldlM (foldlM_of_locate hloc) hnode hlast nothing

/-- A disk tells paths that are alike apart only if one of them is too long. -/
theorem indifferent (d : Disk) {asked : Path → Prop}
    (short : ∀ p, asked p → byteCount p.text.toList ≤ longestPath) :
    d.toFileSystem.Indifferent asked := by
  intro p q hp hq alike
  change d.isFile p = d.isFile q ∧ (d.isFile p = true → d.read p = d.read q)
  obtain ⟨segment, hlast⟩ : ∃ s, (Path.segments p.text.toList).getLast? = some s :=
    ⟨_, List.getLast?_eq_some_getLast (Path.segments_ne_nil _)⟩
  by_cases means : Path.Component.ofSegment segment = none
  · have hnone := isFile_of_last (d := d) hlast means
    have hnone' := isFile_of_last (d := d) (alike.ending_eq.symm.trans hlast) means
    exact ⟨hnone.trans hnone'.symm, fun hfile ↦ nomatch hnone.symm.trans hfile⟩
  · have hlookUp := lookUp_congr (d := d) alike (short p hp) (short q hq) hlast means
    exact ⟨by rw [isFile, isFile, hlookUp], fun _ ↦ by rw [read, read, hlookUp]⟩

end Disk

end StyleGuide
