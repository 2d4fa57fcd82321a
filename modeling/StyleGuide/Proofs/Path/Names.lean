import Mathlib.Data.Set.List
import StyleGuide.Proofs.Path.Components

/-!
# Names in paths

A name is one of the texts between the separators of a path. A path without `..` goes on by names only.
One more name behind a path is one more component, and another file name stands in place of the last
one.
-/

namespace StyleGuide.Path

open Text

variable {p : Path} {name : List Char}

/-- A text that stands for itself between separators. -/
structure IsName (cs : List Char) : Prop where
  named : Component.ofSegment cs = some (.name cs)
  noSlash : '/' ∉ cs

theorem ofSegment_eq_name (hempty : name ≠ []) (hdot : name ≠ ['.']) (hdots : name ≠ ['.', '.']) :
    Component.ofSegment name = some (.name name) := by
  unfold Component.ofSegment
  split
  · exact absurd rfl hempty
  · exact absurd rfl hdot
  · exact absurd rfl hdots
  · rfl

theorem isName_cons {c : Char} (hdot : c ≠ '.') (hslash : c ≠ '/') (h : '/' ∉ name) :
    IsName (c :: name) where
  named := by
    apply ofSegment_eq_name <;> simp [hdot]
  noSlash := by
    simp [Ne.symm hslash, h]

theorem isName_append {tail : List Char} (htail : 2 < tail.length) (h : '/' ∉ name)
    (hslash : '/' ∉ tail) : IsName (name ++ tail) where
  named := by
    have hlong : 2 < (name ++ tail).length := by
      rw [List.length_append]
      omega
    apply ofSegment_eq_name
    all_goals
      intro heq
      rw [heq] at hlong
      exact absurd hlong (by decide)
  noSlash := by
    simp [h, hslash]

/-! ## Names of a path -/

theorem exists_segment_of_name {ss : List (List Char)} {cs : List Char}
    (h : .name cs ∈ ss.filterMap Component.ofSegment) : cs ∈ ss := by
  obtain ⟨s, hs, hc⟩ := List.mem_filterMap.mp h
  unfold Component.ofSegment at hc
  split at hc <;> cases hc
  exact hs

theorem name_notMem_opening (cs : List Char) (ss : List (List Char)) :
    .name cs ∉ opening ss := by
  unfold opening
  split
  · exact List.not_mem_nil
  · split
    · split <;> simp
    · split <;> simp

theorem mem_onward_of_name (h : .name name ∈ p.components) : .name name ∈ p.onward := by
  rw [components_eq, List.mem_append] at h
  exact h.resolve_left (name_notMem_opening name _)

theorem slash_notMem_of_name (h : .name name ∈ p.components) : '/' ∉ name :=
  (of_mem_segments name (exists_segment_of_name (mem_onward_of_name h))).1

theorem ofSegment_ne_root (s : List Char) : Component.ofSegment s ≠ some .root := by
  unfold Component.ofSegment
  split <;> simp

/-- Without `..` a path goes on by names only. -/
theorem exists_names_of_up_notMem (h : .up ∉ p.components) :
    ∃ names : List (List Char), p.onward = names.map .name := by
  have hup : Component.up ∉ p.onward := fun hmem ↦
    h (components_eq p ▸ List.mem_append_right _ hmem)
  have hnames : ∀ c ∈ p.onward, ∃ name, Component.name name = c := by
    intro c hc
    obtain ⟨s, -, hs⟩ := List.mem_filterMap.mp hc
    cases c with
    | root => exact absurd hs (ofSegment_ne_root s)
    | here => exact absurd hs (ofSegment_ne_here s)
    | up => exact absurd hc hup
    | name name => exact ⟨name, rfl⟩
  have hrange : p.onward ∈ Set.range (List.map Component.name) := by
    rw [Set.range_list_map]
    exact hnames
  exact hrange.imp fun names hmap ↦ hmap.symm

/-! ## The last name -/

theorem fileName_eq_some {name : List Char} :
    p.fileName = some name ↔ p.components.getLast? = some (.name name) := by
  rw [fileName_eq]
  constructor
  · intro h
    split at h
    · next hlast =>
      cases h
      exact hlast
    · cases h
  · intro h
    rw [h]

theorem slash_notMem_fileName (h : p.fileName = some name) : '/' ∉ name :=
  slash_notMem_of_name (List.mem_of_getLast? (fileName_eq_some.mp h))

theorem dropLast_components (h : p.fileName = some name) :
    p.components.dropLast ++ [.name name] = p.components := by
  obtain ⟨front, hfront⟩ := List.getLast?_eq_some_iff.mp (fileName_eq_some.mp h)
  rw [hfront, List.dropLast_concat]

theorem isAbsolute_ofList_of_not_mem (h : '/' ∉ name) :
    isAbsolute ⟨String.ofList name⟩ = false := by
  unfold isAbsolute
  rw [String.toList_ofList, beq_eq_false_iff_ne]
  intro hhead
  exact h (List.mem_of_mem_head? hhead)

theorem components_join_name (h : IsName name) (p : Path) :
    (p.join ⟨String.ofList name⟩).components = p.components ++ [.name name] := by
  have hsegments : segments name = [name] := splitAt_of_not_mem h.noSlash
  have honward : (Path.mk (String.ofList name)).onward = [.name name] := by
    rw [onward, String.toList_ofList, hsegments, List.filterMap_cons_some h.named]
    rfl
  have hname : (Path.mk (String.ofList name)).components = [.name name] := by
    rw [components_eq, honward, String.toList_ofList, hsegments, opening_cons h.named,
      List.nil_append]
  rw [components_join, isAbsolute_ofList_of_not_mem h.noSlash, honward, hname]
  by_cases hempty : p.components = []
  · simp [hempty]
  · simp [hempty]

/-- Another file name stands in place of the last component. -/
theorem components_withFileName {old : List Char} (hold : p.fileName = some old)
    (h : IsName name) :
    (p.withFileName name).components = p.components.dropLast ++ [.name name] := by
  have hparent : (p.parent.getD p).components = p.components.dropLast := by
    cases hdir : p.parent with
    | some dir => exact components_parent hdir
    | none =>
      have hlast := fileName_eq_some.mp hold
      rcases parent_eq_none_iff.mp hdir with hnone | hnone
      · rw [hnone] at hlast
        cases hlast
      · rw [hnone] at hlast
        cases hlast
  rw [withFileName, hold, Option.isSome_some, if_pos rfl, components_join_name h, hparent]

end StyleGuide.Path
