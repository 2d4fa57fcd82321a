import StyleGuide.Fragments.FileList
import StyleGuide.Proofs.Path.Names

/-!
# Exchanging extensions

An extension is cut off before another one is written, and what is left by then may not end in a
name. It does not end in a separator either, so a fragment path never does.
-/

namespace StyleGuide

namespace Path

variable {p : Path}

theorem length_le_of_mem_segments {cs s : List Char} (h : s ∈ segments cs) :
    s.length ≤ cs.length := by
  have hsublist : ('/' :: s).Sublist ('/' :: cs) := by
    rw [← flatMap_segments cs, List.flatMap_def]
    exact List.sublist_flatten_of_mem (List.mem_map_of_mem h)
  exact Nat.le_of_succ_le_succ hsublist.length_le

theorem getLast?_segments_ne {cs : List Char} (hne : cs ≠ []) (hlast : cs.getLast? ≠ some '/') :
    (segments cs).getLast? ≠ some [] := by
  intro h
  obtain ⟨front, hfront⟩ := List.getLast?_eq_some_iff.mp h
  have hflat := flatMap_segments cs
  rw [hfront, List.flatMap_append, List.flatMap_singleton] at hflat
  apply hlast
  rw [← List.getLast?_cons_of_ne_nil hne, ← hflat]
  exact List.getLast?_concat

theorem length_splitName_lt {name ext : List Char} (h : (splitName name).2 = some ext) :
    ext.length < name.length := by
  have hsplit := congrArg List.length (List.takeWhile_append_dropWhile (p := (· != '.'))
    (l := name.reverse))
  rw [List.length_append, List.length_reverse] at hsplit
  unfold splitName at h
  dsimp only at h
  split at h
  · cases h
  · cases h
  · next before hdrop =>
    cases h
    rw [hdrop, List.length_cons] at hsplit
    rw [List.length_reverse]
    omega

/-- If the text that is left without an extension ends in a separator, the file name stands in front
of it, since the name is longer than the extension. -/
theorem fileName_take_of_separator {ext front : List Char} (hext : p.extension = some ext)
    (hfront : p.text.toList.take (p.text.toList.length - ext.length) = front ++ ['/']) :
    (p.take (p.text.toList.length - ext.length)).fileName = p.fileName := by
  obtain ⟨name, hname, hsplit⟩ := Option.bind_eq_some_iff.mp hext
  generalize hkept : p.text.toList.length - ext.length = kept at hfront
  have htext : p.text.toList = front ++ '/' :: p.text.toList.drop kept := by
    rw [List.append_cons, ← hfront, List.take_append_drop]
  generalize hrest : p.text.toList.drop kept = rest at htext
  have hshort : rest.length ≤ ext.length := by
    rw [← hrest, List.length_drop]
    omega
  have hsegments : segments p.text.toList = segments front ++ segments rest := by
    rw [htext]
    exact Text.splitAt_append_cons front rest
  have htake : segments (p.take kept).text.toList = segments front ++ [[]] := by
    rw [take, String.toList_ofList, hfront]
    exact Text.splitAt_append_cons front []
  have hnothing : (segments rest).filterMap Component.ofSegment = [] := by
    by_contra hne
    have hlast := fileName_eq_some.mp hname
    rw [components_eq, onward, hsegments, List.filterMap_append, ← List.append_assoc,
      List.getLast?_append_of_ne_nil _ hne] at hlast
    have hmem := exists_segment_of_name (List.mem_of_getLast? hlast)
    have hlong := length_splitName_lt hsplit
    have hwithin := length_le_of_mem_segments hmem
    omega
  refine fileName_congr ?_
  rw [components_eq, components_eq, onward, onward, htake, hsegments, List.filterMap_append,
    List.filterMap_append, hnothing,
    opening_append_congr (segments_ne_nil front) (List.cons_ne_nil _ _) (segments_ne_nil rest)]
  rfl

theorem length_extension_lt {ext : List Char} (hext : p.extension = some ext) :
    ext.length < p.text.toList.length := by
  obtain ⟨name, hname, hsplit⟩ := Option.bind_eq_some_iff.mp hext
  have hmem : .name name ∈ p.components := List.mem_of_getLast? (fileName_eq_some.mp hname)
  rw [components_eq, List.mem_append, or_iff_right (name_notMem_opening _ _)] at hmem
  exact Nat.lt_of_lt_of_le (length_splitName_lt hsplit)
    (length_le_of_mem_segments (exists_segment_of_name hmem))

/-- A new extension stands at the end, unless there is no name for it. -/
theorem replaceExtension_cases (p : Path) {ext : String} (hext : ext.isEmpty = false) :
    (∃ n, (p.replaceExtension ext).text.toList = p.text.toList.take n ++ '.' :: ext.toList) ∨
      p.fileName = none ∧ p.replaceExtension ext = p := by
  unfold replaceExtension fileName
  cases p.spans.getLast? with
  | none => exact .inr ⟨rfl, rfl⟩
  | some last =>
    rcases last with ⟨component, start, stop⟩
    cases component with
    | name cs =>
      refine .inl ⟨start + (splitName cs).1.length, ?_⟩
      simp only [hext, if_false, Bool.false_eq_true, String.toList_append, String.toList_ofList]
      exact List.append_assoc _ _ _
    | _ => exact .inr ⟨rfl, rfl⟩

end Path

/-- The fragment path of a stylesheet is what is left of its path without the extension, with or
without another one. -/
theorem fragmentPath_cases (p : Path) :
    (∃ n, (fragmentPath p).text.toList = p.text.toList.take n ++ ['.', 'm', 'd']) ∨
      ∃ ext, p.extension = some ext ∧
        fragmentPath p = p.take (p.text.toList.length - ext.length) ∧
        (fragmentPath p).fileName = none := by
  unfold fragmentPath
  split
  · next hstylesheet =>
    obtain ⟨ext, hext⟩ : ∃ ext, p.extension = some ext := by
      rcases Bool.or_eq_true_iff.mp hstylesheet with h | h
      · exact ⟨_, beq_iff_eq.mp h⟩
      · exact ⟨_, beq_iff_eq.mp h⟩
    have hcut : p.withExtension "md" =
        (p.take (p.text.toList.length - ext.length)).replaceExtension "md" := by
      rw [Path.withExtension, hext]
      rfl
    have hmd : "md".isEmpty = false := by decide
    rw [hcut]
    rcases Path.replaceExtension_cases (p.take (p.text.toList.length - ext.length)) hmd
      with ⟨n, hkept⟩ | ⟨nameless, hkept⟩
    · refine .inl ⟨min n (p.text.toList.length - ext.length), ?_⟩
      rw [hkept, Path.take, String.toList_ofList, List.take_take]
      rfl
    · exact .inr ⟨ext, hext, hkept, (congrArg Path.fileName hkept).trans nameless⟩
  · refine .inl ⟨p.text.toList.length, ?_⟩
    rw [List.take_length]
    exact String.toList_append

/-- A fragment path ends in no separator. -/
theorem getLast?_segments_fragmentPath (p : Path) :
    (Path.segments (fragmentPath p).text.toList).getLast? ≠ some [] := by
  rcases fragmentPath_cases p with ⟨n, htext⟩ | ⟨ext, hext, hkept, nameless⟩
  · rw [htext]
    exact Path.getLast?_segments_ne (by simp) (by simp)
  · refine Path.getLast?_segments_ne (fun hnil ↦ ?_) fun hslash ↦ ?_
    · have hlength := Path.length_extension_lt hext
      have hzero := congrArg List.length hnil
      rw [hkept, Path.take, String.toList_ofList, List.length_take, List.length_nil] at hzero
      omega
    · rw [hkept, Path.take, String.toList_ofList] at hslash
      obtain ⟨front, hfront⟩ := List.getLast?_eq_some_iff.mp hslash
      obtain ⟨name, hname, -⟩ := Option.bind_eq_some_iff.mp hext
      rw [hkept, Path.fileName_take_of_separator hext hfront, hname] at nameless
      cases nameless

/-- A fragment path has the characters of the stylesheet and those of the extension. -/
theorem mem_of_mem_fragmentPath {p : Path} {c : Char} (h : c ∈ (fragmentPath p).text.toList) :
    c ∈ p.text.toList ∨ c ∈ ['.', 'm', 'd'] := by
  rcases fragmentPath_cases p with ⟨n, htext⟩ | ⟨ext, -, hkept, -⟩
  · rw [htext, List.mem_append] at h
    exact h.imp_left List.mem_of_mem_take
  · rw [hkept, Path.take, String.toList_ofList] at h
    exact .inl (List.mem_of_mem_take h)

end StyleGuide
