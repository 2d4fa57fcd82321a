import Mathlib.Data.List.DropRight
import StyleGuide.Text.Letter

/-!
# Blanks at the ends of a text

Cutting blanks from both ends of a text leaves nothing if the text is blank. Otherwise it can be
done at either end on its own, as soon as the text at that end has anything else than blanks.
-/

namespace StyleGuide.Text

variable {cs cs' blanks blanks' : List Char}

theorem exists_of_not_blank (h : ¬ ∀ c ∈ cs, isBlank c = true) : ∃ c ∈ cs, isBlank c = false := by
  simpa using h

theorem trimStart_eq_nil_iff : trimStart cs = [] ↔ ∀ c ∈ cs, isBlank c = true :=
  List.dropWhile_eq_nil_iff

theorem trim_eq_nil_iff : trim cs = [] ↔ ∀ c ∈ cs, isBlank c = true := by
  have hstart : trimStart (trimStart cs) = trimStart cs := List.dropWhile_idempotent _ _
  have hend : trimEnd (trimStart cs) = [] ↔ ∀ c ∈ trimStart cs, isBlank c = true :=
    List.rdropWhile_eq_nil_iff
  rw [trim, hend, ← trimStart_eq_nil_iff, hstart, trimStart_eq_nil_iff]

theorem trimStart_append_of_blank (h : ∀ c ∈ blanks, isBlank c = true) (cs : List Char) :
    trimStart (blanks ++ cs) = trimStart cs :=
  List.dropWhile_append_of_pos h

theorem trimStart_append (h : ∃ c ∈ cs, isBlank c = false) (cs' : List Char) :
    trimStart (cs ++ cs') = trimStart cs ++ cs' := by
  obtain ⟨c, hc, hblank⟩ := h
  have hne : trimStart cs ≠ [] := fun hnil ↦
    Bool.false_ne_true (hblank.symm.trans (trimStart_eq_nil_iff.mp hnil c hc))
  unfold trimStart at hne ⊢
  rw [List.dropWhile_append, if_neg (fun hempty ↦ hne (List.isEmpty_iff.mp hempty))]

theorem trimEnd_append_of_blank (h : ∀ c ∈ blanks, isBlank c = true) (cs : List Char) :
    trimEnd (cs ++ blanks) = trimEnd cs := by
  have hreverse := trimStart_append_of_blank (fun c hc ↦ h c (List.mem_reverse.mp hc)) cs.reverse
  unfold trimStart at hreverse
  rw [trimEnd, List.reverse_append, hreverse, trimEnd]

theorem trimEnd_append (h : ∃ c ∈ cs', isBlank c = false) (cs : List Char) :
    trimEnd (cs ++ cs') = cs ++ trimEnd cs' := by
  have hword : ∃ c ∈ cs'.reverse, isBlank c = false := by simpa using h
  have hreverse := trimStart_append hword cs.reverse
  unfold trimStart at hreverse
  rw [trimEnd, List.reverse_append, hreverse, List.reverse_append, List.reverse_reverse, trimEnd]

/-- Blanks around a text do not count. -/
theorem trim_blanks (h : ∀ c ∈ blanks, isBlank c = true) (h' : ∀ c ∈ blanks', isBlank c = true)
    (cs : List Char) : trim (blanks ++ (cs ++ blanks')) = trim cs := by
  by_cases hcs : ∀ c ∈ cs, isBlank c = true
  · rw [trim_eq_nil_iff.mpr hcs, trim_eq_nil_iff]
    exact List.forall_mem_append.mpr ⟨h, List.forall_mem_append.mpr ⟨hcs, h'⟩⟩
  · rw [trim, trimStart_append_of_blank h, trimStart_append (exists_of_not_blank hcs),
      trimEnd_append_of_blank h', trim]

theorem trim_append_of_blank_left (h : ∀ c ∈ blanks, isBlank c = true) (cs : List Char) :
    trim (blanks ++ cs) = trim cs := by
  rw [trim, trimStart_append_of_blank h, trim]

theorem trim_append_of_blank_right (h : ∀ c ∈ blanks, isBlank c = true) (cs : List Char) :
    trim (cs ++ blanks) = trim cs :=
  trim_blanks (List.forall_mem_nil _) h cs

/-- What is cut from both ends of a list. -/
theorem exists_dropWhile_ends {α : Type} (p : α → Bool) (as : List α) :
    ∃ front back, as = front ++ (((as.dropWhile p).reverse.dropWhile p).reverse ++ back) ∧
      (∀ a ∈ front, p a = true) ∧ ∀ a ∈ back, p a = true := by
  refine ⟨as.takeWhile p, ((as.dropWhile p).reverse.takeWhile p).reverse, ?_,
    fun a ha ↦ List.mem_takeWhile_imp ha,
    fun a ha ↦ List.mem_takeWhile_imp (List.mem_reverse.mp ha)⟩
  rw [← List.reverse_append, List.takeWhile_append_dropWhile, List.reverse_reverse,
    List.takeWhile_append_dropWhile]

theorem trim_trim (cs : List Char) : trim (trim cs) = trim cs := by
  obtain ⟨front, back, hcs, hfront, hback⟩ := exists_dropWhile_ends isBlank cs
  calc trim (trim cs) = trim (front ++ (trim cs ++ back)) := (trim_blanks hfront hback _).symm
    _ = trim cs := congrArg trim hcs.symm

/-- What stands between two texts that are not blank is not cut. -/
theorem trim_append (h : ∃ c ∈ cs, isBlank c = false) (h' : ∃ c ∈ cs', isBlank c = false)
    (between : List Char) :
    trim (cs ++ (between ++ cs')) = trimStart cs ++ (between ++ trimEnd cs') := by
  rw [trim, trimStart_append h, ← List.append_assoc, trimEnd_append h', List.append_assoc]

/-! ## Parts of a text -/

theorem trimEnd_sublist (cs : List Char) : (trimEnd cs).Sublist cs := by
  rw [← List.reverse_sublist, trimEnd, List.reverse_reverse]
  exact List.dropWhile_sublist isBlank

theorem trim_sublist (cs : List Char) : (trim cs).Sublist cs :=
  (trimEnd_sublist _).trans (List.dropWhile_sublist isBlank)

/-- A part of a text stays one when blanks are cut from both. -/
theorem sublist_trimStart (h : cs.Sublist cs') : (trimStart cs).Sublist (trimStart cs') := by
  unfold trimStart
  induction h with
  | slnil => exact .slnil
  | cons c h ih =>
    rw [List.dropWhile_cons]
    split
    · exact ih
    · exact (List.dropWhile_sublist _).trans (.cons c h)
  | cons_cons c h ih =>
    rw [List.dropWhile_cons, List.dropWhile_cons]
    split
    · exact ih
    · exact .cons_cons c h

theorem sublist_trimEnd (h : cs.Sublist cs') : (trimEnd cs).Sublist (trimEnd cs') :=
  List.reverse_sublist.mpr (sublist_trimStart (List.reverse_sublist.mpr h))

end StyleGuide.Text
