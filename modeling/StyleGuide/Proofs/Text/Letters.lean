import StyleGuide.Text.Letter

/-!
# Letters and digits

No blank is a letter or a digit. The lower case of a letter or a digit is a text of its own kind: in
ASCII it consists of letters and digits again, and what the tables map lies behind the ASCII marks.
-/

namespace StyleGuide.Text

def blankNumbers : List Nat :=
  [9, 10, 11, 12, 13, 32, 0x85, 0xA0, 0x1680, 0x2000, 0x2001, 0x2002, 0x2003, 0x2004, 0x2005,
    0x2006, 0x2007, 0x2008, 0x2009, 0x200A, 0x2028, 0x2029, 0x202F, 0x205F, 0x3000]

theorem toNat_mem_blankNumbers {c : Char} (h : isBlank c = true) : c.toNat ∈ blankNumbers := by
  simp only [isBlank, Bool.or_eq_true, Bool.and_eq_true, decide_eq_true_eq, beq_iff_eq] at h
  simp only [blankNumbers, List.mem_cons, List.not_mem_nil, or_false]
  omega

theorem blankNumbers_noLetter :
    ∀ n ∈ blankNumbers, (Char.ofNat n).isAlphanum = false ∧ inRanges letterRanges n = false := by
  decide +kernel

theorem isBlank_of_isAlphanumeric {c : Char} (h : isAlphanumeric c = true) : isBlank c = false := by
  refine Bool.eq_false_iff.mpr fun hblank ↦ ?_
  have hletter := blankNumbers_noLetter c.toNat (toNat_mem_blankNumbers hblank)
  rw [Char.ofNat_toNat] at hletter
  rw [isAlphanumeric] at h
  split at h
  · exact absurd (h.symm.trans hletter.1) Bool.noConfusion
  · exact absurd (h.symm.trans hletter.2) Bool.noConfusion

/-! ## Lower case -/

theorem isAlphanum_toLower {c : Char} (hascii : c.toNat < 128) (h : c.isAlphanum = true) :
    c.toLower.isAlphanum = true := by
  have hall : ∀ n < 128, (Char.ofNat n).isAlphanum = true →
      (Char.ofNat n).toLower.isAlphanum = true := by decide +kernel
  have hc := hall c.toNat hascii
  rw [Char.ofNat_toNat] at hc
  exact hc h

theorem le_of_otherCase? {r : CaseRun} (hr : r ∈ lowerRuns) {n m : Nat}
    (h : r.otherCase? n = some m) : 63 ≤ m := by
  have hall : ∀ r ∈ lowerRuns, 63 ≤ (r.first : Int) + r.offset := by decide +kernel
  have hrun := hall r hr
  unfold CaseRun.otherCase? at h
  obtain ⟨⟨hfirst, -⟩, h⟩ := Option.ite_none_right_eq_some.mp h
  have hm : ((n : Int) + r.offset).toNat = m := Option.some.inj h
  omega

theorem toNat_ofNat (n : Nat) : (Char.ofNat n).toNat = 0 ∨ (Char.ofNat n).toNat = n := by
  by_cases h : n.isValidChar
  · rw [Char.ofNat, dif_pos h]
    exact .inr rfl
  · rw [Char.ofNat, dif_neg h]
    exact .inl rfl

theorem lower_ne_nil (c : Char) : lower c ≠ [] := by
  unfold lower
  split
  · exact List.cons_ne_nil _ _
  · split
    · exact List.cons_ne_nil _ _
    · split <;> exact List.cons_ne_nil _ _

/-- What letters and digits are lowered to. -/
theorem of_mem_lower {c d : Char} (h : isAlphanumeric c = true) (hd : d ∈ lower c) :
    d.isAlphanum = true ∨ d.toNat = 0 ∨ 63 ≤ d.toNat := by
  unfold isAlphanumeric at h
  unfold lower at hd
  by_cases hascii : c.toNat < 128
  · rw [if_pos hascii] at h hd
    rw [List.mem_singleton.mp hd]
    exact .inl (isAlphanum_toLower hascii h)
  · rw [if_neg hascii] at hd
    right
    split at hd
    · simp only [List.mem_cons, List.not_mem_nil, or_false] at hd
      rcases hd with rfl | rfl <;> decide
    · split at hd
      · next m hm =>
        obtain ⟨r, hr, hrun⟩ := List.exists_of_findSome?_eq_some hm
        have hle := le_of_otherCase? hr hrun
        have hm := toNat_ofNat m
        rw [List.mem_singleton.mp hd]
        omega
      · rw [List.mem_singleton.mp hd]
        omega

end StyleGuide.Text
