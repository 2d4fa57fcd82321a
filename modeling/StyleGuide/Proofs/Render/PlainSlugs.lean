import StyleGuide.Proofs.Render.Html
import StyleGuide.Proofs.Text.Letters
import StyleGuide.Text.Slug

/-!
# Slugs that need no escaping

A slug is written into an attribute as it is. It is made of dashes and of letters and digits in
lower case, none of which means anything to a reader of HTML: the ASCII ones are plain, and the
lower case of any other lies behind them in the order of characters.
-/

namespace StyleGuide.Text

open Html (isSpecial)

theorem Markup.escapeChars_of_plain {cs : List Char} (h : ∀ c ∈ cs, isSpecial c = false) :
    Markup.escapeChars cs = cs := by
  induction cs with
  | nil => rfl
  | cons c cs ih =>
    obtain ⟨hc, hcs⟩ := List.forall_mem_cons.mp h
    have hself : Markup.escapeChar c = [c] := by
      unfold Markup.escapeChar
      split
      case h_6 => rfl
      all_goals exact absurd hc (by decide)
    rw [Markup.escapeChars, List.flatMap_cons, hself, List.singleton_append]
    exact congrArg (c :: ·) (ih hcs)

theorem eq_of_isSpecial {c : Char} (h : isSpecial c = true) :
    (((c = '&' ∨ c = '<') ∨ c = '>') ∨ c = '"') ∨ c = '\'' := by
  simpa [isSpecial] using h

/-- The special characters are between quotes or between angle brackets. -/
theorem isSpecial_eq_false {c : Char}
    (h : c.toNat < 34 ∨ 39 < c.toNat ∧ c.toNat < 60 ∨ 62 < c.toNat) : isSpecial c = false := by
  refine Bool.eq_false_iff.mpr fun hspecial ↦ ?_
  rcases eq_of_isSpecial hspecial with (((rfl | rfl) | rfl) | rfl) | rfl <;> revert h <;> decide

theorem isSpecial_of_isAlphanum {c : Char} (h : c.isAlphanum = true) : isSpecial c = false := by
  refine Bool.eq_false_iff.mpr fun hspecial ↦ ?_
  rcases eq_of_isSpecial hspecial with (((rfl | rfl) | rfl) | rfl) | rfl <;> revert h <;> decide

theorem isSpecial_of_isDigit {c : Char} (h : c.isDigit = true) : isSpecial c = false :=
  isSpecial_of_isAlphanum (Bool.or_eq_true_iff.mpr (.inr h))

theorem isSpecial_lower {c : Char} (h : isAlphanumeric c = true) :
    ∀ d ∈ lower c, isSpecial d = false := by
  intro d hd
  rcases of_mem_lower h hd with hletter | hzero | hbehind
  · exact isSpecial_of_isAlphanum hletter
  · exact isSpecial_eq_false (by omega)
  · exact isSpecial_eq_false (by omega)

namespace Slug

theorem isSpecial_slugFrom (pending : Bool) (cs : List Char) :
    ∀ d ∈ slugFrom pending cs, isSpecial d = false := by
  induction cs generalizing pending with
  | nil => exact List.forall_mem_nil _
  | cons c cs ih =>
    rw [slugFrom]
    split
    · next h => exact List.forall_mem_append.mpr ⟨isSpecial_lower h, ih false⟩
    · split
      · exact List.forall_mem_cons.mpr ⟨by decide, ih true⟩
      · exact ih pending

theorem isSpecial_slug (text : String) : ∀ d ∈ (slug text).toList, isSpecial d = false := by
  intro d hd
  unfold slug at hd
  rw [String.toList_ofList] at hd
  apply isSpecial_slugFrom true (trim text.toList) d
  unfold dropLastDash at hd
  split at hd
  · exact List.dropLast_subset _ hd
  · exact hd

end Slug

end StyleGuide.Text
