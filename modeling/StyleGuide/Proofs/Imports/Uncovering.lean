import StyleGuide.Proofs.Imports.Cutting

/-!
# No comment is uncovered

The removal of comments only deletes, and never a line break. What it leaves has no comments: a second
removal reads every character that the first one has written inside of the same thing, except that it
is inside of plain text where the first one is inside of a comment. Two characters that meet because a
comment between them is gone do not open another one, since a slash is written only if what follows it
in the text makes no comment of it, and then that character is written next.
-/

namespace StyleGuide.Imports

/-! ## Line breaks -/

/-- Of a character nothing else is written, and a line break always is. -/
theorem CommentMode.Possible.count_written {mode : CommentMode} {c : Char}
    (h : mode.Possible (some c)) (ahead : Option Char) :
    (mode.written c ahead).count '\n' = [c].count '\n' := by
  by_cases hbreak : c = '\n'
  · subst hbreak
    have hslash : '\n' ≠ '/' := by decide
    rw [mode.written_ahead hslash ahead none, (h.lineBreak []).2]
  · have hother : [c].count '\n' = 0 := by simp [hbreak]
    have hle := (mode.written_sublist c ahead).count_le '\n'
    omega

theorem count_stripFrom {mode : CommentMode} {cs : List Char} (h : mode.Possible cs.head?)
    (behind : List Char) : (stripFrom mode behind cs).count '\n' = cs.count '\n' := by
  induction cs generalizing mode behind with
  | nil => rfl
  | cons c cs ih =>
    rw [stripFrom_cons, List.count_append, h.count_written, ih (h.next behind cs.head?),
      ← List.count_append, List.singleton_append]

/-! ## A second removal -/

namespace CommentMode

/-- What the written text is inside of: a comment has left nothing. -/
def outside : CommentMode → CommentMode
  | plain => plain
  | quoted q => quoted q
  | escaped q => escaped q
  | url => url
  | lineOpening => plain
  | line => plain
  | blockOpening => plain
  | block _ => plain

theorem outside_of_writes {mode : CommentMode} (writes : mode.Writes) : mode.outside = mode := by
  cases mode <;> first | rfl | exact writes.elim

theorem written_cases (mode : CommentMode) (c : Char) (ahead : Option Char) :
    mode.written c ahead = [] ∨ mode.written c ahead = [c] := by
  rcases List.sublist_cons_iff.mp (mode.written_sublist c ahead) with h | ⟨cs, hcs, h⟩
  · exact .inl (List.sublist_nil.mp h)
  · exact .inr (hcs.trans (congrArg (c :: ·) (List.sublist_nil.mp h)))

/-- What comes next does not matter to a character that is written. -/
theorem next_of_written {mode : CommentMode} {c : Char} {ahead ahead' : Option Char}
    (h : mode.written c ahead = [c]) (h' : mode.written c ahead' = [c]) (behind : List Char) :
    mode.next behind c ahead = mode.next behind c ahead' := by
  cases mode with
  | plain =>
    have hopens {ahead : Option Char} (h : plain.written c ahead = [c]) :
        ¬ (c = '/' ∧ ahead = some '/') ∧ ¬ (c = '/' ∧ ahead = some '*') := by
      constructor <;> rintro ⟨rfl, rfl⟩ <;> cases h
    simp only [next, hopens h, hopens h', if_false]
  | _ => rfl

theorem written_none {mode : CommentMode} {c : Char} {ahead : Option Char}
    (h : mode.written c ahead = [c]) : mode.written c none = [c] := by
  cases mode with
  | plain => simp [written]
  | _ => exact h

/-- What is left out leaves the written text inside of what it was. -/
theorem outside_next_of_nil {mode : CommentMode} {c : Char} {ahead : Option Char}
    (h : mode.written c ahead = []) (behind : List Char) :
    (mode.next behind c ahead).outside = mode.outside := by
  cases mode with
  | plain =>
    simp only [written] at h
    split_ifs at h with hopens
    obtain ⟨rfl, rfl | rfl⟩ := hopens <;> simp [next, outside]
  | quoted q => cases h
  | escaped q => cases h
  | url => cases h
  | lineOpening => rfl
  | blockOpening => rfl
  | line | block =>
    simp only [next]
    split_ifs <;> rfl

/-- What is written is written again by a removal that is inside of the same thing. -/
theorem outside_next_of_written {mode : CommentMode} {c : Char} {ahead : Option Char}
    (h : mode.written c ahead = [c]) (behind : List Char) :
    mode.outside.written c ahead = [c] ∧
      mode.outside.next behind c ahead = (mode.next behind c ahead).outside := by
  have hwrites (writes : mode.Writes) : mode.outside.written c ahead = [c] ∧
      mode.outside.next behind c ahead = (mode.next behind c ahead).outside := by
    rw [outside_of_writes writes]
    rcases writes.next behind c ahead with ⟨-, hnext⟩ | ⟨hnil, -⟩
    · exact ⟨h, (outside_of_writes hnext).symm⟩
    · cases h.symm.trans hnil
  -- Inside of a comment only a line break is written, and it is plain text as well.
  cases mode with
  | plain | quoted | escaped | url => exact hwrites trivial
  | lineOpening => cases h
  | blockOpening => cases h
  | line | block =>
    simp only [written] at h
    split_ifs at h with hbreak
    subst hbreak
    simp [outside, written, next]

end CommentMode

open CommentMode (next_of_written)

/-- The first character is written unless it is a slash. -/
theorem head?_stripFrom_plain {cs : List Char} (h : cs.head? ≠ some '/') (behind : List Char) :
    (stripFrom .plain behind cs).head? = cs.head? := by
  cases cs with
  | nil => rfl
  | cons c cs =>
    have hslash : c ≠ '/' := fun hc ↦ h (congrArg some hc)
    rw [stripFrom_cons, CommentMode.written, if_neg fun hopens ↦ hslash hopens.1]
    rfl

/-- A character that is written opens no comment with what is written behind it. -/
theorem written_head?_stripFrom {mode : CommentMode} {c : Char} {cs : List Char}
    (h : mode.written c cs.head? = [c]) (behind behind' : List Char) :
    mode.written c (stripFrom (mode.next behind c cs.head?) behind' cs).head? = [c] := by
  cases mode with
  | plain =>
    simp only [CommentMode.written] at h ⊢
    refine if_neg fun hcomment ↦ ?_
    obtain ⟨hslash, hahead⟩ := hcomment
    split_ifs at h with hopens
    obtain ⟨hline, hblock⟩ := not_or.mp fun hahead ↦ hopens ⟨hslash, hahead⟩
    have hnext : CommentMode.plain.next behind c cs.head? = .plain := by
      simp [CommentMode.next, hslash, hline, hblock]
    rw [hnext, head?_stripFrom_plain hline] at hahead
    exact hahead.elim hline hblock
  | _ => exact h

/-- A removal that reads what another one has written writes it all. -/
theorem stripFrom_stripFrom (mode : CommentMode) (behind cs : List Char) :
    stripFrom mode.outside behind (stripFrom mode behind cs) = stripFrom mode behind cs := by
  induction cs generalizing mode behind with
  | nil => rfl
  | cons c cs ih =>
    rw [stripFrom_cons mode]
    rcases mode.written_cases c cs.head? with h | h
    · rw [h, List.nil_append, ← CommentMode.outside_next_of_nil h behind]
      exact ih _ _
    · have h' := written_head?_stripFrom h behind ([c].reverse ++ behind)
      obtain ⟨hwritten, hnext⟩ := CommentMode.outside_next_of_written h' behind
      rw [h, List.singleton_append, stripFrom_cons, hwritten, hnext, next_of_written h' h, ih,
        List.singleton_append]

/-! ## Where comments are -/

/-- A comment opens in plain text, read on from inside of something. -/
def CommentedFrom (mode : CommentMode) (behind cs : List Char) : Prop :=
  ∃ before d rest, cs = before ++ '/' :: d :: rest ∧ (d = '/' ∨ d = '*') ∧
    mode.after behind before = .plain

def Commented (source : List Char) : Prop :=
  CommentedFrom .plain [] source

/-- What is read before a comment does not depend on the comment. -/
theorem after_cons_of_written {mode : CommentMode} {c : Char} {before rest : List Char}
    (h : mode.written c (before ++ rest).head? = [c]) (behind : List Char) :
    mode.after behind (c :: before) =
      (mode.next behind c (before ++ rest).head?).after (c :: behind) before := by
  have hahead : mode.written c before.head? = [c] := by
    cases before with
    | nil => exact CommentMode.written_none h
    | cons d before => exact h
  rw [CommentMode.after, hahead, next_of_written hahead h]
  rfl

/-- Where a comment opens something is left out. -/
theorem stripFrom_ne_of_commentedFrom {mode : CommentMode} {behind cs : List Char}
    (h : CommentedFrom mode behind cs) : stripFrom mode behind cs ≠ cs := by
  obtain ⟨before, d, rest, rfl, hd, hplain⟩ := h
  apply ne_of_apply_ne List.length
  apply Nat.ne_of_lt
  have hleft {mode : CommentMode} {behind : List Char} {c : Char} {cs : List Char}
      (h : mode.written c cs.head? = []) :
      (stripFrom mode behind (c :: cs)).length < (c :: cs).length := by
    rw [stripFrom_cons, h]
    exact Nat.lt_succ_of_le (stripFrom_sublist _ _ cs).length_le
  induction before generalizing mode behind with
  | nil =>
    obtain rfl := hplain
    rcases hd with rfl | rfl <;> exact hleft rfl
  | cons c before ih =>
    rcases mode.written_cases c (before ++ '/' :: d :: rest).head? with h | h
    · exact hleft h
    · rw [after_cons_of_written h] at hplain
      rw [List.cons_append, stripFrom_cons, h]
      exact Nat.succ_lt_succ (ih hplain)

/-- Where characters are written all are, unless a comment opens. -/
theorem stripFrom_eq_or_commentedFrom {mode : CommentMode} (writes : mode.Writes)
    (behind cs : List Char) :
    stripFrom mode behind cs = cs ∨ CommentedFrom mode behind cs := by
  induction cs generalizing mode behind with
  | nil => exact .inl rfl
  | cons c cs ih =>
    rcases writes.next behind c cs.head? with ⟨h, hnext⟩ | ⟨h, rfl, hopens⟩
    · rw [stripFrom_cons, h]
      refine (ih hnext ([c].reverse ++ behind)).imp (congrArg (c :: ·)) ?_
      rintro ⟨before, d, rest, rfl, hd, hplain⟩
      exact ⟨c :: before, d, rest, rfl, hd, (after_cons_of_written h behind).trans hplain⟩
    · right
      have hplain : mode = .plain := by
        cases mode with
        | plain => rfl
        | quoted | escaped | url => cases h
        | _ => exact writes.elim
      rcases hopens with ⟨hhead, -⟩ | ⟨hhead, -⟩
      · obtain ⟨rest, rfl⟩ := List.head?_eq_some_iff.mp hhead
        exact ⟨[], '/', rest, rfl, .inl rfl, hplain⟩
      · obtain ⟨rest, rfl⟩ := List.head?_eq_some_iff.mp hhead
        exact ⟨[], '*', rest, rfl, .inr rfl, hplain⟩

theorem stripComments_ne_iff (source : List Char) :
    stripComments source ≠ source ↔ Commented source := by
  have writes : CommentMode.plain.Writes := trivial
  constructor
  · exact (stripFrom_eq_or_commentedFrom writes [] source).resolve_left
  · exact stripFrom_ne_of_commentedFrom

/-- Removing comments only deletes, and it keeps the lines. It changes exactly the texts that have a
comment, and what it leaves has none: removing comments again changes nothing. -/
theorem stripComments_settles (source : List Char) :
    (stripComments source).Sublist source ∧
    (stripComments source).count '\n' = source.count '\n' ∧
    (stripComments source ≠ source ↔ Commented source) ∧
    ¬ Commented (stripComments source) ∧
    stripComments (stripComments source) = stripComments source := by
  have possible : CommentMode.plain.Possible source.head? := trivial
  have again : stripComments (stripComments source) = stripComments source :=
    stripFrom_stripFrom .plain [] source
  refine ⟨stripFrom_sublist .plain [] source, count_stripFrom possible [],
    stripComments_ne_iff source, ?_, again⟩
  exact fun commented ↦ (stripComments_ne_iff _).mpr commented again

/-- Where comments are gone a slash opens no other one, but letters may have become `url`. -/
example : stripComments "a/**// b\nur/* */l(//x)".toList = "a/ b\nurl(//x)".toList := by
  decide

end StyleGuide.Imports
