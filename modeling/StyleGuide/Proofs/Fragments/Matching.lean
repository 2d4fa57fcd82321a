import StyleGuide.Fragments.Pattern

/-!
# Names that match themselves

A name without a bracket matches itself when it is read as a pattern: every `?` and every `*` in it
stands for itself among other things. With a bracket it may or may not.
-/

namespace StyleGuide.Pattern

/-- A text with the tokens it is read as. -/
inductive Reads : List Char → List Token → Prop
  | nil : Reads [] []
  | anyChar {cs : List Char} {ts : List Token} (rest : Reads cs ts) :
      Reads ('?' :: cs) (.anyChar :: ts)
  | anyText {cs : List Char} {ts : List Token} (rest : Reads cs ts) :
      Reads ('*' :: cs) (.anyText :: ts)
  | depth {cs : List Char} {ts : List Token} (rest : Reads cs ts) :
      Reads ('*' :: '*' :: '/' :: cs) (.anyDepth :: ts)
  | lastDepth : Reads ['*', '*'] [.anyDepth]
  | bracket {cs : List Char} {found : Token × List Char} {ts : List Token}
      (closes : bracket? cs = some found) (rest : Reads found.2 ts) :
      Reads ('[' :: cs) (found.1 :: ts)
  | char (c : Char) {cs : List Char} {ts : List Token} (rest : Reads cs ts) :
      Reads (c :: cs) (.char c :: ts)

theorem reads_of_tokensFrom {fresh : Bool} {cs : List Char} {ts : List Token}
    (h : tokensFrom fresh cs = some ts) : Reads cs ts := by
  fun_induction tokensFrom fresh cs generalizing ts with
  | case1 =>
    cases h
    exact .nil
  | case2 fresh rest ih =>
    obtain ⟨more, hmore, rfl⟩ := Option.map_eq_some_iff.mp h
    exact .anyChar (ih hmore)
  | case3 => cases h
  | case4 rest ih =>
    obtain ⟨more, hmore, rfl⟩ := Option.map_eq_some_iff.mp h
    exact .depth (ih hmore)
  | case5 => cases h
  | case6 =>
    cases h
    exact .lastDepth
  | case7 => cases h
  | case8 => cases h
  | case9 fresh rest _ _ _ _ ih =>
    obtain ⟨more, hmore, rfl⟩ := Option.map_eq_some_iff.mp h
    exact .anyText (ih hmore)
  | case10 fresh rest found hfound ih =>
    obtain ⟨more, hmore, rfl⟩ := Option.map_eq_some_iff.mp h
    exact .bracket hfound (ih hmore)
  | case11 => cases h
  | case12 fresh c rest _ _ _ _ _ _ _ ih =>
    obtain ⟨more, hmore, rfl⟩ := Option.map_eq_some_iff.mp h
    exact .char c (ih hmore)

theorem Reads.of_tokens? {cs : List Char} {ts : List Token} (h : tokens? cs = some ts) :
    Reads cs ts :=
  reads_of_tokensFrom h

/-- A bracket list is a token that lists characters. -/
theorem bracket?_cases {cs : List Char} {found : Token × List Char} (h : bracket? cs = some found) :
    ∃ entries, found.1 = .oneOf entries ∨ found.1 = .noneOf entries := by
  unfold bracket? at h
  split at h
  · obtain ⟨-, h⟩ := Option.ite_none_right_eq_some.mp h
    cases h
    exact ⟨_, .inr rfl⟩
  · cases h
  · obtain ⟨-, h⟩ := Option.ite_none_right_eq_some.mp h
    cases h
    exact ⟨_, .inl rfl⟩
  · cases h

/-- In a component, only `**` itself stands for directories at any depth. -/
theorem Reads.eq_of_anyDepth {cs : List Char} (h : Reads cs [.anyDepth]) (hslash : '/' ∉ cs) :
    cs = ['*', '*'] := by
  generalize hts : [Token.anyDepth] = ts at h
  cases h with
  | lastDepth => rfl
  | depth =>
    simp at hslash
  | @bracket cs found ts closes =>
    obtain ⟨entries, h | h⟩ := bracket?_cases closes <;> rw [h] at hts <;> cases hts
  | _ => cases hts

theorem covers_nil : covers [] [] = true := by
  simp [covers]

/-- Tokens that stand for themselves only cover one text. -/
theorem eq_of_covers_of_literal? {ts : List Token} {name cs : List Char}
    (hliteral : literal? ts = some name) (h : covers ts cs = true) : cs = name := by
  induction ts generalizing name cs with
  | nil =>
    cases hliteral
    cases cs with
    | nil => rfl
    | cons => simp [covers] at h
  | cons t ts ih =>
    cases t with
    | char a =>
      obtain ⟨more, hmore, rfl⟩ := Option.map_eq_some_iff.mp hliteral
      cases cs with
      | nil => simp [covers, Token.isOpen] at h
      | cons c cs =>
        rw [covers] at h
        obtain ⟨hc, hcs⟩ := Bool.and_eq_true_iff.mp h
        rw [ih hmore hcs, show a = c from eq_of_beq hc]
    | _ => cases hliteral

theorem covers_of_isOpen {t : Token} (hopen : t.isOpen = true) {ts : List Token} {cs : List Char}
    (h : covers ts cs = true) (skipped : List Char) : covers (t :: ts) (skipped ++ cs) = true := by
  induction skipped with
  | nil => cases cs <;> simp [covers, hopen, h]
  | cons c skipped ih => rw [List.cons_append, covers, if_pos hopen, ih, Bool.or_true]

theorem Reads.covers_self {cs : List Char} {ts : List Token} (h : Reads cs ts)
    (plain : '[' ∉ cs) : covers ts cs = true := by
  induction h with
  | nil => exact covers_nil
  | anyChar _ ih =>
    rw [covers]
    exact ih fun hmem ↦ plain (List.mem_cons_of_mem _ hmem)
  | @anyText cs ts _ ih =>
    exact covers_of_isOpen rfl (ih fun hmem ↦ plain (List.mem_cons_of_mem _ hmem)) ['*']
  | @depth cs ts _ ih =>
    refine covers_of_isOpen rfl (ih fun hmem ↦ plain ?_) ['*', '*', '/']
    exact List.mem_append_right ['*', '*', '/'] hmem
  | lastDepth => exact covers_of_isOpen rfl covers_nil ['*', '*']
  | bracket => exact absurd List.mem_cons_self plain
  | char c _ ih =>
    rw [covers]
    simpa [Token.isOpen, Token.covers] using ih fun hmem ↦ plain (List.mem_cons_of_mem _ hmem)

end StyleGuide.Pattern
