import StyleGuide.Imports.Comments
import StyleGuide.Proofs.Imports.Grammar

/-!
# Sheets without comments

The removal of comments keeps the tokens of a sheet as they are and leaves blanks between them. A
comment leaves its line breaks. What looks like a comment inside quotes stays, and a quote inside a
comment opens nothing.
-/

namespace StyleGuide.Imports.Grammar

/-- Outside quotes, the removal of comments turns one text into the other and goes on. -/
def Strips (cs out : List Char) : Prop :=
  ∀ behind rest, stripFrom .plain behind (cs ++ rest) =
    out ++ stripFrom .plain (out.reverse ++ behind) rest

theorem Strips.append {cs cs' out out' : List Char} (h : Strips cs out) (h' : Strips cs' out') :
    Strips (cs ++ cs') (out ++ out') := by
  intro behind rest
  rw [List.append_assoc, h, h', List.append_assoc, List.reverse_append, List.append_assoc]

theorem piecewise_strips : Piecewise fun cs ↦ Strips cs cs where
  nil _ _ := rfl
  append := .append

theorem strips_char {c : Char} (h : c ∉ ['"', '\'', '(', '/']) : Strips [c] [c] := by
  simp only [List.mem_cons, List.not_mem_nil, or_false, not_or] at h
  obtain ⟨hdouble, hsingle, hparen, hslash⟩ := h
  intro behind rest
  simp only [List.singleton_append, stripFrom, hdouble, hsingle, hparen, hslash, false_and,
    or_self, if_false, List.reverse_singleton]

theorem strips_blanks {cs : List Char} (h : Blanks cs) : Strips cs cs :=
  piecewise_strips.of_chars fun _ hc ↦ strips_char (h.not_mem hc (by decide))

/-- Quoted text stays as it is, up to the quote that ends it. -/
theorem stripFrom_quoted {quote : Char} {content : List Char} (closed : Closed quote content)
    (noEscape : quote ≠ '\\') (behind rest : List Char) :
    stripFrom (.quoted quote) behind (content ++ quote :: rest) =
      content ++ quote :: stripFrom .plain (quote :: (content.reverse ++ behind)) rest := by
  induction closed generalizing behind with
  | nil => simp [stripFrom, noEscape]
  | plain hquote hescape hbreak _ ih => simp [stripFrom, hquote, hescape, hbreak, ih]
  | escape _ ih => simp [stripFrom, ih]

theorem strips_quoted (q : Quoted) : Strips q.chars q.chars := by
  intro behind rest
  have hopen : stripFrom .plain behind (q.quote :: (q.content ++ q.quote :: rest)) =
      q.quote :: stripFrom (.quoted q.quote) (q.quote :: behind) (q.content ++ q.quote :: rest) := by
    simp only [stripFrom, q.isQuote, if_true]
  simpa [Quoted.chars, stripFrom_quoted q.closed q.quote_ne_backslash] using hopen

/-- Tokens hold no comments: a slash stands only in quotes. -/
theorem strips_token (t : Token) : Strips t.chars t.chars := by
  cases t with
  | quoted q => exact strips_quoted q
  | word w =>
    exact piecewise_strips.of_chars fun c hc ↦ strips_char (w.not_mem hc (by decide))
  | _ =>
    intro behind rest
    simp [Token.chars, keyword, stripFrom]

def breaks (cs : List Char) : List Char :=
  cs.filter (· == '\n')

theorem blanks_breaks (cs : List Char) : Blanks (breaks cs) := by
  intro c hc
  obtain rfl := eq_of_beq (List.mem_filter.mp hc).2
  decide

theorem stripFrom_line {content : List Char} (noBreak : '\n' ∉ content) (behind rest : List Char) :
    stripFrom .line behind (content ++ rest) = stripFrom .line behind rest := by
  induction content with
  | nil => rfl
  | cons c cs ih =>
    rw [List.mem_cons, not_or] at noBreak
    rw [List.cons_append, stripFrom, if_neg (Ne.symm noBreak.1), ih noBreak.2]

theorem strips_lineComment {content : List Char} (noBreak : '\n' ∉ content) :
    Strips ('/' :: '/' :: (content ++ ['\n'])) ['\n'] := by
  intro behind rest
  have hopen (cs : List Char) : stripFrom .plain behind ('/' :: '/' :: cs) =
      stripFrom .line behind cs := by
    simp [stripFrom]
  rw [List.cons_append, List.cons_append, hopen, List.append_assoc, stripFrom_line noBreak]
  simp [stripFrom]

/-- A block comment leaves its line breaks, up to the first star and slash. -/
theorem stripFrom_block {content : List Char} (star : Bool)
    (noEnd : ¬ ['*', '/'] <:+: content) (noSlash : star = true → content.head? ≠ some '/')
    (behind rest : List Char) :
    stripFrom (.block star) behind (content ++ '*' :: '/' :: rest) =
      breaks content ++ stripFrom .plain ((breaks content).reverse ++ behind) rest := by
  -- After a star the comment would end at a slash, so the state is carried through the induction.
  induction content generalizing star behind with
  | nil => simp [stripFrom, breaks]
  | cons c cs ih =>
    have hnoEnd : ¬ ['*', '/'] <:+: cs := fun h ↦ noEnd (h.trans (List.suffix_cons c cs).isInfix)
    have hnoSlash : (c == '*') = true → cs.head? ≠ some '/' := by
      intro hc hhead
      obtain ⟨cs, rfl⟩ : ∃ cs', cs = '/' :: cs' := List.head?_eq_some_iff.mp hhead
      obtain rfl := eq_of_beq hc
      exact noEnd (List.prefix_append ['*', '/'] cs).isInfix
    by_cases hbreak : c = '\n'
    · subst hbreak
      have hnoStar : false = true → cs.head? ≠ some '/' := fun h ↦ absurd h Bool.false_ne_true
      simp [stripFrom, breaks, ih false hnoEnd hnoStar]
    · have hopen : ¬ (star = true ∧ c = '/') := fun ⟨hstar, hc⟩ ↦ noSlash hstar (by simp [hc])
      simp only [List.cons_append, stripFrom, hbreak, hopen, if_false]
      rw [ih _ hnoEnd hnoSlash]
      simp [breaks, hbreak]

theorem strips_blockComment {content : List Char} (noEnd : ¬ ['*', '/'] <:+: content) :
    Strips ('/' :: '*' :: (content ++ ['*', '/'])) (breaks content) := by
  intro behind rest
  have hopen (cs : List Char) : stripFrom .plain behind ('/' :: '*' :: cs) =
      stripFrom (.block false) behind cs := by
    simp [stripFrom]
  rw [List.cons_append, List.cons_append, hopen, List.append_assoc]
  exact stripFrom_block false noEnd (fun h ↦ absurd h Bool.false_ne_true) behind rest

/-- Blanks and comments become blanks. -/
theorem exists_strips_gap {gap : List Char} (h : Gap gap) :
    ∃ out, Blanks out ∧ Strips gap out := by
  induction h with
  | nil => exact ⟨[], by simp [Blanks], piecewise_strips.nil⟩
  | @blank c cs hblank _ ih =>
    obtain ⟨out, hout, hstrips⟩ := ih
    refine ⟨c :: out, List.forall_mem_cons.mpr ⟨hblank, hout⟩, ?_⟩
    exact (strips_blanks (List.forall_mem_singleton.mpr hblank)).append hstrips
  | @lineComment content cs noBreak _ ih =>
    obtain ⟨out, hout, hstrips⟩ := ih
    refine ⟨'\n' :: out, List.forall_mem_cons.mpr ⟨by decide, hout⟩, ?_⟩
    simpa using (strips_lineComment noBreak).append hstrips
  | @blockComment content cs noEnd _ ih =>
    obtain ⟨out, hout, hstrips⟩ := ih
    refine ⟨breaks content ++ out, List.forall_mem_append.mpr ⟨blanks_breaks content, hout⟩, ?_⟩
    simpa using (strips_blockComment noEnd).append hstrips

/-- Tokens with gaps between them become the same tokens with blanks between them. -/
theorem exists_strips_run {tokens : List Token} {text : List Char} (h : Run Gap tokens text) :
    ∃ out, Run Blanks tokens out ∧ Strips text out := by
  induction h with
  | nil => exact ⟨[], .nil, piecewise_strips.nil⟩
  | @cons before text token tokens gap _ ih =>
    obtain ⟨blanks, hblanks, hbefore⟩ := exists_strips_gap gap
    obtain ⟨out, hout, hstrips⟩ := ih
    exact ⟨_, .cons hblanks hout, (hbefore.append (strips_token token)).append hstrips⟩

theorem exists_strips_ended {tokens : List Token} {text last : List Char}
    (run : Run Gap tokens text) (gap : Gap last) :
    ∃ out blanks, Run Blanks tokens out ∧ Blanks blanks ∧ Strips (text ++ last) (out ++ blanks) := by
  obtain ⟨out, hout, hstrips⟩ := exists_strips_run run
  obtain ⟨blanks, hblanks, hlast⟩ := exists_strips_gap gap
  exact ⟨out, blanks, hout, hblanks, hstrips.append hlast⟩

/-- A sheet without its comments is its tokens and blanks. -/
theorem exists_stripComments_sheet {items : List Item} {text : List Char} (h : Sheet items text) :
    ∃ out blanks, Run Blanks (tokensOf items) out ∧ Blanks blanks ∧
      stripComments text = out ++ blanks := by
  cases h with
  | ended run gap =>
    obtain ⟨out, blanks, hout, hblanks, hstrips⟩ := exists_strips_ended run gap
    refine ⟨out, blanks, hout, hblanks, ?_⟩
    simpa [stripComments, stripFrom] using hstrips [] []
  | @commented text last content run gap noBreak =>
    obtain ⟨out, blanks, hout, hblanks, hstrips⟩ := exists_strips_ended run gap
    refine ⟨out, blanks, hout, hblanks, ?_⟩
    have hcomment (behind : List Char) :
        stripFrom .plain behind ('/' :: '/' :: content) = [] := by
      simpa [stripFrom] using stripFrom_line noBreak behind []
    simpa [stripComments, hcomment] using hstrips [] ('/' :: '/' :: content)

end StyleGuide.Imports.Grammar
