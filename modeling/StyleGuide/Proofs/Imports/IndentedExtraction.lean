import Mathlib.Data.List.TakeWhile
import StyleGuide.Proofs.Imports.Extraction
import StyleGuide.Proofs.Imports.IndentedGrammar
import StyleGuide.Proofs.Text.Letters

/-!
# Imports found in an indented stylesheet

On every text of the indented grammar the lines that import are found with their arguments, each
under the header it is indented under. There is nothing to remove from such a text, and its lines
are read one after the other: whatever block is open is closed by the next line in the first column
or by the end of the text, and by nothing else.
-/

namespace StyleGuide.Imports.Indented

open Text
open Grammar (Blanks Name Unsplit Solid Listed Strips)

/-! ## Characters of names -/

namespace BareName

variable (n : BareName)

theorem isBlank_eq {c : Char} (hc : c ∈ n.chars) : isBlank c = false := by
  rcases n.nameChars c hc with hletter | hmark
  · exact isBlank_of_isAlphanumeric hletter
  · have hmarks : ∀ c ∈ ['-', '_', '.', '/'], isBlank c = false := by simp [isBlank]
    exact hmarks c hmark

theorem not_mem {special : List Char} {c : Char} (hc : c ∈ n.chars)
    (hletter : special.all (! isAlphanumeric ·) = true)
    (hmark : special.all (· ∉ ['-', '_', '.', '/']) = true) : c ∉ special := by
  intro hmem
  rw [List.all_eq_true] at hletter hmark
  rcases n.nameChars c hc with h | h
  · have := hletter c hmem
    rw [h] at this
    exact Bool.false_ne_true this
  · exact of_decide_eq_true (hmark c hmem) h

theorem solid : Solid n.chars where
  unsplit := Grammar.piecewise_unsplit.of_chars fun _ hc ↦
    Grammar.unsplit_char (n.not_mem hc (by decide) (by decide))
  first := by
    obtain ⟨c, rest, h⟩ := List.exists_cons_of_ne_nil n.nonempty
    exact ⟨c, rest, h, n.isBlank_eq (h ▸ List.mem_cons_self)⟩
  last := by
    refine ⟨_, _, (List.dropLast_concat_getLast n.nonempty).symm, ?_⟩
    exact n.isBlank_eq (List.getLast_mem n.nonempty)

end BareName

/-! ## Arguments -/

namespace Argument

variable (a : Argument)

theorem solid : Solid a.chars := by
  cases a with
  | bare n => exact n.solid
  | quoted n => exact Grammar.solid_name n

/-- No argument ends like the line of an import. -/
theorem exists_last : ∃ front c, a.chars = front ++ [c] ∧ isBlank c = false ∧ c ≠ ';' := by
  cases a with
  | bare n =>
    obtain ⟨front, c, h, hc⟩ := n.solid.last
    have hmem : c ∈ n.chars := h ▸ List.mem_append_right front List.mem_cons_self
    have hsemicolon : c ∉ [';'] := n.not_mem hmem (by decide) (by decide)
    exact ⟨front, c, h, hc, List.ne_of_not_mem_cons hsemicolon⟩
  | quoted n =>
    refine ⟨n.quote :: n.content, n.quote, rfl, n.isBlank_quote, ?_⟩
    rcases n.isQuote with h | h <;> rw [h] <;> decide

end Argument

namespace Arguments

variable {args : List Argument} {text : List Char}

theorem listed (h : Arguments args text) : Listed (args.map Argument.chars) text := by
  induction h with
  | @last a _ _ hbefore hafter => exact .last a.solid hbefore hafter
  | @cons a _ _ _ _ hbefore hafter _ ih => exact .cons a.solid hbefore hafter ih

/-- Only blanks stand behind the last argument. -/
theorem exists_last (h : Arguments args text) :
    ∃ front c after, Arguments args (front ++ [c]) ∧ isBlank c = false ∧ c ≠ ';' ∧ Blanks after ∧
      text = front ++ c :: after := by
  induction h with
  | @last a before after hbefore hafter =>
    obtain ⟨front, c, hchars, hc, hsemicolon⟩ := a.exists_last
    refine ⟨before ++ front, c, after, ?_, hc, hsemicolon, hafter, ?_⟩
    · have hargument : Arguments [a] (before ++ a.chars ++ []) :=
        .last hbefore (List.forall_mem_nil _)
      simpa only [hchars, List.append_assoc, List.append_nil] using hargument
    · simp only [hchars, List.append_assoc, List.singleton_append]
  | @cons a others before after text hbefore hafter _ ih =>
    obtain ⟨front, c, last, hrest, hc, hsemicolon, hlast, rfl⟩ := ih
    refine ⟨before ++ a.chars ++ after ++ ',' :: front, c, last, ?_, hc, hsemicolon, hlast, ?_⟩
    · simpa only [List.append_assoc, List.cons_append] using Arguments.cons hbefore hafter hrest
    · simp only [List.append_assoc, List.cons_append]

/-- A space in front of the arguments does not count. -/
theorem splitArgs_space (h : Arguments args text) : splitArgs (' ' :: text) = written args := by
  have hlisted : Listed (args.map Argument.chars) (' ' :: text) := h.listed.cons_blank (by decide)
  rw [hlisted.splitArgs_eq, List.map_map]
  rfl

end Arguments

theorem dropSemicolons_eq {cs : List Char} (h : cs.getLast? ≠ some ';') :
    dropSemicolons cs = cs := by
  rw [← List.head?_reverse] at h
  rw [dropSemicolons, ← List.reverse_inj, List.reverse_reverse]
  cases hlast : cs.reverse with
  | nil => rfl
  | cons c front =>
    rw [hlast, List.head?_cons, ne_eq, Option.some.injEq] at h
    exact List.dropWhile_cons_of_neg (by simpa using h)

theorem dropSemicolons_semicolon (cs : List Char) :
    dropSemicolons (cs ++ [';']) = dropSemicolons cs := by
  simp [dropSemicolons]

/-- A line that imports is the keyword and a text with the arguments. Blanks and a semicolon at its
end do not count. -/
theorem ImportLine.exists_rest {args : List Argument} {line : List Char}
    (h : ImportLine args line) :
    ∃ rest, line = keyword ++ ' ' :: rest ∧
      splitArgs (dropSemicolons (trimEnd (' ' :: rest))) = written args := by
  cases h with
  | @plain text arguments =>
    obtain ⟨front, c, after, hargs, hc, hsemicolon, hafter, rfl⟩ := arguments.exists_last
    refine ⟨_, rfl, ?_⟩
    have htrim : trimEnd (' ' :: (front ++ c :: after)) = ' ' :: front ++ [c] :=
      Grammar.trimEnd_append hc hafter (' ' :: front)
    have hend : (' ' :: front ++ [c]).getLast? ≠ some ';' := by
      rw [List.getLast?_concat, ne_eq, Option.some.injEq]
      exact hsemicolon
    rw [htrim, dropSemicolons_eq hend, List.cons_append, hargs.splitArgs_space]
  | @ended text after arguments hafter =>
    obtain ⟨front, c, blanks, -, -, hsemicolon, hblanks, rfl⟩ := arguments.exists_last
    refine ⟨_, rfl, ?_⟩
    have htrim : trimEnd (' ' :: (front ++ c :: blanks ++ ';' :: after)) =
        ' ' :: (front ++ c :: blanks) ++ [';'] :=
      Grammar.trimEnd_append (by decide) hafter (' ' :: (front ++ c :: blanks))
    have hend : (' ' :: front ++ c :: blanks).getLast? ≠ some ';' := by
      rw [List.getLast?_append, List.getLast?_cons, Option.some_or, ← List.getLast?_cons]
      intro hlast
      rcases List.mem_cons.mp (List.mem_of_getLast? hlast) with heq | hmem
      · exact hsemicolon heq.symm
      · exact hblanks.not_mem hmem (by decide : [';'].any isBlank = false) List.mem_cons_self
    rw [htrim, dropSemicolons_semicolon, ← List.cons_append, dropSemicolons_eq hend,
      List.cons_append, arguments.splitArgs_space]

/-! ## Comments -/

/-- Behind a slash the text opens no comment. -/
def OpensNoComment (rest : List Char) : Prop :=
  ∀ c ∈ rest.head?, c ∉ ['/', '*']

theorem OpensNoComment.append {cs rest : List Char} (h : OpensNoComment cs)
    (hrest : OpensNoComment rest) : OpensNoComment (cs ++ rest) := by
  cases cs with
  | nil => exact hrest
  | cons c cs => exact h

theorem opensNoComment_nil : OpensNoComment [] := by
  intro c hc
  cases hc

theorem opensNoComment_cons {c : Char} (h : c ∉ ['/', '*']) (cs : List Char) :
    OpensNoComment (c :: cs) := by
  rintro _ ⟨⟩
  exact h

theorem opensNoComment_blanks {cs : List Char} (h : Blanks cs) : OpensNoComment cs :=
  fun _ hc ↦ h.not_mem (List.mem_of_mem_head? hc) (by decide)

/-- Outside quotes, the removal of comments keeps a text, unless a comment begins where it ends. -/
def Kept (cs : List Char) : Prop :=
  ∀ behind rest, OpensNoComment rest →
    stripFrom .plain behind (cs ++ rest) = cs ++ stripFrom .plain (cs.reverse ++ behind) rest

namespace Kept

variable {cs cs' : List Char}

theorem of_strips_append (h : Strips cs cs) (h' : Kept cs') : Kept (cs ++ cs') := by
  intro behind rest hrest
  rw [List.append_assoc, h, h' _ rest hrest, List.append_assoc, List.reverse_append,
    List.append_assoc]

theorem of_strips (h : Strips cs cs) : Kept cs :=
  fun behind rest _ ↦ h behind rest

theorem append (h : Kept cs) (h' : Kept cs') (apart : OpensNoComment cs') : Kept (cs ++ cs') := by
  intro behind rest hrest
  rw [List.append_assoc, h _ _ (apart.append hrest), h' _ rest hrest, List.append_assoc,
    List.reverse_append, List.append_assoc]

theorem stripComments_eq (h : Kept cs) : stripComments cs = cs := by
  simpa [stripComments, stripFrom] using h [] [] opensNoComment_nil

end Kept

/-- Without quotes, a parenthesis or a star, only two slashes in a row open something. -/
theorem kept_of_noComment {cs : List Char} (plain : ∀ c ∈ cs, c ∉ ['"', '\'', '(', '*'])
    (noComment : ¬ ['/', '/'] <:+: cs) : Kept cs := by
  induction cs with
  | nil => exact .of_strips Grammar.piecewise_strips.nil
  | cons c cs ih =>
    rw [List.forall_mem_cons] at plain
    have hcs : Kept cs :=
      ih plain.2 fun h ↦ noComment (h.trans (List.suffix_cons c cs).isInfix)
    by_cases hslash : c = '/'
    · subst hslash
      intro behind rest hrest
      have hahead : OpensNoComment (cs ++ rest) := by
        cases cs with
        | nil => exact hrest
        | cons c cs =>
          rintro _ ⟨⟩ hc
          rw [List.mem_cons, List.mem_singleton] at hc
          rcases hc with rfl | rfl
          · exact noComment (List.prefix_append ['/', '/'] cs).isInfix
          · exact plain.2 '*' List.mem_cons_self (by decide)
      have hopen (next : Char) (hnext : next ∈ ['/', '*']) : (cs ++ rest).head? ≠ some next :=
        fun h ↦ hahead next h hnext
      rw [List.cons_append, stripFrom]
      simp only [Char.reduceEq, hopen '/' (by decide), hopen '*' (by decide), or_self, false_and,
        and_false, if_false]
      rw [hcs _ rest hrest, List.reverse_cons, List.append_assoc, List.cons_append,
        List.singleton_append]
    · refine Kept.of_strips_append (Grammar.strips_char ?_) hcs
      simp only [List.mem_cons, List.not_mem_nil, or_false, not_or] at plain ⊢
      exact ⟨plain.1.1, plain.1.2.1, plain.1.2.2.1, hslash⟩

theorem Argument.kept (a : Argument) : Kept a.chars := by
  cases a with
  | bare n => exact kept_of_noComment (fun _ hc ↦ n.not_mem hc (by decide) (by decide)) n.noComment
  | quoted n => exact .of_strips (Grammar.strips_quoted n.toQuoted)

theorem Arguments.kept {args : List Argument} {text : List Char} (h : Arguments args text) :
    Kept text := by
  induction h with
  | @last a before after hbefore hafter =>
    rw [List.append_assoc]
    exact .of_strips_append (Grammar.strips_blanks hbefore) <|
      a.kept.append (.of_strips (Grammar.strips_blanks hafter)) (opensNoComment_blanks hafter)
  | @cons a others before after text hbefore hafter _ ih =>
    have hcomma : Kept (after ++ ',' :: text) :=
      .of_strips_append (Grammar.strips_blanks hafter) <|
        @Kept.of_strips_append [','] text (Grammar.strips_char (by decide)) ih
    have hapart : OpensNoComment (after ++ ',' :: text) :=
      (opensNoComment_blanks hafter).append (opensNoComment_cons (by decide) text)
    rw [List.append_assoc, List.append_assoc]
    exact .of_strips_append (Grammar.strips_blanks hbefore) (a.kept.append hcomma hapart)

theorem strips_keyword : Strips (keyword ++ [' ']) (keyword ++ [' ']) :=
  (Grammar.strips_token .keyword).append (Grammar.strips_char (by decide))

theorem ImportLine.kept {args : List Argument} {line : List Char} (h : ImportLine args line) :
    Kept line := by
  cases h with
  | @plain text arguments =>
    simpa only [List.append_assoc, List.singleton_append] using
      Kept.of_strips_append strips_keyword arguments.kept
  | @ended text after arguments hafter =>
    have hend : Strips (';' :: after) (';' :: after) :=
      (Grammar.strips_char (by decide)).append (Grammar.strips_blanks hafter)
    have hopen : OpensNoComment (';' :: after) := opensNoComment_cons (by decide) after
    simpa only [List.append_assoc, List.singleton_append] using
      Kept.of_strips_append strips_keyword (arguments.kept.append (.of_strips hend) hopen)

theorem OtherLine.kept {line : List Char} (h : OtherLine line) : Kept line :=
  .of_strips <| Grammar.piecewise_strips.of_chars fun c hc ↦ Grammar.strips_char fun hmem ↦
    h.noMark c hc ((by decide : ['"', '\'', '(', '/'] ⊆ marks) hmem)

theorem kept_intercalate {lines : List (List Char)} (h : ∀ line ∈ lines, Kept line) :
    Kept (['\n'].intercalate lines) := by
  induction lines with
  | nil => exact .of_strips Grammar.piecewise_strips.nil
  | cons line lines ih =>
    rw [List.forall_mem_cons] at h
    cases lines with
    | nil =>
      rw [List.intercalate_singleton]
      exact h.1
    | cons next lines =>
      have hbreak : Strips ['\n'] ['\n'] := Grammar.strips_char (by decide)
      rw [List.intercalate_cons_cons, List.append_assoc]
      exact h.1.append (.of_strips_append hbreak (ih h.2)) (opensNoComment_cons (by decide) _)

/-! ## The lines of a text -/

theorem linesFrom_append {cs : List Char} (noBreak : '\n' ∉ cs) (word rest : List Char) :
    linesFrom word (cs ++ rest) = linesFrom (cs.reverse ++ word) rest := by
  induction cs generalizing word with
  | nil => rfl
  | cons c cs ih =>
    rw [List.mem_cons, not_or] at noBreak
    rw [List.cons_append, linesFrom, if_neg (Ne.symm noBreak.1), ih noBreak.2, List.reverse_cons,
      List.append_assoc, List.singleton_append]

/-- A line that is not the last one loses a carriage return at its end. -/
theorem lines_append {cs : List Char} (noBreak : '\n' ∉ cs) (rest : List Char) :
    ∃ line, lines (cs ++ '\n' :: rest) = line :: lines rest ∧
      (cs = line ∨ cs = line ++ ['\r']) := by
  have hlines : lines (cs ++ '\n' :: rest) =
      (if cs.reverse.head? = some '\r' then cs.reverse.drop 1 else cs.reverse).reverse ::
        lines rest := by
    rw [lines, linesFrom_append noBreak, List.append_nil, linesFrom, if_pos rfl]
    rfl
  rw [hlines]
  refine ⟨_, rfl, ?_⟩
  split
  · next hreturn =>
    obtain ⟨more, hmore⟩ := List.head?_eq_some_iff.mp hreturn
    refine .inr ?_
    rw [hmore, List.drop_one, List.tail_cons, ← List.reverse_cons, ← hmore, List.reverse_reverse]
  · exact .inl (List.reverse_reverse cs).symm

/-! ## Lines one after the other -/

theorem indentedFrom_congr {rest rest' : List (List Char)}
    (h : ∀ block, indentedFrom block rest = indentedFrom block rest')
    (block : Option (List String)) (line : List Char) :
    indentedFrom block (line :: rest) = indentedFrom block (line :: rest') := by
  simp only [indentedFrom, h]

theorem indentedFrom_blank {line : List Char} (h : Blanks line) (block : Option (List String))
    (rest : List (List Char)) : indentedFrom block (line :: rest) = indentedFrom block rest := by
  have htrim : trimStart line = [] := List.dropWhile_eq_nil_iff.mpr h
  rw [indentedFrom]
  exact if_pos htrim

/-- A line with something on it is an import or not, and in the first column or not. -/
theorem indentedFrom_line {indent line : List Char} (hindent : Blanks indent)
    (hline : ∃ c rest, line = c :: rest ∧ isBlank c = false) (block : Option (List String))
    (rest : List (List Char)) :
    indentedFrom block ((indent ++ line) :: rest) =
      match importRest? line with
      | some after =>
        let args := splitArgs (dropSemicolons (trimEnd after))
        if indent = [] then closeBlock block ++ .load args :: indentedFrom none rest
        else indentedFrom (some (block.getD [] ++ args)) rest
      | none =>
        if indent = [] then closeBlock block ++ indentedFrom (some []) rest
        else indentedFrom block rest := by
  obtain ⟨c, cs, rfl, hc⟩ := hline
  have htrim : trimStart (indent ++ c :: cs) = c :: cs := Grammar.dropWhile_isBlank hindent hc
  have htop : ((c :: cs).length = (indent ++ c :: cs).length) = (indent = []) := by
    rw [List.length_append, @eq_comm Nat, Nat.add_eq_right, List.length_eq_zero_iff]
  rw [indentedFrom]
  cases himport : importRest? (c :: cs) with
  | none => simp only [htrim, htop, himport, decide_eq_true_eq, reduceCtorEq, if_false]
  | some after => simp only [htrim, htop, himport, decide_eq_true_eq, reduceCtorEq, if_false]

theorem importRest?_return {line : List Char} (h : line ≠ keyword) :
    importRest? (line ++ ['\r']) = (importRest? line).map (· ++ ['\r']) := by
  have hlead : stripLead? keyword (line ++ ['\r']) = (stripLead? keyword line).map (· ++ ['\r']) :=
    Grammar.stripLead?_append (by rintro _ ⟨⟩; decide) line
  rw [importRest?, importRest?, hlead]
  cases hrest : stripLead? keyword line with
  | none => rfl
  | some rest =>
    cases rest with
    | nil => exact absurd ((Grammar.eq_append_of_stripLead? hrest).trans (List.append_nil _)) h
    | cons c rest =>
      simp only [Option.map_some, List.cons_append]
      split <;> rfl

/-- A carriage return at the end of a line does not count, but behind a bare keyword. -/
theorem indentedFrom_return {line : List Char} (h : trimStart line ≠ keyword)
    (block : Option (List String)) (rest : List (List Char)) :
    indentedFrom block ((line ++ ['\r']) :: rest) = indentedFrom block (line :: rest) := by
  have hline : line.takeWhile isBlank ++ trimStart line = line := List.takeWhile_append_dropWhile
  have hindent : Blanks (line.takeWhile isBlank) := fun _ hc ↦ List.mem_takeWhile_imp hc
  cases htext : trimStart line with
  | nil =>
    rw [htext, List.append_nil] at hline
    rw [hline] at hindent
    have hreturn : Blanks (line ++ ['\r']) :=
      List.forall_mem_append.mpr ⟨hindent, List.forall_mem_singleton.mpr (by decide)⟩
    rw [indentedFrom_blank hreturn, indentedFrom_blank hindent]
  | cons c cs =>
    rw [htext] at hline h
    have hc : isBlank c = false := by
      have := List.head?_dropWhile_not isBlank line
      rw [← trimStart, htext] at this
      simpa using this
    have htrim (after : List Char) : trimEnd (after ++ ['\r']) = trimEnd after := by
      rw [trimEnd, List.reverse_append]
      rfl
    have hlong : ∃ d rest, c :: cs ++ ['\r'] = d :: rest ∧ isBlank d = false :=
      ⟨c, cs ++ ['\r'], rfl, hc⟩
    rw [← hline, List.append_assoc, indentedFrom_line hindent hlong,
      indentedFrom_line hindent ⟨c, cs, rfl, hc⟩, importRest?_return h]
    cases importRest? (c :: cs) with
    | none => rfl
    | some after => simp only [Option.map_some, htrim]

/-- The lines of a text are read like the lines that it is made of. -/
theorem indentedFrom_lines {ls : List (List Char)} (noBreak : ∀ line ∈ ls, '\n' ∉ line)
    (noKeyword : ∀ line ∈ ls, trimStart line ≠ keyword ++ ['\r'])
    (block : Option (List String)) :
    indentedFrom block (lines (['\n'].intercalate ls)) = indentedFrom block ls := by
  induction ls generalizing block with
  | nil => rfl
  | cons line ls ih =>
    rw [List.forall_mem_cons] at noBreak noKeyword
    cases ls with
    | nil =>
      have hlines : lines line = if line.reverse = [] then [] else [line] := by
        have := linesFrom_append noBreak.1 [] []
        rwa [List.append_nil, List.append_nil, linesFrom, List.reverse_reverse] at this
      rw [List.intercalate_singleton, hlines]
      split
      · next hempty =>
        have hblanks : Blanks [] := List.forall_mem_nil _
        rw [List.reverse_eq_nil_iff.mp hempty, indentedFrom_blank hblanks]
      · rfl
    | cons next ls =>
      rw [List.intercalate_cons_cons, List.append_assoc, List.singleton_append]
      obtain ⟨line', hlines, hline⟩ :=
        lines_append noBreak.1 (['\n'].intercalate (next :: ls))
      rw [hlines, indentedFrom_congr (ih noBreak.2 noKeyword.2)]
      rcases hline with rfl | rfl
      · rfl
      · refine (indentedFrom_return (fun hkeyword ↦ noKeyword.1 ?_) block _).symm
        rw [trimStart, List.dropWhile_append, ← trimStart, hkeyword]
        rfl

/-! ## Sheets -/

theorem ImportLine.exists_cons {args : List Argument} {line : List Char}
    (h : ImportLine args line) : ∃ c rest, line = c :: rest ∧ isBlank c = false := by
  obtain ⟨rest, rfl, -⟩ := h.exists_rest
  exact ⟨'@', _, rfl, by decide⟩

theorem indentedFrom_keyword {indent : List Char} (hindent : Blanks indent) (text : List Char)
    (block : Option (List String)) (rest : List (List Char)) :
    indentedFrom block ((indent ++ (keyword ++ ' ' :: text)) :: rest) =
      let args := splitArgs (dropSemicolons (trimEnd (' ' :: text)))
      if indent = [] then closeBlock block ++ .load args :: indentedFrom none rest
      else indentedFrom (some (block.getD [] ++ args)) rest := by
  have hline : ∃ c cs, keyword ++ ' ' :: text = c :: cs ∧ isBlank c = false :=
    ⟨'@', _, rfl, by decide⟩
  have hspace : isBlank ' ' = true := by decide
  rw [indentedFrom_line hindent hline]
  simp only [Grammar.importRest?_keyword (.inl hspace) text]

theorem indentedFrom_import {args : List Argument} {indent line : List Char}
    (h : ImportLine args line) (hindent : Blanks indent) (block : Option (List String))
    (rest : List (List Char)) :
    indentedFrom block ((indent ++ line) :: rest) =
      if indent = [] then closeBlock block ++ .load (written args) :: indentedFrom none rest
      else indentedFrom (some (block.getD [] ++ written args)) rest := by
  obtain ⟨text, rfl, hargs⟩ := h.exists_rest
  simp only [indentedFrom_keyword hindent, hargs]

theorem OtherLine.importRest?_eq {line : List Char} (h : OtherLine line) :
    importRest? line = none := by
  cases hrest : stripLead? keyword line with
  | none => rw [importRest?, hrest]
  | some rest =>
    rw [importRest?, hrest]
    cases rest with
    | nil => rfl
    | cons c rest =>
      have hline := Grammar.eq_append_of_stripLead? hrest
      have hblank := h.noImport c rest hline
      have hmark : c ∉ marks := h.noMark c (by simp [hline])
      simp only [marks, List.mem_cons, List.not_mem_nil, or_false, not_or] at hmark
      simp [hblank, hmark]

theorem indentedFrom_other {indent line : List Char} (h : OtherLine line) (hindent : Blanks indent)
    (block : Option (List String)) (rest : List (List Char)) :
    indentedFrom block ((indent ++ line) :: rest) =
      if indent = [] then closeBlock block ++ indentedFrom (some []) rest
      else indentedFrom block rest := by
  rw [indentedFrom_line hindent h.first]
  simp only [h.importRest?_eq]

/-- The lines under a header add their imports to the block, and leave it open. -/
theorem indentedFrom_body {loads : List (List Argument)} {inner : List (List Char)}
    (h : Body loads inner) (args : List String) (rest : List (List Char)) :
    indentedFrom (some args) (inner ++ rest) =
      indentedFrom (some (args ++ loads.flatMap written)) rest := by
  induction h generalizing args with
  | nil => rw [List.nil_append, List.flatMap_nil, List.append_nil]
  | blank blanks _ ih => rw [List.cons_append, indentedFrom_blank blanks, ih]
  | load blanks indented hline _ ih =>
    rw [List.cons_append, indentedFrom_import hline blanks, if_neg indented, ih, Option.getD_some,
      List.flatMap_cons, List.append_assoc]
  | other blanks indented hline _ ih =>
    rw [List.cons_append, indentedFrom_other hline blanks, if_neg indented, ih]

/-- The lines of items close the block that is open before them, and every block they open. -/
theorem indentedFrom_items {items : List Item} {ls : List (List Char)} (h : Lines items ls)
    (block : Option (List String)) :
    indentedFrom block ls = closeBlock block ++ items.map Item.statement := by
  induction h generalizing block with
  | nil => rw [indentedFrom, List.map_nil, List.append_nil]
  | blank blanks _ ih => rw [indentedFrom_blank blanks, ih]
  | @load items args line lines hline _ ih =>
    calc
      indentedFrom block (line :: lines) =
          closeBlock block ++ .load (written args) :: indentedFrom none lines :=
        indentedFrom_import hline (List.forall_mem_nil _) block lines
      _ = closeBlock block ++ (Item.load args :: items).map Item.statement := by
        rw [ih]
        rfl
  | @block items loads header inner lines hheader body _ ih =>
    calc
      indentedFrom block (header :: (inner ++ lines)) =
          closeBlock block ++ indentedFrom (some []) (inner ++ lines) :=
        indentedFrom_other hheader (List.forall_mem_nil _) block (inner ++ lines)
      _ = closeBlock block ++ indentedFrom (some (loads.flatMap written)) lines := by
        rw [indentedFrom_body body, List.nil_append]
      _ = closeBlock block ++ (Item.block loads :: items).map Item.statement := by
        rw [ih]
        rfl

/-- What holds of every kind of line holds of the lines under a header. -/
theorem Body.forall_mem {P : List Char → Prop} {loads : List (List Argument)}
    {inner : List (List Char)} (h : Body loads inner)
    (blank : ∀ line, Blanks line → P line)
    (load : ∀ indent line args, Blanks indent → ImportLine args line → P (indent ++ line))
    (other : ∀ indent line, Blanks indent → OtherLine line → P (indent ++ line)) :
    ∀ line ∈ inner, P line := by
  induction h with
  | nil => exact List.forall_mem_nil P
  | blank blanks _ ih => exact List.forall_mem_cons.mpr ⟨blank _ blanks, ih⟩
  | load blanks _ hline _ ih => exact List.forall_mem_cons.mpr ⟨load _ _ _ blanks hline, ih⟩
  | other blanks _ hline _ ih => exact List.forall_mem_cons.mpr ⟨other _ _ blanks hline, ih⟩

theorem Lines.forall_mem {P : List Char → Prop} {items : List Item} {ls : List (List Char)}
    (h : Lines items ls) (blank : ∀ line, Blanks line → P line)
    (load : ∀ indent line args, Blanks indent → ImportLine args line → P (indent ++ line))
    (other : ∀ indent line, Blanks indent → OtherLine line → P (indent ++ line)) :
    ∀ line ∈ ls, P line := by
  have hnil : Blanks [] := List.forall_mem_nil _
  induction h with
  | nil => exact List.forall_mem_nil P
  | blank blanks _ ih => exact List.forall_mem_cons.mpr ⟨blank _ blanks, ih⟩
  | load hline _ ih => exact List.forall_mem_cons.mpr ⟨load [] _ _ hnil hline, ih⟩
  | block hheader body _ ih =>
    refine List.forall_mem_cons.mpr ⟨other [] _ hnil hheader, List.forall_mem_append.mpr ⟨?_, ih⟩⟩
    exact body.forall_mem blank load other

theorem Lines.kept {items : List Item} {ls : List (List Char)} (h : Lines items ls) :
    ∀ line ∈ ls, Kept line :=
  h.forall_mem (fun _ blanks ↦ .of_strips (Grammar.strips_blanks blanks))
    (fun _ _ _ blanks hline ↦ .of_strips_append (Grammar.strips_blanks blanks) hline.kept)
    (fun _ _ blanks hline ↦ .of_strips_append (Grammar.strips_blanks blanks) hline.kept)

/-- No line is the keyword and a carriage return. -/
theorem Lines.trimStart_ne {items : List Item} {ls : List (List Char)} (h : Lines items ls) :
    ∀ line ∈ ls, trimStart line ≠ keyword ++ ['\r'] := by
  have htrim {indent line : List Char} (blanks : Blanks indent)
      (hline : ∃ c rest, line = c :: rest ∧ isBlank c = false) :
      trimStart (indent ++ line) = line := by
    obtain ⟨c, rest, rfl, hc⟩ := hline
    exact Grammar.dropWhile_isBlank blanks hc
  refine h.forall_mem (fun line blanks ↦ ?_) (fun indent line args blanks hline ↦ ?_)
    (fun indent line blanks hline ↦ ?_)
  · rw [trimStart, List.dropWhile_eq_nil_iff.mpr blanks]
    exact List.cons_ne_nil _ _ ∘ Eq.symm
  · rw [htrim blanks hline.exists_cons]
    obtain ⟨rest, rfl, -⟩ := hline.exists_rest
    exact fun h ↦ absurd (List.append_cancel_left h) (by simp)
  · rw [htrim blanks hline.first]
    exact fun h ↦ absurd (hline.noImport '\r' [] h) (by decide)

/-- The import statements of an indented sheet are the imports that were written: one statement for
each import in the first column, and one for each header, with the arguments of all imports under
it. Nothing is lost at the next line in the first column or at the end of the text. -/
theorem statements_of_indentedSheet {items : List Item} {source : String}
    (sheet : Sheet items source.toList) :
    statements .sass source = items.map Item.statement := by
  obtain ⟨ls, hlines, noBreak, htext⟩ := sheet
  have hstrip : stripComments source.toList = ['\n'].intercalate ls := by
    rw [htext]
    exact (kept_intercalate hlines.kept).stripComments_eq
  calc
    statements .sass source = indentedFrom none (lines (['\n'].intercalate ls)) :=
      congrArg indentedStatements hstrip
    _ = indentedFrom none ls := indentedFrom_lines noBreak hlines.trimStart_ne none
    _ = items.map Item.statement := indentedFrom_items hlines none

theorem nameChars_of_all {cs : List Char}
    (h : cs.all (fun c ↦ isAlphanumeric c || ['-', '_', '.', '/'].contains c) = true) :
    ∀ c ∈ cs, isAlphanumeric c = true ∨ c ∈ ['-', '_', '.', '/'] := by
  intro c hc
  have hname := List.all_eq_true.mp h c hc
  rwa [Bool.or_eq_true, List.contains_iff_mem] at hname

/-- An import of two names, and a header with two imports under it. -/
def pagedItems : List Item :=
  let a : BareName := ⟨['a'], by decide, nameChars_of_all (by decide), by decide⟩
  let b : Name := ⟨⟨'\'', ['/', '/', 'b'], Grammar.isQuote_single,
    Grammar.closed_of_not_mem (by decide) (by decide) (by decide)⟩, by decide⟩
  let c : BareName :=
    ⟨['.', '.', '/', 'c'], by decide, nameChars_of_all (by decide), by decide⟩
  [.load [.bare a, .quoted b], .block [[.bare c], [.quoted b]]]

/-- The items with blank lines, a semicolon, a line that says nothing of imports and an end without
a line break. -/
def pagedText : String :=
  "\n@import a , '//b';\n.x\n\n  @import ../c\r\n\ty: z\n @import '//b'"

theorem statements_pagedText :
    Sheet pagedItems pagedText.toList ∧
    statements .sass pagedText = [.load ["a", "'//b'"], .block ["../c", "'//b'"]] := by
  have hnil : Blanks [] := List.forall_mem_nil _
  have hspace : Blanks [' '] := List.forall_mem_singleton.mpr (by decide)
  have htab : Blanks ['\t'] := List.forall_mem_singleton.mpr (by decide)
  have hreturn : Blanks ['\r'] := List.forall_mem_singleton.mpr (by decide)
  have hspaces : Blanks [' ', ' '] := List.forall_mem_cons.mpr ⟨by decide, hspace⟩
  have hheader : OtherLine ['.', 'x'] := ⟨⟨'.', _, rfl, by decide⟩, by simp [marks], nofun⟩
  have hother : OtherLine ['y', ':', ' ', 'z'] :=
    ⟨⟨'y', _, rfl, by decide⟩, by simp [marks], nofun⟩
  have hlines : Lines pagedItems _ :=
    .blank hnil <| .load (.ended (.cons hnil hspace (.last hspace hnil)) hnil) <|
      .block hheader
        (.blank hnil <| .load hspaces (by decide) (.plain (.last hnil hreturn)) <|
          .other htab (by decide) hother <|
          .load hspace (by decide) (.plain (.last hnil hnil)) .nil)
        .nil
  have hsheet : Sheet pagedItems pagedText.toList := ⟨_, hlines, by decide, rfl⟩
  exact ⟨hsheet, statements_of_indentedSheet hsheet⟩

end StyleGuide.Imports.Indented
