import StyleGuide.Imports.Scan
import StyleGuide.Proofs.Imports.Stripping

/-!
# Imports found in a stylesheet

On every text of the grammar the scanners find the imports that were written and nothing else. Once
only blanks stand between the tokens, these are read one after the other: every scanner leaves a
token in the state in which it entered it, whatever quotes, braces and semicolons the token holds.
-/

namespace StyleGuide.Imports.Grammar

open Text

/-! ## Text that is passed over -/

/-- Reading statements goes past a text at any depth and finds nothing in it. -/
def Passed (cs : List Char) : Prop :=
  ∀ depth inner rest, blocksFrom none depth inner (cs ++ rest) = blocksFrom none depth inner rest

theorem importRest?_of_ne {c : Char} (h : c ≠ '@') (cs : List Char) :
    importRest? (c :: cs) = none := by
  simp [importRest?, keyword, stripLead?, Ne.symm h]

theorem piecewise_passed : Piecewise Passed where
  nil _ _ _ := rfl
  append h h' depth inner rest := by rw [List.append_assoc, h, h']

theorem passed_char {c : Char} (h : c ∉ ['"', '\'', '#', '{', '}', '@']) : Passed [c] := by
  simp only [List.mem_cons, List.not_mem_nil, or_false, not_or] at h
  obtain ⟨hdouble, hsingle, hhash, hopen, hclose, hat⟩ := h
  intro depth inner rest
  rw [List.singleton_append, blocksFrom]
  simp only [hdouble, hsingle, hhash, hopen, hclose, or_self, false_and, if_false]
  split
  · next himport => cases (importRest?_of_ne hat rest).symm.trans himport
  · rfl

theorem blocksFrom_quoted {quote : Char} {content : List Char} (closed : Closed quote content)
    (noEscape : quote ≠ '\\') (depth : Nat) (inner : List String) (rest : List Char) :
    blocksFrom (some quote) depth inner (content ++ quote :: rest) =
      blocksFrom none depth inner rest := by
  induction closed with
  | nil => rw [List.nil_append, blocksFrom]; simp only [noEscape, if_false, if_true]
  | plain hquote hescape _ _ ih =>
    rw [List.cons_append, blocksFrom]
    simp only [hquote, hescape, if_false, ih]
  | escape _ ih =>
    rw [List.cons_append, blocksFrom]
    simp only [if_true, List.cons_append, List.drop_succ_cons, List.drop_zero, ih]

theorem passed_quoted (q : Quoted) : Passed q.chars := by
  intro depth inner rest
  rw [Quoted.chars, List.cons_append, blocksFrom]
  simp only [q.isQuote, if_true, List.append_assoc, List.singleton_append]
  exact blocksFrom_quoted q.closed q.quote_ne_backslash depth inner rest

theorem passed_blanks {cs : List Char} (h : Blanks cs) : Passed cs :=
  piecewise_passed.of_chars fun _ hc ↦ passed_char (h.not_mem hc (by decide))

theorem passed_word (w : Word) : Passed w.chars :=
  piecewise_passed.of_chars fun _ hc ↦ passed_char (w.not_mem hc (by decide))

theorem blocksFrom_semicolon (depth : Nat) (inner : List String) (rest : List Char) :
    blocksFrom none depth inner (';' :: rest) = blocksFrom none depth inner rest :=
  passed_char (by decide) depth inner rest

/-! ## The arguments of an import -/

/-- Looking for the end of a statement goes past a text, inside of parentheses or not. -/
def Spanned (cs : List Char) : Prop :=
  ∀ parens rest, statementSpan ⟨none, false, parens⟩ (cs ++ rest) =
    (cs ++ (statementSpan ⟨none, false, parens⟩ rest).1,
      (statementSpan ⟨none, false, parens⟩ rest).2)

theorem piecewise_spanned : Piecewise Spanned where
  nil _ _ := rfl
  append h h' parens rest := by rw [List.append_assoc, h, h', List.append_assoc]

theorem spanned_char {c : Char} (h : c ∉ ['"', '\'', '(', ')', ';', '{', '}']) : Spanned [c] := by
  simp only [List.mem_cons, List.not_mem_nil, or_false, not_or] at h
  intro parens rest
  simp [statementSpan, SpanState.step, h]

theorem statementSpan_quoted {quote : Char} {content : List Char} (closed : Closed quote content)
    (noEscape : quote ≠ '\\') (parens : Nat) (rest : List Char) :
    statementSpan ⟨some quote, false, parens⟩ (content ++ quote :: rest) =
      (content ++ quote :: (statementSpan ⟨none, false, parens⟩ rest).1,
        (statementSpan ⟨none, false, parens⟩ rest).2) := by
  induction closed with
  | nil => simp [statementSpan, SpanState.step, noEscape]
  | plain hquote hescape _ _ ih => simp [statementSpan, SpanState.step, hquote, hescape, ih]
  | escape _ ih => simp [statementSpan, SpanState.step, ih]

theorem spanned_quoted (q : Quoted) : Spanned q.chars := by
  intro parens rest
  have hopen : SpanState.step ⟨none, false, parens⟩ q.quote =
      some ⟨some q.quote, false, parens⟩ := by
    simp only [SpanState.step, q.isQuote, if_true]
  simp [Quoted.chars, statementSpan, hopen, statementSpan_quoted q.closed q.quote_ne_backslash]

theorem Spanned.parenthesized {cs : List Char} (h : Spanned cs) :
    Spanned ('(' :: (cs ++ [')'])) := by
  intro parens rest
  simp [statementSpan, SpanState.step, h (parens + 1) (')' :: rest)]

/-- Nothing, or one of the characters that end a statement and what comes behind it. -/
def StatementEnd (rest : List Char) : Prop :=
  ∀ c ∈ rest.head?, c ∈ [';', '{', '}']

theorem Spanned.statementSpan_eq {cs rest : List Char} (h : Spanned cs)
    (hrest : StatementEnd rest) : statementSpan .outside (cs ++ rest) = (cs, rest) := by
  have hend : statementSpan .outside rest = ([], rest) := by
    cases rest with
    | nil => rfl
    | cons c rest =>
      have hstep : SpanState.outside.step c = none := by
        have hc := hrest c rfl
        simp only [List.mem_cons, List.not_mem_nil, or_false] at hc
        rcases hc with rfl | rfl | rfl <;> rfl
      rw [statementSpan, hstep]
  calc
    statementSpan .outside (cs ++ rest) =
        (cs ++ (statementSpan .outside rest).1, (statementSpan .outside rest).2) := h 0 rest
    _ = (cs, rest) := by rw [hend, List.append_nil]

theorem statementEnd_semicolon (rest : List Char) : StatementEnd (';' :: rest) := by
  intro c hc
  rw [← Option.some.inj hc]
  exact List.mem_cons_self

theorem Spanned.statementSpan_semicolon {cs : List Char} (h : Spanned cs) (rest : List Char) :
    statementSpan .outside (cs ++ ';' :: rest) = (cs, ';' :: rest) :=
  h.statementSpan_eq (statementEnd_semicolon rest)

/-- Splitting at commas keeps a text in one argument. -/
def Unsplit (cs : List Char) : Prop :=
  ∀ word rest, splitFrom none 0 word (cs ++ rest) = splitFrom none 0 (cs.reverse ++ word) rest

theorem piecewise_unsplit : Piecewise Unsplit where
  nil _ _ := rfl
  append h h' word rest := by
    rw [List.append_assoc, h, h', List.reverse_append, List.append_assoc]

theorem unsplit_char {c : Char} (h : c ∉ ['"', '\'', '(', ')', ',']) : Unsplit [c] := by
  simp only [List.mem_cons, List.not_mem_nil, or_false, not_or] at h
  intro word rest
  simp [splitFrom, h]

theorem splitFrom_quoted {quote : Char} {content : List Char} (h : quote ∉ content)
    (word rest : List Char) :
    splitFrom (some quote) 0 word (content ++ quote :: rest) =
      splitFrom none 0 (quote :: (content.reverse ++ word)) rest := by
  induction content generalizing word with
  | nil => simp [splitFrom]
  | cons c cs ih =>
    rw [List.mem_cons, not_or] at h
    simp [splitFrom, Ne.symm h.1, ih h.2]

/-- Quoted text that does not hold its own quote stays in one argument. -/
theorem unsplit_quoted {q : Quoted} (h : q.quote ∉ q.content) : Unsplit q.chars := by
  intro word rest
  have hopen (cs : List Char) : splitFrom none 0 word (q.quote :: cs) =
      splitFrom (some q.quote) 0 (q.quote :: word) cs := by
    simp only [splitFrom, q.isQuote, if_true]
  simp [Quoted.chars, hopen, splitFrom_quoted h]

theorem dropWhile_isBlank {before cs : List Char} {c : Char} (h : Blanks before)
    (hc : isBlank c = false) : (before ++ c :: cs).dropWhile isBlank = c :: cs := by
  rw [List.dropWhile_append_of_pos h, List.dropWhile_cons_of_neg (by simp [hc])]

/-- Text that stays in one argument and has no blanks at its ends. -/
structure Solid (cs : List Char) : Prop where
  unsplit : Unsplit cs
  first : ∃ c rest, cs = c :: rest ∧ isBlank c = false
  last : ∃ front c, cs = front ++ [c] ∧ isBlank c = false

theorem Quoted.isBlank_quote (q : Quoted) : isBlank q.quote = false := by
  rcases q.isQuote with h | h <;> rw [h] <;> decide

theorem solid_quoted {q : Quoted} (h : q.quote ∉ q.content) : Solid q.chars where
  unsplit := unsplit_quoted h
  first := ⟨q.quote, q.content ++ [q.quote], rfl, q.isBlank_quote⟩
  last := ⟨q.quote :: q.content, q.quote, rfl, q.isBlank_quote⟩

theorem Name.quote_notMem (n : Name) : n.quote ∉ n.content :=
  n.closed.not_mem n.noEscape

theorem solid_name (n : Name) : Solid n.chars :=
  solid_quoted n.quote_notMem

theorem trimEnd_append {c : Char} {after : List Char} (hc : isBlank c = false)
    (hafter : Blanks after) (front : List Char) :
    trimEnd (front ++ c :: after) = front ++ [c] := by
  have hreverse : Blanks after.reverse := fun c hc ↦ hafter c (List.mem_reverse.mp hc)
  rw [trimEnd, List.reverse_append, List.reverse_cons, List.append_assoc, List.singleton_append,
    dropWhile_isBlank hreverse hc, List.reverse_cons, List.reverse_reverse]

theorem Solid.trimEnd_eq {cs : List Char} (h : Solid cs) (front : List Char) {after : List Char}
    (hafter : Blanks after) : trimEnd (front ++ cs ++ after) = front ++ cs := by
  obtain ⟨cs, c, rfl, hc⟩ := h.last
  simpa only [List.append_assoc, List.singleton_append] using
    trimEnd_append hc hafter (front ++ cs)

/-- Blanks around solid text do not count. -/
theorem Solid.trim_eq {cs before after : List Char} (h : Solid cs) (hbefore : Blanks before)
    (hafter : Blanks after) : trim (before ++ cs ++ after) = cs := by
  have hfront : trimStart (before ++ cs ++ after) = [] ++ cs ++ after := by
    obtain ⟨c, rest, rfl, hc⟩ := h.first
    rw [trimStart, List.append_assoc]
    exact dropWhile_isBlank hbefore hc
  rw [trim, hfront, h.trimEnd_eq [] hafter, List.nil_append]

theorem Solid.unsplit_blanks {cs before after : List Char} (h : Solid cs)
    (hbefore : Blanks before) (hafter : Blanks after) : Unsplit (before ++ cs ++ after) := by
  have hblanks {cs : List Char} (h : Blanks cs) : Unsplit cs :=
    piecewise_unsplit.of_chars fun _ hc ↦ unsplit_char (h.not_mem hc (by decide))
  exact piecewise_unsplit.append
    (piecewise_unsplit.append (hblanks hbefore) h.unsplit) (hblanks hafter)

/-- Solid texts with commas between them and blanks around them. -/
inductive Listed : List (List Char) → List Char → Prop
  | last {cs before after : List Char} (solid : Solid cs) (hbefore : Blanks before)
      (hafter : Blanks after) : Listed [cs] (before ++ cs ++ after)
  | cons {cs before after text : List Char} {others : List (List Char)} (solid : Solid cs)
      (hbefore : Blanks before) (hafter : Blanks after) (rest : Listed others text) :
      Listed (cs :: others) (before ++ cs ++ after ++ ',' :: text)

namespace Listed

variable {css : List (List Char)} {text : List Char}

theorem map_trim_splitFrom (h : Listed css text) :
    (splitFrom none 0 [] text).map trim = css := by
  induction h with
  | @last cs before after solid hbefore hafter =>
    have hsplit := solid.unsplit_blanks hbefore hafter [] []
    rw [List.append_nil, List.append_nil] at hsplit
    rw [hsplit, splitFrom, List.reverse_reverse, List.map_singleton, solid.trim_eq hbefore hafter]
  | @cons cs before after text others solid hbefore hafter _ ih =>
    have hcomma (word : List Char) : splitFrom none 0 word (',' :: text) =
        word.reverse :: splitFrom none 0 [] text := by
      simp [splitFrom]
    rw [solid.unsplit_blanks hbefore hafter, List.append_nil, hcomma, List.reverse_reverse,
      List.map_cons, solid.trim_eq hbefore hafter, ih]

theorem ne_nil (h : Listed css text) : ∀ cs ∈ css, cs ≠ [] := by
  have hsolid {cs : List Char} (h : Solid cs) : cs ≠ [] := by
    obtain ⟨c, rest, rfl, -⟩ := h.first
    exact List.cons_ne_nil c rest
  induction h with
  | last solid => exact List.forall_mem_singleton.mpr (hsolid solid)
  | cons solid _ _ _ ih => exact List.forall_mem_cons.mpr ⟨hsolid solid, ih⟩

theorem cons_blank {c : Char} (hc : isBlank c = true) (h : Listed css text) :
    Listed css (c :: text) := by
  have hblanks {before : List Char} (h : Blanks before) : Blanks (c :: before) :=
    List.forall_mem_cons.mpr ⟨hc, h⟩
  cases h with
  | last solid hbefore hafter => exact .last solid (hblanks hbefore) hafter
  | cons solid hbefore hafter rest => exact .cons solid (hblanks hbefore) hafter rest

/-- The arguments of an import are the texts that are listed. -/
theorem splitArgs_eq (h : Listed css text) : splitArgs text = css.map String.ofList := by
  have hfilter : css.filter (· ≠ []) = css :=
    List.filter_eq_self.mpr fun cs hcs ↦ decide_eq_true (h.ne_nil cs hcs)
  rw [splitArgs, h.map_trim_splitFrom, hfilter]

end Listed

theorem listed_quoted {first : Quoted} {others : List Quoted} {text after : List Char}
    (run : Run Blanks (quotedTokens first others) text) (hafter : Blanks after)
    (unescaped : ∀ q ∈ first :: others, q.quote ∉ q.content) :
    Listed ((first :: others).map (·.chars)) (text ++ after) := by
  induction others generalizing first text with
  | nil =>
    obtain ⟨before, more, hbefore, hmore, rfl⟩ := run.exists_cons
    cases hmore
    rw [List.append_nil]
    exact .last (solid_quoted (unescaped first List.mem_cons_self)) hbefore hafter
  | cons next others ih =>
    obtain ⟨hfirst, hothers⟩ := List.forall_mem_cons.mp unescaped
    obtain ⟨before, more, hbefore, hmore, rfl⟩ := run.exists_cons
    obtain ⟨between, text, hbetween, htext, rfl⟩ := hmore.exists_cons
    have hlisted := Listed.cons (solid_quoted hfirst) hbefore hbetween (ih htext hothers)
    simpa only [Token.chars, List.append_assoc, List.cons_append, List.nil_append,
      List.map_cons] using hlisted

theorem spanned_quotedTokens {first : Quoted} {others : List Quoted} {text after : List Char}
    (run : Run Blanks (quotedTokens first others) text) (hafter : Blanks after) :
    Spanned (text ++ after) := by
  have hblanks (cs : List Char) (h : Blanks cs) : Spanned cs :=
    piecewise_spanned.of_chars fun _ hc ↦ spanned_char (h.not_mem hc (by decide))
  refine piecewise_spanned.append (piecewise_spanned.of_run run hblanks fun t ht ↦ ?_)
    (hblanks after hafter)
  simp only [quotedTokens, List.mem_cons, List.mem_flatMap, List.not_mem_nil, or_false] at ht
  rcases ht with rfl | ⟨q, -, rfl | rfl⟩
  · exact spanned_quoted _
  · exact spanned_char (by decide)
  · exact spanned_quoted _

theorem argumentTokens_eq (first : Name) (others : List Name) :
    argumentTokens first others = quotedTokens first.toQuoted (others.map Name.toQuoted) := by
  rw [argumentTokens, quotedTokens, List.flatMap_map]

/-- The arguments of an import are its names, as they are written. -/
theorem splitArgs_arguments {first : Name} {others : List Name} {text after : List Char}
    (run : Run Blanks (argumentTokens first others) text) (hafter : Blanks after) :
    splitArgs (text ++ after) = (first :: others).map Name.argument := by
  rw [argumentTokens_eq] at run
  have unescaped : ∀ q ∈ first.toQuoted :: others.map Name.toQuoted, q.quote ∉ q.content :=
    List.forall_mem_cons.mpr ⟨first.quote_notMem, List.forall_mem_map.mpr fun n _ ↦ n.quote_notMem⟩
  rw [(listed_quoted run hafter unescaped).splitArgs_eq, List.map_cons, List.map_cons,
    List.map_map, List.map_map]
  rfl

/-! ## Imports -/

/-- What a text begins with is seen in the text, if what comes behind does not go on with it. -/
theorem stripLead?_append {lead rest : List Char} (h : ∀ c ∈ rest.head?, c ∉ lead)
    (cs : List Char) : stripLead? lead (cs ++ rest) = (stripLead? lead cs).map (· ++ rest) := by
  induction lead generalizing cs with
  | nil => rfl
  | cons l lead ih =>
    cases cs with
    | nil =>
      cases rest with
      | nil => rfl
      | cons c rest =>
        have hne : l ≠ c := fun hlc ↦ h c rfl (hlc ▸ List.mem_cons_self)
        rw [List.nil_append, stripLead?, stripLead?, if_neg hne]
        rfl
    | cons c cs =>
      rw [List.cons_append, stripLead?, stripLead?]
      split
      · exact ih (fun c hc hmem ↦ h c hc (List.mem_cons_of_mem _ hmem)) cs
      · rfl

theorem eq_append_of_stripLead? {lead cs rest : List Char}
    (h : stripLead? lead cs = some rest) : cs = lead ++ rest := by
  induction lead generalizing cs with
  | nil => exact Option.some.inj h
  | cons l lead ih =>
    cases cs with
    | nil => cases h
    | cons c cs =>
      rw [stripLead?] at h
      split at h
      · next hl => rw [ih h, hl, List.cons_append]
      · cases h

theorem importRest?_keyword {c : Char} (h : isBlank c = true ∨ c = '"' ∨ c = '\'')
    (cs : List Char) : importRest? (keyword ++ c :: cs) = some (c :: cs) := by
  simp [importRest?, keyword, stripLead?, or_assoc, h]

/-- The arguments of an import begin with a blank or a quote, whatever stood before them. -/
theorem importRest?_arguments {first : Quoted} {others : List Quoted} {text : List Char}
    (run : Run Blanks (quotedTokens first others) text) (rest : List Char) :
    importRest? (keyword ++ (text ++ rest)) = some (text ++ rest) := by
  obtain ⟨before, more, hbefore, -, rfl⟩ := run.exists_cons
  cases before with
  | nil => exact importRest?_keyword (.inr first.isQuote) _
  | cons c cs => exact importRest?_keyword (.inl (hbefore c List.mem_cons_self)) _

theorem blocksFrom_keyword {cs : List Char} (h : importRest? (keyword ++ cs) = some cs)
    (depth : Nat) (inner : List String) :
    blocksFrom none depth inner (keyword ++ cs) =
      if depth = 0 then
        .load (splitArgs (statementSpan .outside cs).1) ::
          blocksFrom none depth inner (statementSpan .outside cs).2
      else blocksFrom none depth (inner ++ splitArgs (statementSpan .outside cs).1)
        (statementSpan .outside cs).2 := by
  change blocksFrom none depth inner ('@' :: (['i', 'm', 'p', 'o', 'r', 't'] ++ cs)) = _
  rw [blocksFrom]
  simp only [Char.reduceEq, or_self, false_and, if_false]
  split
  · next rest himport =>
    obtain rfl := Option.some.inj (himport.symm.trans h)
    rfl
  · next himport => cases himport.symm.trans h

/-- The arguments of an import are split where the statement ends. At the top level they are a
statement of their own. -/
theorem blocksFrom_quotedImport {first : Quoted} {others : List Quoted}
    {text after rest : List Char} (run : Run Blanks (quotedTokens first others) text)
    (hafter : Blanks after) (hrest : StatementEnd rest) (depth : Nat) (inner : List String) :
    blocksFrom none depth inner (keyword ++ (text ++ after ++ rest)) =
      if depth = 0 then .load (splitArgs (text ++ after)) :: blocksFrom none depth inner rest
      else blocksFrom none depth (inner ++ splitArgs (text ++ after)) rest := by
  have hopens : importRest? (keyword ++ (text ++ after ++ rest)) = some (text ++ after ++ rest) := by
    rw [List.append_assoc]
    exact importRest?_arguments run _
  rw [blocksFrom_keyword hopens, (spanned_quotedTokens run hafter).statementSpan_eq hrest]

/-- An import is read as its names, at the top level as a statement of its own. -/
theorem blocksFrom_import {first : Name} {others : List Name} {text after : List Char}
    (run : Run Blanks (argumentTokens first others) text) (hafter : Blanks after) (depth : Nat)
    (inner : List String) (rest : List Char) :
    blocksFrom none depth inner (keyword ++ (text ++ (after ++ ';' :: rest))) =
      if depth = 0 then
        .load ((first :: others).map Name.argument) :: blocksFrom none depth inner rest
      else blocksFrom none depth (inner ++ (first :: others).map Name.argument) rest := by
  have hsplit := splitArgs_arguments run hafter
  rw [argumentTokens_eq] at run
  have himport := blocksFrom_quotedImport run hafter (statementEnd_semicolon rest) depth inner
  rwa [hsplit, blocksFrom_semicolon, blocksFrom_semicolon, List.append_assoc] at himport

/-! ## Items -/

theorem exists_load {first : Name} {others : List Name} {text : List Char}
    (run : Run Blanks (Item.load first others).tokens text) :
    ∃ before arguments after, Blanks before ∧
      Run Blanks (argumentTokens first others) arguments ∧ Blanks after ∧
      text = before ++ (keyword ++ (arguments ++ (after ++ [';']))) := by
  rw [Item.tokens] at run
  obtain ⟨before, more, hbefore, hmore, rfl⟩ := run.exists_cons
  obtain ⟨arguments, last, harguments, hlast, rfl⟩ := hmore.exists_append
  obtain ⟨after, rest, hafter, hrest, rfl⟩ := hlast.exists_cons
  cases hrest
  refine ⟨before, arguments, after, hbefore, harguments, hafter, ?_⟩
  simp only [Token.chars, List.append_assoc, List.append_nil]

theorem exists_block {selector : List Word} {body : List Item} {text : List Char}
    (run : Run Blanks (Item.block selector body).tokens text) :
    ∃ front inside after, Passed front ∧ Run Blanks (tokensOf body) inside ∧ Passed after ∧
      text = front ++ '{' :: (inside ++ (after ++ ['}'])) := by
  rw [Item.tokens] at run
  obtain ⟨words, braces, hwords, hbraces, rfl⟩ := run.exists_append
  obtain ⟨before, more, hbefore, hmore, rfl⟩ := hbraces.exists_cons
  obtain ⟨inside, last, hinside, hlast, rfl⟩ := hmore.exists_append
  obtain ⟨after, rest, hafter, hrest, rfl⟩ := hlast.exists_cons
  cases hrest
  have hpassed : Passed words := by
    refine piecewise_passed.of_run hwords (fun _ ↦ passed_blanks) fun t ht ↦ ?_
    obtain ⟨w, -, rfl⟩ := List.mem_map.mp ht
    exact passed_word w
  refine ⟨words ++ before, inside, after, piecewise_passed.append hpassed (passed_blanks hbefore),
    hinside, passed_blanks hafter, ?_⟩
  simp only [Token.chars, List.append_assoc, List.append_nil, List.cons_append, List.nil_append]

theorem passed_declaration {parts : List (Word ⊕ Quoted)} {text : List Char}
    (run : Run Blanks (Item.declaration parts).tokens text) : Passed text := by
  rw [Item.tokens] at run
  refine piecewise_passed.of_run run (fun _ ↦ passed_blanks) fun t ht ↦ ?_
  rw [List.mem_append, List.mem_map, List.mem_singleton] at ht
  rcases ht with ⟨w | q, -, rfl⟩ | rfl
  · exact passed_word w
  · exact passed_quoted q
  · exact passed_char (by decide)

theorem blocksFrom_opening (depth : Nat) (inner : List String) (rest : List Char) :
    blocksFrom none depth inner ('{' :: rest) = blocksFrom none (depth + 1) inner rest := by
  rw [blocksFrom]
  simp

theorem blocksFrom_closing_inside (depth : Nat) (inner : List String) (rest : List Char) :
    blocksFrom none (depth + 2) inner ('}' :: rest) = blocksFrom none (depth + 1) inner rest := by
  rw [blocksFrom]
  simp

theorem blocksFrom_closing (inner : List String) (rest : List Char) :
    blocksFrom none 1 inner ('}' :: rest) = .block inner :: blocksFrom none 0 [] rest := by
  rw [blocksFrom]
  simp

mutual

/-- Inside a block an item adds its imports to those of the block. -/
theorem blocksFrom_item (item : Item) {text : List Char} (run : Run Blanks item.tokens text)
    (depth : Nat) (inner : List String) (rest : List Char) :
    blocksFrom none (depth + 1) inner (text ++ rest) =
      blocksFrom none (depth + 1) (inner ++ item.arguments) rest := by
  cases item with
  | load first others =>
    obtain ⟨before, arguments, after, hbefore, harguments, hafter, rfl⟩ := exists_load run
    simp only [List.append_assoc, List.singleton_append]
    rw [passed_blanks hbefore, blocksFrom_import harguments hafter, if_neg (Nat.succ_ne_zero depth),
      Item.arguments]
  | block selector body =>
    -- The inner block adds to the same imports: only the outermost brace makes a statement.
    obtain ⟨front, inside, after, hfront, hinside, hafter, rfl⟩ := exists_block run
    simp only [List.append_assoc, List.cons_append, List.nil_append]
    rw [hfront, blocksFrom_opening, blocksFrom_items body hinside, hafter,
      blocksFrom_closing_inside, Item.arguments]
  | declaration parts =>
    rw [passed_declaration run, Item.arguments, List.append_nil]

theorem blocksFrom_items (items : List Item) {text : List Char}
    (run : Run Blanks (tokensOf items) text) (depth : Nat) (inner : List String)
    (rest : List Char) :
    blocksFrom none (depth + 1) inner (text ++ rest) =
      blocksFrom none (depth + 1) (inner ++ argumentsOf items) rest := by
  cases items with
  | nil =>
    cases run
    rw [argumentsOf, List.append_nil, List.nil_append]
  | cons item items =>
    rw [tokensOf] at run
    obtain ⟨front, back, hfront, hback, rfl⟩ := run.exists_append
    rw [List.append_assoc, blocksFrom_item item hfront, blocksFrom_items items hback, argumentsOf,
      List.append_assoc]

end

/-- At the top level an item is at most one statement. -/
theorem blocksFrom_topItem (item : Item) {text : List Char} (run : Run Blanks item.tokens text)
    (rest : List Char) :
    blocksFrom none 0 [] (text ++ rest) = item.statement?.toList ++ blocksFrom none 0 [] rest := by
  cases item with
  | load first others =>
    obtain ⟨before, arguments, after, hbefore, harguments, hafter, rfl⟩ := exists_load run
    simp only [List.append_assoc, List.singleton_append]
    rw [passed_blanks hbefore, blocksFrom_import harguments hafter, if_pos rfl]
    rfl
  | block selector body =>
    obtain ⟨front, inside, after, hfront, hinside, hafter, rfl⟩ := exists_block run
    simp only [List.append_assoc, List.cons_append, List.nil_append]
    rw [hfront, blocksFrom_opening, blocksFrom_items body hinside, hafter, blocksFrom_closing]
    rfl
  | declaration parts =>
    rw [passed_declaration run]
    rfl

theorem blocksFrom_topItems (items : List Item) {text : List Char}
    (run : Run Blanks (tokensOf items) text) (rest : List Char) :
    blocksFrom none 0 [] (text ++ rest) =
      items.filterMap Item.statement? ++ blocksFrom none 0 [] rest := by
  induction items generalizing text with
  | nil =>
    cases run
    rfl
  | cons item items ih =>
    rw [tokensOf] at run
    obtain ⟨front, back, hfront, hback, rfl⟩ := run.exists_append
    rw [List.append_assoc, blocksFrom_topItem item hfront, ih hback]
    cases hstatement : item.statement? with
    | none => simp [hstatement]
    | some st => simp [hstatement]

/-- The import statements of a sheet of the grammar are the imports that were written: one
statement for each import at the top level, with its arguments, and one for each block at the top
level, with the arguments of all imports inside it. Comments and quoted text add nothing. -/
theorem statements_of_sheet {items : List Item} {source : String}
    (sheet : Sheet items source.toList) :
    statements .scss source = items.filterMap Item.statement? := by
  obtain ⟨out, last, run, hlast, hstrip⟩ := exists_stripComments_sheet sheet
  have hend : blocksFrom none 0 [] last = [] := by
    have hpassed := passed_blanks hlast 0 [] []
    rwa [List.append_nil, blocksFrom] at hpassed
  calc
    statements .scss source = blocksFrom none 0 [] (out ++ last) :=
      congrArg statementsInBraces hstrip
    _ = items.filterMap Item.statement? ++ blocksFrom none 0 [] last :=
      blocksFrom_topItems items run last
    _ = items.filterMap Item.statement? := by rw [hend, List.append_nil]

/-- An import of two names, and a block with a declaration and a block in it that imports one. -/
def commentedItems : List Item :=
  let a : Name :=
    ⟨⟨'"', ['a'], .inl rfl, closed_of_not_mem (by decide) (by decide) (by decide)⟩, by decide⟩
  let b : Name := ⟨⟨'\'', ['b', '/', '/'], .inr rfl,
    closed_of_not_mem (by decide) (by decide) (by decide)⟩, by decide⟩
  let c : Name := ⟨⟨'\'', ['c', ';'], .inr rfl,
    closed_of_not_mem (by decide) (by decide) (by decide)⟩, by decide⟩
  let value : Quoted := ⟨'"', ['\\', '"', '@', ';'], .inl rfl,
    .escape (closed_of_not_mem (by decide) (by decide) (by decide))⟩
  [.load a [b],
   .block [⟨['.', 'x'], by simp [marks]⟩]
    [.declaration [.inl ⟨['y', ':'], by simp [marks]⟩, .inr value],
     .block [⟨['w'], by simp [marks]⟩] [.load c []]]]

/-- The items with quotes in comments, and with comment marks, a semicolon and a quote in quotes. -/
def commentedText : String :=
  "/* ' */@import \"a\" // it's\n,'b//';.x \x7by:\"\\\"@;\";w\x7b@import 'c;';/* \" */\x7d\x7d//"

theorem statements_commentedText :
    Sheet commentedItems commentedText.toList ∧
    statements .scss commentedText = [.load ["\"a\"", "'b//'"], .block ["'c;'"]] := by
  have hapostrophe : Gap ['/', '*', ' ', '\'', ' ', '*', '/'] :=
    @Gap.blockComment [' ', '\'', ' '] [] (by decide) .nil
  have hquote : Gap ['/', '*', ' ', '"', ' ', '*', '/'] :=
    @Gap.blockComment [' ', '"', ' '] [] (by decide) .nil
  have hblank : Gap [' '] := .blank (by decide) .nil
  have hline : Gap [' ', '/', '/', ' ', 'i', 't', '\'', 's', '\n'] :=
    .blank (by decide) (@Gap.lineComment [' ', 'i', 't', '\'', 's'] [] (by decide) .nil)
  have hrun : Run Gap (tokensOf commentedItems) _ :=
    .cons hapostrophe <| .cons hblank <| .cons hline <| .cons .nil <| .cons .nil <| .cons .nil <|
      .cons hblank <| .cons .nil <| .cons .nil <| .cons .nil <| .cons .nil <| .cons .nil <|
      .cons .nil <| .cons hblank <| .cons .nil <| .cons hquote <| .cons .nil .nil
  have hsheet : Sheet commentedItems commentedText.toList :=
    @Sheet.commented _ _ [] [] hrun .nil List.not_mem_nil
  exact ⟨hsheet, statements_of_sheet hsheet⟩

end StyleGuide.Imports.Grammar
