import StyleGuide.Proofs.Imports.PlainImports
import StyleGuide.Proofs.Text.Trimming

/-!
# Quoted arguments

Where the quoted arguments of an import end. The removal of comments, the search for imports and the
search for the end of a statement agree that an escaped quote ends nothing. Splitting the arguments
and reading one of them know no escapes: there a text ends at the next quote of its kind. All of them
agree on the texts that do not hold their own quote, and a text that holds it is never looked up.
-/

namespace StyleGuide.Imports.Grammar

open Text

/-! ## One argument -/

def Quoted.argument (q : Quoted) : String :=
  String.ofList q.chars

/-- What an argument in quotes names depends on what stands before the next quote of its kind and on
what stands behind that. -/
theorem sassTarget?_argument (q : Quoted) {inner after : List Char} (hinner : q.quote ∉ inner)
    (hafter : q.content ++ [q.quote] = inner ++ q.quote :: after) :
    sassTarget? q.argument =
      if trim after = [] then
        if isPlainCss inner then none else some (String.ofList inner)
      else none := by
  have hother : ∀ c ∈ inner, (c != q.quote) = true := fun c hc ↦
    bne_iff_ne.mpr fun heq ↦ hinner (heq ▸ hc)
  have hchars : q.argument.toList = q.quote :: (inner ++ q.quote :: after) := by
    rw [Quoted.argument, String.toList_ofList, Quoted.chars, hafter]
  unfold sassTarget?
  simp only [hchars, q.isQuote, if_true]
  rw [List.dropWhile_append_of_pos hother, List.takeWhile_append_of_pos hother]
  simp

/-- Text that does not hold its own quote is read as one name. -/
theorem sassTarget?_of_notMem {q : Quoted} (h : q.quote ∉ q.content) :
    sassTarget? q.argument =
      if isPlainCss q.content then none else some (String.ofList q.content) := by
  rw [sassTarget?_argument q h rfl]
  rfl

/-- Behind the first quote of its kind that it holds, a text goes on: it names no stylesheet. -/
theorem sassTarget?_of_mem {q : Quoted} (h : q.quote ∈ q.content) :
    sassTarget? q.argument = none := by
  obtain ⟨inner, after, hcontent, hinner⟩ := List.eq_append_cons_of_mem h
  have hmore : trim (after ++ [q.quote]) ≠ [] := fun hnil ↦
    Bool.false_ne_true (q.isBlank_quote.symm.trans (trim_eq_nil_iff.mp hnil _ (by simp)))
  have hafter : q.content ++ [q.quote] = inner ++ q.quote :: (after ++ [q.quote]) := by
    simp [hcontent]
  rw [sassTarget?_argument q hinner hafter, if_neg hmore]

/-! ## Statements -/

/-- How an import of quoted texts is taken apart. `source` is what stands behind the keyword, `text`
is left of it without comments. -/
structure Delimited (first : Quoted) (others : List Quoted) (source text : List Char) : Prop where
  strips : Strips source text
  /-- The quoted texts are left as they are. -/
  kept : ∃ front last, Run Blanks (quotedTokens first others) front ∧ Blanks last ∧
    text = front ++ last
  /-- Elsewhere, too, the search for imports goes past them. -/
  passed : ∀ q ∈ first :: others, Passed q.chars
  /-- The statement ends behind them. -/
  span : ∀ rest, StatementEnd rest → statementSpan .outside (text ++ rest) = (text, rest)
  /-- The import has the arguments that are split there, and the search goes on behind them. -/
  load : ∀ rest, StatementEnd rest → ∀ depth inner,
    blocksFrom none depth inner (keyword ++ (text ++ rest)) =
      if depth = 0 then .load (splitArgs text) :: blocksFrom none depth inner rest
      else blocksFrom none depth (inner ++ splitArgs text) rest

theorem delimited_of_run {first : Quoted} {others : List Quoted} {source front last : List Char}
    (strips : Strips source (front ++ last)) (run : Run Blanks (quotedTokens first others) front)
    (blanks : Blanks last) : Delimited first others source (front ++ last) where
  strips := strips
  kept := ⟨front, last, run, blanks, rfl⟩
  passed := fun q _ ↦ passed_quoted q
  span := fun _ hrest ↦ (spanned_quotedTokens run blanks).statementSpan_eq hrest
  load := fun _ hrest ↦ blocksFrom_quotedImport run blanks hrest

/-- Every import of quoted texts ends behind them, whatever escapes, commas, parentheses, semicolons
and comments there are. If none of the texts holds its own quote, the arguments are these texts, and
each one names its content. A text that holds its own quote names no stylesheet. -/
theorem exists_delimited {first : Quoted} {others : List Quoted} {source gap : List Char}
    (run : Run Gap (quotedTokens first others) source) (hgap : Gap gap) :
    ∃ text, Delimited first others (source ++ gap) text ∧
      ((∀ q ∈ first :: others, q.quote ∉ q.content) →
        splitArgs text = (first :: others).map Quoted.argument ∧
        ∀ q ∈ first :: others, sassTarget? q.argument =
          if isPlainCss q.content then none else some (String.ofList q.content)) ∧
      ∀ q ∈ first :: others, q.quote ∈ q.content → sassTarget? q.argument = none := by
  obtain ⟨front, last, hrun, hblanks, hstrips⟩ := exists_strips_ended run hgap
  refine ⟨front ++ last, delimited_of_run hstrips hrun hblanks, fun unescaped ↦ ⟨?_, ?_⟩, ?_⟩
  · rw [(listed_quoted hrun hblanks unescaped).splitArgs_eq, List.map_map]
    rfl
  · exact fun q hq ↦ sassTarget?_of_notMem (unescaped q hq)
  · exact fun q _ ↦ sassTarget?_of_mem

theorem closed_apostrophe : Closed '"' ['a', '\\', '\'', ',', ';'] :=
  .plain (by decide) (by decide) (by decide)
    (.escape (closed_of_not_mem (by decide) (by decide) (by decide)))

/-- Quoted text with an escape, a comma and a semicolon in it. -/
def apostrophe : Quoted :=
  ⟨'"', ['a', '\\', '\'', ',', ';'], isQuote_double, closed_apostrophe⟩

theorem closed_parenthesis : Closed '\'' ['(', '"'] :=
  closed_of_not_mem (by decide) (by decide) (by decide)

def parenthesis : Quoted :=
  ⟨'\'', ['(', '"'], isQuote_single, closed_parenthesis⟩

theorem delimited_twoQuoted :
    ∃ text, Delimited apostrophe [parenthesis] " \"a\\',;\"/*'*/,'(\"'".toList text ∧
      splitArgs text = ["\"a\\',;\"", "'(\"'"] ∧
      sassTarget? "\"a\\',;\"" = some "a\\',;" ∧ sassTarget? "'(\"'" = some "(\"" := by
  have hblank : Gap [' '] := .blank (by decide) .nil
  have hcomment : Gap ['/', '*', '\'', '*', '/'] :=
    @Gap.blockComment ['\''] [] (by decide) .nil
  have hrun : Run Gap (quotedTokens apostrophe [parenthesis]) _ :=
    .cons hblank (.cons hcomment (.cons .nil .nil))
  obtain ⟨text, hdelimited, hagreed, -⟩ := exists_delimited hrun .nil
  have unescaped : ∀ q ∈ [apostrophe, parenthesis], q.quote ∉ q.content := by
    simp [apostrophe, parenthesis]
  obtain ⟨hsplit, hnamed⟩ := hagreed unescaped
  rw [List.forall_mem_cons, List.forall_mem_singleton] at hnamed
  exact ⟨text, hdelimited, hsplit, hnamed.1, hnamed.2⟩

end StyleGuide.Imports.Grammar

namespace StyleGuide.Imports

def escapedQuote : String :=
  "@import \"a\\\".css\", \"b.css\";"

/-- The escaped quote is taken for the end of the first text, and both arguments become one. -/
theorem scanSource_escapedQuote :
    statementSpan .outside " \"a\\\".css\", \"b.css\";".toList =
      (" \"a\\\".css\", \"b.css\"".toList, [';']) ∧
    splitArgs " \"a\\\".css\", \"b.css\"".toList = ["\"a\\\".css\", \"b.css\""] ∧
    scanSource noFiles [] none ⟨""⟩ escapedQuote =
      .ok (.root none [.plainCss "\"a\\\".css\", \"b.css\"" none []]) := by
  refine ⟨by decide +kernel, by decide +kernel, ?_⟩
  have hstatements : statements (CompileContext.sheetSyntax none) escapedQuote =
      [.load ["\"a\\\".css\", \"b.css\""]] := by decide +kernel
  have hplain : sassTarget? "\"a\\\".css\", \"b.css\"" = none := by decide +kernel
  exact (passedThrough_iff hplain hstatements).mpr rfl

end StyleGuide.Imports
