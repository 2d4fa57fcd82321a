import Mathlib.Tactic.SplitIfs
import StyleGuide.Imports.Context
import StyleGuide.Proofs.Imports.Contents
import StyleGuide.Proofs.Imports.Cutting
import StyleGuide.Proofs.Imports.IndentedExtraction
import StyleGuide.Proofs.Imports.Scanning
import StyleGuide.Proofs.Text.Trimming

/-!
# Plain CSS imports

A plain CSS import is not looked up: its argument becomes a node as it is written. It does as long
as the removal of comments leaves the argument alone, in both syntaxes and on every file system.
Quoted text and `url(` are left alone. A URL without quotes is not, although the indented syntax
takes it for plain CSS: its two slashes begin a comment, and what stands before them is looked up.
-/

namespace StyleGuide.Imports

open Text
open Grammar (Quoted Spanned)

/-! ## Arguments -/

/-- An argument by itself: nothing in it ends an argument, a statement or a line or begins a block
comment, and no blanks stand around it. -/
structure Standalone (arg : List Char) : Prop where
  noEnd : ∀ c ∈ arg, c ∉ [',', ';', '{', '}', '\n']
  noBlockComment : ¬ ['/', '*'] <:+: arg
  first : ∀ c ∈ arg.head?, isBlank c = false
  last : ∀ c ∈ arg.getLast?, isBlank c = false

/-- A source in which the removal of comments finds none. -/
def Uncommented (source : String) : Prop :=
  stripComments source.toList = source.toList

def EndsStatement (cs : List Char) : Prop :=
  statementSpan .outside (cs ++ [';']) = (cs, [';'])

/-- Two slashes stand in quotes or in `url(`, if anywhere. -/
inductive Sheltered : List Char → Prop
  | bare {cs : List Char} (noComment : ¬ ['/', '/'] <:+: cs) : Sheltered cs
  | quoted (q : Quoted) {media : List Char} (noComment : ¬ ['/', '/'] <:+: media) :
      Sheltered (q.chars ++ media)
  | url {content media : List Char} (noClose : ')' ∉ content)
      (noComment : ¬ ['/', '/'] <:+: media) :
      Sheltered (['u', 'r', 'l', '('] ++ (content ++ ')' :: media))

/-- All quotes and parentheses are closed. -/
inductive Paired : List Char → Prop
  | nil : Paired []
  | char {c : Char} {cs : List Char} (plain : c ∉ ['"', '\'', '(', ')', ';', '{', '}'])
      (rest : Paired cs) : Paired (c :: cs)
  | quoted (q : Quoted) {cs : List Char} (rest : Paired cs) : Paired (q.chars ++ cs)
  | parenthesized {inner cs : List Char} (hinner : Paired inner) (rest : Paired cs) :
      Paired ('(' :: (inner ++ [')']) ++ cs)

theorem Paired.append {cs cs' : List Char} (h : Paired cs) (h' : Paired cs') :
    Paired (cs ++ cs') := by
  induction h with
  | nil => exact h'
  | char plain _ ih => exact .char plain ih
  | quoted q _ ih =>
    rw [List.append_assoc]
    exact .quoted q ih
  | parenthesized hinner _ _ ih =>
    rw [List.append_assoc]
    exact .parenthesized hinner ih

theorem paired_of_plain {cs : List Char}
    (h : ∀ c ∈ cs, c ∉ ['"', '\'', '(', ')', ';', '{', '}']) : Paired cs := by
  induction cs with
  | nil => exact .nil
  | cons c cs ih =>
    rw [List.forall_mem_cons] at h
    exact .char h.1 (ih h.2)

theorem Paired.spanned {cs : List Char} (h : Paired cs) : Spanned cs := by
  induction h with
  | nil => exact Grammar.piecewise_spanned.nil
  | char plain _ ih => exact Grammar.piecewise_spanned.append (Grammar.spanned_char plain) ih
  | quoted q _ ih => exact Grammar.piecewise_spanned.append (Grammar.spanned_quoted q) ih
  | parenthesized _ _ hinner ih => exact Grammar.piecewise_spanned.append hinner.parenthesized ih

theorem Paired.endsStatement {cs : List Char} (h : Paired cs) : EndsStatement cs :=
  h.spanned.statementSpan_semicolon []

/-! ## What is left behind the keyword -/

/-- What the removal of comments leaves of a text behind the keyword and a space. -/
def leftOf (cs : List Char) : List Char :=
  stripFrom .plain (keyword ++ [' ']).reverse cs

theorem stripComments_import (cs : List Char) :
    stripComments (keyword ++ [' '] ++ cs) = keyword ++ [' '] ++ leftOf cs := by
  rw [stripComments, Indented.strips_keyword, List.append_nil, leftOf]

theorem uncommented_iff {source : String} {cs : List Char}
    (h : source.toList = keyword ++ [' '] ++ cs) : Uncommented source ↔ leftOf cs = cs := by
  rw [Uncommented, h, stripComments_import, List.append_right_inj]

theorem toList_scssImport (arg : String) :
    ("@import " ++ arg ++ ";").toList = keyword ++ [' '] ++ (arg.toList ++ [';']) := by
  rw [String.toList_append, String.toList_append, List.append_assoc]
  rfl

theorem leftOf_sublist (cs : List Char) : (leftOf cs).Sublist cs :=
  stripFrom_sublist .plain _ cs

theorem leftOf_cases (cs : List Char) : leftOf cs = cs ∨ (leftOf cs).length + 2 ≤ cs.length := by
  have hwrites : CommentMode.plain.Writes := trivial
  exact (stripFrom_cases hwrites _ cs).imp_right And.left

/-- Sheltered slashes open no comment. -/
theorem Sheltered.leftOf_eq {cs : List Char} (h : Sheltered cs)
    (noBlockComment : ¬ ['/', '*'] <:+: cs) : leftOf cs = cs := by
  cases h with
  | bare noComment => exact stripFrom_eq_self (not_or.mpr ⟨noComment, noBlockComment⟩) _
  | @quoted q media noComment =>
    have hmedia : ¬ ['/', '*'] <:+: media :=
      fun h ↦ noBlockComment (h.trans (List.suffix_append q.chars media).isInfix)
    rw [leftOf, Grammar.strips_quoted q, stripFrom_eq_self (not_or.mpr ⟨noComment, hmedia⟩)]
  | @url content media noClose noComment =>
    have hmedia : ¬ ['/', '*'] <:+: media := by
      refine fun h ↦ noBlockComment (h.trans ?_)
      exact ((List.suffix_cons ')' media).trans (List.suffix_append content _)).isInfix.trans
        (List.suffix_append _ _).isInfix
    have hopen (cs : List Char) : leftOf (['u', 'r', 'l', '('] ++ cs) =
        ['u', 'r', 'l', '('] ++
          stripFrom .url (keyword ++ [' ', 'u', 'r', 'l', '(']).reverse cs := by
      simp [leftOf, keyword, stripFrom]
    have hclose (behind : List Char) : stripFrom .url behind (')' :: media) = ')' :: media := by
      rw [stripFrom, if_pos rfl, stripFrom_eq_self (not_or.mpr ⟨noComment, hmedia⟩)]
    rw [hopen, stripFrom_url noClose, hclose]

/-- The slashes of a URL without quotes and without `url(` are taken for a comment. -/
theorem leftOf_bareUrl_ne {scheme : List Char} (h : ∀ c ∈ scheme, c ∉ ['"', '\'', '(', '/'])
    (rest : List Char) : leftOf (scheme ++ '/' :: '/' :: rest) ≠ scheme ++ '/' :: '/' :: rest := by
  have hstrips : Grammar.Strips scheme scheme :=
    Grammar.piecewise_strips.of_chars fun c hc ↦ Grammar.strips_char (h c hc)
  have hcomment (behind : List Char) :
      stripFrom .plain behind ('/' :: '/' :: rest) = stripFrom .line behind rest := by
    simp [stripFrom]
  rw [leftOf, hstrips, hcomment]
  intro heq
  have hrest := List.append_cancel_left heq
  have hlength :=
    (stripFrom_sublist .line (scheme.reverse ++ (keyword ++ [' ']).reverse) rest).length_le
  rw [hrest, List.length_cons, List.length_cons] at hlength
  omega

/-- A semicolon takes part in no comment. -/
theorem infix_append_semicolon {d : Char} (hd : d ≠ ';') {cs : List Char}
    (h : ['/', d] <:+: cs ++ [';']) : ['/', d] <:+: cs := by
  induction cs with
  | nil => simp [List.infix_cons_iff] at h
  | cons c cs ih =>
    rw [List.cons_append, List.infix_cons_iff] at h
    rcases h with h | h
    · cases cs with
      | nil => simp [hd] at h
      | cons next cs =>
        simp only [List.cons_append, List.cons_prefix_cons, List.nil_prefix, and_true] at h
        rw [← h.1, h.2]
        exact (List.prefix_append ['/', next] cs).isInfix
    · exact (ih h).trans (List.suffix_cons c cs).isInfix

theorem Sheltered.semicolon {cs : List Char} (h : Sheltered cs) : Sheltered (cs ++ [';']) := by
  have hnot {cs : List Char} (h : ¬ ['/', '/'] <:+: cs) : ¬ ['/', '/'] <:+: cs ++ [';'] :=
    fun hinfix ↦ h (infix_append_semicolon (by decide) hinfix)
  cases h with
  | bare noComment => exact .bare (hnot noComment)
  | quoted q noComment =>
    rw [List.append_assoc]
    exact .quoted q (hnot noComment)
  | url noClose noComment =>
    rw [List.append_assoc, List.append_assoc, List.cons_append]
    exact .url noClose (hnot noComment)

/-! ## One argument -/

theorem splitFrom_of_noComma {cs : List Char} (h : ',' ∉ cs) (quote : Option Char) (parens : Nat)
    (word : List Char) : splitFrom quote parens word cs = [word.reverse ++ cs] := by
  induction cs generalizing quote parens word with
  | nil => rw [splitFrom, List.append_nil]
  | cons c cs ih =>
    rw [List.mem_cons, not_or] at h
    have hnext (quote : Option Char) (parens : Nat) :
        splitFrom quote parens (c :: word) cs = [word.reverse ++ c :: cs] := by
      rw [ih h.2, List.reverse_cons, List.append_assoc, List.singleton_append]
    have hcomma : ¬ (c = ',' ∧ parens = 0) := fun hc ↦ h.1 hc.1.symm
    cases quote with
    | some q => exact hnext _ parens
    | none =>
      simp only [splitFrom, if_neg hcomma, hnext, ite_self]

theorem splitArgs_eq_singleton {cs : List Char} {arg : String} (h : ',' ∉ cs)
    (nonempty : arg.toList ≠ []) : splitArgs cs = [arg] ↔ trim cs = arg.toList := by
  rw [splitArgs, splitFrom_of_noComma h, List.reverse_nil, List.nil_append, List.map_singleton]
  constructor
  · intro hargs
    by_cases hempty : trim cs = []
    · simp [hempty] at hargs
    · simp [hempty] at hargs
      rw [← hargs, String.toList_ofList]
  · intro htrim
    simp [htrim, nonempty]

theorem trim_cons_space (cs : List Char) : trim (' ' :: cs) = trim cs :=
  trim_append_of_blank_left (List.forall_mem_singleton.mpr (by decide)) cs

namespace Standalone

variable {arg : List Char} (h : Standalone arg) (nonempty : arg ≠ [])

include h nonempty

theorem trimEnd_append (cs : List Char) : trimEnd (cs ++ arg) = cs ++ arg := by
  obtain ⟨front, c, rfl⟩ : ∃ front c, arg = front ++ [c] :=
    ⟨_, _, (List.dropLast_concat_getLast nonempty).symm⟩
  have hc : isBlank c = false := h.last c (by simp)
  rw [← List.append_assoc]
  exact Grammar.trimEnd_append hc (List.forall_mem_nil _) (cs ++ front)

theorem trimStart_space (cs : List Char) : trimStart (' ' :: (arg ++ cs)) = arg ++ cs := by
  obtain ⟨c, rest, rfl⟩ := List.exists_cons_of_ne_nil nonempty
  have hspace : Grammar.Blanks [' '] := List.forall_mem_singleton.mpr (by decide)
  exact Grammar.dropWhile_isBlank hspace (h.first c rfl)

theorem trim_space : trim (' ' :: arg) = arg := by
  have hstart := h.trimStart_space nonempty []
  rw [List.append_nil] at hstart
  rw [trim, hstart]
  exact h.trimEnd_append nonempty []

omit nonempty in
theorem not_mem {c : Char} (hc : c ∈ [',', ';', '{', '}', '\n']) : c ∉ arg :=
  fun hmem ↦ h.noEnd c hmem hc

omit nonempty in
theorem noMark : ∀ c ∈ arg, c ∉ [';', '{', '}'] := by
  intro c hc hmem
  have hsubset : [';', '{', '}'] ⊆ [',', ';', '{', '}', '\n'] := by decide
  exact h.not_mem (hsubset hmem) hc

end Standalone

theorem toList_ne_nil_of_plainCss {arg : String} (css : sassTarget? arg = none) :
    arg.toList ≠ [] := by
  intro hempty
  have hplain : isPlainCss [] = false := by decide
  simp [sassTarget?, hempty, hplain] at css

/-! ## Scans of one import -/

/-- A scan passes an argument through: the only child of the root holds it as it is written. -/
def PassedThrough (fs : FileSystem) (loadPaths : List Path) (file : Option Path) (dir : Path)
    (source arg : String) : Prop :=
  scanSource fs loadPaths file dir source = .ok (.root file [.plainCss arg none []])

section Scan

variable {fs : FileSystem} {loadPaths : List Path} {file : Option Path} {dir : Path}
  {source arg : String}

theorem scanSource_of_statements {sts : List Statement}
    (h : statements (CompileContext.sheetSyntax file) source = sts) :
    scanSource fs loadPaths file dir source =
      (do
        let nodes ← statementNodes fs loadPaths (.start fs file) ⟨file, dir⟩ sts
        return .root file nodes) := by
  rw [← h]
  rfl

variable (css : sassTarget? arg = none)

include css

theorem argumentNodes_eq_plainCss {chain : Chain fs} {importer : Importer} {args : List String} :
    argumentNodes fs loadPaths chain importer args = .ok [.plainCss arg none []] ↔
      args = [arg] := by
  constructor
  · intro h
    cases args with
    | nil => cases argumentNodes_nil.symm.trans h
    | cons first args =>
      obtain ⟨node, rest, hnode, hrest, heq⟩ := argumentNodes_cons_eq_ok.mp h
      obtain ⟨rfl, rfl⟩ := List.cons.inj heq
      have hfirst : first = arg := by
        cases importNode_eq_ok.mp hnode with
        | plainCss => rfl
      cases args with
      | nil => rw [hfirst]
      | cons second args =>
        obtain ⟨node, rest, -, -, hcons⟩ := argumentNodes_cons_eq_ok.mp hrest
        cases hcons
  · rintro rfl
    exact argumentNodes_cons_eq_ok.mpr ⟨_, [], importNode_of_plainCss css, argumentNodes_nil, rfl⟩

/-- A source of one import is passed through if its argument is this one. -/
theorem passedThrough_iff {args : List String}
    (h : statements (CompileContext.sheetSyntax file) source = [.load args]) :
    PassedThrough fs loadPaths file dir source arg ↔ args = [arg] := by
  have hload (nodes : List ImportTree) :
      statementNodes fs loadPaths (.start fs file) ⟨file, dir⟩ [.load args] = .ok nodes ↔
        argumentNodes fs loadPaths (.start fs file) ⟨file, dir⟩ args = .ok nodes := by
    rw [statementNodes_load_eq_ok]
    constructor
    · rintro ⟨first, rest, hfirst, hrest, rfl⟩
      cases statementNodes_nil.symm.trans hrest
      rwa [List.append_nil]
    · intro hnodes
      exact ⟨nodes, [], hnodes, statementNodes_nil, List.append_nil nodes⟩
  rw [PassedThrough, scanSource_of_statements h, bind_eq_ok, ← argumentNodes_eq_plainCss css]
  constructor
  · rintro ⟨nodes, hnodes, hroot⟩
    cases hroot
    exact (hload _).mp hnodes
  · intro hnodes
    exact ⟨_, (hload _).mpr hnodes, rfl⟩

end Scan

/-! ## In the indented syntax -/

theorem statements_sassImport {arg : String} (h : Standalone arg.toList) :
    statements .sass ("@import " ++ arg) =
      [.load (splitArgs (trimEnd (' ' :: leftOf arg.toList)))] := by
  have hleft (c : Char) (hc : c ∈ [',', ';', '{', '}', '\n']) : c ∉ leftOf arg.toList :=
    fun hmem ↦ h.not_mem hc ((leftOf_sublist arg.toList).subset hmem)
  have hnil : Grammar.Blanks [] := List.forall_mem_nil _
  let line := keyword ++ ' ' :: leftOf arg.toList
  have hstrip : stripComments ("@import " ++ arg).toList = line := by
    rw [String.toList_append]
    exact (stripComments_import arg.toList).trans (List.append_assoc _ _ _)
  have hbreak : '\n' ∉ line := by
    simp [line, keyword, hleft '\n' (by decide)]
  have hreturn : trimStart line ≠ keyword ++ ['\r'] := by
    have htrim : trimStart line = line := Grammar.dropWhile_isBlank hnil (by decide)
    rw [htrim]
    exact fun heq ↦ absurd (List.append_cancel_left heq) (by simp)
  have hsemicolon : (trimEnd (' ' :: leftOf arg.toList)).getLast? ≠ some ';' := by
    intro hlast
    have hmem := (trimEnd_sublist _).subset (List.mem_of_getLast? hlast)
    simp [hleft ';' (by decide)] at hmem
  calc
    statements .sass ("@import " ++ arg) = indentedFrom none (lines line) :=
      congrArg indentedStatements hstrip
    _ = indentedFrom none [line] := by
      have hlines := Indented.indentedFrom_lines (List.forall_mem_singleton.mpr hbreak)
        (List.forall_mem_singleton.mpr hreturn) none
      rwa [List.intercalate_singleton] at hlines
    _ = [.load (splitArgs (dropSemicolons (trimEnd (' ' :: leftOf arg.toList))))] := by
      exact Indented.indentedFrom_keyword hnil (leftOf arg.toList) none []
    _ = [.load (splitArgs (trimEnd (' ' :: leftOf arg.toList)))] := by
      rw [Indented.dropSemicolons_eq hsemicolon]

/-- In the indented syntax an argument is passed through if it has no comment. -/
theorem passedThrough_sass {fs : FileSystem} {loadPaths : List Path} {file : Option Path}
    {dir : Path} {arg : String} (css : sassTarget? arg = none) (h : Standalone arg.toList)
    (hlanguage : CompileContext.sheetSyntax file = .sass) :
    PassedThrough fs loadPaths file dir ("@import " ++ arg) arg ↔
      Uncommented ("@import " ++ arg) := by
  have hnonempty := toList_ne_nil_of_plainCss css
  have hstatements : statements (CompileContext.sheetSyntax file) ("@import " ++ arg) =
      [.load (splitArgs (trimEnd (' ' :: leftOf arg.toList)))] := by
    rw [hlanguage, statements_sassImport h]
  have hcomma : ',' ∉ trimEnd (' ' :: leftOf arg.toList) := by
    intro hmem
    have hmem : ',' ∈ ' ' :: leftOf arg.toList := (trimEnd_sublist _).subset hmem
    rw [List.mem_cons] at hmem
    rcases hmem with hspace | hmem
    · cases hspace
    · exact h.not_mem (by decide) ((leftOf_sublist _).subset hmem)
  rw [passedThrough_iff css hstatements, splitArgs_eq_singleton hcomma hnonempty,
    uncommented_iff String.toList_append]
  constructor
  · intro htrim
    refine (leftOf_cases arg.toList).resolve_right fun hlength ↦ ?_
    have htrimmed := ((trim_sublist _).trans (trimEnd_sublist (' ' :: leftOf arg.toList))).length_le
    rw [htrim, List.length_cons] at htrimmed
    omega
  · intro heq
    have hend : trimEnd (' ' :: arg.toList) = ' ' :: arg.toList := h.trimEnd_append hnonempty [' ']
    rw [heq, hend, h.trim_space hnonempty]

/-! ## With braces and semicolons -/

/-- A text without the marks that end a statement is gone past, whatever it holds. -/
theorem exists_statementSpan {cs : List Char} (h : ∀ c ∈ cs, c ∉ [';', '{', '}']) (s : SpanState) :
    ∃ next, ∀ rest, statementSpan s (cs ++ rest) =
      (cs ++ (statementSpan next rest).1, (statementSpan next rest).2) := by
  induction cs generalizing s with
  | nil => exact ⟨s, fun _ ↦ rfl⟩
  | cons c cs ih =>
    rw [List.forall_mem_cons] at h
    cases hstep : s.step c with
    | none =>
      have hmark := h.1
      simp only [List.mem_cons, List.not_mem_nil, or_false, not_or] at hmark
      simp only [SpanState.step, hmark, or_self, false_and, if_false] at hstep
      split at hstep
      · split_ifs at hstep
      · split_ifs at hstep
    | some mid =>
      obtain ⟨next, hnext⟩ := ih h.2 mid
      refine ⟨next, fun rest ↦ ?_⟩
      rw [List.cons_append, statementSpan, hstep]
      simp only [hnext, List.cons_append]

/-- A statement that may only end at its last character ends there or not at all. -/
theorem statementSpan_cases {cs left : List Char} (h : ∀ c ∈ cs, c ∉ [';', '{', '}'])
    (sub : left.Sublist (cs ++ [';'])) :
    statementSpan .outside left = (left, []) ∨
      ∃ front, left = front ++ [';'] ∧ statementSpan .outside left = (front, [';']) := by
  obtain ⟨front, back, rfl, hfront, hback⟩ := List.sublist_append_iff.mp sub
  obtain ⟨next, hnext⟩ := exists_statementSpan (fun c hc ↦ h c (hfront.subset hc)) .outside
  rw [hnext]
  cases hback with
  | cons _ hback =>
    obtain rfl := List.sublist_nil.mp hback
    exact .inl (by simp [statementSpan])
  | cons_cons _ hback =>
    obtain rfl := List.sublist_nil.mp hback
    cases hstep : next.step ';' with
    | none => exact .inr ⟨front, rfl, by simp [statementSpan, hstep]⟩
    | some last => exact .inl (by simp [statementSpan, hstep])

theorem mem_of_mem_statementSpan {s : SpanState} {cs : List Char} {c : Char}
    (h : c ∈ (statementSpan s cs).1) : c ∈ cs := by
  fun_induction statementSpan s cs with
  | case1 => exact h
  | case2 => cases h
  | case3 s d cs next hstep r ih =>
    rw [List.mem_cons] at h ⊢
    exact h.imp_right ih

theorem statements_scssImport {arg : String} (h : Standalone arg.toList) :
    statements .scss ("@import " ++ arg ++ ";") =
      [.load (splitArgs (' ' :: (statementSpan .outside (leftOf (arg.toList ++ [';']))).1))] := by
  have hstrip : stripComments ("@import " ++ arg ++ ";").toList =
      keyword ++ ' ' :: leftOf (arg.toList ++ [';']) := by
    rw [toList_scssImport, stripComments_import, List.append_assoc, List.singleton_append]
  have hspace : Spanned [' '] := Grammar.spanned_char (by decide)
  have hspan : statementSpan .outside (' ' :: leftOf (arg.toList ++ [';'])) =
      (' ' :: (statementSpan .outside (leftOf (arg.toList ++ [';']))).1,
        (statementSpan .outside (leftOf (arg.toList ++ [';']))).2) := hspace 0 _
  have hrest : blocksFrom none 0 [] (statementSpan .outside (leftOf (arg.toList ++ [';']))).2 =
      [] := by
    rcases statementSpan_cases h.noMark (leftOf_sublist _) with hend | ⟨front, -, hend⟩
    · rw [hend, blocksFrom]
    · rw [hend, Grammar.blocksFrom_semicolon, blocksFrom]
  calc
    statements .scss ("@import " ++ arg ++ ";") =
        blocksFrom none 0 [] (keyword ++ ' ' :: leftOf (arg.toList ++ [';'])) :=
      congrArg statementsInBraces hstrip
    _ = .load (splitArgs (' ' :: (statementSpan .outside (leftOf (arg.toList ++ [';']))).1)) ::
        blocksFrom none 0 [] (statementSpan .outside (leftOf (arg.toList ++ [';']))).2 := by
      have hopens := Grammar.importRest?_keyword (.inl (by decide : isBlank ' ' = true))
        (leftOf (arg.toList ++ [';']))
      rw [Grammar.blocksFrom_keyword hopens, if_pos rfl, hspan]
    _ = [.load (splitArgs (' ' :: (statementSpan .outside (leftOf (arg.toList ++ [';']))).1))] := by
      rw [hrest]

/-- What is read as the argument is the argument if nothing has been cut out of it and the semicolon
ends it. Otherwise it is too short, or the semicolon belongs to it. -/
theorem Standalone.trim_statementSpan_iff {arg left : List Char} (h : Standalone arg)
    (nonempty : arg ≠ []) (sub : left.Sublist (arg ++ [';']))
    (cut : left = arg ++ [';'] ∨ left.length + 2 ≤ (arg ++ [';']).length) :
    trim (' ' :: (statementSpan .outside left).1) = arg ↔
      left = arg ++ [';'] ∧ EndsStatement arg := by
  constructor
  · intro htrim
    have hlength := (trim_sublist (statementSpan .outside left).1).length_le
    rw [← trim_cons_space, htrim] at hlength
    rw [List.length_append, List.length_singleton] at cut
    rcases statementSpan_cases h.noMark sub with hend | ⟨front, rfl, hend⟩
    · rw [hend] at htrim hlength
      rcases cut with rfl | hcut
      · rw [trim, h.trimStart_space nonempty,
          Grammar.trimEnd_append (by decide) (List.forall_mem_nil _)] at htrim
        exact absurd htrim (by simp)
      · simp only at hlength
        omega
    · rw [hend] at hlength
      rcases cut with heq | hcut
      · obtain rfl := List.append_cancel_right heq
        exact ⟨rfl, hend⟩
      · rw [List.length_append, List.length_singleton] at hcut
        simp only at hlength
        omega
  · rintro ⟨rfl, hend⟩
    rw [hend, h.trim_space nonempty]

/-- With braces an argument is passed through if it has no comment and the semicolon ends it. -/
theorem passedThrough_scss {fs : FileSystem} {loadPaths : List Path} {file : Option Path}
    {dir : Path} {arg : String} (css : sassTarget? arg = none) (h : Standalone arg.toList)
    (hlanguage : CompileContext.sheetSyntax file = .scss) :
    PassedThrough fs loadPaths file dir ("@import " ++ arg ++ ";") arg ↔
      Uncommented ("@import " ++ arg ++ ";") ∧ EndsStatement arg.toList := by
  have hnonempty := toList_ne_nil_of_plainCss css
  have hsub := leftOf_sublist (arg.toList ++ [';'])
  have hstatements : statements (CompileContext.sheetSyntax file) ("@import " ++ arg ++ ";") =
      [.load (splitArgs (' ' :: (statementSpan .outside (leftOf (arg.toList ++ [';']))).1))] := by
    rw [hlanguage, statements_scssImport h]
  have hcomma : ',' ∉ ' ' :: (statementSpan .outside (leftOf (arg.toList ++ [';']))).1 := by
    apply List.not_mem_cons_of_ne_of_not_mem (by decide)
    intro hmem
    have hmem := hsub.subset (mem_of_mem_statementSpan hmem)
    rw [List.mem_append, List.mem_singleton] at hmem
    exact hmem.elim (h.not_mem (by decide)) (by decide)
  rw [passedThrough_iff css hstatements, splitArgs_eq_singleton hcomma hnonempty,
    h.trim_statementSpan_iff hnonempty hsub (leftOf_cases _),
    uncommented_iff (toList_scssImport arg)]

/-! ## Both syntaxes -/

/-- An argument that is plain CSS is passed through in either syntax, whatever files there are, if
and only if the removal of comments leaves the import alone and, with braces, the semicolon ends it.
It does for all arguments whose double slashes stand in quotes or in `url(`, and with braces for
those whose quotes and parentheses are closed. It does for no URL without quotes that has two
slashes, and only the indented syntax has these. -/
theorem passedThrough_plainCss {arg : String} (css : sassTarget? arg = none)
    (standalone : Standalone arg.toList) (fs : FileSystem) (loadPaths : List Path)
    (file : Option Path) (dir : Path) :
    (CompileContext.sheetSyntax file = .sass →
      (PassedThrough fs loadPaths file dir ("@import " ++ arg) arg ↔
        Uncommented ("@import " ++ arg)) ∧
      (Sheltered arg.toList → PassedThrough fs loadPaths file dir ("@import " ++ arg) arg) ∧
      ∀ scheme rest : List Char, (∀ c ∈ scheme, c ∉ ['"', '\'', '(', '/']) →
        arg.toList = scheme ++ '/' :: '/' :: rest →
        ¬ PassedThrough fs loadPaths file dir ("@import " ++ arg) arg) ∧
    (CompileContext.sheetSyntax file = .scss →
      (PassedThrough fs loadPaths file dir ("@import " ++ arg ++ ";") arg ↔
        Uncommented ("@import " ++ arg ++ ";") ∧ EndsStatement arg.toList) ∧
      (Sheltered arg.toList → Paired arg.toList →
        PassedThrough fs loadPaths file dir ("@import " ++ arg ++ ";") arg)) := by
  constructor
  · intro hlanguage
    have hiff : PassedThrough fs loadPaths file dir ("@import " ++ arg) arg ↔ _ :=
      passedThrough_sass css standalone hlanguage
    have hleft : PassedThrough fs loadPaths file dir ("@import " ++ arg) arg ↔
        leftOf arg.toList = arg.toList := hiff.trans (uncommented_iff String.toList_append)
    refine ⟨hiff, fun sheltered ↦ hleft.mpr ?_, fun scheme rest hscheme hurl ↦ ?_⟩
    · exact sheltered.leftOf_eq standalone.noBlockComment
    · rw [hleft, hurl]
      exact leftOf_bareUrl_ne hscheme rest
  · intro hlanguage
    have hiff : PassedThrough fs loadPaths file dir ("@import " ++ arg ++ ";") arg ↔ _ :=
      passedThrough_scss css standalone hlanguage
    refine ⟨hiff, fun sheltered paired ↦ hiff.mpr ⟨?_, paired.endsStatement⟩⟩
    apply (uncommented_iff (toList_scssImport arg)).mpr
    apply sheltered.semicolon.leftOf_eq
    intro hinfix
    exact standalone.noBlockComment (infix_append_semicolon (by decide) hinfix)

/-- A place without files. -/
def noFiles : FileSystem :=
  FileTable.toFileSystem ⟨[]⟩

/-- A URL with two slashes in `url(` and a media query behind it, where there are no files. -/
theorem passedThrough_screenUrl :
    let arg := "url(//x.org/a.css) screen"
    sassTarget? arg = none ∧ Standalone arg.toList ∧
      PassedThrough noFiles [] (some ⟨"a.sass"⟩) ⟨""⟩ ("@import " ++ arg) arg ∧
      PassedThrough noFiles [] none ⟨""⟩ ("@import " ++ arg ++ ";") arg := by
  intro arg
  have css : sassTarget? arg = none := by decide +kernel
  have standalone : Standalone arg.toList := by
    constructor <;> simp [arg, isBlank, List.infix_cons_iff]
  have hchars : arg.toList =
      ['u', 'r', 'l', '('] ++ ("//x.org/a.css".toList ++ ')' :: " screen".toList) := by
    decide +kernel
  have sheltered : Sheltered arg.toList := by
    rw [hchars]
    exact .url (by simp) (by simp [List.infix_cons_iff])
  have paired : Paired arg.toList := by
    have hurl : Paired ['u', 'r', 'l'] := paired_of_plain (by simp)
    have hcontent : Paired "//x.org/a.css".toList := paired_of_plain (by simp)
    have hmedia : Paired " screen".toList := paired_of_plain (by simp)
    have hwhole := hurl.append (.parenthesized hcontent hmedia)
    rw [hchars]
    simpa only [List.append_assoc, List.cons_append, List.nil_append] using hwhole
  have both := passedThrough_plainCss css standalone noFiles []
  exact ⟨css, standalone, ((both (some ⟨"a.sass"⟩) ⟨""⟩).1 rfl).2.1 sheltered,
    ((both none ⟨""⟩).2 rfl).2 sheltered paired⟩

/-- The slashes of a URL without quotes begin a comment. What stands before them is looked up, or
nothing does and the import is lost. -/
theorem scanSource_bareUrl :
    (sassTarget? "http://x.com/a.css" = none ∧ Standalone "http://x.com/a.css".toList ∧
      scanSource noFiles [] (some ⟨"a.sass"⟩) ⟨""⟩ "@import http://x.com/a.css" =
        .error (.notFound "http:" (some ⟨"a.sass"⟩))) ∧
    sassTarget? "//x.com/a.css" = none ∧ Standalone "//x.com/a.css".toList ∧
      scanSource noFiles [] (some ⟨"a.sass"⟩) ⟨""⟩ "@import //x.com/a.css" =
        .ok (.root (some ⟨"a.sass"⟩) []) := by
  constructor
  · refine ⟨by decide +kernel, by constructor <;> simp [isBlank, List.infix_cons_iff], ?_⟩
    have hstatements : statements (CompileContext.sheetSyntax (some ⟨"a.sass"⟩))
        "@import http://x.com/a.css" = [.load ["http:"]] := by decide +kernel
    have hnamed : sassTarget? "http:" = some "http:" := by decide +kernel
    let importer : Importer := ⟨some ⟨"a.sass"⟩, ⟨""⟩⟩
    have hmissing : resolve noFiles (importer.dir :: []) "http:" = none := by decide +kernel
    have hnode : importNode noFiles [] (.start noFiles (some ⟨"a.sass"⟩)) importer "http:" =
        .error (.notFound "http:" (some ⟨"a.sass"⟩)) := importNode_of_missing hnamed hmissing
    rw [scanSource_of_statements hstatements, statementNodes, argumentNodes, hnode]
    rfl
  · refine ⟨by decide +kernel, by constructor <;> simp [isBlank, List.infix_cons_iff], ?_⟩
    have hstatements : statements (CompileContext.sheetSyntax (some ⟨"a.sass"⟩))
        "@import //x.com/a.css" = [.load []] := by decide +kernel
    rw [scanSource_of_statements hstatements, statementNodes, argumentNodes, statementNodes]
    rfl

end StyleGuide.Imports
