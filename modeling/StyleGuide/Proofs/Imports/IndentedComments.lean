import StyleGuide.Proofs.Imports.Cutting
import StyleGuide.Proofs.Imports.IndentedExtraction

/-!
# Comments in an indented stylesheet

In the indented syntax a comment ends with its indentation: it is a line that begins like a comment
with all lines under it that are blank or indented deeper. The removal of comments knows nothing of
indentation. What is found in a stylesheet is still what is found in it without such comments, if
in no comment anything is found and none leaves anything open. Any other comment changes what is
found in some stylesheet.
-/

namespace StyleGuide.Imports.Indented

open Text
open Grammar (Blanks Gap Strips)

/-! ## Comments by indentation -/

/-- The lines of a text, each with its line break. -/
def brokenLines : List Char → List (List Char)
  | [] => []
  | c :: cs =>
    if c = '\n' then [c] :: brokenLines cs
    else match brokenLines cs with
      | [] => [[c]]
      | line :: rest => (c :: line) :: rest

def indentation (line : List Char) : Nat :=
  (line.takeWhile isBlank).length

def isUnder (opening line : List Char) : Bool :=
  line.all isBlank || decide (indentation opening < indentation line)

def opensComment (line : List Char) : Bool :=
  ['/', '/'].isPrefixOf (trimStart line) || ['/', '*'].isPrefixOf (trimStart line)

/-- A line, or all lines of a comment. -/
inductive Part where
  | line (cs : List Char)
  | comment (cs : List Char)
deriving DecidableEq

def partsOf : List (List Char) → List Part
  | [] => []
  | line :: rest =>
    if opensComment line then
      .comment (line ++ (rest.takeWhile (isUnder line)).flatten) ::
        partsOf (rest.dropWhile (isUnder line))
    else .line line :: partsOf rest
termination_by ls => ls.length
decreasing_by
  · exact Nat.lt_succ_of_le (List.length_dropWhile_le _ _)
  · exact Nat.lt_succ_self _

def parts (source : String) : List Part :=
  partsOf (brokenLines source.toList)

namespace Part

def chars : Part → List Char
  | line cs => cs
  | comment cs => cs

/-- What is left of a part without comments. -/
def kept : Part → List Char
  | line cs => cs
  | comment _ => []

def comment? : Part → Option (List Char)
  | line _ => none
  | comment cs => some cs

end Part

def comments (source : String) : List (List Char) :=
  (parts source).filterMap Part.comment?

/-- A stylesheet without all lines of its comments. -/
def withoutComments (source : String) : String :=
  String.ofList ((parts source).flatMap Part.kept)

/-! ## Comments that are contained -/

def Silent (cs : List Char) : Prop :=
  statements .sass (String.ofList cs) = []

instance (cs : List Char) : Decidable (Silent cs) :=
  inferInstanceAs (Decidable (statements .sass (String.ofList cs) = []))

/-- Whole lines that leave nothing open: what follows is read as if it stood alone. -/
structure Settled (cs : List Char) : Prop where
  whole : cs = [] ∨ cs.getLast? = some '\n'
  apart : ∀ rest, stripComments (cs ++ rest) = stripComments cs ++ stripComments rest

/-- Nothing is open before a comment, nothing is found in it, and it leaves nothing open, unless it
is at the end. -/
def Contained (before : List Char) : List Part → Prop
  | [] => True
  | .line cs :: ps => Contained (before ++ cs) ps
  | .comment cs :: ps =>
    Settled before ∧ Silent cs ∧ (ps = [] ∨ Settled cs) ∧ Contained before ps

/-! ## Lines and parts -/

theorem flatten_brokenLines (cs : List Char) : (brokenLines cs).flatten = cs := by
  induction cs with
  | nil => rfl
  | cons c cs ih =>
    rw [brokenLines]
    split
    · rw [List.flatten_cons, ih, List.singleton_append]
    · split
      · next h =>
        rw [h, List.flatten_nil] at ih
        rw [← ih]
        rfl
      · next h =>
        rw [h, List.flatten_cons] at ih
        rw [List.flatten_cons, List.cons_append, ih]

theorem flatMap_chars_partsOf (ls : List (List Char)) :
    (partsOf ls).flatMap Part.chars = ls.flatten := by
  fun_induction partsOf ls with
  | case1 => rfl
  | case2 line rest _ ih =>
    rw [List.flatMap_cons, ih, Part.chars, List.append_assoc, ← List.flatten_append,
      List.takeWhile_append_dropWhile, List.flatten_cons]
  | case3 line rest _ ih => rw [List.flatMap_cons, ih, Part.chars, List.flatten_cons]

/-- A text that ends with a line break is cut into lines on its own. -/
theorem brokenLines_append (front rest : List Char) :
    brokenLines (front ++ '\n' :: rest) = brokenLines (front ++ ['\n']) ++ brokenLines rest := by
  have hne (front : List Char) : brokenLines (front ++ ['\n']) ≠ [] := fun h ↦ by
    have hflatten := flatten_brokenLines (front ++ ['\n'])
    rw [h] at hflatten
    simp at hflatten
  induction front with
  | nil => rfl
  | cons c front ih =>
    obtain ⟨line, more, hlines⟩ := List.exists_cons_of_ne_nil (hne front)
    rw [List.cons_append, List.cons_append, brokenLines, brokenLines, ih, hlines]
    split <;> rfl

theorem linesFrom_break (word front rest : List Char) :
    linesFrom word (front ++ '\n' :: rest) = linesFrom word (front ++ ['\n']) ++ lines rest := by
  induction front generalizing word with
  | nil => rfl
  | cons c front ih =>
    rw [List.cons_append, List.cons_append, linesFrom, linesFrom, ih, ih]
    split <;> rfl

/-- Whole lines are read before what follows. -/
theorem lines_append_of_whole {cs : List Char} (whole : cs = [] ∨ cs.getLast? = some '\n')
    (rest : List Char) : lines (cs ++ rest) = lines cs ++ lines rest := by
  rcases whole with rfl | hbreak
  · rfl
  · obtain ⟨front, rfl⟩ := List.getLast?_eq_some_iff.mp hbreak
    rw [List.append_assoc, List.singleton_append]
    exact linesFrom_break [] front rest

/-! ## Behind whole lines -/

/-- A line break is no part of `url`. -/
theorem head?_break (behind : List Char) : ∀ c ∈ ('\n' :: behind).head?, c ∉ ['u', 'r', 'l'] := by
  rintro _ ⟨⟩
  decide

theorem exists_stripComments_break (front : List Char) :
    CommentMode.plain.after [] (front ++ ['\n']) ∈ CommentMode.behindBreaks ∧
      ∃ written, stripComments (front ++ ['\n']) = written ++ ['\n'] := by
  have hplain : CommentMode.plain.Possible (front ++ ['\n']).head? := trivial
  exact exists_stripFrom_break front hplain []

/-- Behind a line break the removal of comments may still be inside of something, and nothing else
of what has been written counts. -/
theorem stripComments_break (front rest : List Char) :
    stripComments (front ++ '\n' :: rest) =
      stripComments (front ++ ['\n']) ++
        stripFrom (CommentMode.plain.after [] (front ++ ['\n'])) ['\n'] rest := by
  obtain ⟨-, written, hwritten⟩ := exists_stripComments_break front
  have hslash : (front ++ ['\n']).getLast? ≠ some '/' := by
    rw [List.getLast?_concat]
    decide
  have happend := stripFrom_append hslash .plain [] rest
  rw [List.append_assoc, List.singleton_append] at happend
  rw [stripComments, happend, ← stripComments, hwritten, List.reverse_append]
  exact congrArg _ (stripFrom_behind (head?_break _) (head?_break []) _ [] rest)

theorem stripFrom_plain {behind : List Char} (h : ∀ c ∈ behind.head?, c ∉ ['u', 'r', 'l'])
    (rest : List Char) : stripFrom .plain behind rest = stripComments rest := by
  have hnil : ∀ c ∈ ([] : List Char).head?, c ∉ ['u', 'r', 'l'] := by
    rintro _ ⟨⟩
  exact stripFrom_behind h hnil .plain [] rest

theorem settled_of_after {cs : List Char} (hbreak : cs.getLast? = some '\n')
    (h : CommentMode.plain.after [] cs = .plain) : Settled cs := by
  refine ⟨.inr hbreak, fun rest ↦ ?_⟩
  obtain ⟨front, rfl⟩ := List.getLast?_eq_some_iff.mp hbreak
  rw [List.append_assoc, List.singleton_append, stripComments_break, h,
    stripFrom_plain (head?_break [])]

/-- Whole lines are whole lines without comments. -/
theorem whole_stripComments {cs : List Char} (whole : cs = [] ∨ cs.getLast? = some '\n') :
    stripComments cs = [] ∨ (stripComments cs).getLast? = some '\n' := by
  refine whole.imp (congrArg stripComments) fun hbreak ↦ ?_
  obtain ⟨front, rfl⟩ := List.getLast?_eq_some_iff.mp hbreak
  obtain ⟨-, written, hwritten⟩ := exists_stripComments_break front
  rw [hwritten, List.getLast?_concat]

/-! ## Silent lines -/

/-- A block that is open is found. -/
theorem indentedFrom_some_ne_nil (args : List String) (ls : List (List Char)) :
    indentedFrom (some args) ls ≠ [] := by
  induction ls generalizing args with
  | nil => exact List.cons_ne_nil _ _
  | cons line ls ih =>
    rw [indentedFrom]
    cases importRest? (trimStart line) with
    | none =>
      dsimp only
      split_ifs
      · exact ih args
      · exact List.cons_ne_nil _ _
      · exact ih args
    | some after =>
      dsimp only
      split_ifs
      · exact ih args
      · exact List.cons_ne_nil _ _
      · exact ih _

/-- A line is passed, or something is found from it on. -/
theorem indentedFrom_cons_cases (line : List Char) :
    (∀ block rest, indentedFrom block (line :: rest) = indentedFrom block rest) ∨
      ∀ block rest, indentedFrom block (line :: rest) ≠ [] := by
  by_cases hblank : trimStart line = []
  · exact .inl fun block rest ↦ by rw [indentedFrom, if_pos hblank]
  cases himport : importRest? (trimStart line) with
  | none =>
    by_cases htop : (trimStart line).length = line.length
    · refine .inr fun block rest ↦ ?_
      simp only [indentedFrom, if_neg hblank, himport, htop, decide_true, if_true]
      exact List.append_ne_nil_of_right_ne_nil _ (indentedFrom_some_ne_nil _ _)
    · refine .inl fun block rest ↦ ?_
      simp only [indentedFrom, if_neg hblank, himport, htop, decide_false, Bool.false_eq_true,
        if_false]
  | some after =>
    refine .inr fun block rest ↦ ?_
    simp only [indentedFrom, if_neg hblank, himport]
    split
    · exact List.append_ne_nil_of_right_ne_nil _ (List.cons_ne_nil _ _)
    · exact indentedFrom_some_ne_nil _ _

/-- Lines in which nothing is found do not count in front of others, whatever block is open. -/
theorem indentedFrom_append_of_silent {ls : List (List Char)} (h : indentedFrom none ls = [])
    (block : Option (List String)) (rest : List (List Char)) :
    indentedFrom block (ls ++ rest) = indentedFrom block rest := by
  induction ls with
  | nil => rfl
  | cons line ls ih =>
    rcases indentedFrom_cons_cases line with hpassed | hfound
    · rw [hpassed] at h
      rw [List.cons_append, hpassed, ih h]
    · exact absurd h (hfound none ls)

theorem indentedFrom_append_congr {rest rest' : List (List Char)}
    (h : ∀ block, indentedFrom block rest = indentedFrom block rest') (ls : List (List Char))
    (block : Option (List String)) :
    indentedFrom block (ls ++ rest) = indentedFrom block (ls ++ rest') := by
  induction ls generalizing block with
  | nil => exact h block
  | cons line ls ih => exact indentedFrom_congr ih block line

theorem statements_sass (cs : List Char) :
    statements .sass (String.ofList cs) = indentedFrom none (lines (stripComments cs)) := by
  rw [statements, String.toList_ofList]
  rfl

/-- A comment may be left out if it is contained. -/
theorem statements_comment {before cs rest : List Char} (hbefore : Settled before)
    (silent : Silent cs) (hcs : rest = [] ∨ Settled cs) :
    statements .sass (String.ofList (before ++ (cs ++ rest))) =
      statements .sass (String.ofList (before ++ rest)) := by
  have hsplit : lines (stripComments (cs ++ rest)) =
      lines (stripComments cs) ++ lines (stripComments rest) := by
    rcases hcs with rfl | hcs
    · rw [List.append_nil]
      exact (List.append_nil _).symm
    · rw [hcs.apart, lines_append_of_whole (whole_stripComments hcs.whole)]
  have hwhole := whole_stripComments hbefore.whole
  rw [Silent, statements_sass] at silent
  rw [statements_sass, statements_sass, hbefore.apart, hbefore.apart, lines_append_of_whole hwhole,
    lines_append_of_whole hwhole, hsplit]
  exact indentedFrom_append_congr (fun block ↦ indentedFrom_append_of_silent silent block _) _ none

theorem Contained.statements_eq {before : List Char} {ps : List Part} (h : Contained before ps) :
    statements .sass (String.ofList (before ++ ps.flatMap Part.chars)) =
      statements .sass (String.ofList (before ++ ps.flatMap Part.kept)) := by
  induction ps generalizing before with
  | nil => rfl
  | cons p ps ih =>
    cases p with
    | line cs =>
      have hrest := ih h
      rw [List.append_assoc, List.append_assoc] at hrest
      exact hrest
    | comment cs =>
      obtain ⟨hbefore, silent, hcs, hrest⟩ := h
      have hend : ps.flatMap Part.chars = [] ∨ Settled cs :=
        hcs.imp_left fun h ↦ congrArg (List.flatMap Part.chars) h
      exact (statements_comment hbefore silent hend).trans (ih hrest)

/-! ## Blanks and comments that end -/

theorem blanks_of_mem_linesFrom {word cs : List Char} (hword : Blanks word) (h : Blanks cs) :
    ∀ line ∈ linesFrom word cs, Blanks line := by
  have hreverse {word : List Char} (hword : Blanks word) : Blanks word.reverse :=
    fun c hc ↦ hword c (List.mem_reverse.mp hc)
  induction cs generalizing word with
  | nil =>
    rw [linesFrom]
    split
    · exact List.forall_mem_nil _
    · exact List.forall_mem_singleton.mpr (hreverse hword)
  | cons c cs ih =>
    obtain ⟨hc, hcs⟩ := List.forall_mem_cons.mp h
    rw [linesFrom]
    split
    · refine List.forall_mem_cons.mpr ⟨hreverse ?_, ih (List.forall_mem_nil _) hcs⟩
      split
      · exact fun c hc ↦ hword c (List.mem_of_mem_drop hc)
      · exact hword
    · exact ih (List.forall_mem_cons.mpr ⟨hc, hword⟩) hcs

theorem indentedFrom_blanks {ls : List (List Char)} (h : ∀ line ∈ ls, Blanks line) :
    indentedFrom none ls = [] := by
  induction ls with
  | nil => rfl
  | cons line ls ih =>
    rw [List.forall_mem_cons] at h
    rw [indentedFrom_blank h.1, ih h.2]

theorem strips_of_gap {cs : List Char} (h : Gap cs) :
    Blanks (stripComments cs) ∧ Strips cs (stripComments cs) := by
  obtain ⟨out, hblanks, hstrips⟩ := Grammar.exists_strips_gap h
  have hstrip : stripComments cs = out := by simpa [stripComments, stripFrom] using hstrips [] []
  exact hstrip ▸ ⟨hblanks, hstrips⟩

/-- Nothing is found in blanks and comments that end. -/
theorem silent_of_gap {cs : List Char} (h : Gap cs) : Silent cs := by
  rw [Silent, statements_sass]
  exact indentedFrom_blanks (blanks_of_mem_linesFrom (List.forall_mem_nil _) (strips_of_gap h).1)

theorem settled_of_gap {cs : List Char} (h : Gap cs) (hbreak : cs.getLast? = some '\n') :
    Settled cs := by
  obtain ⟨hblanks, hstrips⟩ := strips_of_gap h
  have hlast : ∀ c ∈ (stripComments cs).reverse.head?, c ∉ ['u', 'r', 'l'] := fun c hc ↦
    hblanks.not_mem (List.mem_reverse.mp (List.mem_of_mem_head? hc)) (by decide)
  refine ⟨.inr hbreak, fun rest ↦ ?_⟩
  calc
    stripComments (cs ++ rest) =
        stripComments cs ++ stripFrom .plain ((stripComments cs).reverse ++ []) rest :=
      hstrips [] rest
    _ = stripComments cs ++ stripComments rest := by
      rw [List.append_nil, stripFrom_plain hlast]

/-! ## Comments that are not contained -/

/-- A comment that is not settled leaves quotes, a URL or a comment open. -/
theorem after_of_not_settled {front : List Char} (h : ¬ Settled (front ++ ['\n'])) :
    CommentMode.plain.after [] (front ++ ['\n']) ∈ CommentMode.behindBreaks ∧
      CommentMode.plain.after [] (front ++ ['\n']) ≠ .plain :=
  ⟨(exists_stripComments_break front).1,
    fun hafter ↦ h (settled_of_after List.getLast?_concat hafter)⟩

def commentedImport : List Char :=
  "@import \"m\" // x".toList

/-- Whatever is open, it is not the import alone that is found. -/
theorem commentedImport_of_open :
    ∀ mode ∈ CommentMode.behindBreaks, mode ≠ .plain →
      indentedFrom none (lines (stripFrom mode ['\n'] commentedImport)) ≠
        indentedFrom none (lines (stripComments commentedImport)) := by
  decide +kernel

theorem partsOf_eq_nil {ls : List (List Char)} (h : partsOf ls = []) : ls = [] := by
  cases ls with
  | nil => rfl
  | cons line rest =>
    rw [partsOf] at h
    split at h <;> cases h

/-- A stylesheet of one comment is the line it begins with and lines under it. -/
theorem exists_of_partsOf_comment {ls : List (List Char)} {cs : List Char}
    (h : partsOf ls = [.comment cs]) :
    ∃ line rest, ls = line :: rest ∧ opensComment line = true ∧
      (∀ under ∈ rest, isUnder line under = true) ∧ cs = ls.flatten := by
  have hchars := flatMap_chars_partsOf ls
  rw [h] at hchars
  cases ls with
  | nil => rw [partsOf] at h; cases h
  | cons line rest =>
    rw [partsOf] at h
    split at h
    · next hopens =>
      have hrest := partsOf_eq_nil (List.cons.inj h).2
      refine ⟨line, rest, rfl, hopens, List.dropWhile_eq_nil_iff.mp hrest, ?_⟩
      rw [← hchars]
      exact (List.append_nil cs).symm
    · cases h

/-- A line in the first column that is no comment ends a comment in front of it. -/
theorem partsOf_comment_append {ls : List (List Char)} {cs line : List Char}
    (h : partsOf ls = [.comment cs]) (hopens : opensComment line = false)
    (hunder : ∀ opening, isUnder opening line = false) :
    partsOf (ls ++ [line]) = [.comment cs, .line line] := by
  obtain ⟨opening, rest, rfl, hopening, hrest, rfl⟩ := exists_of_partsOf_comment h
  have hline : ¬ isUnder opening line = true := Bool.eq_false_iff.mp (hunder opening)
  have htake : (rest ++ [line]).takeWhile (isUnder opening) = rest := by
    rw [List.takeWhile_append_of_pos hrest, List.takeWhile_cons_of_neg hline, List.append_nil]
  have hdrop : (rest ++ [line]).dropWhile (isUnder opening) = [line] := by
    rw [List.dropWhile_append_of_pos hrest, List.dropWhile_cons_of_neg hline]
  rw [List.cons_append, partsOf, if_pos hopening, htake, hdrop, partsOf,
    if_neg (Bool.eq_false_iff.mp hopens), partsOf, List.flatten_cons]

/-- The import behind the lines of a comment is not part of it. -/
theorem parts_commentedImport {front : List Char}
    (h : parts (String.ofList (front ++ ['\n'])) = [.comment (front ++ ['\n'])]) :
    parts (String.ofList (front ++ '\n' :: commentedImport)) =
      [.comment (front ++ ['\n']), .line commentedImport] := by
  have himport : brokenLines commentedImport = [commentedImport] := by decide
  have hunder (opening : List Char) : isUnder opening commentedImport = false := by
    have hblank : commentedImport.all isBlank = false := by decide
    have hindentation : indentation commentedImport = 0 := by decide
    rw [isUnder, hblank, hindentation]
    rfl
  rw [parts, String.toList_ofList] at h ⊢
  rw [brokenLines_append, himport]
  exact partsOf_comment_append h (by decide) hunder

/-- What is found in an indented stylesheet is what is found in it without its comments, if nothing
is open before any of them, nothing is found in any of them and none leaves anything open. Blanks
and comments that end are of this kind. A comment that is not changes what is found in some
stylesheet. -/
theorem statements_withoutComments (source : String) (cs : List Char) :
    (Contained [] (parts source) →
      statements .sass source = statements .sass (withoutComments source)) ∧
    (Gap cs → Silent cs ∧ (cs.getLast? = some '\n' → Settled cs)) ∧
    (parts (String.ofList cs) = [.comment cs] →
      ¬ (Silent cs ∧ (cs.getLast? = some '\n' → Settled cs)) →
      ∃ source', comments source' = [cs] ∧
        statements .sass source' ≠ statements .sass (withoutComments source')) := by
  refine ⟨fun h ↦ ?_, fun gap ↦ ⟨silent_of_gap gap, settled_of_gap gap⟩, fun hparts h ↦ ?_⟩
  · have hsource : (parts source).flatMap Part.chars = source.toList := by
      rw [parts, flatMap_chars_partsOf, flatten_brokenLines]
    have hstatements := h.statements_eq
    rwa [List.nil_append, List.nil_append, hsource, String.ofList_toList] at hstatements
  · by_cases silent : Silent cs
    · have hlast : cs.getLast? = some '\n' := by_contra fun hlast ↦
        h ⟨silent, fun hbreak ↦ absurd hbreak hlast⟩
      have hopen : ¬ Settled cs := fun settled ↦ h ⟨silent, fun _ ↦ settled⟩
      obtain ⟨front, rfl⟩ := List.getLast?_eq_some_iff.mp hlast
      obtain ⟨hmode, hplain⟩ := after_of_not_settled hopen
      have hsource := parts_commentedImport hparts
      refine ⟨String.ofList (front ++ '\n' :: commentedImport), ?_, ?_⟩
      · rw [comments, hsource]
        rfl
      · rw [Silent, statements_sass] at silent
        rw [withoutComments, hsource, statements_sass, statements_sass, stripComments_break,
          lines_append_of_whole (whole_stripComments (.inr hlast)),
          indentedFrom_append_of_silent silent]
        exact commentedImport_of_open _ hmode hplain
    · refine ⟨String.ofList cs, ?_, ?_⟩
      · rw [comments, hparts]
        rfl
      · rw [withoutComments, hparts]
        exact silent

/-- A line comment with a deeper line and a blank one under it, and a block comment of two lines in
a block. -/
def nestedComments : String :=
  "@import \"a\"\n// b\n  c\n\n.x\n /*\n  d*/\n @import \"e\"\n"

def endedComment : List Char :=
  [' ', '/', '*', '\n', ' ', ' ', 'd', '*', '/', '\n']

def openComment : List Char :=
  "/* c\n".toList

theorem statements_nestedComments :
    (Contained [] (parts nestedComments) ∧
      statements .sass nestedComments = statements .sass (withoutComments nestedComments)) ∧
    (Gap endedComment ∧ Silent endedComment ∧
      (endedComment.getLast? = some '\n' → Settled endedComment)) ∧
    parts (String.ofList openComment) = [.comment openComment] ∧
    ¬ (Silent openComment ∧ (openComment.getLast? = some '\n' → Settled openComment)) ∧
    ∃ source, comments source = [openComment] ∧
      statements .sass source ≠ statements .sass (withoutComments source) := by
  have hparts : parts nestedComments = [.line "@import \"a\"\n".toList,
      .comment "// b\n  c\n\n".toList, .line ".x\n".toList, .comment endedComment,
      .line " @import \"e\"\n".toList] := by
    decide +kernel
  have hcontained : Contained [] (parts nestedComments) := by
    rw [hparts]
    exact ⟨settled_of_after (by decide) (by decide), by decide +kernel,
      .inr (settled_of_after (by decide) (by decide)),
      settled_of_after (by decide) (by decide), by decide +kernel,
      .inr (settled_of_after (by decide) (by decide)), trivial⟩
  have hgap : Gap endedComment :=
    .blank (by decide) <|
      @Gap.blockComment ['\n', ' ', ' ', 'd'] ['\n'] (by decide) (.blank (by decide) .nil)
  have hcomment : parts (String.ofList openComment) = [.comment openComment] := by
    decide +kernel
  have hopen : ¬ (Silent openComment ∧
      (openComment.getLast? = some '\n' → Settled openComment)) := by
    intro h
    have happart := (h.2 (by decide)).apart ['x']
    exact absurd happart (by decide)
  obtain ⟨hequal, hended, -⟩ := statements_withoutComments nestedComments endedComment
  obtain ⟨-, -, hunequal⟩ := statements_withoutComments nestedComments openComment
  exact ⟨⟨hcontained, hequal hcontained⟩, ⟨hgap, hended hgap⟩, hcomment, hopen,
    hunequal hcomment hopen⟩

/-- A block comment needs no end in the indented syntax, and a line comment goes on under its line.
Here the import behind the one is lost, and the import in the other is found. -/
theorem statements_unclosed :
    statements .sass "/* c\n@import \"m\"\n" = [] ∧
    statements .sass (withoutComments "/* c\n@import \"m\"\n") = [.load ["\"m\""]] ∧
    statements .sass "// c\n  @import \"m\"\n" = [.block ["\"m\""]] ∧
    statements .sass (withoutComments "// c\n  @import \"m\"\n") = [] := by
  refine ⟨?_, ?_, ?_, ?_⟩ <;> decide +kernel

end StyleGuide.Imports.Indented
