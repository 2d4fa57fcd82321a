import StyleGuide.Proofs.Render.PlainSlugs
import StyleGuide.Proofs.Text.Trimming

/-!
# Words of a slug

A slug is its words with single dashes between them. A word is what a piece of the text between two
separators leaves of its letters and digits, in lower case; a piece without any is no word. The one pass
that writes the slug does not know whether another word follows, so it may leave a dash at the end, and
no more than one.
-/

namespace StyleGuide.Text.Slug

/-- The letters and digits of a text, in lower case. -/
def spelled (cs : List Char) : List Char :=
  (cs.filter isAlphanumeric).flatMap lower

def words (cs : List Char) : List (List Char) :=
  ((cs.splitOnP isSeparator).map spelled).filter (· ≠ [])

/-! ## Characters -/

theorem isSeparator_of_isAlphanumeric {c : Char} (h : isAlphanumeric c = true) :
    isSeparator c = false := by
  have hmark {mark : Char} (hmark : isAlphanumeric mark = false) : c ≠ mark := by
    rintro rfl
    exact Bool.false_ne_true (hmark.symm.trans h)
  have hdash : c ≠ '-' := hmark (by decide)
  have hunderscore : c ≠ '_' := hmark (by decide)
  simp [isSeparator, isBlank_of_isAlphanumeric h, hdash, hunderscore]

theorem isAlphanumeric_of_isSeparator {c : Char} (h : isSeparator c = true) :
    isAlphanumeric c = false := by
  cases hletter : isAlphanumeric c with
  | false => rfl
  | true => exact absurd (h.symm.trans (isSeparator_of_isAlphanumeric hletter)) Bool.noConfusion

theorem isSeparator_of_isBlank {c : Char} (h : isBlank c = true) : isSeparator c = true := by
  rw [isSeparator, h]
  rfl

theorem dash_notMem_spelled (cs : List Char) : '-' ∉ spelled cs := by
  intro hmem
  obtain ⟨c, hc, hdash⟩ := List.mem_flatMap.mp hmem
  have hletter : isAlphanumeric c = true := (List.mem_filter.mp hc).2
  rcases of_mem_lower hletter hdash with h | h | h <;> revert h <;> decide

theorem spelled_append (cs cs' : List Char) : spelled (cs ++ cs') = spelled cs ++ spelled cs' := by
  rw [spelled, List.filter_append, List.flatMap_append]
  rfl

theorem spelled_cons_of_pos {c : Char} (h : isAlphanumeric c = true) (cs : List Char) :
    spelled (c :: cs) = lower c ++ spelled cs := by
  rw [spelled, List.filter_cons_of_pos h, List.flatMap_cons]
  rfl

theorem spelled_cons_of_neg {c : Char} (h : isAlphanumeric c = false) (cs : List Char) :
    spelled (c :: cs) = spelled cs := by
  rw [spelled, List.filter_cons_of_neg (Bool.eq_false_iff.mp h)]
  rfl

/-! ## Pieces -/

/-- A text without separators. -/
def Uncut (cs : List Char) : Prop :=
  ∀ c ∈ cs, isSeparator c = false

/-- Induction on the pieces of a text. -/
@[elab_as_elim]
theorem separated_induction {motive : List Char → Prop} (uncut : ∀ cs, Uncut cs → motive cs)
    (cut : ∀ first c rest, Uncut first → isSeparator c = true → motive rest →
      motive (first ++ c :: rest)) (cs : List Char) : motive cs := by
  -- Whatever has been read of the first piece stands in front of the rest.
  suffices h : ∀ first, Uncut first → motive (first ++ cs) from h [] (List.forall_mem_nil _)
  induction cs with
  | nil =>
    intro first hfirst
    rw [List.append_nil]
    exact uncut first hfirst
  | cons c cs ih =>
    intro first hfirst
    cases hc : isSeparator c with
    | true =>
      apply cut first c cs hfirst hc
      exact ih [] (List.forall_mem_nil _)
    | false =>
      rw [List.append_cons]
      apply ih
      exact List.forall_mem_append.mpr ⟨hfirst, List.forall_mem_singleton.mpr hc⟩

theorem words_of_uncut {cs : List Char} (h : Uncut cs) :
    words cs = if spelled cs = [] then [] else [spelled cs] := by
  rw [words, List.splitOnP_eq_singleton h, List.map_singleton]
  split
  · next hempty => rw [hempty]; rfl
  · next hword => exact List.filter_cons_of_pos (decide_eq_true hword)

theorem words_append_cons {c : Char} (h : isSeparator c = true) (cs cs' : List Char) :
    words (cs ++ c :: cs') = words cs ++ words cs' := by
  rw [words, List.splitOnP_append_cons cs cs' h, List.map_append, List.filter_append]
  rfl

theorem words_nil : words [] = [] :=
  words_of_uncut (List.forall_mem_nil _)

theorem words_append_of_blank {blanks : List Char} (h : ∀ c ∈ blanks, isBlank c = true)
    (cs : List Char) : words (blanks ++ cs) = words cs := by
  induction blanks with
  | nil => rfl
  | cons c blanks ih =>
    obtain ⟨hc, hblanks⟩ := List.forall_mem_cons.mp h
    calc
      words (c :: (blanks ++ cs)) = words [] ++ words (blanks ++ cs) :=
        words_append_cons (isSeparator_of_isBlank hc) [] (blanks ++ cs)
      _ = words cs := by rw [words_nil, List.nil_append, ih hblanks]

theorem words_append_blanks {blanks : List Char} (h : ∀ c ∈ blanks, isBlank c = true)
    (cs : List Char) : words (cs ++ blanks) = words cs := by
  cases blanks with
  | nil => rw [List.append_nil]
  | cons c blanks =>
    obtain ⟨hc, hblanks⟩ := List.forall_mem_cons.mp h
    have hnone : words blanks = [] := by
      rw [← List.append_nil blanks, words_append_of_blank hblanks, words_nil]
    rw [words_append_cons (isSeparator_of_isBlank hc), hnone, List.append_nil]

theorem words_trim (cs : List Char) : words (trim cs) = words cs := by
  obtain ⟨front, back, hcs, hfront, hback⟩ := exists_dropWhile_ends isBlank cs
  calc
    words (trim cs) = words (front ++ (trim cs ++ back)) := by
      rw [words_append_of_blank hfront, words_append_blanks hback]
    _ = words cs := congrArg words hcs.symm

theorem of_mem_words {cs w : List Char} (h : w ∈ words cs) : w ≠ [] ∧ '-' ∉ w := by
  obtain ⟨hmem, hne⟩ := List.mem_filter.mp h
  obtain ⟨piece, -, rfl⟩ := List.mem_map.mp hmem
  exact ⟨of_decide_eq_true hne, dash_notMem_spelled piece⟩

theorem flatten_words_of_uncut {cs : List Char} (h : Uncut cs) :
    (words cs).flatten = spelled cs := by
  rw [words_of_uncut h]
  split
  · next hempty => exact hempty.symm
  · exact List.append_nil _

/-- The words have all letters and digits. -/
theorem flatten_words (cs : List Char) : (words cs).flatten = spelled cs := by
  induction cs using separated_induction with
  | uncut cs h => exact flatten_words_of_uncut h
  | cut first c rest hfirst hc ih =>
    rw [words_append_cons hc, List.flatten_append, flatten_words_of_uncut hfirst, ih,
      spelled_append, spelled_cons_of_neg (isAlphanumeric_of_isSeparator hc)]

/-! ## Writing -/

/-- A piece is written as its letters and digits. A dash may be written behind it if it has any, or if
one could have been written in front. -/
theorem slugFrom_append {piece : List Char} (h : Uncut piece) (pending : Bool) (rest : List Char) :
    slugFrom pending (piece ++ rest) =
      spelled piece ++ slugFrom (pending && (spelled piece).isEmpty) rest := by
  induction piece generalizing pending with
  | nil => rw [spelled, List.filter_nil, List.flatMap_nil, List.isEmpty_nil, Bool.and_true]; rfl
  | cons c piece ih =>
    obtain ⟨hc, hpiece⟩ := List.forall_mem_cons.mp h
    rw [List.cons_append, slugFrom]
    cases hletter : isAlphanumeric c with
    | true =>
      have hwritten : (lower c ++ spelled piece).isEmpty = false := by
        rw [List.isEmpty_eq_false_iff]
        exact List.append_ne_nil_of_left_ne_nil (lower_ne_nil c) _
      rw [if_pos rfl, ih hpiece, spelled_cons_of_pos hletter, hwritten, Bool.false_and,
        Bool.and_false, List.append_assoc]
    | false =>
      rw [if_neg Bool.false_ne_true, hc, Bool.and_false, if_neg Bool.false_ne_true, ih hpiece,
        spelled_cons_of_neg hletter]

theorem slugFrom_separator {c : Char} (h : isSeparator c = true) (pending : Bool)
    (rest : List Char) :
    slugFrom pending (c :: rest) = (if pending then [] else ['-']) ++ slugFrom true rest := by
  rw [slugFrom, isAlphanumeric_of_isSeparator h, if_neg Bool.false_ne_true, h, Bool.and_true]
  cases pending <;> rfl

/-- What is written are the words with dashes between them, and one behind the last word at most. -/
theorem exists_slugFrom_eq (cs : List Char) :
    ∃ last, (last = [] ∨ last = ['-'] ∧ words cs ≠ []) ∧
      slugFrom true cs = ['-'].intercalate (words cs) ++ last := by
  induction cs using separated_induction with
  | uncut cs h =>
    refine ⟨[], .inl rfl, ?_⟩
    have hslug := slugFrom_append h true []
    rw [List.append_nil, slugFrom, List.append_nil] at hslug
    rw [hslug, words_of_uncut h, List.append_nil]
    split
    · next hempty => exact hempty
    · exact List.intercalate_singleton.symm
  | cut first c rest hfirst hc ih =>
    obtain ⟨last, hlast, hrest⟩ := ih
    rw [slugFrom_append hfirst, slugFrom_separator hc, words_append_cons hc, words_of_uncut hfirst,
      hrest]
    by_cases hempty : spelled first = []
    · -- Nothing has been written yet, and the separator is not written either.
      rw [if_pos hempty, hempty]
      exact ⟨last, hlast, rfl⟩
    · rw [if_neg hempty, List.isEmpty_eq_false_iff.mpr hempty, List.singleton_append]
      by_cases hword : words rest = []
      · have hnone : last = [] := hlast.resolve_right fun h ↦ h.2 hword
        refine ⟨['-'], .inr ⟨rfl, List.cons_ne_nil _ _⟩, ?_⟩
        rw [hnone, hword, List.intercalate_singleton]
        rfl
      · refine ⟨last, hlast.imp_right fun h ↦ ⟨h.1, List.cons_ne_nil _ _⟩, ?_⟩
        rw [List.intercalate_cons_of_ne_nil hword]
        simp

/-! ## Dashes -/

/-- A text in which dashes stand between other characters only. -/
structure Dashed (cs : List Char) : Prop where
  first : cs.head? ≠ some '-'
  last : cs.getLast? ≠ some '-'
  single : ¬ ['-', '-'] <:+: cs

/-- A dash at an end or beside another dash bounds an empty piece. -/
theorem dashed_of_splitOn {cs : List Char} (h : [] ∉ cs.splitOn '-') : Dashed cs where
  first := by
    intro hfirst
    obtain ⟨rest, rfl⟩ := List.head?_eq_some_iff.mp hfirst
    apply h
    rw [← List.nil_append ('-' :: rest), List.splitOn_append_cons_self]
    exact List.mem_cons_self
  last := by
    intro hlast
    obtain ⟨front, rfl⟩ := List.getLast?_eq_some_iff.mp hlast
    apply h
    rw [List.splitOn_append_cons_self]
    exact List.mem_append_right _ List.mem_cons_self
  single := by
    rintro ⟨front, back, rfl⟩
    apply h
    have hgap : front ++ ['-', '-'] ++ back = front ++ '-' :: ([] ++ '-' :: back) := by simp
    rw [hgap, List.splitOn_append_cons_self, List.splitOn_append_cons_self]
    exact List.mem_append_right _ List.mem_cons_self

theorem dashed_intercalate {ws : List (List Char)} (h : ∀ w ∈ ws, w ≠ [] ∧ '-' ∉ w) :
    Dashed (['-'].intercalate ws) := by
  by_cases hws : ws = []
  · subst hws
    exact ⟨nofun, nofun, by decide⟩
  · apply dashed_of_splitOn
    rw [List.splitOn_intercalate '-' (fun w hw ↦ (h w hw).2) hws]
    exact fun hmem ↦ (h [] hmem).1 rfl

theorem filter_intercalate {ws : List (List Char)} (h : ∀ w ∈ ws, '-' ∉ w) :
    (['-'].intercalate ws).filter (· ≠ '-') = ws.flatten := by
  induction ws with
  | nil => rfl
  | cons w ws ih =>
    obtain ⟨hw, hws⟩ := List.forall_mem_cons.mp h
    have hkept : w.filter (· ≠ '-') = w := by
      apply List.filter_eq_self.mpr
      intro c hc
      exact decide_eq_true fun hdash ↦ hw (hdash ▸ hc)
    by_cases hlast : ws = []
    · rw [hlast, List.intercalate_singleton, hkept]
      exact (List.append_nil w).symm
    · rw [List.intercalate_cons_of_ne_nil hlast, List.filter_append, List.filter_append, hkept,
        ih hws]
      simp

theorem dropLastDash_append {cs last : List Char} (h : Dashed cs)
    (hlast : last = [] ∨ last = ['-']) : dropLastDash (cs ++ last) = cs := by
  unfold dropLastDash
  rcases hlast with rfl | rfl
  · rw [List.append_nil, if_neg h.last]
  · rw [if_pos List.getLast?_concat, List.dropLast_concat]

theorem toList_slug (text : String) :
    (slug text).toList = ['-'].intercalate (words text.toList) := by
  obtain ⟨last, hlast, hslug⟩ := exists_slugFrom_eq (trim text.toList)
  rw [slug, String.toList_ofList, hslug, words_trim]
  apply dropLastDash_append
  · exact dashed_intercalate fun w hw ↦ of_mem_words hw
  · exact hlast.imp_right And.left

/-- A slug is the words of its text with single dashes between them. No letter or digit is lost, and
nothing in a slug has to be escaped. -/
theorem slug_eq_intercalate_words (text : String) :
    (slug text).toList = ['-'].intercalate (words text.toList) ∧ Dashed (slug text).toList ∧
      (slug text).toList.filter (· ≠ '-') = spelled text.toList ∧
      Markup.escape (slug text) = slug text := by
  refine ⟨toList_slug text, ?_, ?_, ?_⟩
  · rw [toList_slug]
    exact dashed_intercalate fun w hw ↦ of_mem_words hw
  · rw [toList_slug, filter_intercalate fun w hw ↦ (of_mem_words hw).2, flatten_words]
  · rw [Markup.escape, Markup.escapeChars_of_plain (isSpecial_slug text), String.ofList_toList]

/-- Marks make no word, wherever they stand, and neither does a run of separators. -/
example : slug " -- What's _ (new) -?- " = "whats-new" := by decide +kernel

end StyleGuide.Text.Slug
