import Mathlib.Tactic.SplitIfs
import StyleGuide.Imports.Comments

/-!
# What the removal of comments cuts out

The removal of comments reads one character after the other and writes it or leaves it out. So it
goes on behind a text with what it has got to there, and it writes every line break. It leaves
nothing out where no comment opens, and the two characters that open one at least where one does.
-/

namespace StyleGuide.Imports

/-! ## One character at a time -/

namespace CommentMode

/-- What the removal of comments is inside of after a character. `behind` is what has been written
before it, latest first, and `ahead` is what comes next. -/
def next (behind : List Char) (c : Char) (ahead : Option Char) : CommentMode → CommentMode
  | plain =>
    if c = '"' ∨ c = '\'' then quoted c
    else if c = '(' ∧ behind.take 3 = ['l', 'r', 'u'] then url
    else if c = '/' ∧ ahead = some '/' then lineOpening
    else if c = '/' ∧ ahead = some '*' then blockOpening
    else plain
  | quoted q =>
    if c = '\\' then escaped q
    else if c = q ∨ c = '\n' then plain
    else quoted q
  | escaped q => quoted q
  | url => if c = ')' then plain else url
  | lineOpening => line
  | line => if c = '\n' then plain else line
  | blockOpening => block false
  | block star =>
    if c = '\n' then block false
    else if star = true ∧ c = '/' then plain
    else block (c == '*')

def written (c : Char) (ahead : Option Char) : CommentMode → List Char
  | plain => if c = '/' ∧ (ahead = some '/' ∨ ahead = some '*') then [] else [c]
  | quoted _ => [c]
  | escaped _ => [c]
  | url => [c]
  | lineOpening => []
  | line => if c = '\n' then [c] else []
  | blockOpening => []
  | block _ => if c = '\n' then [c] else []

def after (mode : CommentMode) (behind : List Char) : List Char → CommentMode
  | [] => mode
  | c :: cs => (mode.next behind c cs.head?).after ((mode.written c cs.head?).reverse ++ behind) cs

theorem written_sublist (mode : CommentMode) (c : Char) (ahead : Option Char) :
    (mode.written c ahead).Sublist [c] := by
  cases mode <;> simp only [written]
  case plain => split <;> simp
  case line => split <;> simp
  case block => split <;> simp
  all_goals simp

/-- Only behind a slash it matters what comes next. -/
theorem next_ahead {c : Char} (h : c ≠ '/') (mode : CommentMode) (behind : List Char)
    (ahead ahead' : Option Char) : mode.next behind c ahead = mode.next behind c ahead' := by
  cases mode <;> simp [next, h]

theorem written_ahead {c : Char} (h : c ≠ '/') (mode : CommentMode) (ahead ahead' : Option Char) :
    mode.written c ahead = mode.written c ahead' := by
  cases mode <;> simp [written, h]

/-- Of what comes next it only matters whether it makes a comment of a slash. -/
theorem next_congr {ahead ahead' : Option Char}
    (h : ∀ d ∈ ['/', '*'], ahead = some d ↔ ahead' = some d) (mode : CommentMode)
    (behind : List Char) (c : Char) : mode.next behind c ahead = mode.next behind c ahead' := by
  simp only [List.forall_mem_cons] at h
  cases mode <;> simp only [next, h]

theorem written_congr {ahead ahead' : Option Char}
    (h : ∀ d ∈ ['/', '*'], ahead = some d ↔ ahead' = some d) (mode : CommentMode) (c : Char) :
    mode.written c ahead = mode.written c ahead' := by
  simp only [List.forall_mem_cons] at h
  cases mode <;> simp only [written, h]

end CommentMode

theorem stripFrom_cons (mode : CommentMode) (behind : List Char) (c : Char) (cs : List Char) :
    stripFrom mode behind (c :: cs) =
      mode.written c cs.head? ++
        stripFrom (mode.next behind c cs.head?)
          ((mode.written c cs.head?).reverse ++ behind) cs := by
  cases mode <;> simp only [stripFrom, CommentMode.next, CommentMode.written]
  case plain =>
    by_cases hslash : c = '/'
    · subst hslash
      by_cases hline : cs.head? = some '/'
      · simp [hline]
      · by_cases hblock : cs.head? = some '*' <;> simp [hline, hblock]
    · simp only [hslash, false_and, if_false]
      split_ifs <;> rfl
  all_goals first | rfl | (split_ifs <;> rfl)

/-- The removal of comments goes on behind a text, unless what comes next could make a comment of
its last character. -/
theorem stripFrom_append {cs : List Char} (h : cs.getLast? ≠ some '/') (mode : CommentMode)
    (behind rest : List Char) :
    stripFrom mode behind (cs ++ rest) =
      stripFrom mode behind cs ++
        stripFrom (mode.after behind cs) ((stripFrom mode behind cs).reverse ++ behind) rest := by
  induction cs generalizing mode behind with
  | nil => rfl
  | cons c cs ih =>
    have hnext : mode.next behind c (cs ++ rest).head? = mode.next behind c cs.head? ∧
        mode.written c (cs ++ rest).head? = mode.written c cs.head? := by
      cases cs with
      | nil =>
        have hslash : c ≠ '/' := fun heq ↦ h (heq ▸ rfl)
        exact ⟨mode.next_ahead hslash .., mode.written_ahead hslash ..⟩
      | cons d cs => exact ⟨rfl, rfl⟩
    have hlast : cs.getLast? ≠ some '/' := by
      cases cs with
      | nil => exact fun h ↦ nomatch h
      | cons d cs => exact h
    rw [List.cons_append, stripFrom_cons, hnext.1, hnext.2, ih hlast, stripFrom_cons,
      CommentMode.after, List.reverse_append]
    simp only [List.append_assoc]

/-- What is written before does not count if it does not end like `url`, which a parenthesis makes
the beginning of a URL. -/
theorem stripFrom_behind {behind behind' : List Char}
    (h : ∀ c ∈ behind.head?, c ∉ ['u', 'r', 'l']) (h' : ∀ c ∈ behind'.head?, c ∉ ['u', 'r', 'l'])
    (mode : CommentMode) (near cs : List Char) :
    stripFrom mode (near ++ behind) cs = stripFrom mode (near ++ behind') cs := by
  have hurl (near : List Char) : ((near ++ behind).take 3 = ['l', 'r', 'u']) =
      ((near ++ behind').take 3 = ['l', 'r', 'u']) := by
    rcases near with - | ⟨_, - | ⟨_, - | _⟩⟩ <;> rcases behind with - | ⟨c, behind⟩ <;>
      rcases behind' with - | ⟨c', behind'⟩ <;> simp_all
  induction cs generalizing mode near with
  | nil => rfl
  | cons c cs ih =>
    have hnext : mode.next (near ++ behind) c cs.head? =
        mode.next (near ++ behind') c cs.head? := by
      cases mode <;> simp only [CommentMode.next, hurl]
    rw [stripFrom_cons, stripFrom_cons, hnext, ← List.append_assoc, ih, List.append_assoc]

/-! ## Ends of lines -/

namespace CommentMode

/-- Only quotes are quoted in, and what opens a comment is still to come. -/
def Possible (ahead : Option Char) : CommentMode → Prop
  | plain => True
  | quoted q => q = '"' ∨ q = '\''
  | escaped q => q = '"' ∨ q = '\''
  | url => True
  | lineOpening => ahead = some '/'
  | line => True
  | blockOpening => ahead = some '*'
  | block _ => True

theorem Possible.next {mode : CommentMode} {c : Char} (h : mode.Possible (some c))
    (behind : List Char) (ahead : Option Char) : (mode.next behind c ahead).Possible ahead := by
  cases mode with
  | plain =>
    simp only [CommentMode.next]
    split_ifs with hquote _ hline hblock
    · exact hquote
    · trivial
    · exact hline.2
    · exact hblock.2
    · trivial
  | quoted q =>
    simp only [CommentMode.next]
    split_ifs
    · exact h
    · trivial
    · exact h
  | escaped q => exact h
  | lineOpening => trivial
  | blockOpening => trivial
  | _ =>
    simp only [CommentMode.next]
    split_ifs <;> trivial

def behindBreaks : List CommentMode :=
  [.plain, .quoted '"', .quoted '\'', .url, .block false]

/-- A line break is always written. -/
theorem Possible.lineBreak {mode : CommentMode} (h : mode.Possible (some '\n'))
    (behind : List Char) :
    mode.next behind '\n' none ∈ behindBreaks ∧ mode.written '\n' none = ['\n'] := by
  cases mode with
  | escaped q =>
    rcases h with rfl | rfl <;> simp [CommentMode.next, written, behindBreaks]
  | lineOpening => cases h
  | blockOpening => cases h
  | _ => simp [CommentMode.next, written, behindBreaks]

end CommentMode

/-- A text that ends with a line break still does without its comments. -/
theorem exists_stripFrom_break (cs : List Char) {mode : CommentMode}
    (h : mode.Possible (cs ++ ['\n']).head?) (behind : List Char) :
    mode.after behind (cs ++ ['\n']) ∈ CommentMode.behindBreaks ∧
      ∃ front, stripFrom mode behind (cs ++ ['\n']) = front ++ ['\n'] := by
  induction cs generalizing mode behind with
  | nil =>
    obtain ⟨hnext, hwritten⟩ := h.lineBreak behind
    refine ⟨hnext, [], ?_⟩
    rw [List.nil_append, stripFrom_cons, List.head?_nil, hwritten]
    rfl
  | cons c cs ih =>
    obtain ⟨hafter, front, hfront⟩ := ih (h.next behind (cs ++ ['\n']).head?)
      ((mode.written c (cs ++ ['\n']).head?).reverse ++ behind)
    refine ⟨hafter, mode.written c (cs ++ ['\n']).head? ++ front, ?_⟩
    rw [List.cons_append, stripFrom_cons, hfront, List.append_assoc]

/-! ## What is left out -/

def CommentMode.Writes : CommentMode → Prop
  | plain => True
  | quoted _ => True
  | escaped _ => True
  | url => True
  | lineOpening => False
  | line => False
  | blockOpening => False
  | block _ => False

theorem stripFrom_sublist (mode : CommentMode) (behind cs : List Char) :
    (stripFrom mode behind cs).Sublist cs := by
  induction cs generalizing mode behind with
  | nil => exact .slnil
  | cons c cs ih =>
    rw [stripFrom_cons]
    exact (mode.written_sublist c cs.head?).append (ih _ _)

def OpensComment (cs : List Char) : Prop :=
  ['/', '/'] <:+: cs ∨ ['/', '*'] <:+: cs

theorem OpensComment.cons {cs : List Char} (h : OpensComment cs) (c : Char) :
    OpensComment (c :: cs) :=
  h.imp (fun h ↦ h.trans (List.suffix_cons c cs).isInfix)
    (fun h ↦ h.trans (List.suffix_cons c cs).isInfix)

/-- A comment can only be entered from plain text: the other modes go on writing. -/
theorem CommentMode.Writes.next {mode : CommentMode} (writes : mode.Writes) (behind : List Char)
    (c : Char) (ahead : Option Char) :
    mode.written c ahead = [c] ∧ (mode.next behind c ahead).Writes ∨
      mode.written c ahead = [] ∧ c = '/' ∧
        (ahead = some '/' ∧ mode.next behind c ahead = .lineOpening ∨
          ahead = some '*' ∧ mode.next behind c ahead = .blockOpening) := by
  cases mode with
  | plain =>
    simp only [written, CommentMode.next]
    by_cases hline : c = '/' ∧ ahead = some '/'
    · simp [hline]
    by_cases hblock : c = '/' ∧ ahead = some '*'
    · simp [hblock]
    · refine .inl ⟨if_neg fun h ↦ h.2.elim (hline ⟨h.1, ·⟩) (hblock ⟨h.1, ·⟩), ?_⟩
      split_ifs <;> trivial
  | escaped q => exact .inl ⟨rfl, trivial⟩
  | quoted _ | url =>
    refine .inl ⟨rfl, ?_⟩
    simp only [CommentMode.next]
    split_ifs <;> trivial
  | lineOpening => exact writes.elim
  | line => exact writes.elim
  | blockOpening => exact writes.elim
  | block => exact writes.elim

/-- Where characters are written all are, unless a comment opens. It takes away its two slashes, or
the slash and the star, at least. -/
theorem stripFrom_cases {mode : CommentMode} (writes : mode.Writes) (behind cs : List Char) :
    stripFrom mode behind cs = cs ∨
      (stripFrom mode behind cs).length + 2 ≤ cs.length ∧ OpensComment cs := by
  induction cs generalizing mode behind with
  | nil => exact .inl rfl
  | cons c cs ih =>
    have opened {d : Char} {opening next : CommentMode} (hhead : cs.head? = some d)
        (hwritten : mode.written c cs.head? = []) (hnext : mode.next behind c cs.head? = opening)
        (hopening : ∀ rest, stripFrom opening behind (d :: rest) = stripFrom next behind rest) :
        (stripFrom mode behind (c :: cs)).length + 2 ≤ (c :: cs).length ∧ [c, d] <:+: c :: cs := by
      rw [stripFrom_cons, hwritten, hnext]
      obtain ⟨rest, rfl⟩ := List.head?_eq_some_iff.mp hhead
      rw [List.nil_append, List.reverse_nil, List.nil_append, hopening]
      exact ⟨Nat.add_le_add_right (stripFrom_sublist next behind rest).length_le 2,
        (List.prefix_append [c, d] rest).isInfix⟩
    rcases writes.next behind c cs.head? with ⟨hwritten, hwrites⟩ | ⟨hwritten, rfl, hopens⟩
    · rw [stripFrom_cons, hwritten]
      rcases ih hwrites ([c].reverse ++ behind) with h | ⟨hlength, hopens⟩
      · exact .inl (congrArg (c :: ·) h)
      · exact .inr ⟨Nat.succ_le_succ hlength, hopens.cons c⟩
    · rcases hopens with ⟨hhead, hnext⟩ | ⟨hhead, hnext⟩
      · have hopening (rest : List Char) :
          stripFrom .lineOpening behind ('/' :: rest) = stripFrom .line behind rest := rfl
        exact .inr ((opened hhead hwritten hnext hopening).imp_right .inl)
      · have hopening (rest : List Char) :
          stripFrom .blockOpening behind ('*' :: rest) = stripFrom (.block false) behind rest := rfl
        exact .inr ((opened hhead hwritten hnext hopening).imp_right .inr)

theorem stripFrom_eq_self {cs : List Char} (h : ¬ OpensComment cs) (behind : List Char) :
    stripFrom .plain behind cs = cs := by
  have hwrites : CommentMode.plain.Writes := trivial
  exact (stripFrom_cases hwrites behind cs).resolve_right fun hcut ↦ h hcut.2

end StyleGuide.Imports
