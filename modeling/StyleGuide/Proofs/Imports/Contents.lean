import StyleGuide.Proofs.Imports.Cutting
import StyleGuide.Proofs.Imports.Extraction

/-!
# Contents of quoted text

What a stylesheet says about imports does not depend on what stands between two quotes, as long as
the scanners see the quotes. `Site` says what both scanners are inside of where a quote stands, and
every quote of every text has one. Two kinds of sites do not see it all: inside `url(` a quoted
parenthesis ends the URL, and inside an interpolation quoted braces are counted with the others.
There, and only with these characters, contents decide what is found.
-/

namespace StyleGuide.Imports

open Grammar (Quoted)

def OpensQuoted (cs : List Char) : Prop :=
  ∃ q rest, cs = q :: rest ∧ (q = '"' ∨ q = '\'')

theorem opensQuoted_chars (q : Quoted) (rest : List Char) : OpensQuoted (q.chars ++ rest) :=
  ⟨q.quote, _, rfl, q.isQuote⟩

/-- What is looked for behind a character that is not a quote does not begin with one. -/
theorem OpensQuoted.head?_append_eq {rest : List Char} (h : OpensQuoted rest) {c : Char}
    (hdouble : c ≠ '"') (hsingle : c ≠ '\'') (cs : List Char) :
    (cs ++ rest).head? = some c ↔ cs.head? = some c := by
  obtain ⟨q, rest, rfl, rfl | rfl⟩ := h <;> cases cs <;> simp [hdouble.symm, hsingle.symm]

theorem OpensQuoted.head?_notMem {rest lead : List Char} (h : OpensQuoted rest)
    (hdouble : '"' ∉ lead) (hsingle : '\'' ∉ lead) : ∀ c ∈ rest.head?, c ∉ lead := by
  obtain ⟨q, rest, rfl, rfl | rfl⟩ := h <;> simpa

/-! ## Where the removal of comments stands -/

/-- Before a quote, the removal of comments has written something and is inside of something. -/
def StripsTo (before : List Char) (mode : CommentMode) (written : List Char) : Prop :=
  ∀ rest, OpensQuoted rest →
    stripComments (before ++ rest) = written ++ stripFrom mode written.reverse rest

/-- One character is written or dropped, whatever comes behind the text. -/
theorem exists_stripFrom_cons (mode : CommentMode) (behind : List Char) (c : Char)
    (cs : List Char) :
    ∃ mode' out, ∀ rest, OpensQuoted rest →
      stripFrom mode behind (c :: (cs ++ rest)) =
        out ++ stripFrom mode' (out.reverse ++ behind) (cs ++ rest) := by
  refine ⟨mode.next behind c cs.head?, mode.written c cs.head?, fun rest h ↦ ?_⟩
  have hahead : ∀ d ∈ ['/', '*'], (cs ++ rest).head? = some d ↔ cs.head? = some d := by
    rw [List.forall_mem_cons, List.forall_mem_singleton]
    exact ⟨h.head?_append_eq (by decide) (by decide) cs,
      h.head?_append_eq (by decide) (by decide) cs⟩
  rw [stripFrom_cons, mode.next_congr hahead, mode.written_congr hahead]

theorem exists_stripFrom (mode : CommentMode) (behind before : List Char) :
    ∃ mode' out, ∀ rest, OpensQuoted rest →
      stripFrom mode behind (before ++ rest) =
        out ++ stripFrom mode' (out.reverse ++ behind) rest := by
  induction before generalizing mode behind with
  | nil => exact ⟨mode, [], fun _ _ ↦ rfl⟩
  | cons c cs ih =>
    obtain ⟨next, out, hnext⟩ := exists_stripFrom_cons mode behind c cs
    obtain ⟨last, more, hlast⟩ := ih next (out.reverse ++ behind)
    refine ⟨last, out ++ more, fun rest h ↦ ?_⟩
    rw [List.cons_append, hnext rest h, hlast rest h, List.append_assoc, List.reverse_append,
      List.append_assoc]

/-! ## Where the search for statements stands -/

/-- What the search for statements is inside of. `inner` are the imports found in the open block. -/
inductive Place where
  | statements (depth : Nat) (inner : List String)
  | quoted (quote : Char) (depth : Nat) (inner : List String)
  /-- After a backslash inside quotes. -/
  | escaped (quote : Char) (depth : Nat) (inner : List String)
  | interpolation (braces depth : Nat) (inner : List String)
  /-- In the arguments of an import, of which some have been read. -/
  | arguments (span : SpanState) (read : List Char) (depth : Nat) (inner : List String)

def Place.found (cs : List Char) : Place → List Statement
  | statements depth inner => blocksFrom none depth inner cs
  | quoted q depth inner => blocksFrom (some q) depth inner cs
  | escaped q depth inner => blocksFrom (some q) depth inner (cs.drop 1)
  | interpolation braces depth inner => blocksFrom none depth inner (afterInterpolation braces cs)
  | arguments span read depth inner =>
    let r := statementSpan span cs
    let args := splitArgs (read ++ r.1)
    if depth = 0 then .load args :: blocksFrom none depth inner r.2
    else blocksFrom none depth (inner ++ args) r.2

/-- Before a quote, the search has found some statements and has got to a place. -/
def FindsTo (before : List Char) (found : List Statement) (place : Place) : Prop :=
  ∀ rest, OpensQuoted rest → statementsInBraces (before ++ rest) = found ++ place.found rest

/-- Whether a text opens an import is settled before the next quote, or by it. -/
theorem importRest?_cases (cs : List Char) :
    (∃ args, args.length < cs.length ∧ ∀ rest, OpensQuoted rest →
      importRest? (cs ++ rest) = some (args ++ rest)) ∨
    ∀ rest, OpensQuoted rest → importRest? (cs ++ rest) = none := by
  have hlead (rest : List Char) (h : OpensQuoted rest) :
      Text.stripLead? keyword (cs ++ rest) = (Text.stripLead? keyword cs).map (· ++ rest) :=
    Grammar.stripLead?_append (h.head?_notMem (by decide) (by decide)) cs
  cases hargs : Text.stripLead? keyword cs with
  | none =>
    rw [hargs] at hlead
    exact .inr fun rest h ↦ by rw [importRest?, hlead rest h]; rfl
  | some args =>
    rw [hargs] at hlead
    have hlength : args.length < cs.length := by
      rw [Grammar.eq_append_of_stripLead? hargs, List.length_append]
      exact Nat.lt_add_of_pos_left (by decide)
    cases args with
    | nil =>
      refine .inl ⟨[], hlength, fun rest h ↦ ?_⟩
      rw [importRest?, hlead rest h]
      obtain ⟨q, rest, rfl, rfl | rfl⟩ := h <;> rfl
    | cons c args =>
      by_cases hopens : (Text.isBlank c || c == '"' || c == '\'') = true
      · refine .inl ⟨c :: args, hlength, fun rest h ↦ ?_⟩
        rw [importRest?, hlead rest h]
        exact if_pos hopens
      · refine .inr fun rest h ↦ ?_
        rw [importRest?, hlead rest h]
        exact if_neg hopens

/-- Only the end of the arguments of an import reads no character: it is looked at once more. -/
def Place.rank : Place → Nat
  | arguments .. => 1
  | statements .. => 0
  | quoted .. => 0
  | escaped .. => 0
  | interpolation .. => 0

/-- From a place the search goes on to another one before the quote, whatever comes behind. -/
def Advances (place : Place) (cs : List Char) : Prop :=
  ∃ (found : List Statement) (next : Place) (cs' : List Char),
    2 * cs'.length + next.rank < 2 * cs.length + place.rank ∧
    ∀ rest, OpensQuoted rest → place.found (cs ++ rest) = found ++ next.found (cs' ++ rest)

theorem Place.rank_le_one (place : Place) : place.rank ≤ 1 := by
  cases place <;> simp [rank]

/-- A search that reads a character advances. -/
theorem advances_of_cons {place : Place} {c : Char} {cs : List Char} (found : List Statement)
    (next : Place) (reads : ∀ rest, OpensQuoted rest →
      place.found (c :: (cs ++ rest)) = found ++ next.found (cs ++ rest)) :
    Advances place (c :: cs) := by
  have hrank := next.rank_le_one
  refine ⟨found, next, cs, ?_, reads⟩
  rw [List.length_cons]
  omega

theorem advances_statements (depth : Nat) (inner : List String) (c : Char) (cs : List Char) :
    Advances (.statements depth inner) (c :: cs) := by
  by_cases hquote : c = '"' ∨ c = '\''
  · refine advances_of_cons [] (.quoted c depth inner) fun rest _ ↦ ?_
    simp only [Place.found, List.nil_append]
    rw [blocksFrom]
    exact if_pos hquote
  by_cases hhash : c = '#' ∧ cs.head? = some '{'
  · refine advances_of_cons [] (.interpolation 0 depth inner) fun rest h ↦ ?_
    have hbrace : (cs ++ rest).head? = some '{' :=
      (h.head?_append_eq (by decide) (by decide) cs).mpr hhash.2
    simp only [Place.found, List.nil_append]
    rw [blocksFrom]
    exact (if_neg hquote).trans (if_pos ⟨hhash.1, hbrace⟩)
  have hplain (rest : List Char) (h : OpensQuoted rest) :
      ¬ (c = '#' ∧ (cs ++ rest).head? = some '{') := by
    rwa [h.head?_append_eq (by decide) (by decide)]
  by_cases hopen : c = '{'
  · refine advances_of_cons [] (.statements (depth + 1) inner) fun rest h ↦ ?_
    simp only [Place.found, List.nil_append]
    rw [blocksFrom]
    simp only [if_neg hquote, if_neg (hplain rest h), if_pos hopen]
  by_cases hclose : c = '}' ∧ 0 < depth
  · by_cases hlast : depth = 1
    · refine advances_of_cons [.block inner] (.statements 0 []) fun rest h ↦ ?_
      simp only [Place.found, List.singleton_append]
      rw [blocksFrom]
      simp only [if_neg hquote, if_neg (hplain rest h), if_neg hopen, if_pos hclose, if_pos hlast]
    · refine advances_of_cons [] (.statements (depth - 1) inner) fun rest h ↦ ?_
      simp only [Place.found, List.nil_append]
      rw [blocksFrom]
      simp only [if_neg hquote, if_neg (hplain rest h), if_neg hopen, if_pos hclose, if_neg hlast]
  rcases importRest?_cases (c :: cs) with ⟨args, hlength, himport⟩ | himport
  · refine ⟨[], .arguments .outside [] depth inner, args, ?_, fun rest h ↦ ?_⟩
    · simp only [Place.rank]
      omega
    · have hrest : importRest? (c :: (cs ++ rest)) = some (args ++ rest) := himport rest h
      simp only [Place.found, List.nil_append, List.cons_append]
      rw [blocksFrom]
      simp only [if_neg hquote, if_neg (hplain rest h), if_neg hopen, if_neg hclose]
      split
      · next hsome =>
        obtain rfl := Option.some.inj (hsome.symm.trans hrest)
        rfl
      · next hnone => cases hnone.symm.trans hrest
  · refine advances_of_cons [] (.statements depth inner) fun rest h ↦ ?_
    have hrest : importRest? (c :: (cs ++ rest)) = none := himport rest h
    simp only [Place.found, List.nil_append]
    rw [blocksFrom]
    simp only [if_neg hquote, if_neg (hplain rest h), if_neg hopen, if_neg hclose]
    split
    · next hsome => cases hsome.symm.trans hrest
    · rfl

theorem advances_quoted (q : Char) (depth : Nat) (inner : List String) (c : Char)
    (cs : List Char) : Advances (.quoted q depth inner) (c :: cs) := by
  by_cases hescape : c = '\\'
  · refine advances_of_cons [] (.escaped q depth inner) fun rest _ ↦ ?_
    simp only [Place.found, List.nil_append]
    rw [blocksFrom]
    exact if_pos hescape
  by_cases hend : c = q
  · refine advances_of_cons [] (.statements depth inner) fun rest _ ↦ ?_
    simp only [Place.found, List.nil_append]
    rw [blocksFrom]
    exact (if_neg hescape).trans (if_pos hend)
  · refine advances_of_cons [] (.quoted q depth inner) fun rest _ ↦ ?_
    simp only [Place.found, List.nil_append]
    rw [blocksFrom]
    exact (if_neg hescape).trans (if_neg hend)

theorem advances_interpolation (braces depth : Nat) (inner : List String) (c : Char)
    (cs : List Char) : Advances (.interpolation braces depth inner) (c :: cs) := by
  by_cases hopen : c = '{'
  · refine advances_of_cons [] (.interpolation (braces + 1) depth inner) fun rest _ ↦ ?_
    simp only [Place.found, List.nil_append, afterInterpolation, if_pos hopen]
  by_cases hclose : c = '}'
  · by_cases hlast : braces ≤ 1
    · refine advances_of_cons [] (.statements depth inner) fun rest _ ↦ ?_
      simp only [Place.found, List.nil_append, afterInterpolation, if_neg hopen, if_pos hclose,
        if_pos hlast]
    · refine advances_of_cons [] (.interpolation (braces - 1) depth inner) fun rest _ ↦ ?_
      simp only [Place.found, List.nil_append, afterInterpolation, if_neg hopen, if_pos hclose,
        if_neg hlast]
  · refine advances_of_cons [] (.interpolation braces depth inner) fun rest _ ↦ ?_
    simp only [Place.found, List.nil_append, afterInterpolation, if_neg hopen, if_neg hclose]

theorem advances_arguments (span : SpanState) (read : List Char) (depth : Nat)
    (inner : List String) (c : Char) (cs : List Char) :
    Advances (.arguments span read depth inner) (c :: cs) := by
  cases hstep : span.step c with
  | none =>
    have hspan (rest : List Char) : statementSpan span (c :: (cs ++ rest)) =
        ([], c :: (cs ++ rest)) := by
      rw [statementSpan, hstep]
    by_cases hdepth : depth = 0
    · refine ⟨[.load (splitArgs read)], .statements depth inner, c :: cs, Nat.lt_succ_self _,
        fun rest _ ↦ ?_⟩
      simp only [Place.found, List.cons_append, hspan, if_pos hdepth, List.append_nil,
        List.nil_append]
    · refine ⟨[], .statements depth (inner ++ splitArgs read), c :: cs, Nat.lt_succ_self _,
        fun rest _ ↦ ?_⟩
      simp only [Place.found, List.cons_append, hspan, if_neg hdepth, List.append_nil,
        List.nil_append]
  | some next =>
    refine advances_of_cons [] (.arguments next (read ++ [c]) depth inner) fun rest _ ↦ ?_
    have hspan : statementSpan span (c :: (cs ++ rest)) =
        (c :: (statementSpan next (cs ++ rest)).1, (statementSpan next (cs ++ rest)).2) := by
      rw [statementSpan, hstep]
    simp only [Place.found, hspan, List.append_assoc, List.singleton_append, List.nil_append]

theorem advances (place : Place) (c : Char) (cs : List Char) : Advances place (c :: cs) := by
  cases place with
  | statements depth inner => exact advances_statements depth inner c cs
  | quoted q depth inner => exact advances_quoted q depth inner c cs
  | escaped q depth inner =>
    exact advances_of_cons [] (.quoted q depth inner) fun _ _ ↦ rfl
  | interpolation braces depth inner => exact advances_interpolation braces depth inner c cs
  | arguments span read depth inner => exact advances_arguments span read depth inner c cs

theorem exists_found (place : Place) (before : List Char) :
    ∃ (found : List Statement) (last : Place), ∀ rest, OpensQuoted rest →
      place.found (before ++ rest) = found ++ last.found rest := by
  cases before with
  | nil => exact ⟨[], place, fun _ _ ↦ rfl⟩
  | cons c cs =>
    obtain ⟨found, next, cs', _, hnext⟩ := advances place c cs
    obtain ⟨more, last, hlast⟩ := exists_found next cs'
    refine ⟨found ++ more, last, fun rest h ↦ ?_⟩
    rw [hnext rest h, hlast rest h, List.append_assoc]
termination_by 2 * before.length + place.rank

/-! ## Quoted text at a site -/

/-- Where both scanners stand before a quote. -/
structure Site (before : List Char) where
  mode : CommentMode
  written : List Char
  found : List Statement
  place : Place
  strips : StripsTo before mode written
  finds : FindsTo written found place

theorem nonempty_site (before : List Char) : Nonempty (Site before) := by
  obtain ⟨mode, written, hstrips⟩ := exists_stripFrom .plain [] before
  obtain ⟨found, place, hfinds⟩ := exists_found (.statements 0 []) written
  refine ⟨mode, written, found, place, fun rest h ↦ ?_, hfinds⟩
  rw [stripComments, hstrips rest h, List.append_nil]

/-- Both scanners get past quoted text at the site. It is no argument of an import. Inside `url(`
it has no closing parenthesis, and inside an interpolation it has no braces. -/
structure Site.Passes {before : List Char} (s : Site before) (q : Quoted) : Prop where
  strip : s.mode = .plain ∨ s.mode = .url ∧ ')' ∉ q.content
  search : (∃ depth inner, s.place = .statements depth inner) ∨
    (∃ braces depth inner, s.place = .interpolation braces depth inner) ∧
      '{' ∉ q.content ∧ '}' ∉ q.content

theorem stripFrom_url {cs : List Char} (h : ')' ∉ cs) (behind rest : List Char) :
    stripFrom .url behind (cs ++ rest) = cs ++ stripFrom .url (cs.reverse ++ behind) rest := by
  induction cs generalizing behind with
  | nil => rfl
  | cons c cs ih =>
    rw [List.mem_cons, not_or] at h
    rw [List.cons_append, stripFrom, if_neg (Ne.symm h.1), ih h.2, List.cons_append,
      List.reverse_cons, List.append_assoc, List.singleton_append]

/-- Where quoted text is passed, comments are removed behind it as if it were a lone quote. -/
theorem stripFrom_chars {mode : CommentMode} {q : Quoted}
    (h : mode = .plain ∨ mode = .url ∧ ')' ∉ q.content) (behind after : List Char) :
    stripFrom mode behind (q.chars ++ after) = q.chars ++ stripFrom mode [q.quote] after := by
  have hquote (more : List Char) : ∀ c ∈ (q.quote :: more).head?, c ∉ ['u', 'r', 'l'] := by
    rintro _ ⟨⟩
    rcases q.isQuote with h | h <;> rw [h] <;> decide
  have hbehind (mode : CommentMode) : stripFrom mode (q.chars.reverse ++ behind) after =
      stripFrom mode [q.quote] after := by
    rw [Quoted.chars, List.reverse_cons, List.reverse_append, List.reverse_singleton]
    exact stripFrom_behind (hquote _) (hquote _) mode [] after
  rcases h with rfl | ⟨rfl, hclose⟩
  · rw [Grammar.strips_quoted q, hbehind]
  · have hnot : ')' ∉ q.chars := by
      rcases q.isQuote with hquote | hquote <;> simp [Quoted.chars, hquote, hclose]
    rw [stripFrom_url hnot, hbehind]

theorem afterInterpolation_append {cs : List Char} (hopen : '{' ∉ cs) (hclose : '}' ∉ cs)
    (braces : Nat) (rest : List Char) :
    afterInterpolation braces (cs ++ rest) = afterInterpolation braces rest := by
  induction cs with
  | nil => rfl
  | cons c cs ih =>
    rw [List.mem_cons, not_or] at hopen hclose
    rw [List.cons_append, afterInterpolation, if_neg (Ne.symm hopen.1), if_neg (Ne.symm hclose.1),
      ih hopen.2 hclose.2]

/-- What is found in a text with quoted text at a site where it is passed: the content of the quoted
text has no part in it. -/
theorem statements_of_passes {before : List Char} {s : Site before} {q : Quoted}
    (h : s.Passes q) (after : List Char) :
    statements .scss (String.ofList (before ++ (q.chars ++ after))) =
      s.found ++ s.place.found (stripFrom s.mode [q.quote] after) := by
  have hstrip : stripComments (before ++ (q.chars ++ after)) =
      s.written ++ (q.chars ++ stripFrom s.mode [q.quote] after) := by
    rw [s.strips _ (opensQuoted_chars q after), stripFrom_chars h.strip]
  have hplace (rest : List Char) : s.place.found (q.chars ++ rest) = s.place.found rest := by
    rcases h.search with ⟨depth, inner, hplace⟩ | ⟨⟨braces, depth, inner, hplace⟩, hopen, hclose⟩
    · rw [hplace]
      exact Grammar.passed_quoted q depth inner rest
    · have hnot (c : Char) (hc : c ∉ q.content) (hdouble : c ≠ '"') (hsingle : c ≠ '\'') :
          c ∉ q.chars := by
        rcases q.isQuote with hquote | hquote <;> simp [Quoted.chars, hquote, hc, hdouble, hsingle]
      simp only [hplace, Place.found]
      rw [afterInterpolation_append (hnot _ hopen (by decide) (by decide))
        (hnot _ hclose (by decide) (by decide))]
  calc
    statements .scss (String.ofList (before ++ (q.chars ++ after))) =
        statementsInBraces (stripComments (before ++ (q.chars ++ after))) := by
      rw [statements, String.toList_ofList]
    _ = s.found ++ s.place.found (q.chars ++ stripFrom s.mode [q.quote] after) := by
      rw [hstrip, s.finds _ (opensQuoted_chars q _)]
    _ = s.found ++ s.place.found (stripFrom s.mode [q.quote] after) := by rw [hplace]

/-- Every quote of every text stands at a site, and quoted text that is passed at its site may be
replaced by any other in the same quotes that is passed there: all statements that are found in the
text stay the same. -/
theorem contents_inert (before : List Char) :
    Nonempty (Site before) ∧
    ∀ (s : Site before) (q q' : Quoted) (after : List Char), q.quote = q'.quote →
      s.Passes q → s.Passes q' →
      statements .scss (String.ofList (before ++ (q.chars ++ after))) =
        statements .scss (String.ofList (before ++ (q'.chars ++ after))) := by
  refine ⟨nonempty_site before, fun s q q' after hquote hq hq' ↦ ?_⟩
  rw [statements_of_passes hq, statements_of_passes hq', hquote]

def valueSite : Site "a\x7bb:".toList where
  mode := .plain
  written := "a\x7bb:".toList
  found := []
  place := .statements 1 []
  strips := by
    rintro rest ⟨q, rest, rfl, rfl | rfl⟩ <;> rfl
  finds := fun rest _ ↦ calc
    statementsInBraces ("a\x7bb:".toList ++ rest) =
        blocksFrom none 0 [] ('\x7b' :: 'b' :: ':' :: rest) :=
      Grammar.passed_char (by decide) 0 [] _
    _ = blocksFrom none 1 [] ('b' :: ':' :: rest) := Grammar.blocksFrom_opening 0 [] _
    _ = blocksFrom none 1 [] (':' :: rest) := Grammar.passed_char (by decide) 1 [] _
    _ = blocksFrom none 1 [] rest := Grammar.passed_char (by decide) 1 [] _

/-- What looks like a comment and the end of a block is neither inside quotes. -/
theorem statements_quotedValue :
    statements .scss "a\x7bb:\"x\"\x7d@import \"m\";" =
      statements .scss "a\x7bb:\"/*\x7d\"\x7d@import \"m\";" := by
  have hclosed (cs : List Char) (h : '"' ∉ cs ∧ '\\' ∉ cs ∧ '\n' ∉ cs) : Grammar.Closed '"' cs :=
    Grammar.closed_of_not_mem h.1 h.2.1 h.2.2
  exact (contents_inert "a\x7bb:".toList).2 valueSite
    ⟨'"', "x".toList, .inl rfl, hclosed _ (by decide)⟩
    ⟨'"', "/*\x7d".toList, .inl rfl, hclosed _ (by decide)⟩ "\x7d@import \"m\";".toList rfl
    ⟨.inl rfl, .inl ⟨1, [], rfl⟩⟩ ⟨.inl rfl, .inl ⟨1, [], rfl⟩⟩

def quotedUrl (content : String) : String :=
  "a\x7bb:url(\"" ++ content ++ "\")\x7d@import \"m\";"

def quotedInterpolation (content : String) : String :=
  "a\x7bb:#\x7b\"" ++ content ++ "\"\x7d\x7d@import \"m\";"

/-- A parenthesis ends the URL too early and what follows it is a comment; a brace ends the
interpolation too early and the quote behind it opens quoted text. Block and import are lost. -/
theorem statements_quotedUrl :
    statements .scss (quotedUrl "x") = [.block [], .load ["\"m\""]] ∧
    statements .scss (quotedUrl ")/*") = [] ∧
    statements .scss (quotedInterpolation "x") = [.block [], .load ["\"m\""]] ∧
    statements .scss (quotedInterpolation "\x7d") = [] := by
  refine ⟨?_, ?_, ?_, ?_⟩ <;> decide +kernel

end StyleGuide.Imports
