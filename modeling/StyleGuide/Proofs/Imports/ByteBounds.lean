import Mathlib.Data.List.TakeWhile
import StyleGuide.Proofs.Imports.ByteScanner
import StyleGuide.Proofs.Imports.Extraction

/-!
# The byte scan stays within the text

Every byte that is looked at is there, the text is only cut at boundaries, no count falls below zero, and
every round moves on: the scan at byte offsets succeeds on every text, with what the scan over characters
finds. Its offset often is inside a character, since it moves by single bytes and by two from a backslash,
which may even leave it behind the text. But inside a character no byte is ASCII, so these bytes are passed
over, and the text is only cut where an ASCII byte was read.
-/

namespace StyleGuide.Imports.Bytewise

open Text

variable {s : String} {i : Nat} {c : Char} {cs : List Char}

/-! ## Interpolations -/

/-- Bytes that are not ASCII neither open nor close anything. -/
theorem closing_wide {wide : List UInt8} (h : ∀ b ∈ wide, 128 ≤ b.toNat) (i depth : Nat)
    (bs : List UInt8) : closing s i depth (wide ++ bs) = closing s (i + wide.length) depth bs := by
  induction wide generalizing i with
  | nil => rfl
  | cons b wide ih =>
    obtain ⟨hb, hwide⟩ := List.forall_mem_cons.mp h
    rw [List.cons_append, closing, if_neg (ne_toUInt8 hb (by decide)),
      if_neg (ne_toUInt8 hb (by decide)), ih hwide, List.length_cons, Nat.add_assoc, Nat.add_comm 1]

theorem closing_cons (c : Char) (i depth : Nat) (bs : List UInt8) :
    closing s i (depth + 1) (String.utf8EncodeChar c ++ bs) =
      if c = '{' then closing s (i + c.utf8Size) (depth + 2) bs
      else if c = '}' then
        if depth = 0 then .ok (i + c.utf8Size) else closing s (i + c.utf8Size) depth bs
      else closing s (i + c.utf8Size) (depth + 1) bs := by
  obtain ⟨b, more, hbytes, hwide, hb⟩ := exists_utf8EncodeChar c
  have hsize : c.utf8Size = 1 + more.length := by
    rw [← String.length_utf8EncodeChar, hbytes, List.length_cons, Nat.add_comm]
  rw [hbytes, List.cons_append, closing]
  simp (disch := decide) only [hb, closing_wide hwide, hsize, ← Nat.add_assoc]
  split_ifs with hopen hclose hdepth
  · rfl
  · subst hdepth hclose
    -- The offset goes on by the one byte of the brace.
    have hone : '}'.utf8Size = 1 := rfl
    have hmore : more.length = 0 := by omega
    rw [hmore]
    rfl
  · cases depth with
    | zero => exact absurd rfl hdepth
    | succ depth => rfl
  · rfl

theorem closing_ok (depth : Nat) (h : At s i cs) :
    ∃ j, closing s i (depth + 1) (cs.flatMap String.utf8EncodeChar) = .ok j ∧ i ≤ j ∧
      At s j (afterInterpolation (depth + 1) cs) := by
  induction cs generalizing i depth with
  | nil => exact ⟨s.utf8ByteSize, rfl, Nat.le_of_eq h.eq_size, h.eq_size ▸ h⟩
  | cons c cs ih =>
    have further (depth : Nat) : ∃ j, closing s (i + c.utf8Size) (depth + 1)
        (cs.flatMap String.utf8EncodeChar) = .ok j ∧ i ≤ j ∧
        At s j (afterInterpolation (depth + 1) cs) := by
      obtain ⟨j, hj, hle, hat⟩ := ih depth h.next
      exact ⟨j, hj, Nat.le_trans (Nat.le_add_right ..) hle, hat⟩
    rw [List.flatMap_cons, closing_cons, afterInterpolation]
    split_ifs with hopen hclose hdepth hle hle
    · exact further (depth + 1)
    · exact ⟨_, rfl, Nat.le_add_right .., h.next⟩
    · omega
    · omega
    · obtain ⟨depth, rfl⟩ := Nat.exists_eq_succ_of_ne_zero hdepth
      exact further depth
    · exact further depth

/-- An interpolation is skipped without its count falling below zero. -/
theorem skipInterpolation_ok (h : At s i ('{' :: cs)) : ∃ j, skipInterpolation s i = .ok j ∧
    i < j ∧ At s j (afterInterpolation 0 ('{' :: cs)) := by
  obtain ⟨j, hj, hle, hat⟩ := closing_ok 0 h.next
  refine ⟨j, ?_, hle, hat⟩
  rw [skipInterpolation, if_pos (Nat.le_of_lt h.lt_size), h.drop_bytes]
  exact hj

/-! ## Statements -/

/-- Outside quotes, or behind one of the two. -/
def AfterQuote (quote : Option Char) : Prop :=
  ∀ q ∈ quote, q = '"' ∨ q = '\''

theorem afterQuote_none : AfterQuote none :=
  fun _ hq ↦ nomatch hq

theorem afterQuote_some {q : Char} (h : q = '"' ∨ q = '\'') : AfterQuote (some q) :=
  fun _ hq ↦ Option.some.inj hq ▸ h

theorem ascii_of_quote {q : Char} (h : q = '"' ∨ q = '\'') : q.toNat < 128 := by
  rcases h with rfl | rfl <;> decide

theorem statementSpan_append (state : SpanState) (cs : List Char) :
    (statementSpan state cs).1 ++ (statementSpan state cs).2 = cs := by
  fun_induction statementSpan state cs with
  | case1 => rfl
  | case2 => rfl
  | case3 _ _ _ _ _ _ ih => exact congrArg (_ :: ·) ih

theorem statementSpan_escaped (q : Char) (parens : Nat) (cs : List Char) :
    (statementSpan ⟨some q, true, parens⟩ cs).2 =
      (statementSpan ⟨some q, false, parens⟩ (cs.drop 1)).2 := by
  cases cs <;> rfl

/-- Bytes that are not ASCII belong to the statement, inside quotes or not. -/
theorem statementEndFrom_wide {quote : Option Char} (hafter : AfterQuote quote)
    (parens : Nat) {b : UInt8} (hbyte : byteAt s i = .ok b) (hb : 128 ≤ b.toNat) :
    statementEndFrom s (quote.map Char.toUInt8) parens i =
      statementEndFrom s (quote.map Char.toUInt8) parens (i + 1) := by
  rw [statementEndFrom, if_pos (lt_size_of_byteAt hbyte), hbyte]
  cases quote with
  | some q =>
    have hq : q.toNat < 128 := ascii_of_quote (hafter q rfl)
    simp (disch := first | decide | exact hq) only [Option.map_some, ne_toUInt8 hb, if_false]
  | none =>
    simp (disch := decide) only [Option.map_none, ne_toUInt8 hb, or_self, false_and, if_false]

/-- The search for the end of a statement succeeds at the character at which the statement ends. -/
def EndFound (s : String) (quote : Option Char) (parens i : Nat) (cs : List Char) : Prop :=
  ∃ j, statementEndFrom s (quote.map Char.toUInt8) parens i = .ok j ∧
    At s j (statementSpan ⟨quote, false, parens⟩ cs).2

/-- The search succeeds from every offset further on. -/
def FoundBehind (s : String) (i : Nat) : Prop :=
  ∀ {quote k cs}, AfterQuote quote → i < k → Stands s k cs → ∀ parens, EndFound s quote parens k cs

variable {parens : Nat}

theorem endFound_quoted {q : Char} (hafter : AfterQuote (some q)) (h : At s i (c :: cs))
    (further : FoundBehind s i) : EndFound s (some q) parens i (c :: cs) := by
  have hq : q.toNat < 128 := ascii_of_quote (hafter q rfl)
  obtain ⟨b, hbyte, hb⟩ := h.exists_byteAt
  rw [EndFound, statementEndFrom, if_pos h.lt_size, hbyte, statementSpan]
  simp (disch := first | decide | exact hq) only [Option.map_some, hb, SpanState.step,
    Bool.false_eq_true, if_false]
  split_ifs with hescape hclose
  · subst hescape
    have hbehind := further hafter (Nat.lt_add_of_pos_right Nat.two_pos) (.next_two h rfl) parens
    rwa [EndFound, ← statementSpan_escaped] at hbehind
  · exact further afterQuote_none (Nat.lt_succ_self i) (.next h) parens
  · exact further hafter (Nat.lt_succ_self i) (.next h) parens

theorem endFound_unquoted (h : At s i (c :: cs)) (further : FoundBehind s i) :
    EndFound s none parens i (c :: cs) := by
  obtain ⟨b, hbyte, hb⟩ := h.exists_byteAt
  have hnext := further afterQuote_none (Nat.lt_succ_self i) (.next h)
  rw [EndFound, statementEndFrom, if_pos h.lt_size, hbyte, statementSpan]
  simp (disch := decide) only [Option.map_none, hb, SpanState.step]
  split_ifs with hquote hopen hclose hend
  · obtain rfl : b = c.toUInt8 := (hb c (ascii_of_quote hquote)).mpr rfl
    exact further (afterQuote_some hquote) (Nat.lt_succ_self i) (.next h) parens
  · exact hnext (parens + 1)
  · exact hnext (parens - 1)
  · exact ⟨i, rfl, h⟩
  · exact hnext parens

theorem endFound_of_stands {quote : Option Char} (hafter : AfterQuote quote) (h : Stands s i cs)
    (parens : Nat) : EndFound s quote parens i cs := by
  -- A round goes on by one byte or by two, also from inside a character: what gets less are bytes.
  generalize hn : s.utf8ByteSize - i = n
  induction n using Nat.strongRecOn generalizing i quote parens cs with
  | _ n ih =>
  rcases Nat.lt_or_ge i s.utf8ByteSize with hlt | hend
  · have further : FoundBehind s i := fun hafter hk h parens ↦
      ih (s.utf8ByteSize - _) (by omega) hafter h parens rfl
    cases h with
    | behind h => exact absurd hlt (Nat.not_lt.mpr h)
    | inside h hk =>
      obtain ⟨b, hbyte, hb⟩ := h.exists_byteAt_inside hk
      rw [EndFound, statementEndFrom_wide hafter parens hbyte hb]
      exact further hafter (Nat.lt_succ_self _) (.passed h hk) parens
    | @before _ cs h =>
      cases cs with
      | nil => exact absurd hlt (h.eq_size ▸ Nat.lt_irrefl i)
      | cons c cs =>
        cases quote with
        | some q => exact endFound_quoted hafter h further
        | none => exact endFound_unquoted h further
  · obtain rfl := h.eq_nil hend
    rw [EndFound, statementEndFrom, if_neg (Nat.not_lt.mpr hend)]
    exact ⟨s.utf8ByteSize, rfl, at_end s⟩

/-- From one boundary the search comes to another, and the statement between them can be cut out. -/
theorem statementEnd_ok (h : At s i cs) : ∃ j, statementEnd s i = .ok j ∧
    slice s i j = .ok (String.ofList (statementSpan .outside cs).1) ∧
    At s j (statementSpan .outside cs).2 := by
  obtain ⟨j, hj, hat⟩ := endFound_of_stands afterQuote_none (.before h) 0
  have hparts : At s i ((statementSpan .outside cs).1 ++ (statementSpan .outside cs).2) := by
    rwa [statementSpan_append]
  refine ⟨j, hj, ?_, hat⟩
  rw [hat.offset_eq hparts.behind]
  exact hparts.slice_eq

/-! ## Blocks in braces -/

theorem eq_append_of_importRest? {rest : List Char} (h : importRest? cs = some rest) :
    cs = keyword ++ rest := by
  rw [importRest?] at h
  split at h
  · next c rest' hlead =>
    split_ifs at h
    cases h
    exact Grammar.eq_append_of_stripLead? hlead
  · cases h

namespace BlockScan

theorem import?_of_none (scan : BlockScan) (h : At s scan.index cs)
    (himport : importRest? cs = none) : scan.import? s = .ok none := by
  refine bind_eq_ok.mpr ⟨_, h.slice_rest, ?_⟩
  rw [String.toList_ofList, himport]
  rfl

theorem import?_of_some (scan : BlockScan) (h : At s scan.index cs) {rest : List Char}
    (himport : importRest? cs = some rest) :
    ∃ stop, scan.import? s = .ok (some (stop, splitArgs (statementSpan .outside rest).1)) ∧
      At s stop (statementSpan .outside rest).2 := by
  have hrest : At s (scan.index + keyword.length) rest := by
    have hkeyword : At s scan.index (keyword ++ rest) := eq_append_of_importRest? himport ▸ h
    exact hkeyword.behind
  obtain ⟨stop, hstop, hslice, hat⟩ := statementEnd_ok hrest
  refine ⟨stop, bind_eq_ok.mpr ⟨_, h.slice_rest, ?_⟩, hat⟩
  rw [String.toList_ofList, himport, Option.isSome_some, if_pos rfl]
  refine bind_eq_ok.mpr ⟨stop, hstop, bind_eq_ok.mpr ⟨_, hslice, ?_⟩⟩
  rw [String.toList_ofList]
  rfl

/-- The scan over characters, too, would come to `out` from here: the invariant of the scan. -/
inductive Due (s : String) (out : List Statement) : BlockScan → Prop
  | intro {quote : Option Char} {i depth inner found cs} (hafter : AfterQuote quote)
      (stands : Stands s i cs) (rest : found ++ blocksFrom quote depth inner cs = out) :
      Due s out ⟨i, quote.map Char.toUInt8, depth, inner, found⟩

variable {depth : Nat} {inner : List String} {found out : List Statement}

theorem step_wide {quote : Option Char} (hafter : AfterQuote quote) {b : UInt8}
    (hbyte : byteAt s i = .ok b) (hb : 128 ≤ b.toNat) :
    step s ⟨i, quote.map Char.toUInt8, depth, inner, found⟩ =
      .ok ⟨i + 1, quote.map Char.toUInt8, depth, inner, found⟩ := by
  refine bind_eq_ok.mpr ⟨b, hbyte, ?_⟩
  cases quote with
  | some q =>
    have hq : q.toNat < 128 := ascii_of_quote (hafter q rfl)
    simp (disch := first | decide | exact hq) only [Option.map_some, ne_toUInt8 hb, if_false]
    rfl
  | none =>
    simp (disch := decide) only [Option.map_none, ne_toUInt8 hb, or_self, false_and, if_false]
    rfl

theorem step_quoted {q : Char} (hafter : AfterQuote (some q)) (h : At s i (c :: cs))
    (rest : found ++ blocksFrom (some q) depth inner (c :: cs) = out) :
    ∃ next, step s ⟨i, some q.toUInt8, depth, inner, found⟩ = .ok next ∧ Due s out next := by
  have hq : q.toNat < 128 := ascii_of_quote (hafter q rfl)
  obtain ⟨b, hbyte, hb⟩ := h.exists_byteAt
  rw [blocksFrom] at rest
  simp (disch := first | decide | exact hq) only [step, hbyte, bind, Except.bind, pure,
    Except.pure, hb]
  split_ifs at rest ⊢ with hescape hclose
  · subst hescape
    exact ⟨_, rfl, .intro hafter (.next_two h rfl) rest⟩
  · exact ⟨_, rfl, .intro afterQuote_none (.next h) rest⟩
  · exact ⟨_, rfl, .intro hafter (.next h) rest⟩

theorem due_closed (h : Stands s (i + 1) cs)
    (rest : found ++ (if depth + 1 = 1 then .block inner :: blocksFrom none 0 [] cs
      else blocksFrom none depth inner cs) = out) :
    Due s out (closed ⟨i, none, depth + 1, inner, found⟩ depth) := by
  cases depth with
  | zero => exact .intro afterQuote_none h ((List.append_assoc ..).trans rest)
  | succ depth => exact .intro afterQuote_none h rest

theorem due_imported {stop : Nat} {args : List String} (h : Stands s stop cs)
    (rest : found ++ (if depth = 0 then .load args :: blocksFrom none depth inner cs
      else blocksFrom none depth (inner ++ args) cs) = out) :
    Due s out (imported ⟨i, none, depth, inner, found⟩ stop args) := by
  cases depth with
  | zero => exact .intro afterQuote_none h ((List.append_assoc ..).trans rest)
  | succ depth => exact .intro afterQuote_none h rest

theorem step_unquoted (h : At s i (c :: cs))
    (rest : found ++ blocksFrom none depth inner (c :: cs) = out) :
    ∃ next, step s ⟨i, none, depth, inner, found⟩ = .ok next ∧ Due s out next := by
  obtain ⟨b, hbyte, hb⟩ := h.exists_byteAt
  have hsharp : (c = '#' ∧ (bytes s)[i + 1]? = some '{'.toUInt8) ↔ (c = '#' ∧ cs.head? = some '{') :=
    and_congr_right fun hc ↦ (hc ▸ h).next.getElem?_bytes_eq_iff (by decide)
  rw [blocksFrom] at rest
  simp (disch := decide) only [step, hbyte, bind, Except.bind, pure, Except.pure, hb, hsharp]
  split_ifs with hquote hinterpolation hopen hclose hat
  · rw [if_pos hquote] at rest
    obtain rfl : b = c.toUInt8 := (hb c (ascii_of_quote hquote)).mpr rfl
    exact ⟨_, rfl, .intro (afterQuote_some hquote) (.next h) rest⟩
  · rw [if_neg hquote, if_pos hinterpolation] at rest
    obtain ⟨rfl, hhead⟩ := hinterpolation
    obtain ⟨cs, rfl⟩ := List.head?_eq_some_iff.mp hhead
    obtain ⟨j, hj, -, hbehind⟩ := skipInterpolation_ok (i := i + 1) h.next
    rw [hj]
    exact ⟨_, rfl, .intro afterQuote_none (.before hbehind) rest⟩
  · rw [if_neg hquote, if_neg hinterpolation, if_pos hopen] at rest
    exact ⟨_, rfl, .intro afterQuote_none (.next h) rest⟩
  · rw [if_neg hquote, if_neg hinterpolation, if_neg hopen, if_pos hclose] at rest
    obtain ⟨depth, rfl⟩ := Nat.exists_eq_succ_of_ne_zero (Nat.ne_of_gt hclose.2)
    exact ⟨_, rfl, due_closed (.next h) rest⟩
  · rw [if_neg hquote, if_neg hinterpolation, if_neg hopen, if_neg hclose] at rest
    split at rest
    · next after himport =>
      obtain ⟨stop, hstop, hbehind⟩ := import?_of_some ⟨i, none, depth, inner, found⟩ h himport
      rw [hstop]
      exact ⟨_, rfl, due_imported (.before hbehind) rest⟩
    · next himport =>
      rw [import?_of_none ⟨i, none, depth, inner, found⟩ h himport]
      exact ⟨_, rfl, .intro afterQuote_none (.next h) rest⟩
  -- The scan over characters looks for an import here as well, but one begins with an at sign.
  · rw [if_neg hquote, if_neg hinterpolation, if_neg hopen, if_neg hclose] at rest
    split at rest
    · next himport => cases (Grammar.importRest?_of_ne hat cs).symm.trans himport
    · exact ⟨_, rfl, .intro afterQuote_none (.next h) rest⟩

theorem step_due {scan : BlockScan} (h : Due s out scan) (hlt : scan.index < s.utf8ByteSize) :
    ∃ next, scan.step s = .ok next ∧ Due s out next := by
  obtain @⟨quote, i, depth, inner, found, cs, hafter, stands, rest⟩ := h
  cases stands with
  | behind h => exact absurd hlt (Nat.not_lt.mpr h)
  | inside h hk =>
    obtain ⟨b, hbyte, hb⟩ := h.exists_byteAt_inside hk
    exact ⟨_, step_wide hafter hbyte hb, .intro hafter (.passed h hk) rest⟩
  | before h =>
    cases cs with
    | nil => exact absurd hlt (h.eq_size ▸ Nat.lt_irrefl _)
    | cons c cs =>
      cases quote with
      | some q => exact step_quoted hafter h rest
      | none => exact step_unquoted h rest

theorem run_due {scan : BlockScan} (h : Due s out scan) : scan.run s = .ok out := by
  fun_induction run s scan with
  | case1 scan hlt fault hstep =>
    obtain ⟨next, hnext, -⟩ := step_due h hlt
    cases hnext.symm.trans hstep
  | case2 scan hlt next hstep ih =>
    obtain ⟨next', hnext, hdue⟩ := step_due h hlt
    obtain rfl := Except.ok.inj (hnext.symm.trans hstep)
    exact ih hdue
  | case3 scan hend =>
    obtain ⟨hafter, stands, rfl⟩ := h
    obtain rfl := stands.eq_nil (Nat.not_lt.mp hend)
    rw [blocksFrom, List.append_nil]

end BlockScan

/-- The scan of blocks in braces finds what the scan over characters finds. -/
theorem statementsInBraces_ok (s : String) :
    statementsInBraces s = .ok (Imports.statementsInBraces s.toList) :=
  BlockScan.run_due (.intro afterQuote_none (.before (at_start s)) rfl)

/-! ## Blocks by indentation -/

theorem lineImport?_ok (text : List Char) : lineImport? (String.ofList text) =
    .ok ((importRest? text).map fun after ↦ splitArgs (dropSemicolons (trimEnd after))) := by
  rw [lineImport?, String.toList_ofList]
  cases himport : importRest? text with
  | none => rfl
  | some after =>
    obtain rfl := eq_append_of_importRest? himport
    have hafter : At (String.ofList (keyword ++ after)) keyword.length after :=
      (at_ofList (keyword ++ after)).behind
    refine bind_eq_ok.mpr ⟨_, hafter.slice_rest, ?_⟩
    rw [String.toList_ofList]
    rfl

/-- A line without blanks at its front is told by its bytes as by its characters. -/
theorem size_trimStart_eq_iff (line : List Char) :
    (String.ofList (trimStart line)).utf8ByteSize = (String.ofList line).utf8ByteSize ↔
      (trimStart line).length = line.length := by
  have hline : line.takeWhile isBlank ++ trimStart line = line := List.takeWhile_append_dropWhile
  have hsize := congrArg (fun cs ↦ (String.ofList cs).utf8ByteSize) hline
  have hlength := congrArg List.length hline
  rw [String.ofList_append, String.utf8ByteSize_append] at hsize
  rw [List.length_append] at hlength
  have hnil : (String.ofList (line.takeWhile isBlank)).utf8ByteSize = 0 ↔
      (line.takeWhile isBlank).length = 0 := by
    rw [size_eq_zero, List.length_eq_zero_iff]
  omega

theorem indentedFrom_ok (block : Option (List String)) (ls : List (List Char)) :
    indentedFrom block ls = .ok (Imports.indentedFrom block ls) := by
  induction ls generalizing block with
  | nil => rfl
  | cons line ls ih =>
    rw [indentedFrom, Imports.indentedFrom]
    simp only [size_eq_zero, lineImport?_ok, size_trimStart_eq_iff, ih, decide_eq_true_eq, bind,
      Except.bind, pure, Except.pure]
    by_cases htext : trimStart line = []
    · rw [if_pos htext, if_pos htext]
    · rw [if_neg htext, if_neg htext]
      cases importRest? (trimStart line) with
      | none =>
        dsimp only [Option.map_none]
        split_ifs <;> rfl
      | some after =>
        dsimp only [Option.map_some]
        split_ifs <;> rfl

theorem indentedStatements_ok (s : String) :
    indentedStatements s = .ok (Imports.indentedStatements s.toList) :=
  indentedFrom_ok none (lines s.toList)

/-! ## Arguments -/

variable {target : List Char}

theorem findFrom_of_notMem (h : c ∉ cs) (i : Nat) : findFrom c i cs = none := by
  induction cs generalizing i with
  | nil => rfl
  | cons d cs ih =>
    obtain ⟨hd, hcs⟩ := not_or.mp (mt List.mem_cons.mpr h)
    rw [findFrom, if_neg (Ne.symm hd), ih hcs]

theorem findFrom_append (h : c ∉ target) (i : Nat) (after : List Char) :
    findFrom c i (target ++ c :: after) = some (i + (String.ofList target).utf8ByteSize) := by
  induction target generalizing i with
  | nil => exact if_pos rfl
  | cons d target ih =>
    obtain ⟨hd, htarget⟩ := not_or.mp (mt List.mem_cons.mpr h)
    rw [List.cons_append, findFrom, if_neg (Ne.symm hd), ih htarget, size_cons, Nat.add_assoc]

/-- Behind the opening quote there is a boundary, and so are in front of the closing quote and behind
it. -/
theorem sassTarget?_ok (arg : String) : sassTarget? arg = .ok (Imports.sassTarget? arg) := by
  obtain ⟨cs, rfl⟩ : ∃ cs, arg = String.ofList cs := ⟨arg.toList, String.ofList_toList.symm⟩
  simp only [sassTarget?, Imports.sassTarget?, String.toList_ofList]
  cases cs with
  | nil => rfl
  | cons c rest =>
    dsimp only [List.head?_cons]
    by_cases hquote : c = '"' ∨ c = '\''
    · have hc : c.utf8Size = 1 := utf8Size_of_ascii (ascii_of_quote hquote)
      have hinner : At (String.ofList (c :: rest)) 1 rest := by
        simpa only [hc, Nat.zero_add] using (at_ofList (c :: rest)).next
      rw [if_pos hquote, if_pos hquote]
      refine bind_eq_ok.mpr ⟨_, hinner.slice_rest, ?_⟩
      rw [String.toList_ofList]
      by_cases hmem : c ∈ rest
      · obtain ⟨target, after, rfl, htarget⟩ := List.eq_append_cons_of_mem hmem
        have hother : ∀ d ∈ target, (d != c) = true := fun d hd ↦
          bne_iff_ne.mpr fun heq ↦ htarget (heq ▸ hd)
        have hclose := at_ofList (target ++ c :: after)
        have hafter := hclose.behind.next
        rw [hc] at hafter
        rw [findFrom_append htarget, List.dropWhile_append_of_pos hother,
          List.takeWhile_append_of_pos hother, List.dropWhile_cons_of_neg (by simp),
          List.takeWhile_cons_of_neg (by simp), List.append_nil]
        refine bind_eq_ok.mpr ⟨_, hafter.slice_rest, ?_⟩
        rw [String.toList_ofList]
        by_cases htrim : trim after = []
        · rw [if_pos htrim]
          refine bind_eq_ok.mpr ⟨_, hclose.slice_eq, ?_⟩
          rw [String.toList_ofList]
          exact congrArg Except.ok (if_pos htrim).symm
        · rw [if_neg htrim]
          exact congrArg Except.ok (if_neg htrim).symm
      · have hdrop : rest.dropWhile (· != c) = [] := List.dropWhile_eq_nil_iff.mpr fun d hd ↦
          bne_iff_ne.mpr fun heq ↦ hmem (heq ▸ hd)
        rw [findFrom_of_notMem hmem, hdrop]
        rfl
    · rw [if_neg hquote, if_neg hquote]
      rfl

/-! ## Every text -/

namespace BlockScan

def WellQuoted (scan : BlockScan) : Prop :=
  scan.quote ∈ [none, some '"'.toUInt8, some '\''.toUInt8]

instance (scan : BlockScan) : Decidable scan.WellQuoted :=
  inferInstanceAs (Decidable (_ ∈ _))

theorem WellQuoted.exists_due {scan : BlockScan} (h : scan.WellQuoted) (s : String) :
    ∃ out, Due s out scan := by
  obtain ⟨i, quote, depth, inner, found⟩ := scan
  obtain ⟨cs, hstands⟩ := exists_stands s i
  obtain ⟨quote, hafter, rfl⟩ : ∃ q, AfterQuote q ∧ q.map Char.toUInt8 = quote := by
    simp only [WellQuoted, List.mem_cons, List.not_mem_nil, or_false] at h
    rcases h with rfl | rfl | rfl
    · exact ⟨none, afterQuote_none, rfl⟩
    · exact ⟨some '"', afterQuote_some (.inl rfl), rfl⟩
    · exact ⟨some '\'', afterQuote_some (.inr rfl), rfl⟩
  exact ⟨_, .intro hafter hstands rfl⟩

theorem Due.wellQuoted {scan : BlockScan} {out : List Statement} (h : Due s out scan) :
    scan.WellQuoted := by
  obtain @⟨quote, i, depth, inner, found, cs, hafter, -, -⟩ := h
  cases quote with
  | none => exact List.mem_cons_self
  | some q =>
    rcases hafter q rfl with rfl | rfl
    · exact List.mem_cons_of_mem _ List.mem_cons_self
    · exact List.mem_cons_of_mem _ (List.mem_cons_of_mem _ List.mem_cons_self)

end BlockScan

/-- Every byte that the scans look at is there, every cut is from one boundary to another that is not
before it, no count falls below zero, and every round of the scan of braces moves its offset on. -/
theorem scans_stay_in_text (s : String) :
    (∀ scan : BlockScan, scan.WellQuoted → scan.index < s.utf8ByteSize →
      ∃ next, scan.step s = .ok next ∧ next.WellQuoted ∧ scan.index < next.index) ∧
    (∀ i, byteAt s i = .ok '{'.toUInt8 →
      ∃ j, skipInterpolation s i = .ok j ∧ i < j ∧ IsBoundary s j) ∧
    (∀ i, ∃ j, statementEnd s i = .ok j ∧ min i s.utf8ByteSize ≤ j ∧ IsBoundary s j) ∧
    statementsInBraces s = .ok (Imports.statementsInBraces s.toList) ∧
    indentedStatements s = .ok (Imports.indentedStatements s.toList) ∧
    sassTarget? s = .ok (Imports.sassTarget? s) := by
  refine ⟨fun scan hwell hlt ↦ ?_, fun i hbyte ↦ ?_, fun i ↦ ?_, statementsInBraces_ok s,
    indentedStatements_ok s, sassTarget?_ok s⟩
  · obtain ⟨out, hdue⟩ := hwell.exists_due s
    obtain ⟨next, hstep, hnext⟩ := BlockScan.step_due hdue hlt
    exact ⟨next, hstep, hnext.wellQuoted, BlockScan.index_lt_of_step hstep⟩
  · obtain ⟨cs, hat⟩ := exists_at_of_byteAt (by decide) hbyte
    obtain ⟨j, hj, hlt, hbehind⟩ := skipInterpolation_ok hat
    exact ⟨j, hj, hlt, hbehind.isBoundary⟩
  · obtain ⟨cs, hstands⟩ := exists_stands s i
    obtain ⟨j, hj, hat⟩ := endFound_of_stands afterQuote_none hstands 0
    exact ⟨j, hj, le_of_statementEndFrom hj, hat.isBoundary⟩

/-- From a backslash inside quotes the scan comes into the middle of a character, and goes on. -/
theorem scans_stay_in_text_behind_backslash :
    (∃ next, BlockScan.step "\"\\é\"" ⟨1, some '"'.toUInt8, 0, [], []⟩ = .ok next ∧ next.WellQuoted ∧
      1 < next.index) ∧
    ∃ j, skipInterpolation "#\x7bé\x7d" 1 = .ok j ∧ 1 < j ∧ IsBoundary "#\x7bé\x7d" j :=
  ⟨(scans_stay_in_text _).1 ⟨1, some '"'.toUInt8, 0, [], []⟩ (by decide) (by decide),
    (scans_stay_in_text _).2.1 1 rfl⟩

example : statementsInBraces "a\x7bb: \"\\é\x7d\"; @import 'é'\x7d" = .ok [.block ["'é'"]] := by
  decide +kernel

end StyleGuide.Imports.Bytewise
