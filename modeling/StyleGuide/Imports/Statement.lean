import StyleGuide.Text.Letter

/-!
# Import statements

Finds the `@import` rules of a stylesheet without comments, in both syntaxes. A top-level import
is a statement of its own; the imports inside a block, at whatever depth, belong to the block. What
else a stylesheet says is passed over.
-/

namespace StyleGuide.Imports

open Text

/-- What a stylesheet says about imports at its top level. -/
inductive Statement where
  | load (args : List String)
  /-- A block with the arguments of all imports inside it. -/
  | block (args : List String)
deriving DecidableEq, Repr

def keyword : List Char :=
  ['@', 'i', 'm', 'p', 'o', 'r', 't']

/-- What follows the keyword, if the text opens an import: after the keyword stands a blank or a
quote. -/
def importRest? (cs : List Char) : Option (List Char) :=
  match stripLead? keyword cs with
  | some (c :: rest) => if isBlank c || c == '"' || c == '\'' then some (c :: rest) else none
  | _ => none

/-! ## Arguments -/

/-- Splits at commas outside quotes and parentheses. `word` is the current argument, latest
character first. -/
def splitFrom (quote : Option Char) (parens : Nat) (word : List Char) :
    List Char → List (List Char)
  | [] => [word.reverse]
  | c :: cs =>
    match quote with
    | some q => splitFrom (if c = q then none else quote) parens (c :: word) cs
    | none =>
      if c = '"' ∨ c = '\'' then splitFrom (some c) parens (c :: word) cs
      else if c = '(' then splitFrom none (parens + 1) (c :: word) cs
      else if c = ')' then splitFrom none (parens - 1) (c :: word) cs
      else if c = ',' ∧ parens = 0 then word.reverse :: splitFrom none 0 [] cs
      else splitFrom none parens (c :: word) cs

/-- The arguments of an import, without blanks around them and without empty ones. -/
def splitArgs (cs : List Char) : List String :=
  (((splitFrom none 0 [] cs).map trim).filter (· ≠ [])).map String.ofList

/-! ## Blocks in braces -/

/-- The text after the brace that closes an interpolation, or nothing if it stays open. -/
def afterInterpolation : (depth : Nat) → List Char → List Char
  | _, [] => []
  | depth, c :: cs =>
    if c = '{' then afterInterpolation (depth + 1) cs
    else if c = '}' then if depth ≤ 1 then cs else afterInterpolation (depth - 1) cs
    else afterInterpolation depth cs

/-- What the end of a statement is looked for inside of. -/
structure SpanState where
  quote : Option Char
  /-- After a backslash inside quotes. -/
  escaped : Bool
  parens : Nat
deriving DecidableEq, Repr

/-- Outside quotes and parentheses. -/
def SpanState.outside : SpanState :=
  ⟨none, false, 0⟩

/-- The state after a character; none if the character ends the statement. -/
def SpanState.step (s : SpanState) (c : Char) : Option SpanState :=
  match s.quote with
  | some q =>
    if s.escaped then some { s with escaped := false }
    else if c = '\\' then some { s with escaped := true }
    else if c = q then some { s with quote := none }
    else some s
  | none =>
    if c = '"' ∨ c = '\'' then some { s with quote := some c }
    else if c = '(' then some { s with parens := s.parens + 1 }
    else if c = ')' then some { s with parens := s.parens - 1 }
    else if (c = ';' ∨ c = '{' ∨ c = '}') ∧ s.parens = 0 then none
    else some s

/-- A statement and what is left from the `;`, `{` or `}` that ends it. -/
def statementSpan (s : SpanState) : List Char → List Char × List Char
  | [] => ([], [])
  | c :: cs =>
    match s.step c with
    | none => ([], c :: cs)
    | some next =>
      let r := statementSpan next cs
      (c :: r.1, r.2)

theorem length_afterInterpolation_le (depth : Nat) (cs : List Char) :
    (afterInterpolation depth cs).length ≤ cs.length := by
  induction cs generalizing depth with
  | nil => simp [afterInterpolation]
  | cons c cs ih =>
    have h0 := ih (depth + 1)
    have h1 := ih (depth - 1)
    have h2 := ih depth
    simp only [afterInterpolation, List.length_cons]
    split
    · omega
    · split
      · split <;> omega
      · omega

theorem length_statementSpan_le (s : SpanState) (cs : List Char) :
    (statementSpan s cs).2.length ≤ cs.length := by
  fun_induction statementSpan s cs with
  | case1 => simp
  | case2 => simp
  | case3 s c cs next _ r ih => simp only [r, List.length_cons]; omega

theorem length_importRest?_lt {cs rest : List Char} (h : importRest? cs = some rest) :
    rest.length < cs.length := by
  have lead {l cs r : List Char} (h : stripLead? l cs = some r) :
      r.length + l.length = cs.length := by
    induction l generalizing cs with
    | nil => simp_all [stripLead?]
    | cons a l ih =>
      cases cs with
      | nil => simp [stripLead?] at h
      | cons b cs =>
        simp only [stripLead?] at h
        split at h
        · have := ih h; simp; omega
        · cases h
  simp only [importRest?] at h
  split at h
  · next c rest' hs =>
    have := lead hs
    split at h
    · cases h; simp [keyword] at this; simp; omega
    · cases h
  · cases h

/-- The statements of the rest of a stylesheet, at `depth` open braces with the imports `inner`
found inside them. -/
def blocksFrom (quote : Option Char) (depth : Nat) (inner : List String) :
    List Char → List Statement
  | [] => []
  | c :: cs =>
    match quote with
    | some q =>
      if c = '\\' then blocksFrom quote depth inner (cs.drop 1)
      else if c = q then blocksFrom none depth inner cs
      else blocksFrom quote depth inner cs
    | none =>
      if c = '"' ∨ c = '\'' then blocksFrom (some c) depth inner cs
      else if c = '#' ∧ cs.head? = some '{' then
        blocksFrom none depth inner (afterInterpolation 0 cs)
      else if c = '{' then blocksFrom none (depth + 1) inner cs
      else if c = '}' ∧ 0 < depth then
        if depth = 1 then .block inner :: blocksFrom none 0 [] cs
        else blocksFrom none (depth - 1) inner cs
      else match _h : importRest? (c :: cs) with
        | some rest =>
          let span := statementSpan .outside rest
          let args := splitArgs span.1
          if depth = 0 then .load args :: blocksFrom none depth inner span.2
          else blocksFrom none depth (inner ++ args) span.2
        | none => blocksFrom none depth inner cs
termination_by cs => cs.length
decreasing_by
  all_goals try simp only [List.length_cons, List.length_drop]
  all_goals try omega
  · have := length_afterInterpolation_le 0 cs; omega
  all_goals
    have h1 := length_importRest?_lt _h
    have h2 := length_statementSpan_le .outside rest
    simp only [List.length_cons] at h1
    omega

def statementsInBraces (source : List Char) : List Statement :=
  blocksFrom none 0 [] source

/-! ## Blocks by indentation -/

/-- The lines of a text, each without its line end. A last line without a line end counts only if
it is not empty. -/
def linesFrom (line : List Char) : List Char → List (List Char)
  | [] => if line = [] then [] else [line.reverse]
  | c :: cs =>
    if c = '\n' then
      (if line.head? = some '\r' then line.drop 1 else line).reverse :: linesFrom [] cs
    else linesFrom (c :: line) cs

def lines (source : List Char) : List (List Char) :=
  linesFrom [] source

def dropSemicolons (cs : List Char) : List Char :=
  (cs.reverse.dropWhile (· == ';')).reverse

def closeBlock (block : Option (List String)) : List Statement :=
  match block with
  | some args => [.block args]
  | none => []

/-- The statements of the remaining lines; `block` holds the imports of the block under way. -/
def indentedFrom (block : Option (List String)) : List (List Char) → List Statement
  | [] => closeBlock block
  | line :: rest =>
    let text := trimStart line
    if text = [] then indentedFrom block rest
    else
      let topLevel := decide (text.length = line.length)
      match importRest? text with
      | some after =>
        let args := splitArgs (dropSemicolons (trimEnd after))
        if topLevel then closeBlock block ++ .load args :: indentedFrom none rest
        else indentedFrom (some (block.getD [] ++ args)) rest
      | none =>
        if topLevel then closeBlock block ++ indentedFrom (some []) rest
        else indentedFrom block rest

def indentedStatements (source : List Char) : List Statement :=
  indentedFrom none (lines source)

end StyleGuide.Imports
