import StyleGuide.Imports.Statement

/-!
# A grammar of stylesheets

Stylesheets of imports, blocks and declarations, described apart from the scanners that read them.
A sheet is a list of items, an item is a row of tokens, and blanks and comments may stand before
every token and at the end. The grammar leaves out interpolation, parentheses, at-rules other than
imports, and imports without quotes.
-/

namespace StyleGuide.Imports.Grammar

open Text

/-! ## Words and quoted text -/

/-- The inside of quoted text: no line break, and no quote of its own kind but behind a backslash. -/
inductive Closed (quote : Char) : List Char → Prop
  | nil : Closed quote []
  | plain {c : Char} {cs : List Char} (noQuote : c ≠ quote) (noEscape : c ≠ '\\')
      (noBreak : c ≠ '\n') (rest : Closed quote cs) : Closed quote (c :: cs)
  | escape {c : Char} {cs : List Char} (rest : Closed quote cs) : Closed quote ('\\' :: c :: cs)

theorem closed_of_not_mem {quote : Char} {cs : List Char} (noQuote : quote ∉ cs)
    (noEscape : '\\' ∉ cs) (noBreak : '\n' ∉ cs) : Closed quote cs := by
  induction cs with
  | nil => exact .nil
  | cons c cs ih =>
    rw [List.mem_cons, not_or] at noQuote noEscape noBreak
    exact .plain (Ne.symm noQuote.1) (Ne.symm noEscape.1) (Ne.symm noBreak.1)
      (ih noQuote.2 noEscape.2 noBreak.2)

theorem Closed.not_mem {quote : Char} {content : List Char} (closed : Closed quote content)
    (noEscape : '\\' ∉ content) : quote ∉ content := by
  induction closed with
  | nil => exact List.not_mem_nil
  | plain hquote _ _ _ ih =>
    rw [List.mem_cons, not_or] at noEscape ⊢
    exact ⟨hquote.symm, ih noEscape.2⟩
  | escape => exact absurd List.mem_cons_self noEscape

/-- Text in single or double quotes. -/
structure Quoted where
  quote : Char
  content : List Char
  isQuote : quote = '"' ∨ quote = '\''
  closed : Closed quote content

def Quoted.chars (q : Quoted) : List Char :=
  q.quote :: (q.content ++ [q.quote])

theorem isQuote_double : '"' = '"' ∨ '"' = '\'' :=
  .inl rfl

theorem isQuote_single : '\'' = '"' ∨ '\'' = '\'' :=
  .inr rfl

theorem Quoted.quote_ne_backslash (q : Quoted) : q.quote ≠ '\\' := by
  rcases q.isQuote with h | h <;> rw [h] <;> decide

/-- Quoted text that an import can name: it has no escapes. -/
structure Name extends Quoted where
  noEscape : '\\' ∉ content

def Name.argument (n : Name) : String :=
  String.ofList n.chars

/-- The characters that no word contains. -/
def marks : List Char :=
  ['"', '\'', '{', '}', '(', ')', '/', '\\', '#', '@', ';']

/-- Text of a selector or a declaration outside quotes. -/
structure Word where
  chars : List Char
  noMark : ∀ c ∈ chars, c ∉ marks

/-! ## Items -/

/-- An item of a stylesheet. -/
inductive Item where
  | load (first : Name) (others : List Name)
  | block (selector : List Word) (body : List Item)
  | declaration (parts : List (Word ⊕ Quoted))

mutual

/-- The arguments of the imports in an item, at any depth and in the order they are written. -/
def Item.arguments : Item → List String
  | .load first others => (first :: others).map Name.argument
  | .block _ body => argumentsOf body
  | .declaration _ => []

def argumentsOf : List Item → List String
  | [] => []
  | item :: items => item.arguments ++ argumentsOf items

end

def Item.statement? : Item → Option Statement
  | .load first others => some (.load ((first :: others).map Name.argument))
  | .block _ body => some (.block (argumentsOf body))
  | .declaration _ => none

/-! ## Tokens -/

inductive Token where
  | keyword
  | word (w : Word)
  | quoted (q : Quoted)
  | comma
  | semicolon
  | opening
  | closing

def Token.chars : Token → List Char
  | keyword => Imports.keyword
  | word w => w.chars
  | quoted q => q.chars
  | comma => [',']
  | semicolon => [';']
  | opening => ['{']
  | closing => ['}']

def quotedTokens (first : Quoted) (others : List Quoted) : List Token :=
  .quoted first :: others.flatMap fun q ↦ [.comma, .quoted q]

def argumentTokens (first : Name) (others : List Name) : List Token :=
  .quoted first.toQuoted :: others.flatMap fun n ↦ [.comma, .quoted n.toQuoted]

mutual

def Item.tokens : Item → List Token
  | .load first others => .keyword :: (argumentTokens first others ++ [.semicolon])
  | .block selector body => selector.map .word ++ .opening :: (tokensOf body ++ [.closing])
  | .declaration parts => parts.map (Sum.elim .word .quoted) ++ [.semicolon]

def tokensOf : List Item → List Token
  | [] => []
  | item :: items => item.tokens ++ tokensOf items

end

/-! ## Text -/

/-- Blanks and comments. -/
inductive Gap : List Char → Prop
  | nil : Gap []
  | blank {c : Char} {cs : List Char} (isBlank : isBlank c = true) (rest : Gap cs) : Gap (c :: cs)
  | lineComment {content cs : List Char} (noBreak : '\n' ∉ content) (rest : Gap cs) :
      Gap ('/' :: '/' :: (content ++ '\n' :: cs))
  | blockComment {content cs : List Char} (noEnd : ¬ ['*', '/'] <:+: content) (rest : Gap cs) :
      Gap ('/' :: '*' :: (content ++ '*' :: '/' :: cs))

/-- Tokens one after the other, with something of a kind before each of them. -/
inductive Run (Between : List Char → Prop) : List Token → List Char → Prop
  | nil : Run Between [] []
  | cons {before text : List Char} {token : Token} {tokens : List Token}
      (between : Between before) (rest : Run Between tokens text) :
      Run Between (token :: tokens) (before ++ token.chars ++ text)

theorem Run.exists_cons {Between : List Char → Prop} {token : Token} {tokens : List Token}
    {text : List Char} (h : Run Between (token :: tokens) text) :
    ∃ before more, Between before ∧ Run Between tokens more ∧
      text = before ++ token.chars ++ more := by
  cases h with
  | cons between rest => exact ⟨_, _, between, rest, rfl⟩

theorem Run.exists_append {Between : List Char → Prop} {tokens tokens' : List Token}
    {text : List Char} (h : Run Between (tokens ++ tokens') text) :
    ∃ front back, Run Between tokens front ∧ Run Between tokens' back ∧ text = front ++ back := by
  induction tokens generalizing text with
  | nil => exact ⟨[], text, .nil, h, rfl⟩
  | cons token tokens ih =>
    obtain ⟨before, more, between, hmore, rfl⟩ := h.exists_cons
    obtain ⟨front, back, hfront, hback, rfl⟩ := ih hmore
    exact ⟨_, back, .cons between hfront, hback, by simp only [List.append_assoc]⟩

/-- The texts of a list of items. A comment on the last line need not end with a line break. -/
inductive Sheet (items : List Item) : List Char → Prop
  | ended {text last : List Char} (run : Run Gap (tokensOf items) text) (gap : Gap last) :
      Sheet items (text ++ last)
  | commented {text last content : List Char} (run : Run Gap (tokensOf items) text)
      (gap : Gap last) (noBreak : '\n' ∉ content) :
      Sheet items (text ++ (last ++ '/' :: '/' :: content))

/-! ## Pieces of text -/

/-- Nothing but blanks. -/
def Blanks (cs : List Char) : Prop :=
  ∀ c ∈ cs, isBlank c = true

theorem Blanks.not_mem {cs special : List Char} (h : Blanks cs) {c : Char} (hc : c ∈ cs)
    (hspecial : special.any isBlank = false) : c ∉ special :=
  fun hmem ↦ List.any_eq_false.mp hspecial c hmem (h c hc)

theorem Word.not_mem (w : Word) {special : List Char} {c : Char} (hc : c ∈ w.chars)
    (hspecial : special ⊆ marks) : c ∉ special :=
  fun hmem ↦ w.noMark c hc (hspecial hmem)

/-- A text has a property as soon as its pieces have it. -/
structure Piecewise (P : List Char → Prop) : Prop where
  nil : P []
  append {cs cs' : List Char} : P cs → P cs' → P (cs ++ cs')

theorem Piecewise.of_chars {P : List Char → Prop} (h : Piecewise P) {cs : List Char}
    (chars : ∀ c ∈ cs, P [c]) : P cs := by
  induction cs with
  | nil => exact h.nil
  | cons c cs ih =>
    rw [List.forall_mem_cons] at chars
    exact h.append chars.1 (ih chars.2)

theorem Piecewise.of_run {P : List Char → Prop} (h : Piecewise P) {Between : List Char → Prop}
    {tokens : List Token} {text : List Char} (run : Run Between tokens text)
    (between : ∀ before, Between before → P before) (token : ∀ t ∈ tokens, P t.chars) :
    P text := by
  induction run with
  | nil => exact h.nil
  | cons hbefore _ ih =>
    rw [List.forall_mem_cons] at token
    exact h.append (h.append (between _ hbefore) token.1) (ih token.2)

end StyleGuide.Imports.Grammar
