import StyleGuide.Proofs.Imports.Grammar

/-!
# A grammar of indented stylesheets

Indented stylesheets of imports and of blocks, described line by line and apart from the functions
that read them. A block is a header with the lines that are indented under it, blank lines may stand
anywhere, and a name needs no quotes. The grammar leaves out comments, and outside of imports it
leaves out quotes, slashes and parentheses.
-/

namespace StyleGuide.Imports.Indented

open Text
open Grammar (Blanks Name)

/-! ## Arguments -/

/-- A name without quotes. Two slashes in a row would open a comment. -/
structure BareName where
  chars : List Char
  nonempty : chars ≠ []
  nameChars : ∀ c ∈ chars, isAlphanumeric c = true ∨ c ∈ ['-', '_', '.', '/']
  noComment : ¬ ['/', '/'] <:+: chars

/-- What an import names, with or without quotes. -/
inductive Argument where
  | bare (n : BareName)
  | quoted (n : Name)

def Argument.chars : Argument → List Char
  | bare n => n.chars
  | quoted n => n.chars

/-- Arguments with commas between them and blanks around them. -/
inductive Arguments : List Argument → List Char → Prop
  | last {a : Argument} {before after : List Char} (hbefore : Blanks before)
      (hafter : Blanks after) : Arguments [a] (before ++ a.chars ++ after)
  | cons {a : Argument} {others : List Argument} {before after text : List Char}
      (hbefore : Blanks before) (hafter : Blanks after) (rest : Arguments others text) :
      Arguments (a :: others) (before ++ a.chars ++ after ++ ',' :: text)

/-! ## Lines -/

/-- An import: the keyword, a space and arguments. A semicolon may end it. -/
inductive ImportLine (args : List Argument) : List Char → Prop
  | plain {text : List Char} (arguments : Arguments args text) :
      ImportLine args (keyword ++ ' ' :: text)
  | ended {text after : List Char} (arguments : Arguments args text) (hafter : Blanks after) :
      ImportLine args (keyword ++ ' ' :: (text ++ ';' :: after))

/-- The characters that no line has but an import. -/
def marks : List Char :=
  ['"', '\'', '/', '(', ')']

/-- A line that says something else: a header, or a line under one. -/
structure OtherLine (cs : List Char) : Prop where
  first : ∃ c rest, cs = c :: rest ∧ isBlank c = false
  noMark : ∀ c ∈ cs, c ∉ marks
  noImport : ∀ c rest, cs = keyword ++ c :: rest → isBlank c = false

/-- The lines under a header, with the arguments of every import among them. -/
inductive Body : List (List Argument) → List (List Char) → Prop
  | nil : Body [] []
  | blank {loads : List (List Argument)} {line : List Char} {lines : List (List Char)}
      (blanks : Blanks line) (rest : Body loads lines) : Body loads (line :: lines)
  | load {loads : List (List Argument)} {args : List Argument} {indent line : List Char}
      {lines : List (List Char)} (blanks : Blanks indent) (indented : indent ≠ [])
      (hline : ImportLine args line) (rest : Body loads lines) :
      Body (args :: loads) ((indent ++ line) :: lines)
  | other {loads : List (List Argument)} {indent line : List Char} {lines : List (List Char)}
      (blanks : Blanks indent) (indented : indent ≠ []) (hline : OtherLine line)
      (rest : Body loads lines) : Body loads ((indent ++ line) :: lines)

/-! ## Sheets -/

/-- What begins in the first column: an import, or a header with the imports under it. -/
inductive Item where
  | load (args : List Argument)
  | block (loads : List (List Argument))

def written (args : List Argument) : List String :=
  args.map fun a ↦ String.ofList a.chars

def Item.statement : Item → Statement
  | load args => .load (written args)
  | block loads => .block (loads.flatMap written)

/-- The lines of items one after the other. -/
inductive Lines : List Item → List (List Char) → Prop
  | nil : Lines [] []
  | blank {items : List Item} {line : List Char} {lines : List (List Char)}
      (blanks : Blanks line) (rest : Lines items lines) : Lines items (line :: lines)
  | load {items : List Item} {args : List Argument} {line : List Char} {lines : List (List Char)}
      (hline : ImportLine args line) (rest : Lines items lines) :
      Lines (.load args :: items) (line :: lines)
  | block {items : List Item} {loads : List (List Argument)} {header : List Char}
      {inner lines : List (List Char)} (hheader : OtherLine header) (body : Body loads inner)
      (rest : Lines items lines) : Lines (.block loads :: items) (header :: (inner ++ lines))

/-- The texts of a list of items. A line may also end with a carriage return, which is a blank. -/
def Sheet (items : List Item) (text : List Char) : Prop :=
  ∃ lines, Lines items lines ∧ (∀ line ∈ lines, '\n' ∉ line) ∧ text = ['\n'].intercalate lines

end StyleGuide.Imports.Indented
