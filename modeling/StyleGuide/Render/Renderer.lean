import StyleGuide.Render.CodeBlock
import StyleGuide.Render.Event
import StyleGuide.Text.Slug

/-!
# Rendering

Turns markup events into HTML with `livingstyleguide--*` classes and a table of contents. The state
between events holds what is open: lists, a code block, a table, a heading, an image, and how often
each slug has been given out. Unbalanced events are rendered as they come. Inside a heading inline
content goes to the heading's own buffer, inside an image text goes to its alternative text, and
inside a code block text is collected as source.
-/

namespace StyleGuide.Render

open Text

/-- Whether a list has numbers. -/
inductive ListKind where
  | ordered
  | unordered
deriving DecidableEq, Repr

def ListKind.word : ListKind → String
  | .ordered => "ordered"
  | .unordered => "unordered"

def ListKind.element : ListKind → String
  | .ordered => "ol"
  | .unordered => "ul"

/-- A heading in the table of contents. -/
structure TocEntry where
  level : Nat
  title : String
  id : String
deriving DecidableEq, Repr

/-- A code block that collects its source. -/
structure CodeState where
  active : Bool
  language : Option String
  source : String
deriving DecidableEq, Repr

/-- A table with the position of the next cell. -/
structure TableState where
  inHead : Bool
  columns : List ColumnAlignment
  cell : Nat
deriving DecidableEq, Repr

/-- A heading that collects its text and its markup. -/
structure OpenHeading where
  level : Nat
  text : String
  html : String
deriving DecidableEq, Repr

/-- An image that collects its alternative text. -/
structure OpenImage where
  url : String
  title : String
  alt : String
deriving DecidableEq, Repr

/-- How often each slug has been given out, as pairs with one entry per slug. -/
abbrev SlugCounts := List (String × Nat)

namespace SlugCounts

def count (counts : SlugCounts) (slug : String) : Nat :=
  (counts.lookup slug).getD 0

def increment (slug : String) : SlugCounts → SlugCounts
  | [] => [(slug, 1)]
  | (s, n) :: rest => if s = slug then (s, n + 1) :: rest else (s, n) :: increment slug rest

end SlugCounts

/-- What a renderer is set up with. -/
structure Settings (S : Type) where
  processors : List (Processor S)
  defaultLanguage : String

/-- What a renderer carries from event to event. `memory` belongs to the processors. -/
structure State (S : Type) where
  output : String
  lists : List ListKind
  code : CodeState
  table : TableState
  heading : Option OpenHeading
  image : Option OpenImage
  counts : SlugCounts
  toc : List TocEntry
  memory : S

/-- A renderer that has seen nothing. -/
def State.initial {S : Type} (memory : S) : State S where
  output := ""
  lists := []
  code := ⟨false, none, ""⟩
  table := ⟨false, [], 0⟩
  heading := none
  image := none
  counts := []
  toc := []
  memory := memory

namespace State

variable {S : Type}

def write (st : State S) (html : String) : State S :=
  { st with output := st.output ++ html }

def writeInline (st : State S) (html : String) : State S :=
  match st.heading with
  | some h => { st with heading := some { h with html := h.html ++ html } }
  | none => st.write html

def addTitle (st : State S) (text : String) : State S :=
  match st.heading with
  | some h => { st with heading := some { h with text := h.text ++ text } }
  | none => st

/-- Text goes to the open code block, else to the open image, else to heading or page. -/
def text (st : State S) (s : String) : State S :=
  if st.code.active then { st with code := { st.code with source := st.code.source ++ s } }
  else match st.image with
    | some i => { st with image := some { i with alt := i.alt ++ s } }
    | none => (st.addTitle s).writeInline (Markup.escape s)

def codeSpan (st : State S) (s : String) : State S :=
  (st.addTitle s).writeInline
    ("<code class=\"livingstyleguide--code-span livingstyleguide--code\">" ++ Markup.escape s ++
      "</code>")

def cellElement (st : State S) : String :=
  if st.table.inHead then "th" else "td"

/-- The alignment of the next cell as an attribute. -/
def cellStyle (st : State S) : String :=
  match st.table.columns[st.table.cell]? with
  | some .left => " style=\"text-align:left\""
  | some .center => " style=\"text-align:center\""
  | some .right => " style=\"text-align:right\""
  | _ => ""

/-- An attribute, or nothing if its value is empty. -/
def titleAttribute (title : String) : String :=
  if title.isEmpty then "" else " title=\"" ++ Markup.escape title ++ "\""

/-- Opens a list. The first number is written unless it is 1. -/
def openList (st : State S) (start : Option Nat) : State S :=
  let kind := if start.isSome then ListKind.ordered else .unordered
  let number := match start with
    | some n => if n = 1 then "" else " start=\"" ++ toString n ++ "\""
    | none => ""
  { st with lists := kind :: st.lists }.write
    ("<" ++ kind.element ++ " class=\"livingstyleguide--" ++ kind.word ++ "-list\"" ++ number ++
      ">\n")

def start (st : State S) : Tag → State S
  | .paragraph => st.write "<p class=\"livingstyleguide--paragraph\">"
  | .heading level => { st with heading := some ⟨level, "", ""⟩ }
  | .blockQuote => st.write "<blockquote class=\"livingstyleguide--quote\">\n"
  | .codeBlock info => { st with code := ⟨true, info.bind fenceLanguage, ""⟩ }
  | .list first => st.openList first
  | .item =>
    st.write ("<li class=\"livingstyleguide--" ++ (st.lists.headD .unordered).word ++
      "-list-item\">")
  | .table columns =>
    { st with table := ⟨false, columns, 0⟩ }.write "<table class=\"livingstyleguide--table\">\n"
  | .tableHead =>
    { st with table := { st.table with inHead := true, cell := 0 } }.write "<thead>\n<tr>"
  | .tableRow => { st with table := { st.table with cell := 0 } }.write "<tr>"
  | .tableCell => st.write ("<" ++ st.cellElement ++ st.cellStyle ++ ">")
  | .emphasis => st.writeInline "<em>"
  | .strong => st.writeInline "<strong>"
  | .strikethrough => st.writeInline "<del>"
  | .superscript => st.writeInline "<sup>"
  | .subscript => st.writeInline "<sub>"
  | .link url title =>
    st.writeInline ("<a href=\"" ++ Markup.escape url ++ "\"" ++ titleAttribute title ++ ">")
  | .image url title => { st with image := some ⟨url, title, ""⟩ }
  | .definitionList => st.write "<dl>\n"
  | .definitionTitle => st.write "<dt>"
  | .definition => st.write "<dd>"
  | .htmlBlock => st
  | .footnoteDefinition => st
  | .metadata => st

/-- The anchor of a heading: its slug, numbered from the second use on. -/
def anchor (st : State S) (slug : String) : String :=
  match st.counts.count slug with
  | 0 => slug
  | n => slug ++ "-" ++ toString n

/-- Drops the blanks around a text. -/
def trimmed (s : String) : String :=
  String.ofList (trim s.toList)

def headingElement (level : Nat) (id html : String) : String :=
  let word := if level = 1 then "headline" else "sub-headline"
  "<h" ++ toString level ++ " class=\"livingstyleguide--" ++ word ++ "\" id=\"" ++ id ++ "\">" ++
    trimmed html ++ "</h" ++ toString level ++ ">\n"

/-- Ends the open heading, if there is one: it gets an anchor and a place in the contents. -/
def endHeading (st : State S) : State S :=
  match st.heading with
  | none => st
  | some h =>
    let slug := Slug.slug h.text
    let id := st.anchor slug
    { st with
      heading := none
      counts := st.counts.increment slug
      toc := st.toc ++ [TocEntry.mk h.level (trimmed h.text) id] }.write
      (headingElement h.level id h.html)

/-- Ends the code block: the first processor that answers replaces it, else its source is shown. -/
def endCode (settings : Settings S) (st : State S) : State S :=
  let language := st.code.language.getD settings.defaultLanguage
  let source := st.code.source
  let (answer, memory) := firstAnswer language source settings.processors st.memory
  { st with code := ⟨false, none, ""⟩, memory := memory }.write
    (answer.getD (sourceBlock language source))

def endImage (st : State S) : State S :=
  match st.image with
  | none => st
  | some i =>
    { st with image := none }.writeInline
      ("<img src=\"" ++ Markup.escape i.url ++ "\" alt=\"" ++ Markup.escape i.alt ++ "\"" ++
        titleAttribute i.title ++ ">")

def stop (settings : Settings S) (st : State S) : EndTag → State S
  | .paragraph => st.write "</p>\n"
  | .heading => st.endHeading
  | .blockQuote => st.write "</blockquote>\n"
  | .codeBlock => st.endCode settings
  | .list ordered =>
    { st with lists := st.lists.drop 1 }.write (if ordered then "</ol>\n" else "</ul>\n")
  | .item => st.write "</li>\n"
  | .table => st.write "</tbody>\n</table>\n"
  | .tableHead =>
    let st := st.write "</tr>\n</thead>\n<tbody>\n"
    { st with table := { st.table with inHead := false, cell := 0 } }
  | .tableRow => st.write "</tr>\n"
  | .tableCell =>
    let st := st.write ("</" ++ st.cellElement ++ ">")
    { st with table := { st.table with cell := st.table.cell + 1 } }
  | .emphasis => st.writeInline "</em>"
  | .strong => st.writeInline "</strong>"
  | .strikethrough => st.writeInline "</del>"
  | .superscript => st.writeInline "</sup>"
  | .subscript => st.writeInline "</sub>"
  | .link => st.writeInline "</a>"
  | .image => st.endImage
  | .definitionList => st.write "</dl>\n"
  | .definitionTitle => st.write "</dt>\n"
  | .definition => st.write "</dd>\n"
  | .htmlBlock => st
  | .footnoteDefinition => st
  | .metadata => st

def step (settings : Settings S) (st : State S) : Event → State S
  | .start tag => st.start tag
  | .stop tag => st.stop settings tag
  | .text s => st.text s
  | .code s => st.codeSpan s
  | .html s => st.writeInline s
  | .inlineHtml s => st.writeInline s
  | .softBreak => st.text "\n"
  | .hardBreak => st.writeInline "<br>\n"
  | .rule => st.write "<hr class=\"livingstyleguide--separator\">\n"
  | .taskMarker checked =>
    st.writeInline (if checked then "<input type=\"checkbox\" checked disabled> "
      else "<input type=\"checkbox\" disabled> ")
  | .inlineMath _ => st
  | .displayMath _ => st
  | .footnoteReference _ => st

def run (settings : Settings S) (st : State S) (events : List Event) : State S :=
  events.foldl (step settings) st

end State

/-- A rendered page with its table of contents. -/
structure Rendered where
  html : String
  toc : List TocEntry
deriving DecidableEq, Repr

/-- Renders events and hands out page and contents; what is open stays open for the next call. -/
def render {S : Type} (settings : Settings S) (st : State S) (events : List Event) :
    Rendered × State S :=
  let st := st.run settings events
  (⟨st.output, st.toc⟩, { st with output := "", toc := [] })

end StyleGuide.Render
