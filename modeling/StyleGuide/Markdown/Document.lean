import StyleGuide.Markdown.Block
import StyleGuide.Markdown.Inline
import StyleGuide.Render.Renderer

/-!
# Markdown documents

A text as a stream of markup events: CommonMark, and if `gfm` is set also tables, struck text and
task items. Blocks are read first, since a link may be defined after its use; then the text of each
block is scanned. Paragraphs directly in an item of a tight list have no start and end of their own.
-/

namespace StyleGuide.Markdown

open Render

def enclose (tag : Tag) (body : List Event) : List Event :=
  .start tag :: body ++ [.stop tag.toEnd]

def linkTag (target : LinkTarget) : Tag :=
  .link (String.ofList target.url) (String.ofList target.title)

def imageTag (target : LinkTarget) : Tag :=
  .image (String.ofList target.url) (String.ofList target.title)

mutual

def Inline.events : Inline → List Event
  | .text cs => [.text (String.ofList cs)]
  | .code cs => [.code (String.ofList cs)]
  | .html cs => [.inlineHtml (String.ofList cs)]
  | .softBreak => [.softBreak]
  | .hardBreak => [.hardBreak]
  | .emphasis body => enclose .emphasis (inlineEvents body)
  | .strong body => enclose .strong (inlineEvents body)
  | .strikethrough body => enclose .strikethrough (inlineEvents body)
  | .link target body => enclose (linkTag target) (inlineEvents body)
  | .image target body => enclose (imageTag target) (inlineEvents body)

def inlineEvents : List Inline → List Event
  | [] => []
  | i :: is => i.events ++ inlineEvents is

end

def textEvents (settings : InlineSettings) (text : List Char) : List Event :=
  inlineEvents (parseInline settings text)

def taskEvents (task : Option Bool) : List Event :=
  (task.map Event.taskMarker).toList

def cellEvents (settings : InlineSettings) (cells : List (List Char)) : List Event :=
  cells.flatMap fun cell ↦ enclose .tableCell (textEvents settings cell)

mutual

/-- The events of a block. `tight` says that it stands directly in an item of a tight list. -/
def Block.events (settings : InlineSettings) (tight : Bool) : Block → List Event
  | .paragraph task text =>
    let body := taskEvents task ++ textEvents settings text
    if tight then body else enclose .paragraph body
  | .heading level text => enclose (.heading level) (textEvents settings text)
  | .quote body => enclose .blockQuote (blockEvents settings false body)
  | .list start tight items => enclose (.list start) (itemEvents settings tight items)
  | .task checked => [.taskMarker checked]
  | .code info source =>
    enclose (.codeBlock (info.map String.ofList)) [.text (String.ofList source)]
  | .html source => enclose .htmlBlock [.html (String.ofList source)]
  | .rule => [.rule]
  | .table columns head rows =>
    enclose (.table columns) (enclose .tableHead (cellEvents settings head) ++
      rows.flatMap fun row ↦ enclose .tableRow (cellEvents settings row))

def blockEvents (settings : InlineSettings) (tight : Bool) : List Block → List Event
  | [] => []
  | b :: bs => b.events settings tight ++ blockEvents settings tight bs

def itemEvents (settings : InlineSettings) (tight : Bool) : List (List Block) → List Event
  | [] => []
  | item :: items =>
    enclose .item (blockEvents settings tight item) ++ itemEvents settings tight items

end

def eventsOf (gfm : Bool) (text : String) : List Event :=
  let (blocks, links) := parseBlocks gfm text.toList
  blockEvents ⟨gfm, links⟩ false blocks

def renderMarkdown {S : Type} (gfm : Bool) (settings : Settings S) (st : State S)
    (text : String) : Rendered × State S :=
  render settings st (eventsOf gfm text)

end StyleGuide.Markdown
