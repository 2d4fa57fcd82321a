/-!
# Markup events

A document as a stream of events: a start and an end for everything that can hold something else,
and single events for the rest. A stream need not be balanced; what it means to be well formed is
no part of this module.
-/

namespace StyleGuide.Render

inductive ColumnAlignment where
  | none
  | left
  | center
  | right
deriving DecidableEq, Repr

/-- What opens. -/
inductive Tag where
  | paragraph
  | heading (level : Nat)
  | blockQuote
  /-- A block of code; the info text of a fenced one, none for an indented one. -/
  | codeBlock (info : Option String)
  | htmlBlock
  /-- A list; the first number of an ordered one, none for an unordered one. -/
  | list (start : Option Nat)
  | item
  | table (columns : List ColumnAlignment)
  | tableHead
  | tableRow
  | tableCell
  | emphasis
  | strong
  | strikethrough
  | superscript
  | subscript
  | link (url title : String)
  | image (url title : String)
  | definitionList
  | definitionTitle
  | definition
  | footnoteDefinition
  | metadata
deriving DecidableEq, Repr

/-- What closes. -/
inductive EndTag where
  | paragraph
  | heading
  | blockQuote
  | codeBlock
  | htmlBlock
  | list (ordered : Bool)
  | item
  | table
  | tableHead
  | tableRow
  | tableCell
  | emphasis
  | strong
  | strikethrough
  | superscript
  | subscript
  | link
  | image
  | definitionList
  | definitionTitle
  | definition
  | footnoteDefinition
  | metadata
deriving DecidableEq, Repr

/-- The end that belongs to a start. -/
def Tag.toEnd : Tag → EndTag
  | .paragraph => .paragraph
  | .heading _ => .heading
  | .blockQuote => .blockQuote
  | .codeBlock _ => .codeBlock
  | .htmlBlock => .htmlBlock
  | .list start => .list start.isSome
  | .item => .item
  | .table _ => .table
  | .tableHead => .tableHead
  | .tableRow => .tableRow
  | .tableCell => .tableCell
  | .emphasis => .emphasis
  | .strong => .strong
  | .strikethrough => .strikethrough
  | .superscript => .superscript
  | .subscript => .subscript
  | .link _ _ => .link
  | .image _ _ => .image
  | .definitionList => .definitionList
  | .definitionTitle => .definitionTitle
  | .definition => .definition
  | .footnoteDefinition => .footnoteDefinition
  | .metadata => .metadata

/-- One step of a document. -/
inductive Event where
  | start (tag : Tag)
  | stop (tag : EndTag)
  | text (s : String)
  | code (s : String)
  | html (s : String)
  | inlineHtml (s : String)
  | inlineMath (s : String)
  | displayMath (s : String)
  | footnoteReference (s : String)
  | softBreak
  | hardBreak
  | rule
  | taskMarker (checked : Bool)
deriving DecidableEq, Repr

end StyleGuide.Render
