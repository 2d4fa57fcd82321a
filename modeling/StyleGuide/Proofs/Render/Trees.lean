import StyleGuide.Proofs.Render.Html
import StyleGuide.Render.CodeBlock
import StyleGuide.Render.Event

/-!
# Event trees

Documents as trees, in which every start has its end. Paragraphs, headings, table cells and images
hold inline content, blocks of code hold text, a table is a head and rows of cells, and everything
else holds what it likes. A tree has events, and it has an outline: the tags of the page, which do
not depend on any text.

An outline is seen from a renderer in which a heading may have been left open. Until the next
heading, inline content is not on the page.
-/

namespace StyleGuide.Render

open Html (Mark Balanced)

/-- The events of what a start and its end enclose. -/
def around (tag : Tag) (inner : List Event) : List Event :=
  .start tag :: (inner ++ [.stop tag.toEnd])

def element (name : String) (attributes : List String) (inner : List Mark) : List Mark :=
  .opening name attributes :: (inner ++ [.closing name])

/-! ## Inline content -/

/-- Inline content that holds nothing else. -/
inductive Atom where
  | text (s : String)
  | code (s : String)
  | softBreak
  | hardBreak
  | taskMarker (checked : Bool)
  | inlineMath (s : String)
  | displayMath (s : String)
  | footnoteReference (s : String)

namespace Atom

def event : Atom → Event
  | text s => .text s
  | code s => .code s
  | softBreak => .softBreak
  | hardBreak => .hardBreak
  | taskMarker checked => .taskMarker checked
  | inlineMath s => .inlineMath s
  | displayMath s => .displayMath s
  | footnoteReference s => .footnoteReference s

def outline : Atom → List Mark
  | code _ => element "code" ["class"] []
  | hardBreak => [.opening "br" []]
  | taskMarker true => [.opening "input" ["type", "checked", "disabled"]]
  | taskMarker false => [.opening "input" ["type", "disabled"]]
  | _ => []

end Atom

/-- The attribute of a title, which is not written if it is empty. -/
def titleNames (title : String) : List String :=
  if title.isEmpty then [] else ["title"]

/-- What stands in the line and holds something. -/
inductive Span where
  | emphasis
  | strong
  | strikethrough
  | superscript
  | subscript
  | link (url title : String)

namespace Span

def tag : Span → Tag
  | emphasis => .emphasis
  | strong => .strong
  | strikethrough => .strikethrough
  | superscript => .superscript
  | subscript => .subscript
  | link url title => .link url title

def name : Span → String
  | emphasis => "em"
  | strong => "strong"
  | strikethrough => "del"
  | superscript => "sup"
  | subscript => "sub"
  | link _ _ => "a"

def attributes : Span → List String
  | link _ title => "href" :: titleNames title
  | _ => []

end Span

/-- Inline content. -/
inductive Inline where
  | atom (a : Atom)
  | span (s : Span) (inner : List Inline)
  | image (url title : String) (inner : List Inline)

namespace Inline

mutual

def events : Inline → List Event
  | atom a => [a.event]
  | span s inner => around s.tag (allEvents inner)
  | image url title inner => around (.image url title) (allEvents inner)

def allEvents : List Inline → List Event
  | [] => []
  | i :: is => i.events ++ allEvents is

end

mutual

/-- Whether an image is or stands in the content. -/
def hasImage : Inline → Bool
  | atom _ => false
  | span _ inner => haveImage inner
  | image _ _ _ => true

/-- Whether an image is or stands in any of the contents. -/
def haveImage : List Inline → Bool
  | [] => false
  | i :: is => i.hasImage || haveImage is

end

mutual

/-- The tags of inline content. An image that holds an image is not shown, the inner one is. -/
def outline : Inline → List Mark
  | atom a => a.outline
  | span s inner => element s.name s.attributes (allOutline inner)
  | image _ title inner =>
    allOutline inner ++
      if haveImage inner then [] else [.opening "img" ("src" :: "alt" :: titleNames title)]

def allOutline : List Inline → List Mark
  | [] => []
  | i :: is => i.outline ++ allOutline is

end

end Inline

/-! ## Blocks -/

/-- What holds anything. A list holds more than items here, and items stand anywhere. -/
inductive Container where
  | blockQuote
  | list (start : Option Nat)
  | item
  | definitionList
  | definitionTitle
  | definition
  | footnoteDefinition
  | htmlBlock
  | metadata
  | span (s : Span)

namespace Container

def tag : Container → Tag
  | blockQuote => .blockQuote
  | list start => .list start
  | item => .item
  | definitionList => .definitionList
  | definitionTitle => .definitionTitle
  | definition => .definition
  | footnoteDefinition => .footnoteDefinition
  | htmlBlock => .htmlBlock
  | metadata => .metadata
  | span s => s.tag

/-- The attribute of the first number of a list, which is not written if it is 1. -/
def numberNames : Option Nat → List String
  | some n => if n = 1 then [] else ["start"]
  | none => []

def element? : Container → Option (String × List String)
  | blockQuote => some ("blockquote", ["class"])
  | list start => some (if start.isSome then "ol" else "ul", "class" :: numberNames start)
  | item => some ("li", ["class"])
  | definitionList => some ("dl", [])
  | definitionTitle => some ("dt", [])
  | definition => some ("dd", [])
  | footnoteDefinition => none
  | htmlBlock => none
  | metadata => none
  | span s => some (s.name, s.attributes)

def isInline : Container → Bool
  | span _ => true
  | _ => false

end Container

/-- A document or a part of one. -/
inductive Block where
  | inline (i : Inline)
  | rule
  | paragraph (inner : List Inline)
  | heading (level : Nat) (inner : List Inline)
  | codeBlock (info : Option String) (texts : List String)
  | table (columns : List ColumnAlignment) (head : List (List Inline))
    (rows : List (List (List Inline)))
  | container (c : Container) (inner : List Block)

def cellEvents (cell : List Inline) : List Event :=
  around .tableCell (Inline.allEvents cell)

def alignmentNames : Option ColumnAlignment → List String
  | some .left => ["style"]
  | some .center => ["style"]
  | some .right => ["style"]
  | some .none => []
  | none => []

/-- Inline content as it is on the page, and not if a heading has been left open. -/
def shown (isOpen : Bool) (ms : List Mark) : List Mark :=
  if isOpen then [] else ms

def cellsOutline (name : String) (columns : List ColumnAlignment) (isOpen : Bool) :
    Nat → List (List Inline) → List Mark
  | _, [] => []
  | n, cell :: cells =>
    element name (alignmentNames columns[n]?) (shown isOpen (Inline.allOutline cell)) ++
      cellsOutline name columns isOpen (n + 1) cells

namespace Block

mutual

def events : Block → List Event
  | inline i => i.events
  | rule => [.rule]
  | paragraph inner => around .paragraph (Inline.allEvents inner)
  | heading level inner => around (.heading level) (Inline.allEvents inner)
  | codeBlock info texts => around (.codeBlock info) (texts.map .text)
  | table columns head rows =>
    around (.table columns) (around .tableHead (head.flatMap cellEvents) ++
      rows.flatMap fun cells ↦ around .tableRow (cells.flatMap cellEvents))
  | container c inner => around c.tag (allEvents inner)

def allEvents : List Block → List Event
  | [] => []
  | b :: bs => b.events ++ allEvents bs

end

mutual

/-- The blocks of code in a block, each with the language of its fence and its source. -/
def codes : Block → List (Option String × String)
  | codeBlock info texts => [(info.bind fenceLanguage, String.join texts)]
  | container _ inner => allCodes inner
  | _ => []

def allCodes : List Block → List (Option String × String)
  | [] => []
  | b :: bs => b.codes ++ allCodes bs

end

mutual

def hasHeading : Block → Bool
  | heading _ _ => true
  | container _ inner => haveHeading inner
  | _ => false

def haveHeading : List Block → Bool
  | [] => false
  | b :: bs => b.hasHeading || haveHeading bs

end

mutual

def spansHeading : Block → Bool
  | container c inner => (c.isInline && haveHeading inner) || spanHeading inner
  | _ => false

def spanHeading : List Block → Bool
  | [] => false
  | b :: bs => b.spansHeading || spanHeading bs

end

mutual

/-- The tags of a block on a page, given whether a heading has been left open. -/
def outline (isOpen : Bool) : Block → List Mark
  | inline i => shown isOpen i.outline
  | rule => [.opening "hr" ["class"]]
  | paragraph inner => element "p" ["class"] (shown isOpen (Inline.allOutline inner))
  | heading level inner =>
    element ("h" ++ toString level) ["class", "id"] (Inline.allOutline inner)
  | codeBlock _ _ => element "pre" ["class"] (element "code" ["class"] [])
  | table columns head rows =>
    element "table" ["class"]
      (element "thead" [] (element "tr" [] (cellsOutline "th" columns isOpen 0 head)) ++
        element "tbody" []
          (rows.flatMap fun cells ↦ element "tr" [] (cellsOutline "td" columns isOpen 0 cells)))
  | container c inner =>
    match c.element? with
    | none => allOutline isOpen inner
    | some (name, attributes) =>
      shown (isOpen && c.isInline) [.opening name attributes] ++ allOutline isOpen inner ++
        shown (isOpen && !haveHeading inner && c.isInline) [.closing name]

/-- The tags of several blocks. No heading is open behind one that has ended. -/
def allOutline (isOpen : Bool) : List Block → List Mark
  | [] => []
  | b :: bs => b.outline isOpen ++ allOutline (isOpen && !b.hasHeading) bs

end

end Block

/-! ## Outlines are balanced -/

theorem balanced_element {name : String} (h : name ∉ Html.voidElements) (attributes : List String)
    {inner : List Mark} (hinner : Balanced inner) : Balanced (element name attributes inner) :=
  .element h attributes hinner

theorem Atom.balanced_outline (a : Atom) : Balanced a.outline := by
  cases a with
  | code => exact balanced_element (by decide) _ .nil
  | hardBreak => exact .void (by decide) _
  | taskMarker checked => cases checked <;> exact .void (by decide) _
  | _ => exact .nil

theorem Span.name_notMem (s : Span) : s.name ∉ Html.voidElements := by
  cases s with
  | link url title => exact (by decide : "a" ∉ Html.voidElements)
  | _ => decide

namespace Inline

mutual

theorem balanced_outline : ∀ i : Inline, Balanced i.outline
  | atom a => by
    rw [outline]
    exact a.balanced_outline
  | span s inner => by
    rw [outline]
    exact balanced_element s.name_notMem _ (balanced_allOutline inner)
  | image url title inner => by
    rw [outline]
    apply (balanced_allOutline inner).append
    split
    · exact .nil
    · exact .void (by decide) _

theorem balanced_allOutline : ∀ is : List Inline, Balanced (allOutline is)
  | [] => by
    rw [allOutline]
    exact .nil
  | i :: is => by
    rw [allOutline]
    exact (balanced_outline i).append (balanced_allOutline is)

end

end Inline

theorem balanced_shown {ms : List Mark} (h : Balanced ms) (isOpen : Bool) :
    Balanced (shown isOpen ms) := by
  unfold shown
  split
  · exact .nil
  · exact h

theorem balanced_cellsOutline {name : String} (h : name ∉ Html.voidElements)
    (columns : List ColumnAlignment) (isOpen : Bool) (n : Nat) (cells : List (List Inline)) :
    Balanced (cellsOutline name columns isOpen n cells) := by
  induction cells generalizing n with
  | nil => exact .nil
  | cons cell cells ih =>
    rw [cellsOutline]
    exact (balanced_element h _ (balanced_shown (Inline.balanced_allOutline cell) isOpen)).append
      (ih (n + 1))

theorem balanced_flatMap {α : Type} {f : α → List Mark} (h : ∀ a, Balanced (f a)) (as : List α) :
    Balanced (as.flatMap f) := by
  induction as with
  | nil => exact .nil
  | cons a as ih => exact (h a).append ih

theorem isDigit_of_mem_toString {n : Nat} {c : Char} (h : c ∈ (toString n).toList) :
    c.isDigit = true := by
  rw [Nat.toString_eq_ofList_toDigits, String.toList_ofList] at h
  exact Nat.isDigit_of_mem_toDigits (by decide) (by decide) h

/-- Behind its first letter, the element of a heading has digits only. -/
theorem headingName_notMem (level : Nat) : "h" ++ toString level ∉ Html.voidElements := by
  intro hmem
  have hletters : ∀ name ∈ Html.voidElements, name.toList.tail.all (·.isDigit) = false := by decide
  have hname := hletters _ hmem
  rw [String.toList_append] at hname
  have hdigits : (toString level).toList.all (·.isDigit) = true :=
    List.all_eq_true.mpr fun c hc ↦ isDigit_of_mem_toString hc
  exact Bool.false_ne_true (hname.symm.trans hdigits)

theorem Container.name_notMem {c : Container} {name : String} {attributes : List String}
    (h : c.element? = some (name, attributes)) : name ∉ Html.voidElements := by
  cases c with
  | list start =>
    cases start <;> cases h
    · decide
    · exact (by decide : "ol" ∉ Html.voidElements)
  | span s =>
    cases h
    exact s.name_notMem
  | footnoteDefinition => cases h
  | htmlBlock => cases h
  | metadata => cases h
  | _ =>
    cases h
    decide

namespace Block

mutual

/-- Where no heading has been left open, every tag is closed in turn. Otherwise the tag before a
heading may be missing where the one behind it is not. -/
theorem balanced_outline (isOpen : Bool) : ∀ b : Block,
    isOpen = false ∨ b.spansHeading = false → Balanced (b.outline isOpen)
  | inline i, _ => by
    rw [outline]
    exact balanced_shown i.balanced_outline isOpen
  | rule, _ => by
    rw [outline]
    exact .void (by decide) _
  | paragraph inner, _ => by
    rw [outline]
    exact balanced_element (by decide) _
      (balanced_shown (Inline.balanced_allOutline inner) isOpen)
  | heading level inner, _ => by
    rw [outline]
    exact balanced_element (headingName_notMem level) _ (Inline.balanced_allOutline inner)
  | codeBlock _ _, _ => by
    rw [outline]
    exact balanced_element (by decide) _ (balanced_element (by decide) _ .nil)
  | table columns head rows, _ => by
    rw [outline]
    refine balanced_element (by decide) _ (.append ?_ ?_)
    · exact balanced_element (by decide) _ (balanced_element (by decide) _
        (balanced_cellsOutline (by decide) columns isOpen 0 head))
    · exact balanced_element (by decide) _ (balanced_flatMap (fun cells ↦
        balanced_element (by decide) _
          (balanced_cellsOutline (by decide) columns isOpen 0 cells)) rows)
  | container c inner, h => by
    rw [spansHeading, Bool.or_eq_false_iff] at h
    have hinner := balanced_allOutline isOpen inner (h.imp_right And.right)
    rw [outline]
    cases helement : c.element? with
    | none => exact hinner
    | some found =>
      obtain ⟨name, attributes⟩ := found
      -- Both tags are on the page or neither is.
      have hboth : (isOpen && !haveHeading inner && c.isInline) = (isOpen && c.isInline) := by
        rcases h with rfl | ⟨hspan, -⟩
        · rfl
        · cases hinline : c.isInline with
          | false => rw [Bool.and_false, Bool.and_false]
          | true =>
            rw [hinline, Bool.true_and] at hspan
            rw [hspan, Bool.not_false, Bool.and_true]
      dsimp only
      rw [hboth]
      unfold shown
      split
      · rwa [List.nil_append, List.append_nil]
      · exact balanced_element (Container.name_notMem helement) attributes hinner

theorem balanced_allOutline (isOpen : Bool) : ∀ bs : List Block,
    isOpen = false ∨ spanHeading bs = false → Balanced (allOutline isOpen bs)
  | [], _ => by
    rw [allOutline]
    exact .nil
  | b :: bs, h => by
    rw [spanHeading, Bool.or_eq_false_iff] at h
    rw [allOutline]
    refine (balanced_outline isOpen b (h.imp_right And.left)).append
      (balanced_allOutline _ bs (h.imp (fun hclosed ↦ ?_) And.right))
    rw [hclosed, Bool.false_and]

end

end Block

end StyleGuide.Render
