import StyleGuide.Markdown.Line
import StyleGuide.Text.Letter

/-!
# Raw HTML

Recognises tags, comments and the like where they stand in text, and the lines that open a block of
raw HTML. Nothing is checked about elements: a tag is what looks like one.
-/

namespace StyleGuide.Markdown.Html

open Text

def isNameChar (c : Char) : Bool :=
  c.isAlphanum || c == '-'

def isAttributeStart (c : Char) : Bool :=
  c.isAlpha || c == '_' || c == ':'

def isAttributeChar (c : Char) : Bool :=
  c.isAlphanum || c == '_' || c == ':' || c == '.' || c == '-'

/-- A character of an attribute value without quotes. -/
def isUnquotedChar (c : Char) : Bool :=
  !(isWhite c || c == '"' || c == '\'' || c == '=' || c == '<' || c == '>' || c == '`')

def tagName? (cs : List Char) : Option (List Char) :=
  match cs with
  | c :: rest => if c.isAlpha then some (rest.dropWhile isNameChar) else none
  | [] => none

def after? (ch : Char) (cs : List Char) : Option (List Char) :=
  match cs.dropWhile (· != ch) with
  | _ :: rest => some rest
  | [] => none

def afterText? (mark : List Char) : List Char → Option (List Char)
  | [] => if mark = [] then some [] else none
  | c :: cs =>
    match stripLead? mark (c :: cs) with
    | some rest => some rest
    | none => afterText? mark cs

def attributeValue? (cs : List Char) : Option (List Char) :=
  match cs with
  | '"' :: rest => after? '"' rest
  | '\'' :: rest => after? '\'' rest
  | _ =>
    let rest := cs.dropWhile isUnquotedChar
    if rest.length = cs.length then none else some rest

def attribute? (cs : List Char) : Option (List Char) :=
  match cs with
  | c :: rest =>
    if isAttributeStart c then
      let rest := rest.dropWhile isAttributeChar
      match rest.dropWhile isWhite with
      | '=' :: value => attributeValue? (value.dropWhile isWhite)
      | _ => some rest
    else none
  | [] => none

/-- What follows the attributes of an opening tag and its end. Blanks must precede an attribute. -/
def tagEnd? (cs : List Char) : Option (List Char) :=
  let rest := cs.dropWhile isWhite
  match rest with
  | '>' :: after => some after
  | '/' :: '>' :: after => some after
  | _ =>
    if rest.length = cs.length then none
    else match attribute? rest with
      | some next => if _h : next.length < cs.length then tagEnd? next else none
      | none => none
termination_by cs.length

/-- What follows an opening or closing tag, after its `<`. -/
def tag? (cs : List Char) : Option (List Char) :=
  match cs with
  | '/' :: rest =>
    (tagName? rest).bind fun rest ↦
      match rest.dropWhile isWhite with
      | '>' :: after => some after
      | _ => none
  | _ => (tagName? cs).bind tagEnd?

/-- What follows a comment, after its `<!--`. -/
def comment? (cs : List Char) : Option (List Char) :=
  match cs with
  | '>' :: rest => some rest
  | '-' :: '>' :: rest => some rest
  | _ => afterText? "-->".toList cs

/-- What follows raw HTML inside a text, after its `<`: a tag, a comment, a processing instruction,
a declaration or a CDATA section. -/
def inline? (cs : List Char) : Option (List Char) :=
  match cs with
  | '!' :: '-' :: '-' :: rest => comment? rest
  | '!' :: '[' :: rest => (stripLead? "CDATA[".toList rest).bind (afterText? "]]>".toList)
  | '!' :: c :: rest =>
    if c.isAlpha then
      match rest.dropWhile Char.isAlpha with
      | d :: rest => if isWhite d then after? '>' rest else none
      | [] => none
    else none
  | '?' :: rest => afterText? "?>".toList rest
  | _ => tag? cs

/-! ## Blocks -/

def rawElements : List String := ["pre", "style", "script", "textarea"]

def blockElements : List String :=
  ["address", "article", "aside", "base", "basefont", "blockquote", "body", "caption", "center",
    "col", "colgroup", "dd", "details", "dialog", "dir", "div", "dl", "dt", "fieldset",
    "figcaption", "figure", "footer", "form", "frame", "frameset", "h1", "h2", "h3", "h4", "h5",
    "h6", "head", "header", "hr", "html", "iframe", "legend", "li", "link", "main", "menu",
    "menuitem", "nav", "noframes", "ol", "optgroup", "option", "p", "param", "search", "section",
    "summary", "table", "tbody", "td", "tfoot", "th", "thead", "title", "tr", "track", "ul"]

/-- The text that ends a block whose first line, after its `<`, is `cs`; none if the line does not
open a block that ends with a text of its own. -/
def blockEnd? (cs : List Char) : Option (List Char) :=
  let raw (name : String) : Option (List Char) :=
    let word := cs.take name.length
    let rest := cs.drop name.length
    let closed : Bool := match rest with
      | [] => true
      | c :: _ => isWhite c || c == '>'
    if word.map Char.toLower = name.toList ∧ closed = true then
      some ("</".toList ++ name.toList ++ ['>'])
    else none
  match rawElements.findSome? raw with
  | some mark => some mark
  | none =>
    if startsWith "!--".toList cs then some "-->".toList
    else if startsWith "?".toList cs then some "?>".toList
    else if startsWith "![CDATA[".toList cs then some "]]>".toList
    else match cs with
      | '!' :: c :: _ => if c.isAlpha then some ['>'] else none
      | _ => none

/-- The line, after its `<`, opens a block that ends at a blank line and may follow a paragraph. -/
def opensBlock (cs : List Char) : Bool :=
  let tail := match cs with
    | '/' :: rest => rest
    | _ => cs
  let name := tail.takeWhile Char.isAlphanum
  blockElements.contains (String.ofList (name.map Char.toLower)) &&
    match tail.drop name.length with
    | [] => true
    | '/' :: '>' :: _ => true
    | c :: _ => c == ' ' || c == '\t' || c == '>'

/-- The line, after its `<`, is a single tag. -/
def isLoneTag (cs : List Char) : Bool :=
  match tag? cs with
  | some rest => isBlankText rest
  | none => false

end StyleGuide.Markdown.Html
