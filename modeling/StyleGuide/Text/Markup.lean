/-!
# Text inside markup

`escape` replaces the five characters that mean something to a reader of HTML, `unescape` decodes
exactly the five entities that `escape` writes. No other entity is known here.
-/

namespace StyleGuide.Text.Markup

/-- The entity of one character; a character without one stands for itself. -/
def escapeChar : Char → List Char
  | '&' => ['&', 'a', 'm', 'p', ';']
  | '<' => ['&', 'l', 't', ';']
  | '>' => ['&', 'g', 't', ';']
  | '"' => ['&', 'q', 'u', 'o', 't', ';']
  | '\'' => ['&', '#', 'x', '2', '7', ';']
  | c => [c]

/-- The characters `escape` writes. -/
def escapeChars (cs : List Char) : List Char :=
  cs.flatMap escapeChar

/-- Text that reads as itself inside an element or a quoted attribute. -/
def escape (s : String) : String :=
  String.ofList (escapeChars s.toList)

/-- Decodes the five entities from left to right and keeps everything else. -/
def unescapeChars : List Char → List Char
  | '&' :: 'a' :: 'm' :: 'p' :: ';' :: cs => '&' :: unescapeChars cs
  | '&' :: 'l' :: 't' :: ';' :: cs => '<' :: unescapeChars cs
  | '&' :: 'g' :: 't' :: ';' :: cs => '>' :: unescapeChars cs
  | '&' :: 'q' :: 'u' :: 'o' :: 't' :: ';' :: cs => '"' :: unescapeChars cs
  | '&' :: '#' :: 'x' :: '2' :: '7' :: ';' :: cs => '\'' :: unescapeChars cs
  | c :: cs => c :: unescapeChars cs
  | [] => []

end StyleGuide.Text.Markup
