import StyleGuide.Files
import StyleGuide.Page.Snippets
import StyleGuide.Template.Rendering

/-!
# Page layouts

A layout is a named template in which six names are bound: `title`, `css`, `html`, `head`, `header`
and `footer`. Their texts are put into the page as they are.
-/

namespace StyleGuide.Page

/-- The texts a layout is filled with. -/
structure Bindings where
  title : String
  css : String
  html : String
  head : String
  header : String
  footer : String
deriving DecidableEq, Repr

/-- The bindings of a page: its options, its stylesheet and its documentation. -/
def Bindings.ofOptions (options : Options) (css html : String) : Bindings where
  title := options.title
  css := css
  html := html
  head := Page.head options
  header := Page.header options
  footer := Page.footer options

/-- The names that a template sees. -/
def Bindings.toList (b : Bindings) : List (String × Template.Value) :=
  [("title", .ofString b.title), ("css", .ofString b.css), ("html", .ofString b.html),
    ("head", .ofString b.head), ("header", .ofString b.header), ("footer", .ofString b.footer)]

/-- Why a page has no layout or cannot be laid out. -/
inductive LayoutError where
  | read (path : Path) (cause : FileError)
  | rendering (cause : Template.RenderError)
deriving DecidableEq, Repr

def LayoutError.message : LayoutError → String
  | .read path cause => "Failed to read template " ++ path.text ++ ": " ++ cause.message
  | .rendering _ => "Template error"

/-- A named template of a page. -/
structure Layout where
  name : String
  source : String
deriving DecidableEq, Repr

namespace Layout

/-- The layout of pages that have none of their own. -/
def builtIn : Layout where
  name := "default.html"
  source := Page.onLines
    ["<!DOCTYPE html>",
      "<html lang=\"en\">",
      "<head>",
      "<meta charset=\"utf-8\">",
      "<meta name=\"viewport\" content=\"width=device-width, initial-scale=1\">",
      "<meta name=\"generator\" content=\"LivingStyleGuide\">",
      "<title>\x7b\x7b title \x7d\x7d</title>",
      "<style>",
      "\x7b\x7b css \x7d\x7d",
      "</style>",
      "\x7b\x7b head \x7d\x7d",
      "</head>",
      "<body class=\"livingstyleguide--body\">",
      "<header class=\"livingstyleguide--header\">",
      "\x7b\x7b header \x7d\x7d",
      "</header>",
      "<article class=\"livingstyleguide--container\">",
      "\x7b\x7b html \x7d\x7d",
      "</article>",
      "<footer class=\"livingstyleguide--footer-container\">",
      "\x7b\x7b footer \x7d\x7d",
      "</footer>",
      "</body>",
      "</html>"]

def ofFile (read : Path → Except FileError String) (p : Path) : Except LayoutError Layout :=
  match read p with
  | .ok source => .ok ⟨p.text, source⟩
  | .error cause => .error (.read p cause)

def render (layout : Layout) (b : Bindings) : Except LayoutError String :=
  match Template.render layout.source b.toList with
  | .ok document => .ok document
  | .error cause => .error (.rendering cause)

end Layout

end StyleGuide.Page
