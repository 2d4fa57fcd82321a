import StyleGuide.Options
import StyleGuide.Text.Letter

/-!
# Page snippets

The three parts of a page that come from the options alone: scripts for the head, the header text,
and the footer text with the scripts after it.
-/

namespace StyleGuide.Page

/-- A script element: an entry that ends in `.js` is referred to, any other is inline code. -/
def scriptTag (entry : String) : String :=
  if Text.endsWith ".js".toList entry.toList then "<script src=\"" ++ entry ++ "\"></script>"
  else "<script>" ++ entry ++ "</script>"

/-- Texts on lines of their own, without a final line end. -/
def onLines (texts : List String) : String :=
  String.intercalate "\n" texts

def head (options : Options) : String :=
  onLines ((options.javascriptBefore.getD []).map scriptTag)

def header (options : Options) : String :=
  options.header

/-- The footer text and the scripts after it. -/
def footer (options : Options) : String :=
  onLines (options.footer :: (options.javascriptAfter.getD []).map scriptTag)

end StyleGuide.Page
