import StyleGuide.Path

/-!
# Options

What can be set about a page, as layers of values that may be given or not. Layers are combined
field by field, the later one winning, and the result is laid over the defaults. An empty text or an
empty list that is given counts as given.
-/

namespace StyleGuide

structure Options where
  defaultLanguage : String
  title : String
  header : String
  footer : String
  root : String
  javascriptBefore : Option (List String)
  javascriptAfter : Option (List String)
deriving DecidableEq, Repr

/-- What is set where nothing is given. -/
def Options.default : Options where
  defaultLanguage := "example"
  title := "Living Style Guide"
  header := "<h1 class=\"livingstyleguide--page-title\">Living Style Guide</h1>"
  footer := "<div class=\"livingstyleguide--footer\"><a class=\"livingstyleguide--logo\" " ++
    "href=\"http://livingstyleguide.org\">Made with the LivingStyleGuide gem.</a></div>"
  root := "/"
  javascriptBefore := none
  javascriptAfter := none

/-- One layer of option values. -/
structure Overrides where
  defaultLanguage : Option String
  title : Option String
  header : Option String
  footer : Option String
  root : Option String
  javascriptBefore : Option (List String)
  javascriptAfter : Option (List String)
deriving DecidableEq, Repr

/-- The layer that gives nothing. -/
def Overrides.empty : Overrides :=
  ⟨none, none, none, none, none, none, none⟩

/-- Two layers as one; what `later` gives wins. -/
def Overrides.overlaidBy (earlier later : Overrides) : Overrides where
  defaultLanguage := later.defaultLanguage <|> earlier.defaultLanguage
  title := later.title <|> earlier.title
  header := later.header <|> earlier.header
  footer := later.footer <|> earlier.footer
  root := later.root <|> earlier.root
  javascriptBefore := later.javascriptBefore <|> earlier.javascriptBefore
  javascriptAfter := later.javascriptAfter <|> earlier.javascriptAfter

def Options.merged (layer : Overrides) : Options where
  defaultLanguage := layer.defaultLanguage.getD default.defaultLanguage
  title := layer.title.getD default.title
  header := layer.header.getD default.header
  footer := layer.footer.getD default.footer
  root := layer.root.getD default.root
  javascriptBefore := layer.javascriptBefore <|> default.javascriptBefore
  javascriptAfter := layer.javascriptAfter <|> default.javascriptAfter

def Overrides.combine (layers : List Overrides) : Overrides :=
  layers.foldl overlaidBy empty

/-- How a compiled stylesheet is written. -/
inductive OutputStyle where
  | expanded
  | compressed
deriving DecidableEq, Repr

/-- What the stylesheet compiler is set up with. -/
structure SassSettings where
  /-- Directories searched for imports after the importing file's own. -/
  loadPaths : List Path
  style : OutputStyle

end StyleGuide
