import StyleGuide.Files

/-!
# Faults

Why a sheet does not compile. The first fault ends the compilation.
-/

namespace StyleGuide.Sass

/-- Why a sheet does not compile. -/
inductive Fault where
  /-- The source ends inside a block, a quote or a bracket. -/
  | endOfSource
  | unexpected (c : Char)
  | expected (what : String)
  | badIndentation
  /-- A part of the language that is not compiled. -/
  | unsupported (name : String)
  | undefinedVariable (name : String)
  /-- `&` where no rule encloses. -/
  | noParent
  /-- `@import` inside a definition. -/
  | misplacedImport
  | sheetNotFound (url : String)
  | importLoop (path : Path)
  | unreadable (path : Path) (cause : FileError)
  /-- The sheet itself asks to fail. -/
  | raised (message : String)
deriving Repr

def Fault.message : Fault → String
  | .endOfSource => "The sheet ends too early."
  | .unexpected c => "Unexpected \"" ++ String.ofList [c] ++ "\"."
  | .expected what => "Expected " ++ what ++ "."
  | .badIndentation => "Inconsistent indentation."
  | .unsupported name => "Not supported: " ++ name ++ "."
  | .undefinedVariable name => "Undefined variable: $" ++ name ++ "."
  | .noParent => "Top-level selectors may not contain the parent selector \"&\"."
  | .misplacedImport => "This at-rule is not allowed here."
  | .sheetNotFound url => "Can't find stylesheet to import: " ++ url ++ "."
  | .importLoop path => "This file is already being loaded: " ++ path.text ++ "."
  | .unreadable path cause => path.text ++ ": " ++ cause.message
  | .raised message => message

end StyleGuide.Sass
