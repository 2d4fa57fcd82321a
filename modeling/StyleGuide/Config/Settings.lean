import StyleGuide.Options
import StyleGuide.Toml.Document

/-!
# Settings

What a configuration file and a command line may set. A file's settings are read from its table:
names that mean nothing are ignored, and a value of the wrong kind refuses the whole file. A
structured value may also be written as an array that gives its fields in order.
-/

namespace StyleGuide.Config

structure FileSettings where
  options : Overrides
  loadPaths : List String
  style : Option OutputStyle
  template : Option String

structure CommandSettings where
  options : Overrides
  loadPaths : List Path
  template : Option Path
  style : Option OutputStyle

/-- The settings of a command line that sets nothing. -/
def CommandSettings.none : CommandSettings :=
  ⟨Overrides.empty, [], Option.none, Option.none⟩

open Toml (Item)

def optional {α : Type} (read : Item → Option α) : Option Item → Option (Option α)
  | none => some none
  | some item => (read item).map some

def text? : Item → Option String
  | .text s => some s
  | _ => none

def texts? : Item → Option (List String)
  | .array items => items.mapM text?
  | _ => none

/-- A style is named by a text, or by the only key of a table that holds nothing under it. -/
def style? : Item → Option OutputStyle
  | .text name => named name
  | .table _ [(name, .table _ [])] => named name
  | .table _ [(name, .array [])] => named name
  | _ => none
where
  named : String → Option OutputStyle
    | "expanded" => some .expanded
    | "compressed" => some .compressed
    | _ => none

/-- The fields of a structured value, by name in a table and by place in an array. -/
def fields? : Item → Option (String → Nat → Option Item)
  | .table _ entries => some fun name _ ↦ entries.lookup name
  | .array items => some fun _ place ↦ items[place]?
  | .tables elements => some fun _ place ↦ (elements[place]?).map (.table .header ·)
  | _ => none

def overrides? (item : Item) : Option Overrides := do
  let field ← fields? item
  return {
    defaultLanguage := ← optional text? (field "default_language" 0)
    title := ← optional text? (field "title" 1)
    header := ← optional text? (field "header" 2)
    footer := ← optional text? (field "footer" 3)
    root := ← optional text? (field "root" 4)
    javascriptBefore := ← optional texts? (field "javascript_before" 5)
    javascriptAfter := ← optional texts? (field "javascript_after" 6) }

/-- Load paths and style from a value. -/
def sass? (item : Item) : Option (List String × Option OutputStyle) := do
  let field ← fields? item
  let loadPaths ← optional texts? (field "load_paths" 0)
  let style ← optional style? (field "style" 1)
  return (loadPaths.getD [], style)

def FileSettings.ofTable? (t : Toml.Table) : Option FileSettings := do
  let options ← optional overrides? (t.find "options")
  let sass ← optional sass? (t.find "sass")
  let template ← optional text? (t.find "template")
  let sass := sass.getD ([], none)
  return ⟨options.getD Overrides.empty, sass.1, sass.2, template⟩

def FileSettings.ofText? (source : String) : Option FileSettings :=
  (Toml.document? source).bind FileSettings.ofTable?

def FileSettings.none : FileSettings :=
  ⟨Overrides.empty, [], Option.none, Option.none⟩

end StyleGuide.Config
