import StyleGuide.Options
import StyleGuide.Text.Letter

/-!
# Command-line arguments

A command line names a subcommand, the stylesheet to start from, and settings. A setting with a
value is written `--name value`, `--name=value`, `-n value`, `-nvalue` or `-n=value`; flags of one
letter may be written together. A value that has a place of its own may not begin with a minus
sign, and what follows `--` is no setting. Only load paths may be given more than once. Arguments
are read from left to right, and the first one that is wrong or asks for help ends the reading.
-/

namespace StyleGuide.Command

/-- What may be done with a style guide. -/
inductive Subcommand where
  | build
  | files
  | markdown
  | css
  | html
deriving DecidableEq, Repr

def subcommands : List (String × Subcommand) :=
  [("build", .build), ("files", .files), ("markdown", .markdown), ("css", .css), ("html", .html)]

inductive Setting where
  | config
  | title
  | loadPath
  | template
  | style
  | output
deriving DecidableEq, Repr

/-- Why a command line is not carried out. -/
inductive Stop where
  | version
  | help
  | misuse (reason : String)
deriving DecidableEq, Repr

structure Given where
  input : Option Path
  config : Option Path
  title : Option String
  loadPaths : List Path
  template : Option Path
  style : Option OutputStyle
  verbose : Bool
  output : Option Path
deriving DecidableEq, Repr

def Given.none : Given :=
  ⟨Option.none, Option.none, Option.none, [], Option.none, Option.none, false, Option.none⟩

/-! ## Names -/

/-- The setting of a long name. Only `build` has an output. -/
def longSetting? (sub : Subcommand) (name : String) : Option Setting :=
  match name with
  | "config" => some .config
  | "title" => some .title
  | "load-path" => some .loadPath
  | "template" => some .template
  | "style" => some .style
  | "output" => if sub = .build then some .output else none
  | _ => none

def shortSetting? (sub : Subcommand) (letter : Char) : Option Setting :=
  match letter with
  | 'c' => some .config
  | 'I' => some .loadPath
  | 'o' => if sub = .build then some .output else none
  | _ => none

/-! ## Values -/

/-- A value that is a path; the empty text is none. -/
def pathValue (value : String) : Except Stop Path :=
  if value = "" then .error (.misuse "a value is required") else .ok ⟨value⟩

def fillOnce {α : Type} (place : Option α) (value : α) : Except Stop (Option α) :=
  match place with
  | some _ => .error (.misuse "an argument cannot be used multiple times")
  | Option.none => .ok (some value)

def styleValue (value : String) : Except Stop OutputStyle :=
  match value with
  | "expanded" => .ok .expanded
  | "compressed" => .ok .compressed
  | _ => .error (.misuse "invalid value")

namespace Given

def set (g : Given) (setting : Setting) (value : String) : Except Stop Given := do
  match setting with
  | .config => return { g with config := ← fillOnce g.config (← pathValue value) }
  | .title => return { g with title := ← fillOnce g.title value }
  | .loadPath => return { g with loadPaths := g.loadPaths ++ [← pathValue value] }
  | .template => return { g with template := ← fillOnce g.template (← pathValue value) }
  | .style => return { g with style := ← fillOnce g.style (← styleValue value) }
  | .output => return { g with output := ← fillOnce g.output (← pathValue value) }

def setVerbose (g : Given) : Except Stop Given :=
  if g.verbose then .error (.misuse "an argument cannot be used multiple times")
  else .ok { g with verbose := true }

def setInput (g : Given) (value : String) : Except Stop Given := do
  match g.input with
  | some _ => throw (.misuse "unexpected argument")
  | Option.none => return { g with input := some (← pathValue value) }

end Given

/-! ## Arguments -/

/-- What an argument turns out to be. -/
inductive Argument where
  /-- The end of the settings. -/
  | separator
  | done (g : Given)
  /-- A setting whose value is the next argument. -/
  | pending (g : Given) (setting : Setting)
  | input

/-- An argument that begins with two minus signs, without them. -/
def longArgument (sub : Subcommand) (g : Given) (text : List Char) : Except Stop Argument := do
  let name := String.ofList (text.takeWhile (· != '='))
  let value := match text.dropWhile (· != '=') with
    | _ :: value => some (String.ofList value)
    | [] => none
  match name, value with
  | "verbose", none => return .done (← g.setVerbose)
  | "help", none => throw .help
  | _, _ =>
    match longSetting? sub name, value with
    | some setting, some value => return .done (← g.set setting value)
    | some setting, none => return .pending g setting
    | none, _ => throw (.misuse "unexpected argument")

def letters (sub : Subcommand) (g : Given) : List Char → Except Stop Argument
  | [] => .ok (.done g)
  | 'v' :: rest => do letters sub (← g.setVerbose) rest
  | 'h' :: _ => .error .help
  | c :: rest =>
    match shortSetting? sub c with
    | none => .error (.misuse "unexpected argument")
    | some setting => do
      match rest with
      | [] => return .pending g setting
      | '=' :: value => return .done (← g.set setting (String.ofList value))
      | value => return .done (← g.set setting (String.ofList value))

/-- What an argument is. A lone minus sign is an input. -/
def argument (sub : Subcommand) (g : Given) (text : String) : Except Stop Argument :=
  match text.toList with
  | ['-', '-'] => .ok .separator
  | '-' :: '-' :: rest => longArgument sub g rest
  | '-' :: c :: rest => letters sub g (c :: rest)
  | _ => .ok .input

def looksLikeSetting (text : String) : Bool :=
  match text.toList with
  | '-' :: _ :: _ => true
  | _ => false

def readArguments (sub : Subcommand) (g : Given) : List String → Except Stop Given
  | [] => .ok g
  | text :: rest => do
    match ← argument sub g text with
    | .separator => rest.foldlM Given.setInput g
    | .done g => readArguments sub g rest
    | .input => readArguments sub (← g.setInput text) rest
    | .pending g setting =>
      match rest with
      | [] => throw (.misuse "a value is required")
      | value :: rest =>
        if looksLikeSetting value then throw (.misuse "a value is required")
        else readArguments sub (← g.set setting value) rest

/-- A command line that is to be carried out. -/
structure Request where
  subcommand : Subcommand
  input : Path
  given : Given

def Request.read (args : List String) : Except Stop Request := do
  match args with
  | [] => throw (.misuse "a subcommand is required")
  | "--version" :: _ => throw .version
  | "--help" :: _ => throw .help
  | "help" :: _ => throw .help
  | first :: rest =>
    match first.toList with
    | '-' :: 'V' :: _ => throw .version
    | '-' :: 'h' :: _ => throw .help
    | _ =>
      match subcommands.lookup first with
      | none => throw (.misuse "unrecognized subcommand")
      | some sub =>
        let g ← readArguments sub .none rest
        match g.input with
        | none => throw (.misuse "an input is required")
        | some input => return ⟨sub, input, g⟩

end StyleGuide.Command
