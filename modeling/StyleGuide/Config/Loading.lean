import StyleGuide.Config.Expansion
import StyleGuide.Config.Settings
import StyleGuide.Disk

/-!
# Loading a configuration

The configuration of a run comes from one file and from the command line. The file is the one that
is named, or else the nearest `lsg.toml` in the working directory and those around it. Paths in the
file are expanded and taken relative to its directory; the command line is laid over the result and
taken as it is. What comes out is checked last, so a value in the file that would not pass does no
harm once the command line replaces it. A path that cannot be expanded does.

Reading the text of a file and expanding a path is the business of a `Reader`. Nothing else depends
on how it is done.
-/

namespace StyleGuide

structure Config where
  options : Options
  sass : SassSettings
  template : Option Path
  /-- The file it was loaded from. -/
  source : Option Path

namespace Config

/-- Why there is no configuration. -/
inductive ConfigError where
  | notFound (path : Path)
  | io (cause : FileError)
  | malformed
  | blankLanguage
  | noTemplate (path : Path)
  | unset (field message : String)
deriving DecidableEq, Repr

def ConfigError.message : ConfigError → String
  | .notFound path => "Configuration file not found: " ++ path.text
  | .io cause => "I/O error: " ++ cause.message
  | .malformed => "TOML parse error"
  | .blankLanguage => "Configuration error: options.default_language cannot be empty"
  | .noTemplate path => "Configuration error: template not found: " ++ path.text
  | .unset field message => "Environment variable error in " ++ field ++ ": " ++ message

def fileName : String := "lsg.toml"

/-- The directories around a location, itself first. -/
def around : Location → List Location
  | [] => [[]]
  | name :: outer => (name :: outer) :: around outer

/-- The nearest configuration file. -/
def discover (d : Disk) : Option Path :=
  ((around d.workingDirectory).map fun loc ↦ (Disk.pathOf loc).join ⟨fileName⟩).find? d.contains

/-- Checks the values that have to make sense on the disk. -/
def validate (d : Disk) (config : Config) : Except ConfigError Unit :=
  if Text.trim config.options.defaultLanguage.toList = [] then .error .blankLanguage
  else match config.template with
    | some p => if d.isFile p then .ok () else .error (.noTemplate p)
    | none => .ok ()

/-- What makes settings of the text of a file, and a path of a text that may name variables. -/
structure Reader where
  settings? : String → Option FileSettings
  /-- The text with its variables replaced, or what is said of one that cannot be. -/
  expand : Environment → String → Except String String

namespace Reader

variable (reader : Reader)

/-- A path of the configuration, expanded and taken relative to a directory. -/
def placed (env : Environment) (dir : Path) (field text : String) : Except ConfigError Path :=
  match reader.expand env text with
  | .ok expanded => .ok (dir.join ⟨expanded⟩)
  | .error message => .error (.unset field message)

def placedAll (env : Environment) (dir : Path) (field : String) :
    List String → Except ConfigError (List Path)
  | [] => .ok []
  | text :: texts => do
    let p ← reader.placed env dir field text
    let ps ← placedAll env dir field texts
    return p :: ps

def combine (env : Environment) (dir : Path) (source : Option Path) (file : FileSettings)
    (command : CommandSettings) : Except ConfigError Config := do
  let loadPaths ← reader.placedAll env dir "sass.load_paths" file.loadPaths
  let template ← match file.template with
    | some text => (reader.placed env dir "template" text).map some
    | none => .ok none
  return {
    options := Options.merged (file.options.overlaidBy command.options)
    sass := ⟨loadPaths ++ command.loadPaths, (command.style <|> file.style).getD .expanded⟩
    template := command.template <|> template
    source := source }

def readSettings (d : Disk) (p : Path) : Except ConfigError FileSettings :=
  match d.readText p with
  | .error cause => .error (.io cause)
  | .ok source =>
    match reader.settings? source with
    | some settings => .ok settings
    | none => .error .malformed

/-- The settings that a run starts from: the file, its directory, and what it sets. -/
def settingsOf (d : Disk) (path : Option Path) :
    Except ConfigError (Option Path × Path × FileSettings) :=
  let fromFile (p : Path) : Except ConfigError (Option Path × Path × FileSettings) := do
    let settings ← reader.readSettings d p
    return (some p, p.parent.getD ⟨"."⟩, settings)
  match path with
  | some p => if d.contains p then fromFile p else .error (.notFound p)
  | none =>
    match discover d with
    | some p => fromFile p
    | none => .ok (none, ⟨"."⟩, .none)

def load (d : Disk) (env : Environment) (path : Option Path) (command : CommandSettings) :
    Except ConfigError Config := do
  let found ← reader.settingsOf d path
  let config ← reader.combine env found.2.1 found.1 found.2.2 command
  validate d config
  return config

def toml : Reader :=
  ⟨FileSettings.ofText?, Config.expand⟩

end Reader

def load (d : Disk) (env : Environment) (path : Option Path) (command : CommandSettings) :
    Except ConfigError Config :=
  Reader.toml.load d env path command

end Config

end StyleGuide
