import StyleGuide.Command.Arguments
import StyleGuide.Config.Loading
import StyleGuide.Engine.OnDisk

/-!
# Running a command

What a command prints and what it leaves on the disk. Every command makes an engine from the
configuration, the layout and the stylesheet, and asks it for one stage. `build` writes the page to
a file if it is told one: then the directories around the file are created first, the page is
rendered next, and the file is written last.
-/

namespace StyleGuide.Command

/-- Why a command fails. -/
inductive CommandError where
  | config (cause : Config.ConfigError)
  | layout (cause : Page.LayoutError)
  | engine (cause : EngineError)
  | file (cause : FileError)
deriving DecidableEq, Repr

def CommandError.message : CommandError → String
  | .config cause => cause.message
  | .layout cause => cause.message
  | .engine cause => cause.message
  | .file cause => cause.message

/-- What a command does: its exit code, what it prints, and the disk it leaves. -/
structure Outcome where
  code : Nat
  output : String
  messages : String
  disk : Disk

/-- What the program is set up with: a world that has a disk in it, a reader of configurations, and
those who do the work of the stages for a layout. -/
structure Setup (W : Type) where
  disk : W → Disk
  putDisk : Disk → W → W
  disk_putDisk : ∀ d w, disk (putDisk d w) = d
  putDisk_disk : ∀ w, putDisk (disk w) w = w
  reader : Config.Reader
  collaborators : Page.Layout → Collaborators W

/-- The world is a disk, and all that is done is done from it. -/
def Setup.onDisk : Setup Disk where
  disk := id
  putDisk d _ := d
  disk_putDisk _ _ := rfl
  putDisk_disk _ := rfl
  reader := .toml
  collaborators := .onDisk

def Given.settings (g : Given) : Config.CommandSettings where
  options := { Overrides.empty with title := g.title }
  loadPaths := g.loadPaths
  template := g.template
  style := g.style

/-- What a subcommand asks its engine for. -/
def Subcommand.demand : Subcommand → Demand
  | .build => .document
  | .files => .files
  | .markdown => .markdown
  | .css => .css
  | .html => .html

/-- An answer as it is printed: paths on lines of their own. -/
def printed : Answer → String
  | .text s => s
  | .paths ps => String.join (ps.map fun p ↦ p.text ++ "\n")

def print {W : Type} (e : Engine W) (w : W) (demand : Demand) : Except CommandError String × W :=
  match e.answer demand ⟨.empty, w⟩ with
  | (.ok answer, p) => (.ok (printed answer), p.world)
  | (.error cause, p) => (.error (.engine cause), p.world)

def directoryOf (p : Path) : Path :=
  p.parent.getD ⟨""⟩

def line (text : String) : String :=
  text ++ "\n"

/-- What is said before a page is written. -/
def announcement {W : Type} (e : Engine W) (input out : Path) : String :=
  line ("Title: " ++ e.options.title) ++ line ("Input: " ++ input.text) ++
    line ("Output: " ++ out.text)

/-- What is said after a page is written. -/
def report (files : List Path) (out : Path) : String :=
  String.join (files.map fun p ↦ line ("  " ++ p.text)) ++
    line ("Style guide built from " ++ toString files.length ++ " files to " ++ out.text)

def failed (said : String) (cause : CommandError) (d : Disk) : Outcome :=
  ⟨1, "", said ++ line ("Error: " ++ cause.message), d⟩

/-! ## Commands -/

def layoutOf (d : Disk) (config : Config) : Except CommandError Page.Layout :=
  match config.template with
  | some p => (Page.Layout.ofFile d.readText p).mapError .layout
  | none => .ok .builtIn

namespace Setup

variable {W : Type} (setup : Setup W)

def engine (r : Request) (d : Disk) (env : Config.Environment) :
    Except CommandError (Engine W) := do
  let config ← (setup.reader.load d env r.given.config r.given.settings).mapError .config
  let layout ← layoutOf d config
  let e ← (Engine.ofFile d.readText r.input config.options
    (setup.collaborators layout)).mapError .engine
  return { e with sass := config.sass }

/-- Writes a page to a file. Answers with the files that the page is made from, or the error, and
with the world as it is then. -/
def writePage (e : Engine W) (w : W) (out : Path) : Except CommandError (List Path) × W :=
  match (setup.disk w).createNested (Disk.nestedIn (directoryOf out)) with
  | (.error cause, d) => (.error (.file cause), setup.putDisk d w)
  | (.ok (), d) =>
    match e.document ⟨.empty, setup.putDisk d w⟩ with
    | (.error cause, p) => (.error (.engine cause), p.world)
    | (.ok page, p) =>
      match (setup.disk p.world).write out page.toUTF8 with
      | .error cause => (.error (.file cause), p.world)
      | .ok d =>
        match e.files ⟨p.memo, setup.putDisk d p.world⟩ with
        | (.error cause, p) => (.error (.engine cause), p.world)
        | (.ok files, p) => (.ok files, p.world)

def run (r : Request) (w : W) (env : Config.Environment) : Outcome :=
  match setup.engine r (setup.disk w) env with
  | .error cause => failed "" cause (setup.disk w)
  | .ok e =>
    match r.subcommand, r.given.output with
    | .build, some out =>
      let said := announcement e r.input out
      match setup.writePage e w out with
      | (.ok files, w) => ⟨0, "", said ++ report files out, setup.disk w⟩
      | (.error cause, w) => failed said cause (setup.disk w)
    | sub, _ =>
      match print e w sub.demand with
      | (.ok output, w) => ⟨0, output, "", setup.disk w⟩
      | (.error cause, w) => failed "" cause (setup.disk w)

end Setup

/-- The name and the version of the program. -/
def versionText : String := "lsg 0.1.0"

def usageText : String :=
  "Usage: lsg <build|files|markdown|css|html> [OPTIONS] <INPUT>"

def run (d : Disk) (env : Config.Environment) (args : List String) : Outcome :=
  match Request.read args with
  | .ok r => Setup.onDisk.run r d env
  | .error .version => ⟨0, line versionText, "", d⟩
  | .error .help => ⟨0, line usageText, "", d⟩
  | .error (.misuse reason) => ⟨2, "", line ("error: " ++ reason) ++ line usageText, d⟩

end StyleGuide.Command
