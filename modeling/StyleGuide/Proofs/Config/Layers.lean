import Mathlib.Data.List.Forall2
import StyleGuide.Config.Loading
import StyleGuide.Proofs.Disk.Changing
import StyleGuide.Proofs.Disk.Texts
import StyleGuide.Proofs.Imports.Scanning
import StyleGuide.Proofs.Text.Trimming

/-!
# Layers of a configuration

A configuration is the command line over the file over the defaults, value by value. The paths of the
file are placed in its directory first, all of them, those included that the command line replaces.
What is checked last is the configuration that comes out, so that loading succeeds exactly if the
paths of the file can be expanded and the values in force are sound. All this holds however the file
is read and whatever its paths are expanded to.
-/

namespace StyleGuide

/-! ## Options by name -/

/-- What can be set about a page. -/
inductive OptionName where
  | defaultLanguage
  | title
  | header
  | footer
  | root
  | javascriptBefore
  | javascriptAfter
deriving DecidableEq, Repr

inductive OptionValue where
  | text (s : String)
  | scripts (files : List String)
deriving DecidableEq, Repr

def Overrides.given (layer : Overrides) : OptionName → Option OptionValue
  | .defaultLanguage => layer.defaultLanguage.map .text
  | .title => layer.title.map .text
  | .header => layer.header.map .text
  | .footer => layer.footer.map .text
  | .root => layer.root.map .text
  | .javascriptBefore => layer.javascriptBefore.map .scripts
  | .javascriptAfter => layer.javascriptAfter.map .scripts

def Options.value (o : Options) : OptionName → Option OptionValue
  | .defaultLanguage => some (.text o.defaultLanguage)
  | .title => some (.text o.title)
  | .header => some (.text o.header)
  | .footer => some (.text o.footer)
  | .root => some (.text o.root)
  | .javascriptBefore => o.javascriptBefore.map .scripts
  | .javascriptAfter => o.javascriptAfter.map .scripts

theorem map_orElse {α β : Type} (f : α → β) (later earlier : Option α) :
    (later <|> earlier).map f = (later.map f <|> earlier.map f) := by
  cases later <;> rfl

theorem some_getD {α β : Type} (f : α → β) (given : Option α) (default : α) :
    some (f (given.getD default)) = (given.map f <|> some (f default)) := by
  cases given <;> rfl

theorem Overrides.given_overlaidBy (earlier later : Overrides) (name : OptionName) :
    (earlier.overlaidBy later).given name = (later.given name <|> earlier.given name) := by
  cases name <;> exact map_orElse _ _ _

namespace Options

theorem value_merged (layer : Overrides) (name : OptionName) :
    (merged layer).value name = (layer.given name <|> default.value name) := by
  cases name with
  | javascriptBefore => exact map_orElse _ _ _
  | javascriptAfter => exact map_orElse _ _ _
  | _ => exact some_getD _ _ _

/-- Options are known by their values. -/
theorem eq_of_value {o o' : Options} (h : ∀ name, o.value name = o'.value name) : o = o' := by
  have htext {s s' : String} (heq : some (OptionValue.text s) = some (.text s')) : s = s' := by
    injection heq with heq
    injection heq
  have hscripts {files files' : Option (List String)}
      (heq : files.map OptionValue.scripts = files'.map .scripts) : files = files' :=
    Option.map_injective (fun _ _ heq ↦ OptionValue.scripts.inj heq) heq
  obtain ⟨⟩ := o
  obtain ⟨⟩ := o'
  congr
  · exact htext (h .defaultLanguage)
  · exact htext (h .title)
  · exact htext (h .header)
  · exact htext (h .footer)
  · exact htext (h .root)
  · exact hscripts (h .javascriptBefore)
  · exact hscripts (h .javascriptAfter)

end Options

namespace Config

open Imports (bind_eq_ok)

/-! ## Configurations -/

/-- A text is the path, once it is expanded and taken relative to a directory. -/
def Placed (reader : Reader) (env : Environment) (dir : Path) (text : String) (p : Path) : Prop :=
  ∃ expanded, reader.expand env text = .ok expanded ∧ p = dir.join ⟨expanded⟩

/-- A configuration made of a command line over a file in a directory. -/
structure Layered (reader : Reader) (env : Environment) (dir : Path) (file : FileSettings)
    (command : CommandSettings) (config : Config) : Prop where
  options : ∀ name, config.options.value name =
    (command.options.given name <|> file.options.given name <|> Options.default.value name)
  loadPaths : ∃ placed, List.Forall₂ (Placed reader env dir) file.loadPaths placed ∧
    config.sass.loadPaths = placed ++ command.loadPaths
  style : config.sass.style = (command.style <|> file.style).getD .expanded
  template : ∃ placed, Option.Rel (Placed reader env dir) file.template placed ∧
    config.template = (command.template <|> placed)

def Expands (reader : Reader) (env : Environment) (file : FileSettings) : Prop :=
  ∀ text ∈ file.loadPaths ++ file.template.toList, ∃ expanded,
    reader.expand env text = .ok expanded

/-- There is a default language, and the template is a file. -/
structure Sound (d : Disk) (config : Config) : Prop where
  language : ∃ c ∈ config.options.defaultLanguage.toList, Text.isBlank c = false
  template : ∀ p ∈ config.template, d.isFile p = true

variable {reader : Reader} {d : Disk} {env : Environment} {dir p : Path} {path : Option Path}
  {file : FileSettings} {command : CommandSettings} {config : Config}

/-! ## Placing paths -/

theorem placed_eq_ok_iff (field : String) {text : String} :
    reader.placed env dir field text = .ok p ↔ Placed reader env dir text p := by
  unfold Reader.placed Placed
  cases reader.expand env text with
  | ok expanded => simp [eq_comm]
  | error missing => simp

theorem placedAll_eq_ok_iff {field : String} {texts : List String} {ps : List Path} :
    reader.placedAll env dir field texts = .ok ps ↔ List.Forall₂ (Placed reader env dir) texts ps := by
  induction texts generalizing ps with
  | nil =>
    rw [Reader.placedAll, List.forall₂_nil_left_iff, Except.ok.injEq, eq_comm]
  | cons text texts ih =>
    rw [Reader.placedAll, List.forall₂_cons_left_iff]
    simp only [bind_eq_ok, placed_eq_ok_iff, ih, pure, Except.pure, Except.ok.injEq]
    constructor
    · rintro ⟨q, hq, qs, hqs, rfl⟩
      exact ⟨q, qs, hq, hqs, rfl⟩
    · rintro ⟨q, qs, hq, hqs, rfl⟩
      exact ⟨q, hq, qs, hqs, rfl⟩

theorem placedSome_eq_ok_iff (field : String) {text : String} {found : Option Path} :
    (reader.placed env dir field text).map some = .ok found ↔
      Option.Rel (Placed reader env dir) (some text) found := by
  have hrel : Option.Rel (Placed reader env dir) (some text) found ↔
      ∃ p, reader.placed env dir field text = .ok p ∧ some p = found := by
    simp only [placed_eq_ok_iff]
    constructor
    · intro hrel
      cases hrel with
      | some hp => exact ⟨_, hp, rfl⟩
    · rintro ⟨p, hp, rfl⟩
      exact .some hp
  rw [hrel]
  cases reader.placed env dir field text with
  | ok p => simp [Except.map]
  | error cause => simp [Except.map]

theorem placedNone_eq_ok_iff {found : Option Path} :
    (Except.ok none : Except ConfigError (Option Path)) = .ok found ↔
      Option.Rel (Placed reader env dir) none found := by
  rw [Except.ok.injEq]
  constructor
  · rintro rfl
    exact .none
  · intro hrel
    cases hrel
    rfl

theorem exists_placed_iff {text : String} :
    (∃ p, Placed reader env dir text p) ↔ ∃ expanded, reader.expand env text = .ok expanded := by
  constructor
  · rintro ⟨p, expanded, hexpanded, -⟩
    exact ⟨expanded, hexpanded⟩
  · rintro ⟨expanded, hexpanded⟩
    exact ⟨dir.join ⟨expanded⟩, expanded, hexpanded, rfl⟩

theorem exists_forall₂_iff {α β : Type} {R : α → β → Prop} {as : List α} :
    (∃ bs, List.Forall₂ R as bs) ↔ ∀ a ∈ as, ∃ b, R a b := by
  induction as with
  | nil => exact ⟨fun _ ↦ List.forall_mem_nil _, fun _ ↦ ⟨[], .nil⟩⟩
  | cons a as ih =>
    rw [List.forall_mem_cons, ← ih]
    constructor
    · rintro ⟨_, hall⟩
      cases hall with
      | cons hb hbs => exact ⟨⟨_, hb⟩, _, hbs⟩
    · rintro ⟨⟨b, hb⟩, bs, hbs⟩
      exact ⟨b :: bs, .cons hb hbs⟩

theorem exists_rel_iff {α β : Type} {R : α → β → Prop} {a? : Option α} :
    (∃ b?, Option.Rel R a? b?) ↔ ∀ a ∈ a?.toList, ∃ b, R a b := by
  cases a? with
  | none => exact ⟨fun _ ↦ List.forall_mem_nil _, fun _ ↦ ⟨none, .none⟩⟩
  | some a =>
    rw [Option.toList_some, List.forall_mem_singleton]
    constructor
    · rintro ⟨_, hrel⟩
      cases hrel with
      | some hb => exact ⟨_, hb⟩
    · rintro ⟨b, hb⟩
      exact ⟨some b, .some hb⟩

/-- The paths of a file can be placed if they can be expanded. -/
theorem expands_iff (dir : Path) : Expands reader env file ↔
    (∃ placed, List.Forall₂ (Placed reader env dir) file.loadPaths placed) ∧
      ∃ placed, Option.Rel (Placed reader env dir) file.template placed := by
  rw [exists_forall₂_iff, exists_rel_iff, ← List.forall_mem_append]
  simp only [exists_placed_iff]
  rfl

theorem Layered.expands (h : Layered reader env dir file command config) : Expands reader env file :=
  (expands_iff dir).mpr ⟨h.loadPaths.imp fun _ ↦ And.left, h.template.imp fun _ ↦ And.left⟩

/-! ## Putting layers together -/

theorem placed_rightUnique (reader : Reader) (env : Environment) (dir : Path) :
    Relator.RightUnique (Placed reader env dir) := by
  rintro text p p' ⟨expanded, hexpanded, rfl⟩ ⟨expanded', hexpanded', rfl⟩
  cases hexpanded.symm.trans hexpanded'
  rfl

theorem rel_rightUnique {α β : Type} {R : α → β → Prop} (h : Relator.RightUnique R) :
    Relator.RightUnique (Option.Rel R) := by
  intro a? b? b?' hrel hrel'
  cases hrel with
  | none =>
    cases hrel' with
    | none => rfl
  | some hb =>
    cases hrel' with
    | some hb' => exact congrArg some (h hb hb')

/-- Layers make one configuration. -/
theorem Layered.unique {config' : Config} (h : Layered reader env dir file command config)
    (h' : Layered reader env dir file command config') (source : config.source = config'.source) :
    config = config' := by
  obtain ⟨options, ⟨loadPaths, style⟩, template, _⟩ := config
  obtain ⟨options', ⟨loadPaths', style'⟩, template', _⟩ := config'
  obtain ⟨placed, hplaced, rfl⟩ := h.loadPaths
  obtain ⟨placed', hplaced', rfl⟩ := h'.loadPaths
  obtain ⟨found, hfound, rfl⟩ := h.template
  obtain ⟨found', hfound', rfl⟩ := h'.template
  have hunique := placed_rightUnique reader env dir
  cases hunique.forall₂ hplaced hplaced'
  cases rel_rightUnique hunique hfound hfound'
  cases Options.eq_of_value fun name ↦ (h.options name).trans (h'.options name).symm
  cases h.style.trans h'.style.symm
  cases source
  rfl

def assembled (file : FileSettings) (command : CommandSettings) (loadPaths : List Path)
    (template source : Option Path) : Config where
  options := Options.merged (file.options.overlaidBy command.options)
  sass := ⟨loadPaths ++ command.loadPaths, (command.style <|> file.style).getD .expanded⟩
  template := command.template <|> template
  source := source

theorem layered_assembled {loadPaths : List Path} {template : Option Path}
    (hloadPaths : List.Forall₂ (Placed reader env dir) file.loadPaths loadPaths)
    (htemplate : Option.Rel (Placed reader env dir) file.template template)
    (command : CommandSettings) (source : Option Path) :
    Layered reader env dir file command (assembled file command loadPaths template source) := by
  refine ⟨fun name ↦ ?_, ⟨loadPaths, hloadPaths, rfl⟩, rfl, ⟨template, htemplate, rfl⟩⟩
  rw [assembled, Options.value_merged, Overrides.given_overlaidBy]
  cases command.options.given name <;> rfl

theorem combine_eq_ok {source : Option Path} :
    reader.combine env dir source file command = .ok config ↔
      ∃ loadPaths, List.Forall₂ (Placed reader env dir) file.loadPaths loadPaths ∧
        ∃ template, Option.Rel (Placed reader env dir) file.template template ∧
          assembled file command loadPaths template source = config := by
  have hdone {a : Config} : (Except.ok a : Except ConfigError Config) = .ok config ↔ a = config :=
    iff_of_eq (Except.ok.injEq a config)
  unfold Reader.combine
  rw [bind_eq_ok]
  simp only [placedAll_eq_ok_iff]
  refine exists_congr fun loadPaths ↦ and_congr_right fun _ ↦ ?_
  cases file.template with
  | none =>
    dsimp only
    rw [bind_eq_ok]
    exact exists_congr fun template ↦ and_congr placedNone_eq_ok_iff hdone
  | some text =>
    dsimp only
    rw [bind_eq_ok]
    exact exists_congr fun template ↦ and_congr (placedSome_eq_ok_iff "template") hdone

theorem combine_eq_ok_iff {source : Option Path} :
    reader.combine env dir source file command = .ok config ↔
      Layered reader env dir file command config ∧ config.source = source := by
  rw [combine_eq_ok]
  constructor
  · rintro ⟨loadPaths, hloadPaths, template, htemplate, rfl⟩
    exact ⟨layered_assembled hloadPaths htemplate command source, rfl⟩
  · rintro ⟨hlayered, hsource⟩
    obtain ⟨loadPaths, hloadPaths, -⟩ := hlayered.loadPaths
    obtain ⟨template, htemplate, -⟩ := hlayered.template
    exact ⟨loadPaths, hloadPaths, template, htemplate,
      (layered_assembled hloadPaths htemplate command source).unique hlayered hsource.symm⟩

/-- The paths of a file that can be expanded make a configuration with any command line. -/
theorem exists_layered (h : Expands reader env file) (dir : Path) (command : CommandSettings)
    (source : Option Path) :
    ∃ config, Layered reader env dir file command config ∧ config.source = source := by
  obtain ⟨⟨loadPaths, hloadPaths⟩, template, htemplate⟩ := (expands_iff dir).mp h
  exact ⟨_, layered_assembled hloadPaths htemplate command source, rfl⟩

/-! ## Loading -/

theorem validate_eq_ok_iff : validate d config = .ok () ↔ Sound d config := by
  have hlanguage : Text.trim config.options.defaultLanguage.toList = [] ↔
      ¬ ∃ c ∈ config.options.defaultLanguage.toList, Text.isBlank c = false := by
    rw [Text.trim_eq_nil_iff]
    simp
  unfold validate
  by_cases hblank : Text.trim config.options.defaultLanguage.toList = []
  · rw [if_pos hblank]
    exact ⟨fun h ↦ (nomatch h), fun h ↦ (hlanguage.mp hblank h.language).elim⟩
  · rw [if_neg hblank]
    have hword := not_not.mp (mt hlanguage.mpr hblank)
    cases htemplate : config.template with
    | none => exact ⟨fun _ ↦ ⟨hword, by simp [htemplate]⟩, fun _ ↦ rfl⟩
    | some p =>
      by_cases hfile : d.isFile p = true
      · exact ⟨fun _ ↦ ⟨hword, by simpa [htemplate] using hfile⟩, fun _ ↦ by simp [hfile]⟩
      · exact ⟨fun h ↦ by simp [hfile] at h, fun h ↦ (hfile (h.template p htemplate)).elim⟩

/-- A configuration is refused as soon as its layout is removed. -/
theorem validate_remove {p : Path} (sound : Sound d config) (template : config.template = some p) :
    validate (d.remove p) config = .error (.noTemplate p) := by
  have hword : ¬ Text.trim config.options.defaultLanguage.toList = [] := by
    have hvalid := validate_eq_ok_iff.mpr sound
    unfold validate at hvalid
    split at hvalid
    · cases hvalid
    · next hword => exact hword
  unfold validate
  rw [if_neg hword, template]
  dsimp only
  rw [if_neg (by simp [Disk.isFile_remove])]

theorem load_eq_ok_iff {source : Option Path}
    (h : reader.settingsOf d path = .ok (source, dir, file)) :
    reader.load d env path command = .ok config ↔
      (Layered reader env dir file command config ∧ config.source = source) ∧ Sound d config := by
  rw [← combine_eq_ok_iff, ← validate_eq_ok_iff, Reader.load, h, bind_eq_ok]
  simp only [Except.ok.injEq, exists_eq_left', bind_eq_ok]
  constructor
  · rintro ⟨combined, hcombine, ⟨⟩, hvalidate, heq⟩
    cases heq
    exact ⟨hcombine, hvalidate⟩
  · rintro ⟨hcombine, hvalidate⟩
    exact ⟨config, hcombine, (), hvalidate, rfl⟩

/-- A file that is named, or found where none is named, is the one that is read. -/
theorem settingsOf_eq_ok {source : String}
    (found : path = some p ∨ path = none ∧ discover d = some p)
    (held : d.Holds p source) (parsed : reader.settings? source = some file) :
    reader.settingsOf d path = .ok (some p, p.parent.getD ⟨"."⟩, file) := by
  have hsettings : reader.readSettings d p = .ok file := by
    rw [Reader.readSettings, Disk.readText_eq_ok.mpr held]
    dsimp only
    rw [parsed]
  unfold Reader.settingsOf
  rcases found with rfl | ⟨rfl, hdiscover⟩
  · dsimp only
    rw [if_pos (Disk.contains_of_holds held), hsettings]
    rfl
  · rw [hdiscover]
    dsimp only
    rw [hsettings]
    rfl

/-- Loading from a file gives the layered configuration if it is sound, and nothing else. There is one
if the paths of the file can be expanded. -/
theorem load_iff_layered (reader : Reader) {source : String}
    (found : path = some p ∨ path = none ∧ discover d = some p)
    (held : d.Holds p source) (parsed : reader.settings? source = some file)
    (env : Environment) (command : CommandSettings) :
    (∀ config, reader.load d env path command = .ok config ↔
      Layered reader env (p.parent.getD ⟨"."⟩) file command config ∧ config.source = some p ∧
        Sound d config) ∧
    (Expands reader env file ↔ ∃ config,
      Layered reader env (p.parent.getD ⟨"."⟩) file command config ∧ config.source = some p) := by
  refine ⟨fun config ↦ ?_, fun h ↦ exists_layered h _ command _, fun ⟨_, h, _⟩ ↦ h.expands⟩
  rw [load_eq_ok_iff (settingsOf_eq_ok found held parsed), and_assoc]

deriving instance DecidableEq for FileSettings

theorem eq_ok_of_toOption {ε α : Type} {x : Except ε α} {a : α} (h : x.toOption = some a) :
    x = .ok a := by
  cases x with
  | error cause => cases h
  | ok b =>
    cases h
    rfl

/-- A file with a variable, without a default language and with a template that is not there. -/
def blankLanguage : String :=
  "template = \"t\"\n[options]\ndefault_language = \"\"\ntitle = \"T\"\n[sass]\n" ++
    "load_paths = [\"$L/x\"]\n"

def blankLanguageSettings : FileSettings where
  options := { Overrides.empty with defaultLanguage := some "", title := some "T" }
  loadPaths := ["$L/x"]
  style := none
  template := some "t"

def blankLanguageDisk : Disk where
  entries := [(["lsg.toml".toList], .file blankLanguage.toUTF8), (["page".toList], .file "".toUTF8)]
  workingDirectory := []

/-- A command line that gives what is missing. -/
def mendingCommand : CommandSettings where
  options := { Overrides.empty with defaultLanguage := some "css", title := some "" }
  loadPaths := [⟨"own"⟩]
  template := some ⟨"page"⟩
  style := some .compressed

theorem load_blankLanguageDisk :
    Reader.toml.load blankLanguageDisk ⟨[("L", "/lib")]⟩ none mendingCommand = .ok
      { options := { Options.default with defaultLanguage := "css", title := "" }
        sass := ⟨[⟨"/lib/x"⟩, ⟨"own"⟩], .compressed⟩
        template := some ⟨"page"⟩
        source := some ⟨"/lsg.toml"⟩ } := by
  have hdiscover : discover blankLanguageDisk = some ⟨"/lsg.toml"⟩ := by decide +kernel
  have hparsed : Reader.toml.settings? blankLanguage = some blankLanguageSettings := by
    decide +kernel
  have hdirectory : (Path.parent ⟨"/lsg.toml"⟩).getD ⟨"."⟩ = ⟨"/"⟩ := by decide +kernel
  have hloadPaths : List.Forall₂ (Placed .toml ⟨[("L", "/lib")]⟩ ⟨"/"⟩)
      blankLanguageSettings.loadPaths [⟨"/lib/x"⟩] :=
    .cons ⟨"/lib/x", eq_ok_of_toOption (by decide +kernel), by decide +kernel⟩ .nil
  have htemplate : Option.Rel (Placed .toml ⟨[("L", "/lib")]⟩ ⟨"/"⟩)
      blankLanguageSettings.template (some ⟨"/t"⟩) :=
    .some ⟨"t", eq_ok_of_toOption (by decide +kernel), by decide +kernel⟩
  obtain ⟨hload, -⟩ := load_iff_layered .toml (.inr ⟨rfl, hdiscover⟩) rfl hparsed ⟨[("L", "/lib")]⟩
    mendingCommand
  rw [hdirectory] at hload
  refine (hload _).mpr ⟨?_, rfl, ⟨'c', by decide, by decide⟩, ?_⟩
  · exact layered_assembled hloadPaths htemplate mendingCommand (some ⟨"/lsg.toml"⟩)
  · rintro p ⟨⟩
    decide +kernel

end Config

end StyleGuide
