import StyleGuide.Proofs.Config.Layers
import StyleGuide.Proofs.Disk.Changing

/-!
# Templates that the command line replaces

The command line is laid over the file after the paths of the file are expanded, and what comes out
is checked last. A template of the file that is replaced may therefore name a missing file, and
loading gives the same. It may not name a variable without a value: loading then fails over a text
that nothing would have used.
-/

namespace StyleGuide.Config

variable {reader : Reader} {d d' : Disk} {env : Environment} {dir p t : Path} {path source : Option Path}
  {file : FileSettings} {command : CommandSettings}

/-! ## Disks that differ in what files hold -/

theorem discover_congr (same : d.SameTree d') : discover d = discover d' := by
  have hcontains : d.contains = d'.contains := by
    funext p
    exact same.contains p
  unfold discover
  rw [hcontains, same.workingDirectory]

theorem validate_congr (same : d.SameTree d') (config : Config) :
    validate d config = validate d' config := by
  unfold validate
  cases config.template with
  | none => rfl
  | some p =>
    dsimp only
    rw [same.isFile p]

/-! ## Faults of a text -/

/-- What is said of a text that cannot be expanded. -/
def Reader.fault (reader : Reader) (env : Environment) (text : String) : Option String :=
  match reader.expand env text with
  | .ok _ => none
  | .error message => some message

theorem fault_eq_none_iff {text : String} :
    reader.fault env text = none ↔ ∃ expanded, reader.expand env text = .ok expanded := by
  unfold Reader.fault
  cases reader.expand env text with
  | ok expanded => exact ⟨fun _ ↦ ⟨expanded, rfl⟩, fun _ ↦ rfl⟩
  | error message => exact ⟨fun h ↦ (nomatch h), fun ⟨_, h⟩ ↦ (nomatch h)⟩

/-- Load paths that cannot be placed have a fault among them. -/
theorem exists_fault_iff (dir : Path) (field : String) {texts : List String} :
    (∃ text ∈ texts, reader.fault env text ≠ none) ↔
      ∃ cause, reader.placedAll env dir field texts = .error cause := by
  have hplaced : (∃ ps, reader.placedAll env dir field texts = .ok ps) ↔
      ∀ text ∈ texts, reader.fault env text = none := by
    simp only [placedAll_eq_ok_iff, exists_forall₂_iff, exists_placed_iff, fault_eq_none_iff]
  have hfault : (∃ text ∈ texts, reader.fault env text ≠ none) ↔
      ¬ ∃ ps, reader.placedAll env dir field texts = .ok ps := by
    rw [hplaced]
    push Not
    rfl
  rw [hfault]
  cases reader.placedAll env dir field texts with
  | ok ps => exact ⟨fun h ↦ (h ⟨ps, rfl⟩).elim, fun ⟨_, h⟩ ↦ (nomatch h)⟩
  | error cause => exact ⟨fun _ ↦ ⟨cause, rfl⟩, fun _ ⟨_, h⟩ ↦ (nomatch h)⟩

/-- What is checked last never complains about a variable. -/
theorem validate_ne_unset (config : Config) (field message : String) :
    validate d config ≠ .error (.unset field message) := by
  unfold validate
  split
  · intro h
    cases h
  · cases config.template with
    | none => exact fun h ↦ (nomatch h)
    | some p =>
      dsimp only
      split <;> exact fun h ↦ (nomatch h)

/-! ## Loading under a template of the command line -/

/-- Loading once the load paths of the file are placed, when its template has the fault. -/
def finish (d : Disk) (file : FileSettings) (command : CommandSettings) (source : Option Path)
    (loadPaths : List Path) : Option String → Except ConfigError Config
  | some message => .error (.unset "template" message)
  | none =>
    let config := assembled file command loadPaths none source
    (validate d config).map fun _ ↦ config

theorem combine_eq_of_template (given : command.template = some t) :
    reader.combine env dir source file command =
      (reader.placedAll env dir "sass.load_paths" file.loadPaths).bind fun loadPaths ↦
        match file.template.bind (reader.fault env) with
        | some message => .error (.unset "template" message)
        | none => .ok (assembled file command loadPaths none source) := by
  have hgiven (found : Option Path) : (command.template <|> found) = command.template := by
    rw [given]
    rfl
  unfold Reader.combine assembled
  refine congrArg _ (funext fun loadPaths ↦ ?_)
  -- Where the template of the file is placed, it is hidden by the one that is given.
  simp only [hgiven]
  cases file.template with
  | none => rfl
  | some text =>
    simp only [Option.bind_some, Reader.fault, Reader.placed]
    cases reader.expand env text <;> rfl

/-- Of the template of the file, only its fault matters. -/
theorem load_eq_finish (read : reader.settingsOf d path = .ok (source, dir, file))
    (given : command.template = some t) :
    reader.load d env path command =
      (reader.placedAll env dir "sass.load_paths" file.loadPaths).bind fun loadPaths ↦
        finish d file command source loadPaths (file.template.bind (reader.fault env)) := by
  rw [Reader.load, read]
  dsimp only [bind, Except.bind]
  rw [combine_eq_of_template given]
  cases reader.placedAll env dir "sass.load_paths" file.loadPaths with
  | error cause => rfl
  | ok loadPaths =>
    dsimp only [Except.bind]
    cases file.template.bind (reader.fault env) with
    | some message => rfl
    | none =>
      dsimp only [finish]
      cases validate d (assembled file command loadPaths none source) <;> rfl

/-- Different faults finish differently. -/
theorem finish_injective {loadPaths : List Path} :
    Function.Injective (finish d file command source loadPaths) := by
  have hne (message : String) : finish d file command source loadPaths none ≠
      finish d file command source loadPaths (some message) := by
    dsimp only [finish]
    cases h : validate d (assembled file command loadPaths none source) with
    | ok _ => exact fun heq ↦ (nomatch heq)
    | error cause =>
      intro heq
      injection heq with heq
      apply validate_ne_unset _ "template" message
      rw [h, heq]
  intro message? message?' heq
  cases message? with
  | none =>
    cases message?' with
    | none => rfl
    | some message => exact (hne message heq).elim
  | some message =>
    cases message?' with
    | none => exact (hne message heq.symm).elim
    | some message' =>
      injection heq with heq
      injection heq with _ heq
      rw [heq]

theorem finish_congr (same : d.SameTree d') (loadPaths : List Path) (template : Option String) :
    finish d' { file with template := template } command source loadPaths =
      finish d file command source loadPaths := by
  funext message?
  cases message? with
  | some message => rfl
  | none =>
    dsimp only [finish]
    rw [← validate_congr same]
    rfl

/-- When the command line gives the template, two files that differ in theirs give the same exactly
if the templates have the same fault or none, or the load paths have one. -/
theorem load_eq_iff_fault_eq (reader : Reader) {text text' : String} {template : Option String}
    (same : d.SameTree d') (found : path = some p ∨ path = none ∧ discover d = some p)
    (held : d.Holds p text) (parsed : reader.settings? text = some file)
    (held' : d'.Holds p text')
    (parsed' : reader.settings? text' = some { file with template := template })
    (given : command.template.isSome) (env : Environment) :
    reader.load d env path command = reader.load d' env path command ↔
      file.template.bind (reader.fault env) = template.bind (reader.fault env) ∨
        ∃ text ∈ file.loadPaths, reader.fault env text ≠ none := by
  obtain ⟨t, given⟩ := Option.isSome_iff_exists.mp given
  have found' : path = some p ∨ path = none ∧ discover d' = some p := by
    rwa [← discover_congr same]
  rw [load_eq_finish (settingsOf_eq_ok found held parsed) given,
    load_eq_finish (settingsOf_eq_ok found' held' parsed') given]
  dsimp only
  rw [exists_fault_iff (p.parent.getD ⟨"."⟩) "sass.load_paths"]
  -- Both runs stop at the same load path, or neither does and the templates decide.
  cases reader.placedAll env (p.parent.getD ⟨"."⟩) "sass.load_paths" file.loadPaths with
  | error cause => exact ⟨fun _ ↦ .inr ⟨cause, rfl⟩, fun _ ↦ rfl⟩
  | ok loadPaths =>
    dsimp only [Except.bind]
    rw [finish_congr same, finish_injective.eq_iff]
    exact ⟨.inl, fun h ↦ h.elim id fun ⟨_, h⟩ ↦ (nomatch h)⟩

/-! ## Two templates -/

def templateText (template : String) : String :=
  "template = \"" ++ template ++ "\""

def templateSettings (template : String) : FileSettings :=
  { FileSettings.none with template := some template }

def templateDisk (template : String) : Disk :=
  Disk.put ⟨[(["page".toList], .file "".toUTF8)], []⟩ ["lsg.toml".toList]
    (.file (templateText template).toUTF8)

def pageCommand : CommandSettings :=
  { CommandSettings.none with template := some ⟨"page"⟩ }

theorem sameTree_templateDisk (template template' : String) :
    (templateDisk template).SameTree (templateDisk template') :=
  Disk.sameTree_put (List.cons_ne_nil _ _) _ _

theorem holds_templateDisk (template : String) :
    (templateDisk template).Holds ⟨"/lsg.toml"⟩ (templateText template) := by
  rfl

theorem discover_templateDisk (template : String) :
    discover (templateDisk template) = some ⟨"/lsg.toml"⟩ := by
  rfl

theorem parsed_page :
    Reader.toml.settings? (templateText "page") = some (templateSettings "page") := by
  decide +kernel

theorem parsed_absent :
    Reader.toml.settings? (templateText "$HOME/none") = some (templateSettings "$HOME/none") := by
  decide +kernel

theorem parsed_unset :
    Reader.toml.settings? (templateText "$NOPE") = some (templateSettings "$NOPE") := by
  decide +kernel

/-- A missing file does no harm in a template that is replaced. -/
theorem load_eq_of_absentTemplate :
    Reader.toml.load (templateDisk "$HOME/none") ⟨[("HOME", "/home")]⟩ none pageCommand =
      Reader.toml.load (templateDisk "page") ⟨[("HOME", "/home")]⟩ none pageCommand := by
  have hfault : Reader.toml.fault ⟨[("HOME", "/home")]⟩ "$HOME/none" =
      Reader.toml.fault ⟨[("HOME", "/home")]⟩ "page" := by decide +kernel
  exact (load_eq_iff_fault_eq .toml (sameTree_templateDisk _ _)
    (.inr ⟨rfl, discover_templateDisk _⟩) (holds_templateDisk _) parsed_absent
    (holds_templateDisk _) parsed_page rfl _).mpr (.inl hfault)

def pageConfig : Config where
  options := .default
  sass := ⟨[], .expanded⟩
  template := some ⟨"page"⟩
  source := some ⟨"/lsg.toml"⟩

theorem validate_pageConfig (template : String) :
    validate (templateDisk template) pageConfig = .ok () := by
  have hword : ¬ Text.trim Options.default.defaultLanguage.toList = [] := by decide +kernel
  have hfile : (templateDisk template).isFile ⟨"page"⟩ = true := rfl
  unfold validate pageConfig
  dsimp only
  rw [if_neg hword, if_pos hfile]

theorem load_templateDisk {template : String}
    (parsed : reader.settings? (templateText template) = some (templateSettings template))
    (env : Environment) :
    reader.load (templateDisk template) env none pageCommand =
      match reader.fault env template with
      | some message => .error (.unset "template" message)
      | none => .ok pageConfig := by
  have hassembled : assembled (templateSettings template) pageCommand [] none
      (some ⟨"/lsg.toml"⟩) = pageConfig := rfl
  have hsettings := settingsOf_eq_ok (.inr ⟨rfl, discover_templateDisk template⟩)
    (holds_templateDisk template) parsed
  calc reader.load (templateDisk template) env none pageCommand
    _ = finish (templateDisk template) (templateSettings template) pageCommand
          (some ⟨"/lsg.toml"⟩) [] (reader.fault env template) := load_eq_finish hsettings rfl
    _ = _ := by
      cases reader.fault env template with
      | some message => rfl
      | none =>
        dsimp only [finish]
        rw [hassembled, validate_pageConfig]
        rfl

/-- A variable without a value does harm in a template that is replaced. -/
theorem load_ne_of_unsetTemplate :
    Reader.toml.settings? (templateText "$NOPE") = some (templateSettings "$NOPE") ∧
    Reader.toml.settings? (templateText "page") = some (templateSettings "page") ∧
    Reader.toml.load (templateDisk "$NOPE") ⟨[]⟩ none pageCommand =
      .error (.unset "template" (unsetMessage "NOPE")) ∧
    Reader.toml.load (templateDisk "page") ⟨[]⟩ none pageCommand = .ok pageConfig := by
  have hunset : Reader.toml.fault ⟨[]⟩ "$NOPE" = some (unsetMessage "NOPE") := by decide +kernel
  have hpage : Reader.toml.fault ⟨[]⟩ "page" = none := by decide +kernel
  refine ⟨parsed_unset, parsed_page, ?_, ?_⟩
  · rw [load_templateDisk parsed_unset, hunset]
  · rw [load_templateDisk parsed_page, hpage]

end StyleGuide.Config
