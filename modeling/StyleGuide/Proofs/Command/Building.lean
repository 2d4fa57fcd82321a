import StyleGuide.Command.Run
import StyleGuide.Proofs.Disk.Changing
import StyleGuide.Proofs.Engine.Keeping
import StyleGuide.Proofs.Engine.Steadiness
import StyleGuide.Proofs.Imports.Scanning

/-!
# Building a page into a file

A build that fails before it has an engine changes nothing. Once there is an engine, the directories
around the file are created before the page is rendered. From then on it is all or nothing: the file
holds the page that is printed without a file and nothing else is changed, or everything stays as it
is then. If the directories were there already, that is as it was in the beginning; if not, they
stay behind even when there is no page.

Those who compile, convert and lay out may change their world, but not the disk in it. A page that is
printed another time is the same page if they answer alike then.
-/

namespace StyleGuide.Command

variable {W : Type} {setup : Setup W} {e : Engine W} {w : W} {env : Config.Environment}
  {out : Path}

namespace Setup

/-- No call to a collaborator changes the disk. -/
def LeavesDisk (setup : Setup W) : Prop :=
  ∀ layout d, (setup.collaborators layout).Keeps {w | setup.disk w = d}

theorem leavesDisk_onDisk : onDisk.LeavesDisk :=
  fun layout _ ↦ keeps_onDisk layout _

/-! ## Pages -/

theorem collaborators_of_engine {r : Request} {d : Disk} (h : setup.engine r d env = .ok e) :
    ∃ layout, e.collaborators = setup.collaborators layout := by
  unfold engine at h
  obtain ⟨config, -, h⟩ := Imports.bind_eq_ok.mp h
  obtain ⟨layout, -, h⟩ := Imports.bind_eq_ok.mp h
  obtain ⟨e', he', h⟩ := Imports.bind_eq_ok.mp h
  cases h
  refine ⟨layout, ?_⟩
  unfold Engine.ofFile at he'
  cases hread : d.readText r.input with
  | error cause =>
    rw [hread] at he'
    cases he'
  | ok source =>
    rw [hread] at he'
    cases he'
    rfl

theorem LeavesDisk.keeps (leaves : setup.LeavesDisk) {r : Request} {d : Disk}
    (h : setup.engine r d env = .ok e) (d' : Disk) :
    e.collaborators.Keeps {w | setup.disk w = d'} := by
  obtain ⟨layout, hlayout⟩ := collaborators_of_engine h
  rw [hlayout]
  exact leaves layout d'

end Setup

theorem fst_print (e : Engine W) (w : W) (demand : Demand) :
    (print e w demand).1 = ((e.answer demand (.fresh w)).1.mapError .engine).map printed := by
  unfold print Progress.fresh
  rcases e.answer demand ⟨.empty, w⟩ with ⟨_ | answer, p⟩ <;> rfl

theorem fst_print_document (e : Engine W) (w : W) :
    (print e w .document).1 = (e.document (.fresh w)).1.mapError .engine := by
  have hanswer : e.answer .document (.fresh w) = e.document.map .text (.fresh w) := rfl
  rw [fst_print, hanswer, Step.map]
  rcases e.document (.fresh w) with ⟨_ | page, p⟩ <;> rfl

/-- After a page is rendered, its files are known, whatever has become of the world. -/
theorem exists_files {page : String} {p : Progress W} (h : e.document (.fresh w) = (.ok page, p))
    (w' : W) : ∃ files, e.files ⟨p.memo, w'⟩ = (.ok files, ⟨p.memo, w'⟩) := by
  have hfresh : e.Grounded (Progress.fresh w).memo := Engine.grounded_empty
  have hp : (e.answer .document (.fresh w)).2 = p :=
    (Step.snd_map ..).trans (congrArg Prod.snd h)
  have hgrounded : e.Grounded p.memo := hp ▸ hfresh.answer .document
  have hdocument : p.memo.document = some page :=
    Engine.slot_of_remembered Memo.document (fun _ _ ↦ rfl) h
  have hhas : p.memo.has .files :=
    hgrounded.has_of_le (s := .document) (Memo.has_iff.mpr ⟨page, hdocument⟩) (by decide)
  obtain ⟨l, hl⟩ := Memo.has_iff.mp hhas
  change p.memo.files = some l at hl
  refine ⟨l.paths, ?_⟩
  simp only [Engine.files, Step.map, Engine.fileList, Step.remembered, hl]

/-- The world once the directories around a file are there, as far as they can be created. -/
def Setup.made (setup : Setup W) (w : W) (out : Path) : W :=
  setup.putDisk ((setup.disk w).createNested (Disk.nestedIn (directoryOf out))).2 w

/-- Writing a page either creates directories and nothing else, or writes the page that is printed
when these directories are there. -/
theorem writePage_cases (setup : Setup W) (w : W) (out : Path)
    (keeps : ∀ d, e.collaborators.Keeps {w | setup.disk w = d}) :
    (∃ cause w', setup.writePage e w out = (.error cause, w') ∧
      setup.disk w' = setup.disk (setup.made w out)) ∨
    ∃ page files w', (print e (setup.made w out) .document).1 = .ok page ∧
      (setup.disk (setup.made w out)).write out page.toUTF8 = .ok (setup.disk w') ∧
      setup.writePage e w out = (.ok files, w') := by
  rw [fst_print_document]
  have hstill : setup.disk (e.document (.fresh (setup.made w out))).2.world =
      setup.disk (setup.made w out) := Engine.document_keeps (keeps _) _ rfl
  unfold Setup.writePage
  unfold Setup.made Progress.fresh at *
  generalize (setup.disk w).createNested (Disk.nestedIn (directoryOf out)) = created at hstill ⊢
  rcases created with ⟨cause | _, d⟩
  · exact .inl ⟨.file cause, _, rfl, rfl⟩
  · dsimp only at hstill ⊢
    cases hdocument : e.document ⟨.empty, setup.putDisk d w⟩ with
    | mk outcome p =>
      rw [hdocument] at hstill
      cases outcome with
      | error cause => exact .inl ⟨.engine cause, p.world, rfl, hstill⟩
      | ok page =>
        dsimp only at hstill ⊢
        rw [← hstill]
        cases hwrite : (setup.disk p.world).write out page.toUTF8 with
        | error cause => exact .inl ⟨.file cause, p.world, rfl, rfl⟩
        | ok d' =>
          obtain ⟨files, hfiles⟩ := exists_files hdocument (setup.putDisk d' p.world)
          refine .inr ⟨page, files, setup.putDisk d' p.world, rfl, ?_, ?_⟩
          · rw [setup.disk_putDisk]
            exact hwrite
          · dsimp only
            rw [hfiles]

/-! ## Builds -/

/-- What comes of a build on a disk that has all directories it is going to have: the page is
written, or nothing is. -/
structure AllOrNothing (page : Option String) (out : Path) (before : Disk) (o : Outcome) :
    Prop where
  code : o.code = 0 ∨ o.code = 1
  failing : page = none → o.code = 1
  nothing : o.code = 1 → o.disk = before
  everything : o.code = 0 → ∃ text, page = some text ∧ o.disk.read out = .ok text.toUTF8
  others : ∀ loc, before.locate out ≠ .ok loc → o.disk.node? loc = before.node? loc

theorem allOrNothing_failed {page : Option String} {d : Disk} (said : String)
    (cause : CommandError) : AllOrNothing page out d (failed said cause d) :=
  ⟨.inr rfl, fun _ ↦ rfl, fun _ ↦ rfl, nofun, fun _ _ ↦ rfl⟩

/-- A build of a page, into a file or not. -/
def building (input : Path) (given : Given) (output : Option Path) : Request :=
  ⟨.build, input, { given with output := output }⟩

variable {input : Path} {given : Given}

theorem engine_building {d : Disk} (output output' : Option Path) :
    setup.engine (building input given output) d env =
      setup.engine (building input given output') d env :=
  rfl

def Outcome.page (o : Outcome) : Option String :=
  if o.code = 0 then some o.output else none

theorem page_printing (h : setup.engine (building input given none) (setup.disk w) env = .ok e) :
    (setup.run (building input given none) w env).page = (print e w .document).1.toOption := by
  rw [Setup.run, h]
  dsimp only [building, Subcommand.demand]
  rcases print e w .document with ⟨_ | page, w'⟩ <;> rfl

theorem allOrNothing_building (leaves : setup.LeavesDisk)
    (h : setup.engine (building input given (some out)) (setup.disk w) env = .ok e) :
    AllOrNothing (print e (setup.made w out) .document).1.toOption out
      (setup.disk (setup.made w out)) (setup.run (building input given (some out)) w env) := by
  rw [Setup.run, h]
  dsimp only [building]
  rcases writePage_cases setup w out (leaves.keeps h) with
    ⟨cause, w', hwritten, hdisk⟩ | ⟨page, files, w', hpage, hwrite, hwritten⟩
  · rw [hwritten, ← hdisk]
    exact allOrNothing_failed _ cause
  · rw [hwritten, hpage]
    exact ⟨.inl rfl, nofun, nofun, fun _ ↦ ⟨page, rfl, Disk.read_of_write hwrite⟩,
      fun loc hloc ↦ Disk.node?_of_write hwrite hloc⟩

/-- The directory of a file is there, or none is asked for. -/
def Settled (d : Disk) (out : Path) : Prop :=
  directoryOf out = ⟨""⟩ ∨ d.isDirectory (directoryOf out) = true

/-- What a build into a file does to a disk. -/
structure Builds (setup : Setup W) (w : W) (env : Config.Environment) (input : Path)
    (given : Given) (out : Path) : Prop where
  /-- Without a configuration, a layout or a stylesheet nothing is done. -/
  unready : ∀ cause,
    setup.engine (building input given (some out)) (setup.disk w) env = .error cause →
    (setup.run (building input given (some out)) w env).code = 1 ∧
      (setup.run (building input given (some out)) w env).disk = setup.disk w
  /-- The page is written or not once missing directories around the file are created. -/
  ready : ∀ e, setup.engine (building input given (some out)) (setup.disk w) env = .ok e →
    ∃ made, Disk.Grown (Disk.nestedIn (directoryOf out)) (setup.disk w) made ∧
      AllOrNothing (print e (setup.putDisk made w) .document).1.toOption out made
        (setup.run (building input given (some out)) w env)
  /-- If none of the directories is missing, the page that is printed without a file is written. -/
  settled : Settled (setup.disk w) out →
    AllOrNothing (setup.run (building input given none) w env).page out (setup.disk w)
      (setup.run (building input given (some out)) w env)
  /-- That page is also the one that another run prints, if compiling the stylesheet twice and all
  the other calls are answered alike. -/
  repeated : Settled (setup.disk w) out → ∀ w', setup.disk w' = setup.disk w →
    (∀ e, setup.engine (building input given none) (setup.disk w) env = .ok e →
      e.Repeatable {v | setup.disk v = setup.disk w}) →
    AllOrNothing (setup.run (building input given none) w' env).page out (setup.disk w)
      (setup.run (building input given (some out)) w env)

theorem page_eq_of_repeatable {w' : W} (hdisk : setup.disk w' = setup.disk w)
    (repeatable : ∀ e, setup.engine (building input given none) (setup.disk w) env = .ok e →
      e.Repeatable {v | setup.disk v = setup.disk w}) :
    (setup.run (building input given none) w' env).page =
      (setup.run (building input given none) w env).page := by
  cases hengine : setup.engine (building input given none) (setup.disk w) env with
  | error cause =>
    rw [Setup.run, Setup.run, hdisk, hengine]
  | ok e =>
    have hanswer {v : W} (hv : setup.disk v = setup.disk w) :
        (e.answer .document (.fresh v)).1 = e.answerIn w .document :=
      Engine.answer_eq_answerIn (repeatable e hengine) rfl hv [] .document
    calc (setup.run (building input given none) w' env).page
      _ = (print e w' .document).1.toOption := page_printing (hdisk ▸ hengine)
      _ = (print e w .document).1.toOption := by
        rw [fst_print, fst_print, hanswer hdisk, hanswer rfl]
      _ = (setup.run (building input given none) w env).page := (page_printing hengine).symm

/-- Every build is all or nothing, but for directories that it creates before there is a page. -/
theorem builds_allOrNothing (setup : Setup W) (leaves : setup.LeavesDisk) (w : W)
    (env : Config.Environment) (input : Path) (given : Given) (out : Path) :
    Builds setup w env input given out := by
  have hunready (cause : CommandError) (output : Option Path)
      (h : setup.engine (building input given output) (setup.disk w) env = .error cause) :
      setup.run (building input given output) w env = failed "" cause (setup.disk w) := by
    rw [Setup.run, h]
  have hsettled (settled : Settled (setup.disk w) out) :
      AllOrNothing (setup.run (building input given none) w env).page out (setup.disk w)
        (setup.run (building input given (some out)) w env) := by
    have hmade : setup.made w out = w := by
      rw [Setup.made, Disk.createNested_of_settled settled, setup.putDisk_disk]
    cases hengine : setup.engine (building input given (some out)) (setup.disk w) env with
    | error cause =>
      rw [hunready cause (some out) hengine]
      exact allOrNothing_failed _ cause
    | ok e =>
      have hbuilt := allOrNothing_building leaves hengine
      rw [hmade] at hbuilt
      rw [page_printing (engine_building none (some out) ▸ hengine)]
      exact hbuilt
  refine ⟨fun cause h ↦ ?_, fun e h ↦ ?_, hsettled, fun settled w' hdisk repeatable ↦ ?_⟩
  · rw [hunready cause (some out) h]
    exact ⟨rfl, rfl⟩
  · have hbuilt := allOrNothing_building leaves h
    unfold Setup.made at hbuilt
    rw [setup.disk_putDisk] at hbuilt
    exact ⟨_, .createNested _ _, hbuilt⟩
  · rw [page_eq_of_repeatable hdisk repeatable]
    exact hsettled settled

/-! ## Particular builds -/

/-- A disk with a stylesheet that has no rules, its fragment, a layout, and a directory for pages. -/
def settledDisk : Disk where
  entries := [(["a.scss".toList], .file "".toUTF8), (["a.md".toList], .file "A".toUTF8),
    (["page".toList], .file "\x7b\x7b html \x7d\x7d".toUTF8), (["out".toList], .directory)]
  workingDirectory := []

/-- A setup that counts the stylesheets it compiles. They are copied out, as is right for those
without rules. -/
def countingSetup : Setup (Disk × ℕ) where
  disk := Prod.fst
  putDisk d w := (d, w.2)
  disk_putDisk _ _ := rfl
  putDisk_disk _ := rfl
  reader := .toml
  collaborators layout := {
    compile := fun source context w ↦ (.ok ⟨source, .root context.file []⟩, (w.1, w.2 + 1))
    fragments := fun p w ↦ (fragmentsOnDisk w.1 p, w)
    readFragment := fun p w ↦ (w.1.readText p, w)
    convert := fun text options w ↦ (.ok (documentation options text), w)
    layOut := fun bindings w ↦ (layout.render bindings, w) }

theorem leavesDisk_countingSetup : countingSetup.LeavesDisk :=
  fun _ _ ↦ ⟨fun _ _ _ hw ↦ hw, fun _ _ hw ↦ hw, fun _ _ hw ↦ hw, fun _ _ _ hw ↦ hw,
    fun _ _ hw ↦ hw⟩

theorem repeatable_countingSetup {d : Disk} {r : Request} {e : Engine (Disk × ℕ)} (d' : Disk)
    (h : countingSetup.engine r d env = .ok e) : e.Repeatable {v | v.1 = d'} := by
  have hstill {α : Type} (answer : Disk → α) :
      SteadyCall {v : Disk × ℕ | v.1 = d'} fun w ↦ (answer w.1, w) :=
    ⟨answer d', fun w hw ↦ ⟨congrArg answer hw, hw⟩⟩
  obtain ⟨layout, hlayout⟩ := Setup.collaborators_of_engine h
  refine ⟨?_, ?_, ?_, ?_, ?_⟩
  all_goals rw [hlayout]
  · exact ⟨_, fun w hw ↦ ⟨rfl, hw⟩⟩
  · exact fun p ↦ hstill fun d ↦ fragmentsOnDisk d p
  · exact fun p ↦ hstill fun d ↦ d.readText p
  · exact fun text ↦ hstill fun _ ↦ _
  · exact fun bindings ↦ hstill fun _ ↦ _

def withPage : Given :=
  { Given.none with template := some ⟨"page"⟩ }

/-- What is built into a file, without a stylesheet and with one. The page in the file is the one that
is printed after other stylesheets were compiled. -/
theorem builds_settledDisk : countingSetup.LeavesDisk ∧ Settled settledDisk ⟨"out/a.html"⟩ ∧
    (countingSetup.run (building ⟨"b.scss"⟩ withPage (some ⟨"out/a.html"⟩)) (settledDisk, 0)
      ⟨[]⟩).disk = settledDisk ∧
    (∃ e made, Disk.Grown (Disk.nestedIn ⟨"out"⟩) settledDisk made ∧
      AllOrNothing (print e (made, 0) .document).1.toOption ⟨"out/a.html"⟩ made
        (countingSetup.run (building ⟨"a.scss"⟩ withPage (some ⟨"out/a.html"⟩)) (settledDisk, 0)
          ⟨[]⟩)) ∧
    (countingSetup.run (building ⟨"a.scss"⟩ withPage none) (settledDisk, 7) ⟨[]⟩).page =
      some "<p class=\"livingstyleguide--paragraph\">A</p>\n" ∧
    AllOrNothing (countingSetup.run (building ⟨"a.scss"⟩ withPage none) (settledDisk, 7) ⟨[]⟩).page
      ⟨"out/a.html"⟩ settledDisk
      (countingSetup.run (building ⟨"a.scss"⟩ withPage (some ⟨"out/a.html"⟩)) (settledDisk, 0)
        ⟨[]⟩) := by
  have hbuilds (input : Path) := builds_allOrNothing countingSetup leavesDisk_countingSetup
    (settledDisk, 0) ⟨[]⟩ input withPage ⟨"out/a.html"⟩
  have settled : Settled settledDisk ⟨"out/a.html"⟩ := .inr (by decide +kernel)
  have hunready : ∃ cause, countingSetup.engine (building ⟨"b.scss"⟩ withPage
      (some ⟨"out/a.html"⟩)) settledDisk ⟨[]⟩ = .error cause := ⟨_, rfl⟩
  have hready : ∃ e, countingSetup.engine (building ⟨"a.scss"⟩ withPage
      (some ⟨"out/a.html"⟩)) settledDisk ⟨[]⟩ = .ok e := ⟨_, rfl⟩
  obtain ⟨cause, hcause⟩ := hunready
  obtain ⟨e, he⟩ := hready
  obtain ⟨made, grown, hready⟩ := (hbuilds ⟨"a.scss"⟩).ready e he
  exact ⟨leavesDisk_countingSetup, settled, ((hbuilds ⟨"b.scss"⟩).unready cause hcause).2,
    ⟨e, made, grown, hready⟩, by decide +kernel,
    (hbuilds ⟨"a.scss"⟩).repeated settled (settledDisk, 7) rfl fun e he ↦
      repeatable_countingSetup settledDisk he⟩

/-- A disk with a stylesheet that does not compile. -/
def brokenDisk : Disk where
  entries := [(["a.scss".toList], .file ".a \x7b".toUTF8)]
  workingDirectory := []

/-- The build of `a.scss` into `new/out.html` fails, and `new` stays behind. -/
theorem leftBehind_brokenDisk : Setup.onDisk.LeavesDisk ∧
    (Setup.onDisk.run (building ⟨"a.scss"⟩ .none (some ⟨"new/out.html"⟩)) brokenDisk ⟨[]⟩).code =
      1 ∧
    brokenDisk.contains ⟨"new"⟩ = false ∧
    (Setup.onDisk.run (building ⟨"a.scss"⟩ .none (some ⟨"new/out.html"⟩)) brokenDisk
      ⟨[]⟩).disk.contains ⟨"new"⟩ = true :=
  ⟨Setup.leavesDisk_onDisk, by decide +kernel⟩

end StyleGuide.Command
