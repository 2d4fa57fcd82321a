import StyleGuide.Engine.OnDisk
import StyleGuide.Imports.Context
import StyleGuide.Proofs.Disk.Texts
import StyleGuide.Proofs.Imports.Alongside
import StyleGuide.Proofs.Imports.Loops

/-!
# Directories with a leading dot

A directory that is searched may be spelled with `./` in front. The scan then asks for other
spellings of the same paths, and a place that answers the same for these gives the same outcome. A
table always does; a disk does unless a spelling is too long for it. Where a directory is spelled
without needless separators at its end, the very same paths are asked for.
-/

namespace StyleGuide

/-! ## Outcomes -/

/-- Trees with the same nodes, whose files have the same components. -/
inductive ImportTree.Same : ImportTree → ImportTree → Prop
  | root {file file' children children'}
      (file_eq : file.map Path.components = file'.map Path.components)
      (children_same : List.Forall₂ Same children children') :
      Same (.root file children) (.root file' children')
  | imported {target tree tree' file file' children children'} (tree_same : Same tree tree')
      (file_eq : file.map Path.components = file'.map Path.components)
      (children_same : List.Forall₂ Same children children') :
      Same (.imported target tree file children) (.imported target tree' file' children')
  | rule {file file' children children'}
      (file_eq : file.map Path.components = file'.map Path.components)
      (children_same : List.Forall₂ Same children children') :
      Same (.rule file children) (.rule file' children')
  | plainCss {url file file' children children'}
      (file_eq : file.map Path.components = file'.map Path.components)
      (children_same : List.Forall₂ Same children children') :
      Same (.plainCss url file children) (.plainCss url file' children')

/-- Errors of one kind, whose paths have the same components. -/
inductive CompileError.Same : CompileError → CompileError → Prop
  | sass (message : String) : Same (.sass message) (.sass message)
  | notFound {target importer importer'}
      (importer_eq : importer.map Path.components = importer'.map Path.components) :
      Same (.notFound target importer) (.notFound target importer')
  | importLoop {path path'} (path_eq : path.components = path'.components) :
      Same (.importLoop path) (.importLoop path')
  | read {path path' cause} (path_eq : path.components = path'.components) :
      Same (.read path cause) (.read path' cause)

namespace Imports

/-- Scans with the same tree or the same error, whatever the spelling of their paths. -/
abbrev SameOutcome (outcome outcome' : Except CompileError ImportTree) : Prop :=
  Alongside (fun _ ↦ False) CompileError.Same ImportTree.Same outcome outcome'

/-! ## What a scan asks for -/

/-- A path that is looked for on behalf of a stylesheet: in the search for one of its imports, or on
behalf of a stylesheet that it imports. -/
inductive Asks (fs : FileSystem) (loadPaths : List Path) : Stylesheet → Path → Prop
  | tried {s arg target p} (mem : arg ∈ s.arguments) (named : sassTarget? arg = some target)
      (tries : Tries fs.isFile (allCandidates (s.importer.dir :: loadPaths) target) p) :
      Asks fs loadPaths s p
  | behind {s arg s' p} (mem : arg ∈ s.arguments) (enters : Enters fs loadPaths s.importer arg s')
      (asks : Asks fs loadPaths s' p) : Asks fs loadPaths s p

variable {fs : FileSystem} {loadPaths loadPaths' : List Path}

theorem tries_of_resolve {dirs : List Path} {target : String} {path : Path}
    (found : resolve fs dirs target = some path) :
    Tries fs.isFile (allCandidates dirs target) path := by
  obtain ⟨-, before, after, heq, hbefore⟩ := List.find?_eq_some_iff_append.mp found
  exact ⟨before, after, heq, fun b hb ↦ by simpa using hbefore b hb⟩

/-! ## Scans that are alike -/

theorem readStylesheet_alongside {p q : Path} (hpath : p.components = q.components)
    (hread : fs.read p = fs.read q) :
    Alongside (fun _ ↦ False) CompileError.Same Eq (readStylesheet fs p)
      (readStylesheet fs q) := by
  rw [readStylesheet, readStylesheet, ← hread]
  cases fs.read p with
  | ok bytes => exact .ok rfl
  | error cause => exact .error (.read hpath)

/-- Stylesheets with the same imports, searched from directories with the same components in a place
that tells no paths apart that are asked for on behalf of them. -/
structure Corresponds (fs : FileSystem) (loadPaths loadPaths' : List Path) (s s' : Stylesheet) :
    Prop where
  dir_eq : s.importer.dir.withoutHere.components = s'.importer.dir.withoutHere.components
  file_eq : s.importer.file.map Path.components = s'.importer.file.map Path.components
  statements_eq : s.statements = s'.statements
  indifferent : fs.Indifferent fun p ↦ Asks fs loadPaths s p ∨ Asks fs loadPaths' s' p

namespace Corresponds

variable {s s' : Stylesheet} {arg target : String}

theorem arguments_eq (h : Corresponds fs loadPaths loadPaths' s s') : s.arguments = s'.arguments :=
  congrArg (List.flatMap Statement.arguments) h.statements_eq

/-- What an import means is spelled alike for both stylesheets. -/
theorem resolve_rel (h : Corresponds fs loadPaths loadPaths' s s')
    (led : List.Forall₂ Path.Led loadPaths loadPaths') (mem : arg ∈ s.arguments)
    (named : sassTarget? arg = some target) :
    Option.Rel Path.Alike (resolve fs (s.importer.dir :: loadPaths) target)
      (resolve fs (s'.importer.dir :: loadPaths') target) := by
  have hdirs : List.Forall₂ (fun d d' ↦ d.withoutHere.components = d'.withoutHere.components)
      (s.importer.dir :: loadPaths) (s'.importer.dir :: loadPaths') :=
    .cons h.dir_eq (led.imp fun _ _ ↦ Path.Led.components_withoutHere)
  refine find?_rel (allCandidates_rel (fun _ _ ↦ Path.Alike.join) hdirs target)
    fun p p' tries tries' alike ↦ ?_
  exact (h.indifferent p p' (.inl (.tried mem named tries))
    (.inr (.tried (h.arguments_eq ▸ mem) named tries')) alike).1

variable {path path' : Path} (h : Corresponds fs loadPaths loadPaths' s s')
  (mem : arg ∈ s.arguments) (named : sassTarget? arg = some target)
  (found : resolve fs (s.importer.dir :: loadPaths) target = some path)
  (found' : resolve fs (s'.importer.dir :: loadPaths') target = some path')
  (alike : path.Alike path')

include h mem named found found' alike

theorem read_eq : fs.read path = fs.read path' :=
  (h.indifferent path path' (.inl (.tried mem named (tries_of_resolve found)))
    (.inr (.tried (h.arguments_eq ▸ mem) named (tries_of_resolve found'))) alike).2
    (isFile_of_resolve found)

/-- The files that an import means correspond as the stylesheets do. -/
theorem enter {source : String} (sheet : path.hasExtension "css" = false)
    (read : readStylesheet fs path = .ok source) :
    Corresponds fs loadPaths loadPaths' (.ofFile path source) (.ofFile path' source) where
  dir_eq := Path.withoutHere_congr (dir_ofFile_congr alike.components_eq)
  file_eq := congrArg some alike.components_eq
  statements_eq := by
    rw [Stylesheet.ofFile, Stylesheet.ofFile, ofPath_congr alike.components_eq]
  indifferent := by
    have sheet' : path'.hasExtension "css" = false :=
      Path.hasExtension_congr alike.components_eq "css" ▸ sheet
    have read' : readStylesheet fs path' = .ok source := by
      have hboth := readStylesheet_alongside alike.components_eq
        (h.read_eq mem named found found' alike)
      rw [read] at hboth
      generalize readStylesheet fs path' = outcome at hboth ⊢
      cases hboth with
      | ok heq => rw [heq]
    have within {p : Path} (asks : Asks fs loadPaths (.ofFile path source) p ∨
        Asks fs loadPaths' (.ofFile path' source) p) :
        Asks fs loadPaths s p ∨ Asks fs loadPaths' s' p :=
      asks.imp (.behind mem ⟨named, found, sheet, read⟩)
        (.behind (h.arguments_eq ▸ mem) ⟨named, found', sheet', read'⟩)
    exact fun p q hp hq ↦ h.indifferent p q (within hp) (within hq)

end Corresponds

/-- Scans of stylesheets that correspond go together. -/
theorem statementNodes_of_corresponds {s s' : Stylesheet} {chain chain' : Chain fs}
    (led : List.Forall₂ Path.Led loadPaths loadPaths')
    (hchain : ∀ k, chain.Has k ↔ chain'.Has k)
    (h : Corresponds fs loadPaths loadPaths' s s') :
    Alongside (fun _ ↦ False) CompileError.Same (List.Forall₂ ImportTree.Same)
      (statementNodes fs loadPaths chain s.importer s.statements)
      (statementNodes fs loadPaths' chain' s'.importer s'.statements) := by
  -- The chain grows with every file that is entered, so the room in it bounds the recursion.
  induction hroom : chain.room using Nat.strongRecOn generalizing chain chain' s s' with
  | ind room ih =>
    rw [← h.statements_eq]
    refine statementNodes_alongside (fun inner inner' hinner ↦ .rule rfl hinner) fun arg mem ↦ ?_
    cases named : sassTarget? arg with
    | none =>
      rw [importNode_of_plainCss named, importNode_of_plainCss named]
      exact .ok (.plainCss rfl .nil)
    | some target =>
      have hrel := h.resolve_rel led mem named
      cases found : resolve fs (s.importer.dir :: loadPaths) target with
      | none =>
        rw [found] at hrel
        rw [importNode_of_missing named found,
          importNode_of_missing named (eq_none_of_rel_none hrel)]
        exact .error (.notFound h.file_eq)
      | some path =>
        rw [found] at hrel
        obtain ⟨path', found', alike⟩ := exists_of_rel_some hrel
        have hpath : path.components = path'.components := alike.components_eq
        have contains : chain.contains path = chain'.contains path' := by
          rw [Bool.eq_iff_iff, Chain.contains_iff, Chain.contains_iff, hpath, hchain]
        refine importNode_alongside named found found' (Path.hasExtension_congr hpath "css")
          contains (.importLoop hpath)
          (fun nodes nodes' hnodes ↦ .imported (.root (congrArg some hpath) hnodes) rfl .nil)
          (readStylesheet_alongside hpath (h.read_eq mem named found found' alike))
          fun new new' source sheet read ↦ ?_
        refine ih _ (hroom ▸ chain.room_push_lt path (isFile_of_resolve found) new) (fun k ↦ ?_)
          (h.enter mem named found found' alike sheet read) rfl
        rw [Chain.has_push, Chain.has_push, hpath, hchain]

/-! ## Sources -/

/-- Sources that are scanned from directories of which one may lead with a `.`. -/
theorem scanSource_of_led {file : Option Path} {dir dir' : Path} {source : String}
    (led : List.Forall₂ Path.Led loadPaths loadPaths') (hdir : dir.Led dir')
    (indifferent : fs.Indifferent fun p ↦ Asks fs loadPaths (.ofSource file dir source) p ∨
      Asks fs loadPaths' (.ofSource file dir' source) p) :
    SameOutcome (scanSource fs loadPaths file dir source)
      (scanSource fs loadPaths' file dir' source) := by
  have h : Corresponds fs loadPaths loadPaths' (.ofSource file dir source)
      (.ofSource file dir' source) :=
    ⟨hdir.components_withoutHere, rfl, rfl, indifferent⟩
  have hchain (k : Node) : (Chain.start fs file).Has k ↔ (Chain.start fs file).Has k := Iff.rfl
  exact (statementNodes_of_corresponds led hchain h).bind fun nodes nodes' _ h ↦ .ok (.root rfl h)

/-- Directories to which the same texts are joined. -/
abbrev JoinEqual : List Path → List Path → Prop :=
  List.Forall₂ fun d d' ↦ ∀ r, d.withoutHere.join r = d'.withoutHere.join r

theorem resolve_of_joinEqual {dirs dirs' : List Path} (h : JoinEqual dirs dirs')
    (target : String) : resolve fs dirs target = resolve fs dirs' target := by
  have hall : allCandidates dirs target = allCandidates dirs' target := by
    induction h with
    | nil => rfl
    | cons hd _ ih =>
      rw [allCandidates, allCandidates, List.flatMap_cons, List.flatMap_cons, hd]
      exact congrArg _ ih
  rw [resolve, resolve, hall]

theorem joinEqual_of_tidy {dirs dirs' : List Path} (led : List.Forall₂ Path.Led dirs dirs')
    (tidy : ∀ d ∈ dirs, d.Tidy) : JoinEqual dirs dirs' := by
  induction led with
  | nil => exact .nil
  | cons hd _ ih =>
    obtain ⟨htidy, htidies⟩ := List.forall_mem_cons.mp tidy
    exact .cons (hd.join_eq htidy) (ih htidies)

/-- Scans from directories to which the same texts are joined are one. -/
theorem scanSource_of_joinEqual {file : Option Path} {dir dir' : Path} {source : String}
    (h : JoinEqual (dir :: loadPaths) (dir' :: loadPaths')) :
    scanSource fs loadPaths' file dir' source = scanSource fs loadPaths file dir source := by
  obtain ⟨-, hloads⟩ := List.forall₂_cons.mp h
  have hfiles (p : Path) : FindsSame fs (fun _ ↦ False) loadPaths loadPaths' (.ofFile p)
      (.ofFile p) := by
    refine .of_resolve_eq rfl fun target ↦ ?_
    exact resolve_of_joinEqual (.cons (fun _ ↦ rfl) hloads) target
  have hsource : FindsSame fs (fun _ ↦ False) loadPaths loadPaths' ⟨file, dir⟩ ⟨file, dir'⟩ := by
    refine .of_resolve_eq rfl fun target ↦ ?_
    exact resolve_of_joinEqual h target
  exact (scanSource_of_findsSame hfiles hsource source).eq fun _ h ↦ h.elim

/-- The scan of a file is that of its text with the context of the engine for the file. -/
theorem scanFile_eq_scanSource {W : Type} {p : Path} {text : String}
    (hfile : fs.read p = .ok text.toUTF8) {read : Path → Except FileError String}
    (hread : read p = .ok text) (options : Options) (collaborators : Collaborators W) :
    ∃ e, Engine.ofFile read p options collaborators = .ok e ∧
      scanFile fs loadPaths p = scanSource fs loadPaths e.context.file
        (CompileContext.importDir e.context.file e.context.baseDir) text := by
  have htext : readStylesheet fs p = .ok text := by
    rw [readStylesheet, hfile]
    exact congrArg _ (Text.Utf8.decodeLossy_toUTF8 text)
  have hscan : scanFile fs loadPaths p =
      scanSource fs loadPaths (some p) (p.parent.getD ⟨"."⟩) text := by
    rw [scanFile, htext]
    rfl
  unfold Engine.ofFile
  rw [hread, hscan]
  refine ⟨_, rfl, ?_⟩
  have hloads : JoinEqual loadPaths loadPaths := List.forall₂_same.mpr fun _ _ _ ↦ rfl
  refine scanSource_of_joinEqual (.cons (fun r ↦ ?_) hloads)
  simp only [Engine.context, Engine.ofSource, CompileContext.importDir, Option.bind_some]
  cases p.parent with
  | none => rfl
  | some dir =>
    by_cases hdir : dir.text = ""
    · have hempty : dir = ⟨""⟩ := congrArg Path.mk hdir
      rw [hempty]
      rfl
    · simp only [if_neg hdir, Option.getD_some]

/-- A `.` in front of the directories that are searched does not show in what a scan finds, if the
place tells apart no two spellings that the two scans ask for, or if the directories are tidy.
Tables tell none apart, and disks none that are short enough. What the engine of a file knows leads
to the scan of the file, in any place. -/
theorem scans_with_leading_dots :
    (∀ (fs : FileSystem) (loadPaths loadPaths' : List Path) (file : Option Path) (dir dir' : Path)
      (source : String), List.Forall₂ Path.Led loadPaths loadPaths' → dir.Led dir' →
        (fs.Indifferent (fun p ↦ Asks fs loadPaths (.ofSource file dir source) p ∨
            Asks fs loadPaths' (.ofSource file dir' source) p) →
          SameOutcome (scanSource fs loadPaths file dir source)
            (scanSource fs loadPaths' file dir' source)) ∧
        ((∀ d ∈ dir :: loadPaths, d.Tidy) →
          scanSource fs loadPaths' file dir' source = scanSource fs loadPaths file dir source)) ∧
    (∀ (t : FileTable) (asked : Path → Prop), t.toFileSystem.Indifferent asked) ∧
    (∀ (d : Disk) (asked : Path → Prop),
      (∀ p, asked p → byteCount p.text.toList ≤ Disk.longestPath) →
        d.toFileSystem.Indifferent asked) ∧
    ∀ (fs : FileSystem) (loadPaths : List Path) (p : Path) (text : String),
      fs.read p = .ok text.toUTF8 →
        ∀ (W : Type) (read : Path → Except FileError String) (options : Options)
          (collaborators : Collaborators W), read p = .ok text →
            ∃ e, Engine.ofFile read p options collaborators = .ok e ∧
              scanFile fs loadPaths p = scanSource fs loadPaths e.context.file
                (CompileContext.importDir e.context.file e.context.baseDir) text := by
  refine ⟨fun fs loadPaths loadPaths' file dir dir' source led hdir ↦ ⟨?_, fun tidy ↦ ?_⟩,
    FileTable.indifferent, fun d asked short ↦ d.indifferent short,
    fun fs loadPaths p text hfile W read options collaborators hread ↦ ?_⟩
  · exact scanSource_of_led led hdir
  · exact scanSource_of_joinEqual (joinEqual_of_tidy (.cons hdir led) tidy)
  · exact scanFile_eq_scanSource hfile hread options collaborators

def shelved : FileTable :=
  ⟨[(⟨"v/m.scss"⟩, .content "".toUTF8)]⟩

/-- A disk with a stylesheet in a directory and one beside it. -/
def shelvedDisk : Disk where
  entries := [(["v".toList], .directory), (["m.scss".toList, "v".toList], .file "".toUTF8),
    (["a.scss".toList], .file "@import 'v/m';".toUTF8)]
  workingDirectory := []

theorem scans_of_shelved :
    List.Forall₂ Path.Led [⟨"v"⟩] [⟨"./v"⟩] ∧ Path.Led ⟨""⟩ ⟨"."⟩ ∧
    shelved.toFileSystem.Indifferent (fun p ↦
      Asks shelved.toFileSystem [⟨"v"⟩] (.ofSource none ⟨""⟩ "@import 'm';") p ∨
        Asks shelved.toFileSystem [⟨"./v"⟩] (.ofSource none ⟨"."⟩ "@import 'm';") p) ∧
    SameOutcome (scanSource shelved.toFileSystem [⟨"v"⟩] none ⟨""⟩ "@import 'm';")
      (scanSource shelved.toFileSystem [⟨"./v"⟩] none ⟨"."⟩ "@import 'm';") ∧
    (∀ d ∈ [Path.mk "", ⟨"v"⟩], d.Tidy) ∧
    scanSource shelvedDisk.toFileSystem [⟨"./v"⟩] none ⟨"."⟩ "@import 'm';" =
      scanSource shelvedDisk.toFileSystem [⟨"v"⟩] none ⟨""⟩ "@import 'm';" ∧
    (∀ p, p = Path.mk "v//m.scss" ∨ p = ⟨"v/./m.scss"⟩ →
      byteCount p.text.toList ≤ Disk.longestPath) ∧
    shelvedDisk.toFileSystem.Indifferent (fun p ↦ p = ⟨"v//m.scss"⟩ ∨ p = ⟨"v/./m.scss"⟩) ∧
    shelvedDisk.read ⟨"a.scss"⟩ = .ok "@import 'v/m';".toUTF8 ∧
    shelvedDisk.readText ⟨"a.scss"⟩ = .ok "@import 'v/m';" ∧
    ∃ e, Engine.ofFile shelvedDisk.readText ⟨"a.scss"⟩ .default (.onDisk .builtIn) = .ok e ∧
      scanFile shelvedDisk.toFileSystem [] ⟨"a.scss"⟩ =
        scanSource shelvedDisk.toFileSystem [] e.context.file
          (CompileContext.importDir e.context.file e.context.baseDir) "@import 'v/m';" := by
  have led : List.Forall₂ Path.Led [⟨"v"⟩] [⟨"./v"⟩] := .cons (.led (by decide)) .nil
  have tidy : ∀ d ∈ [Path.mk "", ⟨"v"⟩], d.Tidy := by decide
  have short : ∀ p, p = Path.mk "v//m.scss" ∨ p = ⟨"v/./m.scss"⟩ →
      byteCount p.text.toList ≤ Disk.longestPath := by
    rintro p (rfl | rfl) <;> decide
  have hread : shelvedDisk.read ⟨"a.scss"⟩ = .ok "@import 'v/m';".toUTF8 := by decide +kernel
  have htext : shelvedDisk.readText ⟨"a.scss"⟩ = .ok "@import 'v/m';" :=
    Disk.readText_eq_ok.mpr hread
  obtain ⟨hscan, htable, hdisk, hfile⟩ := scans_with_leading_dots
  have hasked := htable shelved fun p ↦
    Asks shelved.toFileSystem [⟨"v"⟩] (.ofSource none ⟨""⟩ "@import 'm';") p ∨
      Asks shelved.toFileSystem [⟨"./v"⟩] (.ofSource none ⟨"."⟩ "@import 'm';") p
  exact ⟨led, .here, hasked, (hscan _ _ _ _ _ _ _ led .here).1 hasked, tidy,
    (hscan _ _ _ _ _ _ _ led .here).2 tidy, short, hdisk _ _ short, hread, htext,
    hfile _ _ _ _ hread _ _ _ _ htext⟩

/-! ## Spellings that are too long -/

/-- A spelling of the directory `v` with separators behind it. -/
def trailed (n : Nat) : Path :=
  ⟨String.ofList ('v' :: List.replicate (n + 1) '/')⟩

theorem segments_separators (n : Nat) :
    Path.segments (List.replicate n '/') = List.replicate (n + 1) [] := by
  induction n with
  | zero => rfl
  | succ n ih =>
    rw [List.replicate_succ, Path.segments_slash, ih]
    rfl

theorem spansFrom_separators (start n : Nat) :
    Path.spansFrom start (List.replicate n []) = [] := by
  induction n generalizing start with
  | zero => rfl
  | succ n ih =>
    rw [List.replicate_succ, Path.spansFrom_cons, ih]
    rfl

theorem toList_trailed (n : Nat) :
    (trailed n).text.toList = ['v'] ++ '/' :: List.replicate n '/' := by
  rw [trailed, String.toList_ofList]
  rfl

theorem segments_trailed (n : Nat) :
    Path.segments (trailed n).text.toList = ['v'] :: List.replicate (n + 1) [] := by
  rw [toList_trailed, ← segments_separators]
  exact Text.splitAt_append_cons_of_not_mem (by decide) _

theorem components_trailed (n : Nat) : (trailed n).components = [.name ['v']] := by
  have hspans : (trailed n).spans = [⟨.name ['v'], 0, 1⟩] := by
    rw [Path.spans, Path.spansOf_of_opening] <;> rw [segments_trailed]
    · rw [Path.spansFrom_cons, spansFrom_separators]
      rfl
    · rfl
  rw [Path.components, hspans]
  rfl

/-- With a `.` in front the separators are left out. -/
theorem withoutHere_led_trailed (n : Nat) :
    (Path.mk ("./" ++ (trailed n).text)).withoutHere = ⟨"v"⟩ := by
  refine Path.eq_of_toList ?_
  rw [Path.toList_withoutHere (Path.toList_led _), segments_trailed, Path.spansFrom_cons,
    spansFrom_separators, toList_trailed]
  rfl

/-- Without one they stay. -/
theorem toList_join_trailed (n : Nat) :
    ((trailed n).join ⟨"m.scss"⟩).text.toList = (trailed n).text.toList ++ "m.scss".toList := by
  have hlast : (trailed n).text.toList.getLast? = some '/' := by
    rw [trailed, String.toList_ofList, List.replicate_succ', ← List.cons_append]
    exact List.getLast?_concat
  rw [Path.join, if_neg (by decide), hlast]
  exact String.toList_append

/-- A path with the components of `v/_m.scss` names no file. -/
theorem not_isFile_partial {p : Path} (h : p.components = [.name ['v'], .name "_m.scss".toList]) :
    shelvedDisk.isFile p = false := by
  by_contra hfile
  obtain ⟨loc, bytes, hloc, hnode⟩ := Disk.exists_file_of_isFile (Bool.not_eq_false _ ▸ hfile)
  have hrelative : p.isAbsolute = false := by
    rw [Bool.eq_false_iff, Ne, Path.isAbsolute_iff, h]
    decide
  have hloc : loc = ["_m.scss".toList, ['v']] := by
    rw [Disk.eq_of_locate hloc, Disk.origin, hrelative, Path.onward_eq, h]
    rfl
  rw [hloc] at hnode
  cases hnode

/-- A directory with too many separators holds neither `m.scss` nor its partial. -/
theorem not_isFile_trailed {n : Nat} (h : Disk.longestPath ≤ n) :
    ∀ p ∈ candidates ((trailed n).join ⟨"m.scss"⟩), shelvedDisk.isFile p = false := by
  have hcomponents : ((trailed n).join ⟨"m.scss"⟩).components = Path.components ⟨"v/m.scss"⟩ := by
    rw [Path.components_join, components_trailed]
    decide +kernel
  have hcandidates : candidates ((trailed n).join ⟨"m.scss"⟩) =
      [(trailed n).join ⟨"m.scss"⟩,
        ((trailed n).join ⟨"m.scss"⟩).withFileName "_m.scss".toList] := by
    have hextension : spelledExtensions.any ((trailed n).join ⟨"m.scss"⟩).hasExtension = true := by
      rw [funext (Path.hasExtension_congr hcomponents)]
      decide +kernel
    have hname : ((trailed n).join ⟨"m.scss"⟩).fileName = some "m.scss".toList := by
      rw [Path.fileName_congr hcomponents]
      decide +kernel
    simp only [candidates, hname, hextension, if_true]
    rfl
  rw [hcandidates, List.forall_mem_cons, List.forall_mem_singleton]
  constructor
  · by_contra hfile
    have hlength := Disk.length_le_of_isFile (Bool.not_eq_false _ ▸ hfile)
    rw [toList_join_trailed, toList_trailed] at hlength
    simp only [List.length_append, List.length_cons, List.length_replicate] at hlength
    omega
  · refine not_isFile_partial ?_
    rw [Path.withFileName_congr hcomponents]
    decide +kernel

def shelvedTree : ImportTree :=
  .root none [.imported "m.scss" (.root (some ⟨"v/m.scss"⟩) []) none []]

section Trailed

variable {n : Nat}

theorem resolve_trailed (h : Disk.longestPath ≤ n) :
    resolve shelvedDisk.toFileSystem [⟨"."⟩, trailed n] "m.scss" = none := by
  have hbeside : ∀ p ∈ candidates ((Path.mk ".").withoutHere.join ⟨"m.scss"⟩),
      shelvedDisk.isFile p = false := by
    decide +kernel
  have hstays : (trailed n).withoutHere = trailed n := by
    refine Path.withoutHere_of_opening ?_
    rw [segments_trailed]
    rfl
  refine List.find?_eq_none.mpr fun p hp ↦ Bool.eq_false_iff.mp ?_
  rw [allCandidates, List.flatMap_cons, List.flatMap_singleton, hstays, List.mem_append] at hp
  exact hp.elim (hbeside p) (not_isFile_trailed h p)

theorem resolve_led_trailed :
    resolve shelvedDisk.toFileSystem [⟨"."⟩, ⟨"./" ++ (trailed n).text⟩] "m.scss" =
      some ⟨"v/m.scss"⟩ := by
  have hjoin : JoinEqual [⟨"."⟩, ⟨"v"⟩] [⟨"."⟩, ⟨"./" ++ (trailed n).text⟩] := by
    refine .cons (fun _ ↦ rfl) (.cons (fun r ↦ ?_) .nil)
    rw [withoutHere_led_trailed]
    rfl
  rw [← resolve_of_joinEqual hjoin]
  decide +kernel

/-- Behind too many separators the stylesheet is missing, and with a `.` in front it is found. -/
theorem scanSource_trailed (h : Disk.longestPath ≤ n) :
    scanSource shelvedDisk.toFileSystem [trailed n] none ⟨"."⟩ "@import \"m.scss\";" =
      .error (.notFound "m.scss" none) ∧
    scanSource shelvedDisk.toFileSystem [⟨"./" ++ (trailed n).text⟩] none ⟨"."⟩
      "@import \"m.scss\";" = .ok shelvedTree := by
  have hsource : statements .scss "@import \"m.scss\";" = [.load ["\"m.scss\""]] := by
    decide +kernel
  have htarget : sassTarget? "\"m.scss\"" = some "m.scss" := by decide +kernel
  have hinner : statements (.ofPath ⟨"v/m.scss"⟩) "" = [] := by decide +kernel
  constructor
  · have hnode : importNode shelvedDisk.toFileSystem [trailed n] (.start _ none) ⟨none, ⟨"."⟩⟩
        "\"m.scss\"" = .error (.notFound "m.scss" none) :=
      importNode_of_missing htarget (resolve_trailed h)
    change (statementNodes _ _ _ _ (statements .scss "@import \"m.scss\";") >>= _) = _
    rw [hsource, statementNodes, argumentNodes, hnode]
    rfl
  · have hread : readStylesheet shelvedDisk.toFileSystem ⟨"v/m.scss"⟩ = .ok "" := by
      decide +kernel
    have hnode : importNode shelvedDisk.toFileSystem [⟨"./" ++ (trailed n).text⟩] (.start _ none)
        ⟨none, ⟨"."⟩⟩ "\"m.scss\"" =
          .ok (.imported "m.scss" (.root (some ⟨"v/m.scss"⟩) []) none []) :=
      importNode_eq_ok.mpr (.stylesheet htarget resolve_led_trailed (by decide +kernel) rfl hread
        (hinner ▸ statementNodes_nil))
    refine bind_eq_ok.mpr ⟨_, ?_, rfl⟩
    change statementNodes _ _ _ _ (statements .scss "@import \"m.scss\";") = _
    rw [hsource]
    exact statementNodes_load_eq_ok.mpr ⟨_, _,
      argumentNodes_cons_eq_ok.mpr ⟨_, _, hnode, argumentNodes_nil, rfl⟩, statementNodes_nil, rfl⟩

end Trailed

/-- A `.` in front of a directory is all that two scans differ in, and only one of them succeeds. -/
theorem scans_of_trailed :
    (trailed 4095).Led ⟨"./" ++ (trailed 4095).text⟩ ∧
    ¬ SameOutcome
      (scanSource shelvedDisk.toFileSystem [trailed 4095] none ⟨"."⟩ "@import \"m.scss\";")
      (scanSource shelvedDisk.toFileSystem [⟨"./" ++ (trailed 4095).text⟩] none ⟨"."⟩
        "@import \"m.scss\";") := by
  have hrelative (n : Nat) : (trailed n).isAbsolute = false := by
    rw [Path.isAbsolute, toList_trailed]
    rfl
  have hlong : Disk.longestPath ≤ 4095 := by decide
  obtain ⟨hmissing, hfound⟩ := scanSource_trailed hlong
  refine ⟨.led (hrelative 4095), fun hsame ↦ ?_⟩
  rw [hmissing, hfound] at hsame
  cases hsame with
  | excused h => exact h

end Imports

end StyleGuide
